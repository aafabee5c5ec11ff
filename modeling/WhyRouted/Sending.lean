import WhyRouted.FleetCalls

/-! # What a send tells

A send reaches its replica once or never.  If it does, the replica refuses it while a fault stands,
or takes it and answers when it is done, whatever became of the replica and of the request in
between (`Arrival`).  The process learns the outcome, or loses it: a send that failed by its
deadline or its connection, or by its body, was lost in a step of the run (`losses_of_exec`), and
says nothing about what the replica has done with it (`send_truthful`). -/

namespace WhyRouted

namespace Fleet

variable {ν β : Type} [JsNumber ν] {deps : FleetDeps ν β} {c₀ c c' : Fleet ν β} {tr tr' : Trace ν β}
  {report : FleetReport ν β} {config : RoutingConfig ν} {j : ℕ}

/-! ### Arrival -/

/-- Send `j` reached its replica in step `y` of the run, and in no other. -/
def Reached (tr : Trace ν β) (j : ℕ) (y : Stride ν β) : Prop :=
  Sole (fun z => z.label.1 = .infer j) tr y

/-- The send a replica takes in a step, to run it. -/
def takenBy (x : Stride ν β) : Option ℕ :=
  match x.label.1, x.label.2.replica with
  | .infer j, some (_, _, .sleeps _) => some j
  | _, _ => none

/-- How far a send has got with replica `id`, and what the replica was like when it took or
refused it. -/
inductive Arrival (deps : FleetDeps ν β) (tr : Trace ν β) (j : ℕ) (id : String) (payload : β) :
    Served ν → Prop where
  | travelling (hnone : ∀ z ∈ tr, z.label.1 ≠ .infer j) : Arrival deps tr j id payload .travelling
  | unparsed {y : Stride ν β} {status : ℕ} (hreached : Reached tr j y)
      (hunparsed : deps.unparsed payload = some status) (htaken : takenBy y = none) :
      Arrival deps tr j id payload (.answered (.unparsed status))
  | refused {y : Stride ν β} {error : String} (hreached : Reached tr j y)
      (hfault : (y.pre.replicas id).killed = true ∨ (y.pre.replicas id).inferFailing = true)
      (htaken : takenBy y = none) :
      Arrival deps tr j id payload (.answered (.refused error))
  | accepted {y : Stride ν β} {call : ℕ} (hreached : Reached tr j y)
      (hkilled : (y.pre.replicas id).killed = false)
      (hfailing : (y.pre.replicas id).inferFailing = false) (htaken : takenBy y = some j) :
      Arrival deps tr j id payload (.sleeping call)
  | answered {y : Stride ν β} {servedAt : String} {latencyMs : ν} (hreached : Reached tr j y)
      (hkilled : (y.pre.replicas id).killed = false)
      (hfailing : (y.pre.replicas id).inferFailing = false) (htaken : takenBy y = some j)
      (hwoke : ∃ z ∈ tr, z.label.1 = .wake j servedAt latencyMs) :
      Arrival deps tr j id payload (.answered (.inference id servedAt latencyMs))

omit [JsNumber ν] in
theorem Arrival.concat {id : String} {payload : β} {served : Served ν} {x : Stride ν β}
    (h : Arrival deps tr j id payload served) (hx : x.label.1 ≠ .infer j) :
    Arrival deps (tr ++ [x]) j id payload served := by
  cases h with
  | travelling hnone => exact .travelling (forall_not_concat hnone hx)
  | unparsed hreached hunparsed htaken => exact .unparsed (Sole.concat hreached hx) hunparsed htaken
  | refused hreached hfault htaken => exact .refused (Sole.concat hreached hx) hfault htaken
  | accepted hreached hkilled hfailing htaken =>
      exact .accepted (Sole.concat hreached hx) hkilled hfailing htaken
  | answered hreached hkilled hfailing htaken hwoke =>
      obtain ⟨z, hz, hlabel⟩ := hwoke
      exact .answered (Sole.concat hreached hx) hkilled hfailing htaken
        ⟨z, List.mem_append_left _ hz, hlabel⟩

omit [JsNumber ν] in
theorem arrival_of_infer {s s' : ReplicaApp} {unparsed : Option ℕ} {out : ReplicaOutput ν}
    (h : s.step (.infer unparsed) = .ok (s', out)) :
    (∃ status, unparsed = some status ∧ out = .replied (.unparsed status)) ∨
    (∃ error, (s.killed = true ∨ s.inferFailing = true) ∧ out = .replied (.refused error)) ∨
    s.killed = false ∧ s.inferFailing = false ∧ out = .sleeps s.accepted := by
  cases unparsed with
  | some status =>
      obtain ⟨-, rfl⟩ := Prod.mk.inj (Except.ok.inj h)
      exact Or.inl ⟨status, rfl, rfl⟩
  | none =>
      have h : s.infer = (s', out) := Except.ok.inj h
      unfold ReplicaApp.infer at h
      by_cases hfault : (s.killed || s.inferFailing) = true
      · rw [if_pos hfault] at h
        obtain ⟨-, rfl⟩ := Prod.mk.inj h
        exact Or.inr (Or.inl ⟨_, by simpa using hfault, rfl⟩)
      · rw [if_neg hfault] at h
        obtain ⟨-, rfl⟩ := Prod.mk.inj h
        obtain ⟨hkilled, hfailing⟩ : s.killed = false ∧ s.inferFailing = false := by
          simpa using hfault
        exact Or.inr (Or.inr ⟨hkilled, hfailing, rfl⟩)

/-! ### Along a run -/

/-- The account of every send of a run. -/
structure Arrivals (deps : FleetDeps ν β) (tr : Trace ν β) (c : Fleet ν β) : Prop where
  known : ∀ z ∈ tr, ∀ j, z.label.1 = .infer j → j < c.sent.length
  each : ∀ (j : ℕ) (sent : Sent ν β), c.sent[j]? = some sent →
    Arrival deps tr j sent.replicaId sent.payload sent.served

namespace Arrivals

omit [JsNumber ν] in
theorem extend (ha : Arrivals deps tr c) {x : Stride ν β} (hx : ∀ j, x.label.1 ≠ .infer j)
    (hlen : c.sent.length ≤ c'.sent.length)
    (hsent : ∀ (j : ℕ) (sent' : Sent ν β), c'.sent[j]? = some sent' →
      (∃ sent, c.sent[j]? = some sent ∧ sent'.replicaId = sent.replicaId ∧
        sent'.payload = sent.payload ∧ sent'.served = sent.served) ∨
      c.sent.length ≤ j ∧ sent'.served = .travelling) : Arrivals deps (tr ++ [x]) c' := by
  refine ⟨marked_concat ha.known hlen fun j hj => absurd hj (hx j), fun j sent' hget => ?_⟩
  rcases hsent j sent' hget with ⟨sent, hold, hid, hpayload, hserved⟩ | ⟨hnew, hserved⟩
  · rw [hid, hpayload, hserved]
    exact (ha.each j sent hold).concat (hx j)
  · rw [hserved]
    exact .travelling (forall_not_concat (not_marked_of_le ha.known hnew) (hx j))

omit [JsNumber ν] in
theorem of_same (ha : Arrivals deps tr c) {x : Stride ν β} (hx : ∀ j, x.label.1 ≠ .infer j)
    (hsame : c'.sent = c.sent) : Arrivals deps (tr ++ [x]) c' := by
  refine ha.extend hx (by rw [hsame]) fun j sent' hget => ?_
  rw [hsame] at hget
  exact Or.inl ⟨sent', hget, rfl, rfl, rfl⟩

omit [JsNumber ν] in
theorem serve (ha : Arrivals deps tr c) {x : Stride ν β} {sent : Sent ν β} {served : Served ν}
    (hget : c.sent[j]? = some sent) (hx : ∀ i, x.label.1 = .infer i → i = j)
    (hset : c'.sent = c.sent.set j { sent with served })
    (harrival : Arrival deps (tr ++ [x]) j sent.replicaId sent.payload served) :
    Arrivals deps (tr ++ [x]) c' := by
  obtain ⟨hlt, -⟩ := List.getElem?_eq_some_iff.mp hget
  have hlen : c'.sent.length = c.sent.length := by rw [hset, List.length_set]
  refine ⟨marked_concat ha.known hlen.ge fun i hi => ?_, fun i sent' hget' => ?_⟩
  · rw [hx i hi, hlen]
    exact hlt
  · rw [hset] at hget'
    by_cases hi : j = i
    · subst hi
      rw [List.getElem?_set_self hlt] at hget'
      obtain rfl := Option.some.inj hget'
      exact harrival
    · rw [List.getElem?_set_ne hi] at hget'
      exact (ha.each i sent' hget').concat fun hlabel => hi (hx i hlabel).symm

omit [JsNumber ν] in
theorem getElem?_dispatch (c : Fleet ν β) (i : ℕ) (sends : List (String × β)) {sent' : Sent ν β}
    (hget : (dispatch deps c i sends).sent[j]? = some sent') :
    c.sent[j]? = some sent' ∨ c.sent.length ≤ j ∧ sent'.served = .travelling := by
  rw [dispatch_sent, List.getElem?_append] at hget
  split_ifs at hget with hlt
  · exact Or.inl hget
  · obtain ⟨call, -, rfl⟩ := List.mem_map.mp (List.mem_of_getElem? hget)
    exact Or.inr ⟨by omega, rfl⟩

/-- **What one step preserves.** -/
theorem step (ha : Arrivals deps tr c) (hid : ∀ id, (c.replicas id).id = id)
    {a : FleetInput ν β} (h : c.step deps a = .ok (c', report)) :
    Arrivals deps (tr ++ [⟨c, (a, report), c'⟩]) c' := by
  cases step_cases h with
  | @began _ _ _ main report _ =>
      refine ha.extend (by simp) (by simp) fun j sent' hget => ?_
      rcases getElem?_dispatch _ _ _ hget with hold | hnew
      · exact Or.inl ⟨sent', hold, rfl, rfl, rfl⟩
      · exact Or.inr hnew
  | @resumed i _ _ _ _ sent _ main report _ _ hsent _ _ =>
      refine ha.extend (by simp) (by simp) fun j sent' hget => ?_
      rcases getElem?_dispatch _ _ _ hget with hold | ⟨hlen, hserved⟩
      · rw [List.getElem?_set] at hold
        split_ifs at hold with hij
        · subst hij
          obtain rfl := Option.some.inj hold
          exact Or.inl ⟨sent, hsent, rfl, rfl, rfl⟩
        · exact Or.inl ⟨sent', hold, rfl, rfl, rfl⟩
      · exact Or.inr ⟨by simpa using hlen, hserved⟩
  | @arrived i sent replica out hsent hserved hreplica =>
      refine ha.serve hsent (fun k hk => FleetInput.infer.inj hk.symm) rfl ?_
      have htravels := ha.each i sent hsent
      rw [hserved] at htravels
      cases htravels with
      | travelling hnone =>
          rcases arrival_of_infer hreplica with ⟨status, hunparsed, rfl⟩ | ⟨error, hfault, rfl⟩ |
            ⟨hkilled, hfailing, rfl⟩
          · exact .unparsed (sole_last hnone rfl) hunparsed rfl
          · exact .refused (sole_last hnone rfl) hfault rfl
          · exact .accepted (sole_last hnone rfl) hkilled hfailing rfl
  | @woke i servedAt latencyMs sent call replica out hsent hserved hreplica =>
      refine ha.serve hsent (by simp) rfl ?_
      obtain ⟨-, -, rfl⟩ := ReplicaApp.sleeping_of_wakes hreplica
      have hsleeps := ha.each i sent hsent
      rw [hserved] at hsleeps
      rw [hid sent.replicaId]
      cases hsleeps with
      | accepted hreached hkilled hfailing htaken =>
          exact .answered (Sole.concat hreached (by simp)) hkilled hfailing htaken
            ⟨_, List.mem_append_right _ (List.mem_singleton_self _), rfl⟩
  | _ => exact ha.of_same (by simp) rfl

end Arrivals

/-- **What a run preserves.** -/
theorem arrivals_of_exec (h₀ : boot deps config = .ok c₀) (h : Exec (Step deps) c₀ tr c) :
    Arrivals deps tr c := by
  induction h with
  | nil =>
      obtain ⟨-, -, -, -, hsent, -⟩ := boot_spec h₀
      refine ⟨by simp, fun j sent hget => ?_⟩
      simp [hsent] at hget
  | snoc hexec hs ih => exact ih.step (fun id => (accounts_of_run h₀ hexec id).id) hs

/-! ### Loss -/

/-- Send `j` was lost by the network in a step of the run, or given up. -/
def LostIn (tr : Trace ν β) (j : ℕ) : Prop :=
  ∃ z ∈ tr, ∃ event, z.label.1 = .sendEvent j event ∧ event.loses = true

/-- An outcome no answer of a replica comes to. -/
def Lost : Settled ν β → Prop
  | .ok _ => False
  | .error (.request err) => err.kind ≠ .httpStatus
  | .error (.other _) => True

/-- Every such outcome of a run is of a send lost in it. -/
def Losses (tr : Trace ν β) (c : Fleet ν β) : Prop :=
  ∀ j id x settled, c.transport.sends[j]? = some (id, x) → x.wait = .settled settled →
    Lost settled → LostIn tr j

omit [JsNumber ν] in
theorem LostIn.concat (h : LostIn tr j) (x : Stride ν β) : LostIn (tr ++ [x]) j := by
  obtain ⟨z, hz, hevent⟩ := h
  exact ⟨z, List.mem_append_left _ hz, hevent⟩

omit [JsNumber ν] in
theorem sends_dispatch {c : Fleet ν β} {i : ℕ} {sends : List (String × β)}
    (hfleet : ∀ call ∈ sends, ∃ url, deps.adapter.resolve call.1 = .ok url) {id : String}
    {x : Exchange ν (Settled ν β)}
    (hget : (dispatch deps c i sends).transport.sends[j]? = some (id, x)) :
    c.transport.sends[j]? = some (id, x) ∨ x = .start := by
  induction sends generalizing c with
  | nil => exact Or.inl hget
  | cons call sends ih =>
      obtain ⟨⟨url, hurl⟩, hrest⟩ := List.forall_mem_cons.mp hfleet
      rcases ih hrest hget with hsend | hnew
      · simp only [Fleet.send, Transport.sendRequest, hurl] at hsend
        rw [List.getElem?_append] at hsend
        split_ifs at hsend
        · exact Or.inl hsend
        · exact Or.inr (Prod.mk.inj (List.mem_singleton.mp (List.mem_of_getElem? hsend))).2
      · exact Or.inr hnew

omit [JsNumber ν] in
/-- No call settled. -/
theorem Losses.of_kept (hl : Losses tr c) (x : Stride ν β)
    (hkept : ∀ (j : ℕ) (id : String) (y : Exchange ν (Settled ν β)),
      c'.transport.sends[j]? = some (id, y) →
      c.transport.sends[j]? = some (id, y) ∨ y = .start) : Losses (tr ++ [x]) c' := by
  intro j id y settled hget hsettled hlost
  rcases hkept j id y hget with hold | rfl
  · exact (hl j id y settled hold hsettled hlost).concat x
  · cases hsettled

/-- **What one step preserves.** -/
theorem Losses.step (hl : Losses tr c) {a : FleetInput ν β}
    (hfleet : ∀ b main mainReport,
      c.main.step deps.thresholds deps.route b = .ok (main, mainReport) →
      ∀ call ∈ sendsOf mainReport.calls, ∃ url, deps.adapter.resolve call.1 = .ok url)
    (h : c.step deps a = .ok (c', report)) : Losses (tr ++ [⟨c, (a, report), c'⟩]) c' := by
  cases step_cases h with
  | began hmain => exact hl.of_kept _ fun _ _ _ => sends_dispatch (hfleet _ _ _ hmain)
  | resumed _ _ _ _ hmain => exact hl.of_kept _ fun _ _ _ => sends_dispatch (hfleet _ _ _ hmain)
  | @sendMoved k event id _ e x y _ hdeliver hsend hadvance =>
      intro j id' z settled hget hsettled hlost
      by_cases hk : k = j
      · subst hk
        obtain ⟨hlt, -⟩ := List.getElem?_eq_some_iff.mp hsend
        replace hget : (c.transport.sends.set k (id, y))[k]? = some (id', z) := hget
        rw [List.getElem?_set_self hlt] at hget
        obtain ⟨-, rfl⟩ := Prod.mk.inj (Option.some.inj hget)
        rcases settled_of_advance hdeliver hadvance hsettled with
          hloses | ⟨status, rfl⟩ | ⟨latencyMs, body, rfl⟩
        · exact ⟨_, List.mem_append_right _ (List.mem_singleton_self _), event, rfl, hloses⟩
        · exact absurd rfl hlost
        · exact hlost.elim
      · replace hget : (c.transport.sends.set k (id, y))[j]? = some (id', z) := hget
        rw [List.getElem?_set_ne hk] at hget
        exact (hl j id' z settled hget hsettled hlost).concat _
  | _ => exact hl.of_kept _ fun _ _ _ => Or.inl

/-- **What a run preserves.** -/
theorem losses_of_exec (h₀ : boot deps config = .ok c₀) (h : Exec (Step deps) c₀ tr c) :
    Losses tr c := by
  induction h with
  | nil =>
      obtain ⟨-, htransport, -⟩ := boot_spec h₀
      intro j id x settled hget
      simp [htransport, Transport.idle] at hget
  | snoc hexec hs ih => exact ih.step (fun _ _ _ hmain => resolve_of_sends h₀ hexec hmain) hs

/-! ### Truth -/

/-- What the outcome of send `j` says of its replica. -/
inductive SendTruth (deps : FleetDeps ν β) (tr : Trace ν β) (j : ℕ) (sent : Sent ν β) :
    Settled ν β → Prop where
  /-- The call was lost before its headers came, or given up: the replica may have it or not. -/
  | lost {err : ReplicaRequestError} (hlost : LostIn tr j) (hkind : err.kind ≠ .httpStatus)
      (hstatus : err.status = none) : SendTruth deps tr j sent (.error (.request err))
  /-- `express.json()` answered. -/
  | unparsed {status : ℕ} {settled : Settled ν β}
      (hunparsed : deps.unparsed sent.payload = some status)
      (hending : Ending (deps.adapter.sendRequest sent.replicaId) deps.body
        (.answered (.unparsed status)) settled) : SendTruth deps tr j sent settled
  /-- A fault stood when the send reached the replica, and nothing was run. -/
  | refused {y : Stride ν β} {err : ReplicaRequestError} (hreached : Reached tr j y)
      (hfault : (y.pre.replicas sent.replicaId).killed = true ∨
        (y.pre.replicas sent.replicaId).inferFailing = true) (htaken : takenBy y = none)
      (hkind : err.kind = .httpStatus) (hstatus : err.status = some 503) :
      SendTruth deps tr j sent (.error (.request err))
  /-- None stood, and this is what the replica answered when it was done. -/
  | served {y : Stride ν β} {servedAt : String} {latencyMs latencyMs' : ν}
      (hreached : Reached tr j y) (hkilled : (y.pre.replicas sent.replicaId).killed = false)
      (hfailing : (y.pre.replicas sent.replicaId).inferFailing = false)
      (htaken : takenBy y = some j) (hwoke : ∃ z ∈ tr, z.label.1 = .wake j servedAt latencyMs) :
      SendTruth deps tr j sent
        (.ok ⟨deps.body (.inference sent.replicaId servedAt latencyMs), latencyMs'⟩)
  /-- The same, but its answer was lost on the way. -/
  | cut {y : Stride ν β} {servedAt detail : String} {latencyMs : ν} (hlost : LostIn tr j)
      (hreached : Reached tr j y) (hkilled : (y.pre.replicas sent.replicaId).killed = false)
      (hfailing : (y.pre.replicas sent.replicaId).inferFailing = false)
      (htaken : takenBy y = some j) (hwoke : ∃ z ∈ tr, z.label.1 = .wake j servedAt latencyMs) :
      SendTruth deps tr j sent (.error (.other detail))

theorem sendTruth_of_ending {sent : Sent ν β} {settled : Settled ν β}
    (harrival : Arrival deps tr j sent.replicaId sent.payload sent.served)
    (hlost : Lost settled → LostIn tr j)
    (hending : Ending (deps.adapter.sendRequest sent.replicaId) deps.body sent.served settled) :
    SendTruth deps tr j sent settled := by
  have hunparsed : ∀ status, deps.unparsed sent.payload = some status →
      sent.served = .answered (.unparsed status) → SendTruth deps tr j sent settled := by
    intro status h hserved
    rw [hserved] at hending
    exact .unparsed h hending
  cases hending with
  | lost err =>
      simp only [HttpReplicaAdapter.sendRequest] at hlost ⊢
      split_ifs at hlost ⊢
      · exact .lost (hlost (by simp [Lost])) (by simp) rfl
      · exact .lost (hlost (by simp [Lost])) (by simp) rfl
  | refused hserved hok =>
      rw [hserved] at harrival
      cases harrival with
      | unparsed _ h _ => exact hunparsed _ h hserved
      | refused hreached hfault htaken => exact .refused hreached hfault htaken rfl rfl
      | answered _ _ _ _ _ => cases hok
  | read latencyMs hserved hok =>
      rw [hserved] at harrival
      cases harrival with
      | unparsed _ h _ => exact hunparsed _ h hserved
      | refused _ _ _ => cases hok
      | answered hreached hkilled hfailing htaken hwoke =>
          exact .served hreached hkilled hfailing htaken hwoke
  | cut err hserved hok =>
      rw [hserved] at harrival
      cases harrival with
      | unparsed _ h _ => exact hunparsed _ h hserved
      | refused _ _ _ => cases hok
      | answered hreached hkilled hfailing htaken hwoke =>
          exact .cut (hlost trivial) hreached hkilled hfailing htaken hwoke

/-- How a settled send of a run fared. -/
theorem truth_of_settled (h₀ : boot deps config = .ok c₀) (h : Exec (Step deps) c₀ tr c)
    {sent : Sent ν β} (hsent : c.sent[j]? = some sent) {id : String} {x : Exchange ν (Settled ν β)}
    (hsend : c.transport.sends[j]? = some (id, x)) {settled : Settled ν β}
    (hsettled : x.wait = .settled settled) :
    Ending (deps.adapter.sendRequest sent.replicaId) deps.body sent.served settled ∧
      SendTruth deps tr j sent settled := by
  obtain ⟨hid, hrelays⟩ := forall₂_getElem? (wired_of_exec h₀ h).sends hsend hsent
  replace hid : id = sent.replicaId := hid
  subst hid
  have hending := hrelays.settled settled hsettled
  exact ⟨hending, sendTruth_of_ending ((arrivals_of_exec h₀ h).each j sent hsent)
    (losses_of_exec h₀ h j sent.replicaId x settled hsend hsettled) hending⟩

/-- The send whose handler went on in a step, and how it had settled. -/
def resumedBy (x : Stride ν β) : Option (ℕ × Settled ν β) :=
  match x.label.1, x.label.2.main with
  | .resume j _ _, some (.settle _ settled _ _, _) => some (j, settled)
  | _, _ => none

theorem sendTruth_of_step (h₀ : boot deps config = .ok c₀) (hpre : Exec (Step deps) c₀ tr c)
    {a : FleetInput ν β} (hstep : c.step deps a = .ok (c', report)) {settled : Settled ν β}
    (hx : resumedBy ⟨c, (a, report), c'⟩ = some (j, settled)) :
    ∃ sent, c.sent[j]? = some sent ∧ SendTruth deps tr j sent settled := by
  cases step_cases hstep with
  | @resumed i _ _ id exchange sent settled' main mainReport hsend hsettled hsent _ _ =>
      obtain ⟨rfl, rfl⟩ : i = j ∧ settled' = settled := by simpa [resumedBy] using hx
      exact ⟨sent, hsent, (truth_of_settled h₀ hpre hsent hsend hsettled).2⟩
  | _ => simp [resumedBy] at hx

/-- **What a send tells was so.**  In every run, the outcome with which a handler goes on says how
its send fared: an answer of 200 is the replica's own, to this very send, which it took when no
fault stood; a refusal was made while one stood, and nothing was run; a deadline or a failed
connection says that the call was lost or given up, and nothing of the replica; or the payload is
one `express.json()` does not take, and the outcome is what the adapter makes of its answer. -/
theorem send_truthful (h₀ : boot deps config = .ok c₀) {x : Stride ν β}
    (h : Exec (Step deps) c₀ (tr ++ x :: tr') c) {settled : Settled ν β}
    (hx : resumedBy x = some (j, settled)) :
    ∃ sent, x.pre.sent[j]? = some sent ∧ SendTruth deps tr j sent settled := by
  obtain ⟨hpre, hstep, -⟩ := h.split
  exact sendTruth_of_step h₀ hpre hstep hx

/-- An answer of the replica of the small setting. -/
def inferred : Settled ℕ (Option (ReplicaReply ℕ)) :=
  .ok ⟨some (.inference "replica-1" "t2" 7), 8⟩

/-- A request is taken by its replica, which is killed before it is done, and answered. -/
def killedWhileInfers : Except String (Fleet ℕ (Option (ReplicaReply ℕ)) ×
    Trace ℕ (Option (ReplicaReply ℕ)) × Fleet ℕ (Option (ReplicaReply ℕ))) :=
  perform .small ⟨.roundRobin, ⟨1, 1⟩⟩ [.pollAll, .health 0 0, .probeEvent 0 (.headers 5) "t0" "e0",
    .probeEvent 0 .bodyComplete "t1" "e1", .request "request-1" none .still, .infer 0,
    .operator "replica-1" .kill, .wake 0 "t2" 7, .sendEvent 0 (.headers 8),
    .sendEvent 0 .bodyComplete, .resume 0 .still .still]

/-- It is served all the same. -/
theorem send_truthful_killedWhileInfers : ∃ (tr : Trace ℕ (Option (ReplicaReply ℕ)))
    (x : Stride ℕ (Option (ReplicaReply ℕ))) (sent : Sent ℕ (Option (ReplicaReply ℕ))),
    (x.pre.replicas "replica-1").killed = true ∧ x.pre.sent[0]? = some sent ∧
    SendTruth .small tr 0 sent inferred := by
  obtain ⟨⟨c₀, tr, c⟩, h, hc⟩ := exists_of_check killedWhileInfers (fun run =>
    run.2.1.getLast?.any fun x => (x.pre.replicas "replica-1").killed &&
      decide (resumedBy x = some (0, inferred))) (by decide)
  obtain ⟨x, hlast, hx⟩ := (Option.any_eq_true _ _).mp hc
  obtain ⟨tr, rfl⟩ := List.getLast?_eq_some_iff.mp hlast
  simp only [Bool.and_eq_true, decide_eq_true_eq] at hx
  obtain ⟨hboot, hexec⟩ := exec_of_perform h
  obtain ⟨sent, hsent, htruth⟩ := send_truthful hboot hexec hx.2
  exact ⟨tr, x, sent, hx.1, hsent, htruth⟩

end Fleet

end WhyRouted
