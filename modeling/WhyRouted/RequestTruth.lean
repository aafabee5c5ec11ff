import WhyRouted.RequestCalls

/-! # What a request was worth

The account of a request, read against what the replicas did.  No replica is sent one request twice
(`reaches_once`).  A listed attempt with a status ran nothing, and one without may have
(`attempts_truthful`); so whoever reads an answer knows every replica that may have done the work:
the one it names and those it lists as timed out or out of reach (`answer_discloses`).  And an
answer of 200 is the work of the replica it names (`answer_truthful`). -/

namespace WhyRouted

namespace Fleet

variable {ν β : Type} [JsNumber ν] {deps : FleetDeps ν β} {c₀ c c' : Fleet ν β} {tr tr' : Trace ν β}
  {report : FleetReport ν β} {config : RoutingConfig ν} {i j : ℕ} {id : String} {hd : Handler ν β}
  {res : RouteResponse ν β}

/-- The request of send `j` and the replica it goes to. -/
def requestOf (c : Fleet ν β) (j : ℕ) : Option (ℕ × String) :=
  (c.sent[j]?).map fun sent => (sent.request, sent.replicaId)

/-- The request that reaches a replica in a step, and the replica. -/
def reachedBy (x : Stride ν β) : Option (ℕ × String) :=
  match x.label.1 with
  | .infer j => x.pre.requestOf j
  | _ => none

/-- The request that a replica takes in a step, to run it, and the replica. -/
def ranBy (x : Stride ν β) : Option (ℕ × String) := (takenBy x).bind x.pre.requestOf

/-! ### A send to the end of the run -/

theorem keeps_of_exec (h : Exec (Step deps) c tr c') : Keeps c c' := by
  induction h with
  | nil => exact keeps_of_same rfl rfl
  | snoc _ hs ih => exact ih.trans (keeps_of_step hs)

theorem requestOf_of_mem (h : Exec (Step deps) c₀ tr c) {y : Stride ν β} (hy : y ∈ tr)
    (hrequest : y.pre.requestOf j = some (i, id)) :
    ∃ sent, c.sent[j]? = some sent ∧ sent.request = i ∧ sent.replicaId = id := by
  obtain ⟨tr₁, tr₂, rfl⟩ := List.append_of_mem hy
  obtain ⟨-, hstep, hafter⟩ := h.split
  obtain ⟨sent, hget, hpair⟩ := Option.map_eq_some_iff.mp hrequest
  obtain ⟨rfl, rfl⟩ := Prod.mk.inj hpair
  obtain ⟨sent', hget', hsame, hid, -⟩ :=
    ((keeps_of_step hstep).trans (keeps_of_exec hafter)).sent j sent hget
  exact ⟨sent', hget', hsame, hid⟩

omit [JsNumber ν] in
theorem infer_of_taken {y : Stride ν β} (hy : takenBy y = some j) : y.label.1 = .infer j := by
  unfold takenBy at hy
  split at hy
  next hlabel _ => rw [hlabel, Option.some.inj hy]
  · cases hy

omit [JsNumber ν] in
theorem Arrival.of_taken {payload : β} {served : Served ν}
    (h : Arrival deps tr j id payload served) {y : Stride ν β} (hy : y ∈ tr)
    (htaken : takenBy y = some j) : (∃ call, served = .sleeping call) ∨
      ∃ servedAt latencyMs, served = .answered (.inference id servedAt latencyMs) := by
  have hinfer := infer_of_taken htaken
  cases h with
  | travelling hnone => exact absurd hinfer (hnone y hy)
  | unparsed hreached _ hnot =>
      rw [Sole.eq_of_mem hreached hy hinfer, hnot] at htaken
      cases htaken
  | refused hreached _ hnot =>
      rw [Sole.eq_of_mem hreached hy hinfer, hnot] at htaken
      cases htaken
  | accepted _ _ _ _ => exact Or.inl ⟨_, rfl⟩
  | answered _ _ _ _ _ => exact Or.inr ⟨_, _, rfl⟩

/-- The outcome of a settled send of a run says what became of it. -/
theorem truth_of_spent (h₀ : boot deps config = .ok c₀) (h : Exec (Step deps) c₀ tr c)
    {payload : β} {settled : Settled ν β} (hspent : Spent c i j id payload settled) :
    ∃ sent, c.sent[j]? = some sent ∧ sent.request = i ∧ sent.replicaId = id ∧
      sent.payload = payload ∧
      Ending (deps.adapter.sendRequest id) deps.body sent.served settled ∧
      SendTruth deps tr j sent settled := by
  obtain ⟨⟨sent, hget, hrequest, rfl, hpayload, -⟩, id', x, hsend, hwait⟩ := hspent
  exact ⟨sent, hget, hrequest, rfl, hpayload, truth_of_settled h₀ h hget hsend hwait⟩

/-- Send `j` was one of request `i` to a replica; it settled so, and that rests on the run. -/
structure Fared (deps : FleetDeps ν β) (tr : Trace ν β) (c : Fleet ν β) (i j : ℕ)
    (replicaId : String) (settled : Settled ν β) : Prop where
  ended : ∃ id x, c.transport.sends[j]? = some (id, x) ∧ x.wait = .settled settled
  truth : ∃ sent, c.sent[j]? = some sent ∧ sent.request = i ∧ sent.replicaId = replicaId ∧
    SendTruth deps tr j sent settled

theorem fared_of_settled (h₀ : boot deps config = .ok c₀) (h : Exec (Step deps) c₀ tr c)
    {x : Exchange ν (Settled ν β)} {sent : Sent ν β} {settled : Settled ν β}
    (hsend : c.transport.sends[j]? = some (id, x)) (hsettled : x.wait = .settled settled)
    (hsent : c.sent[j]? = some sent) :
    Fared deps tr c sent.request j sent.replicaId settled := by
  obtain ⟨-, htruth⟩ := truth_of_settled h₀ h hsent hsend hsettled
  exact ⟨⟨id, x, hsend, hsettled⟩, sent, hsent, rfl, rfl, htruth⟩

/-- How a send fared, it fared for good. -/
theorem Fared.since {w : Trace ν β} {replicaId : String} {settled : Settled ν β}
    (hf : Fared deps tr c i j replicaId settled) (h₀ : boot deps config = .ok c₀)
    (h : Exec (Step deps) c₀ tr c) (hw : Exec (Step deps) c w c') :
    Fared deps (tr ++ w) c' i j replicaId settled := by
  obtain ⟨id, x, hsend, hsettled⟩ := hf.ended
  obtain ⟨sent, hsent, rfl, rfl, -⟩ := hf.truth
  have hkeeps := keeps_of_exec hw
  obtain ⟨sent', hsent', hrequest, hid, -⟩ := hkeeps.sent j sent hsent
  rw [← hrequest, ← hid]
  exact fared_of_settled h₀ (h.trans hw) (hkeeps.settled j id x settled hsend hsettled) hsettled
    hsent'

theorem lost_of_taken {served : Served ν} {err : ReplicaRequestError}
    (hserved : (∃ call, served = .sleeping call) ∨
      ∃ servedAt latencyMs, served = .answered (.inference id servedAt latencyMs))
    (hending : Ending (deps.adapter.sendRequest id) deps.body served (.error (.request err))) :
    err.kind ≠ .httpStatus := by
  generalize hsettled : (Except.error (SendError.request err) : Settled ν β) = settled at hending
  cases hending with
  | lost err' =>
      simp only [HttpReplicaAdapter.sendRequest] at hsettled
      split_ifs at hsettled
      · cases hsettled
        simp
      · cases hsettled
        simp
  | refused hanswered hok =>
      rcases hserved with ⟨call, rfl⟩ | ⟨servedAt, latencyMs, rfl⟩
      · cases hanswered
      · obtain rfl := Served.answered.inj hanswered
        cases hok
  | read _ _ _ => cases hsettled
  | cut _ _ _ => cases hsettled

/-! ### Once each -/

omit [JsNumber ν] in
theorem Spent.replicaId {payload : β} {settled : Settled ν β} {sent : Sent ν β}
    (hspent : Spent c i j id payload settled) (hget : c.sent[j]? = some sent) :
    sent.replicaId = id := by
  obtain ⟨sent', hget', -, hid, -⟩ := hspent.sent
  obtain rfl := Option.some.inj (hget.symm.trans hget')
  exact hid

omit [JsNumber ν] in
theorem Closing.replicaId {sent : Sent ν β} (hc : Closing c i hd (some (j, id)))
    (hget : c.sent[j]? = some sent) : sent.replicaId = id := by
  cases hc with
  | awaiting _ hget' _ hid _ _ =>
      obtain rfl := Option.some.inj (hget.symm.trans hget')
      exact hid
  | failed hspent _ _ _ => exact hspent.replicaId hget
  | served hspent _ _ => exact hspent.replicaId hget

omit [JsNumber ν] in
theorem Account.eq_of_same {js : List ℕ} {last : Option (ℕ × String)}
    (ha : Account c i hd js last) {k : ℕ} {sent sent' : Sent ν β} (hj : c.sent[j]? = some sent)
    (hk : c.sent[k]? = some sent') (hi : sent.request = i) (hi' : sent'.request = i)
    (hid : sent.replicaId = sent'.replicaId) : j = k := by
  have hids : List.Forall₂ (fun id j => ∀ sent : Sent ν β, c.sent[j]? = some sent →
      sent.replicaId = id) (hd.exclude ++ (last.map Prod.snd).toList)
      (js ++ (last.map Prod.fst).toList) := by
    refine List.rel_append ?_ ?_
    · rw [ha.exclude, List.forall₂_map_left_iff]
      refine ha.attempts.imp fun attempt j => ?_
      rintro ⟨_, _, _, hspent⟩ sent hget
      exact hspent.replicaId hget
    · have hclosing := ha.closing
      cases last with
      | none => exact .nil
      | some p => exact .cons (fun sent hget => hclosing.replicaId hget) .nil
  obtain ⟨p, hp⟩ := List.getElem?_of_mem (ha.complete j sent hj hi)
  obtain ⟨q, hq⟩ := List.getElem?_of_mem (ha.complete k sent' hk hi')
  obtain ⟨id, hgetp, hidp⟩ := exists_getElem?_of_forall₂ hids.flip hp
  obtain ⟨id', hgetq, hidq⟩ := exists_getElem?_of_forall₂ hids.flip hq
  have hsame : id = id' := (hidp sent hj).symm.trans (hid.trans (hidq sent' hk))
  subst hsame
  obtain ⟨hlt, -⟩ := List.getElem?_eq_some_iff.mp hgetp
  obtain rfl := (List.getElem?_inj hlt ha.distinct).mp (hgetp.trans hgetq.symm)
  exact Option.some.inj (hp.symm.trans hq)

omit [JsNumber ν] in
theorem infer_of_reached {y : Stride ν β} {pair : ℕ × String} (hy : reachedBy y = some pair) :
    ∃ j, y.label.1 = .infer j ∧ y.pre.requestOf j = some pair := by
  unfold reachedBy at hy
  split at hy
  next j hlabel => exact ⟨j, hlabel, hy⟩
  · cases hy

theorem not_reached_before (h₀ : boot deps config = .ok c₀) (h : Exec (Step deps) c₀ tr c)
    (hs : c.step deps (.infer j) = .ok (c', report)) : ∀ y ∈ tr, y.label.1 ≠ .infer j := by
  cases step_cases hs with
  | @arrived _ sent _ _ hsent hserved _ =>
      have harrival := (arrivals_of_exec h₀ h).each j sent hsent
      rw [hserved] at harrival
      cases harrival with
      | travelling hnone => exact hnone

theorem eq_of_same (h₀ : boot deps config = .ok c₀) (h : Exec (Step deps) c₀ tr c) {k : ℕ}
    {sent sent' : Sent ν β} (hj : c.sent[j]? = some sent) (hk : c.sent[k]? = some sent')
    (hrequest : sent.request = sent'.request) (hid : sent.replicaId = sent'.replicaId) : j = k := by
  have haccounted := accounted_of_exec h₀ h
  obtain ⟨js, last, haccount⟩ := haccounted.each sent.request _
    (List.getElem?_eq_getElem (haccounted.known j sent hj))
  exact haccount.eq_of_same hj hk rfl hrequest.symm hid

/-- A request reaches a replica once at most. -/
theorem nodup_reached (h₀ : boot deps config = .ok c₀) (h : Exec (Step deps) c₀ tr c) :
    (tr.filterMap reachedBy).Nodup := by
  induction h with
  | nil => exact List.nodup_nil
  | @snoc tr c₁ c₂ label hexec hs ih =>
      rw [List.filterMap_append, List.nodup_append]
      refine ⟨ih, ?_, fun a ha b hb hab => ?_⟩
      · cases hx : reachedBy (⟨c₁, label, c₂⟩ : Stride ν β) <;> simp [hx]
      · subst hab
        obtain ⟨y, hy, hreached⟩ := List.mem_filterMap.mp ha
        obtain ⟨x, hx, hreached'⟩ := List.mem_filterMap.mp hb
        obtain rfl := List.mem_singleton.mp hx
        obtain ⟨i, id⟩ := a
        -- both are the same send
        obtain ⟨k, hlabel, hrequest⟩ := infer_of_reached hreached
        obtain ⟨sent, hget, hi, hid⟩ := requestOf_of_mem hexec hy hrequest
        obtain ⟨j, hlabel', hrequest'⟩ := infer_of_reached hreached'
        obtain ⟨sent', hget', hpair⟩ := Option.map_eq_some_iff.mp hrequest'
        obtain ⟨hi', hid'⟩ := Prod.mk.inj hpair
        have hsame := eq_of_same h₀ hexec hget hget' (hi.trans hi'.symm) (hid.trans hid'.symm)
        obtain ⟨a, report⟩ := label
        obtain rfl : a = .infer j := hlabel'
        exact not_reached_before h₀ hexec hs y hy (by rw [hlabel, hsame])

/-- **No replica is sent one request twice.**  In every run, a request reaches each replica at most
once, however often it is retried; and no two sends of it, arrived or not, go to one replica. -/
theorem reaches_once (h₀ : boot deps config = .ok c₀) (h : Exec (Step deps) c₀ tr c) :
    (tr.filterMap reachedBy).Nodup ∧ ∀ (j k : ℕ) (sent sent' : Sent ν β),
      c.sent[j]? = some sent → c.sent[k]? = some sent' → sent.request = sent'.request →
      sent.replicaId = sent'.replicaId → j = k :=
  ⟨nodup_reached h₀ h, fun _ _ _ _ hj hk hrequest hid => eq_of_same h₀ h hj hk hrequest hid⟩

/-! ### What an answer says -/

omit [JsNumber ν] in
theorem attempted_of_mem {payload : β} {attempts : List RouteAttempt} {js : List ℕ}
    (h : List.Forall₂ (Attempted c i payload) attempts js) (hj : j ∈ js) :
    ∃ attempt ∈ attempts, Attempted c i payload attempt j := by
  obtain ⟨p, hp⟩ := List.getElem?_of_mem hj
  obtain ⟨attempt, hget, hattempted⟩ := exists_getElem?_of_forall₂ h.flip hp
  exact ⟨attempt, List.mem_of_getElem? hget, hattempted⟩

omit [JsNumber ν] in
theorem Account.payload {js : List ℕ} {last : Option (ℕ × String)}
    (ha : Account c i hd js last) {sent : Sent ν β} (hget : c.sent[j]? = some sent)
    (hrequest : sent.request = i) : sent.payload = hd.payload := by
  have hspent : ∀ {id : String} {settled : Settled ν β}, Spent c i j id hd.payload settled →
      sent.payload = hd.payload := by
    rintro id settled ⟨⟨sent', hget', -, -, hpayload, -⟩, -⟩
    obtain rfl := Option.some.inj (hget.symm.trans hget')
    exact hpayload
  rcases List.mem_append.mp (ha.complete j sent hget hrequest) with hj | hj
  · obtain ⟨attempt, -, err, -, -, htried⟩ := attempted_of_mem ha.attempts hj
    exact hspent htried
  · cases ha.closing with
    | unserved _ _ => cases hj
    | awaiting _ hget' _ _ hpayload _ =>
        obtain rfl := List.mem_singleton.mp hj
        obtain rfl := Option.some.inj (hget.symm.trans hget')
        exact hpayload
    | failed hlast _ _ _ =>
        obtain rfl := List.mem_singleton.mp hj
        exact hspent hlast
    | served hlast _ _ =>
        obtain rfl := List.mem_singleton.mp hj
        exact hspent hlast

omit [JsNumber ν] in
theorem send_of_attempt {payload : β} {attempts : List RouteAttempt} {js : List ℕ}
    (h : List.Forall₂ (Attempted c i payload) attempts js) {attempt : RouteAttempt}
    (hmem : attempt ∈ attempts) : ∃ j ∈ js, Attempted c i payload attempt j := by
  obtain ⟨p, hp⟩ := List.getElem?_of_mem hmem
  obtain ⟨j, hget, hattempted⟩ := exists_getElem?_of_forall₂ h hp
  exact ⟨j, List.mem_of_getElem? hget, hattempted⟩

/-- **Every attempt is told as it was.**  In every run, each attempt a request lists is one send of
it to that replica, which settled with that kind and status, refused by the replica or lost; and an
attempt with a status was not run there. -/
theorem attempts_truthful (h₀ : boot deps config = .ok c₀) (h : Exec (Step deps) c₀ tr c)
    (hget : c.main.handlers[i]? = some hd) :
    ∀ attempt ∈ hd.attempts, ∃ j sent err, c.sent[j]? = some sent ∧ sent.request = i ∧
      sent.replicaId = attempt.replicaId ∧ sent.payload = hd.payload ∧
      attempt = ⟨attempt.replicaId, err.kind, err.status⟩ ∧
      Fared deps tr c i j attempt.replicaId (.error (.request err)) ∧
      (attempt.kind = .httpStatus → (i, attempt.replicaId) ∉ tr.filterMap ranBy) := by
  intro attempt hmem
  obtain ⟨js, last, haccount⟩ := (accounted_of_exec h₀ h).each i hd hget
  obtain ⟨j, -, err, hretry, heq, hspent⟩ := send_of_attempt haccount.attempts hmem
  obtain ⟨sent, hsent, hrequest, hid, hpayload, hending, htruth⟩ := truth_of_spent h₀ h hspent
  refine ⟨j, sent, err, hsent, hrequest, hid, hpayload, heq,
    ⟨hspent.settled, sent, hsent, hrequest, hid, htruth⟩, fun hkind hran => ?_⟩
  obtain ⟨y, hy, hran⟩ := List.mem_filterMap.mp hran
  obtain ⟨k, htaken, hrequest'⟩ := Option.bind_eq_some_iff.mp hran
  obtain ⟨sent', hsent', hi', hid'⟩ := requestOf_of_mem h hy hrequest'
  obtain rfl := haccount.eq_of_same hsent hsent' hrequest hi' (hid.trans hid'.symm)
  have harrival := (arrivals_of_exec h₀ h).each j sent hsent
  rw [hid] at harrival
  refine lost_of_taken (harrival.of_taken hy htaken) hending ?_
  rw [heq] at hkind
  exact hkind

omit [JsNumber ν] in
theorem Closing.discloses {last : Option (ℕ × String)} (hc : Closing c i hd last)
    (hphase : hd.phase = .responded res) : res.body.attempts = hd.attempts ∧
      ∀ p, last = some p → res.body.replicaId = some p.2 := by
  cases hc with
  | awaiting hsending _ _ _ _ _ => cases hphase.symm.trans hsending
  | unserved _ hres => exact ⟨(hres res hphase).attempts, nofun⟩
  | failed _ _ _ hres =>
      obtain ⟨-, hattempts, hid⟩ := hres res hphase
      refine ⟨hattempts, ?_⟩
      rintro _ ⟨⟩
      exact hid
  | served _ _ hres =>
      rcases hres res hphase with ⟨-, hattempts, hid⟩ | rfl
      · refine ⟨hattempts, ?_⟩
        rintro _ ⟨⟩
        exact hid
      · refine ⟨rfl, ?_⟩
        rintro _ ⟨⟩
        rfl

/-- **An answer names everyone who may have done the work.**  In every run, whatever a request was
answered with, a replica that has run it is the one the answer names or is listed in it, as timed
out or out of reach. -/
theorem answer_discloses (h₀ : boot deps config = .ok c₀) (h : Exec (Step deps) c₀ tr c)
    (hget : c.main.handlers[i]? = some hd) (hphase : hd.phase = .responded res)
    (hran : (i, id) ∈ tr.filterMap ranBy) : res.body.replicaId = some id ∨
      ∃ attempt ∈ res.body.attempts, attempt.replicaId = id ∧ attempt.kind ≠ .httpStatus := by
  obtain ⟨js, last, haccount⟩ := (accounted_of_exec h₀ h).each i hd hget
  obtain ⟨hattempts, hlast⟩ := haccount.closing.discloses hphase
  obtain ⟨y, hy, hran⟩ := List.mem_filterMap.mp hran
  obtain ⟨j, htaken, hrequest⟩ := Option.bind_eq_some_iff.mp hran
  obtain ⟨sent, hsent, hi, hid⟩ := requestOf_of_mem h hy hrequest
  rcases List.mem_append.mp (haccount.complete j sent hsent hi) with hj | hj
  · obtain ⟨attempt, hmem, err, hretry, heq, hspent⟩ := attempted_of_mem haccount.attempts hj
    obtain ⟨sent', hsent', -, hid', -, hending, -⟩ := truth_of_spent h₀ h hspent
    obtain rfl := Option.some.inj (hsent.symm.trans hsent')
    have harrival := (arrivals_of_exec h₀ h).each j sent hsent
    rw [hid'] at harrival
    refine Or.inr ⟨attempt, by rwa [hattempts], hid'.symm.trans hid, ?_⟩
    rw [heq]
    exact lost_of_taken (harrival.of_taken hy htaken) hending
  · left
    cases last with
    | none => cases hj
    | some p =>
        obtain rfl : j = p.1 := List.mem_singleton.mp hj
        rw [hlast p rfl, ← hid, haccount.closing.replicaId hsent]

/-- What a replica answered when it had run a request. -/
structure Worked (deps : FleetDeps ν β) (tr : Trace ν β) (i : ℕ) (id : String)
    (payload response : β) : Prop where
  /-- It took the request when no fault stood. -/
  taken : ∃ y ∈ tr, ranBy y = some (i, id) ∧ (y.pre.replicas id).killed = false ∧
    (y.pre.replicas id).inferFailing = false
  /-- It was given this payload, and this is its answer. -/
  answered : ∃ z ∈ tr, ∃ j sent servedAt latencyMs, z.label.1 = .wake j servedAt latencyMs ∧
    z.pre.sent[j]? = some sent ∧ sent.request = i ∧ sent.replicaId = id ∧ sent.payload = payload ∧
    response = deps.body (.inference id servedAt latencyMs)

theorem sent_of_end (h : Exec (Step deps) c₀ tr c) {y : Stride ν β} (hy : y ∈ tr)
    {sent sent' : Sent ν β} (hget : y.pre.sent[j]? = some sent') (hend : c.sent[j]? = some sent) :
    sent'.request = sent.request ∧ sent'.replicaId = sent.replicaId ∧
      sent'.payload = sent.payload := by
  obtain ⟨tr₁, tr₂, rfl⟩ := List.append_of_mem hy
  obtain ⟨-, hstep, hafter⟩ := h.split
  obtain ⟨sent'', hget', hrequest, hid, hpayload, -⟩ :=
    ((keeps_of_step hstep).trans (keeps_of_exec hafter)).sent j sent' hget
  obtain rfl := Option.some.inj (hend.symm.trans hget')
  exact ⟨hrequest.symm, hid.symm, hpayload.symm⟩

theorem sent_of_step {a : FleetInput ν β} (h : c.step deps a = .ok (c', report))
    (ha : a = .infer j ∨ ∃ servedAt latencyMs, a = .wake j servedAt latencyMs) :
    ∃ sent, c.sent[j]? = some sent := by
  cases step_cases h with
  | arrived hsent _ _ =>
      rcases ha with ha | ⟨_, _, ha⟩
      · obtain rfl := FleetInput.infer.inj ha
        exact ⟨_, hsent⟩
      · cases ha
  | woke hsent _ _ =>
      rcases ha with ha | ⟨_, _, ha⟩
      · cases ha
      · obtain ⟨rfl, -, -⟩ := FleetInput.wake.inj ha
        exact ⟨_, hsent⟩
  | _ => simp at ha

/-- **An answer of 200 is the work of the replica it names.**  In every run in which
`express.json()` answers nothing but errors, that replica took the request when no fault stood,
once, with the request's own payload, and the response is what it answered when it was done. -/
theorem answer_truthful
    (hunparsed : ∀ payload status, deps.unparsed payload = some status → responseOk status = false)
    (h₀ : boot deps config = .ok c₀) (h : Exec (Step deps) c₀ tr c)
    (hget : c.main.handlers[i]? = some hd) (hphase : hd.phase = .responded res)
    (hok : res.status = 200) : ∃ id strategy response latencyMs,
      res = ⟨200, .served id strategy response latencyMs hd.attempts hd.requestId⟩ ∧
      Worked deps tr i id hd.payload response := by
  obtain ⟨js, last, haccount⟩ := (accounted_of_exec h₀ h).each i hd hget
  cases haccount.closing with
  | awaiting hsending _ _ _ _ _ => cases hphase.symm.trans hsending
  | unserved _ hres => cases (hres res hphase).status.symm.trans hok
  | failed _ _ _ hres => cases (hres res hphase).status.symm.trans hok
  | @served j id strategy result hspent _ hres =>
  rcases hres res hphase with hdiscloses | rfl
  · cases hdiscloses.status.symm.trans hok
  obtain ⟨sent, hsent, rfl, rfl, hpayload, -, htruth⟩ := truth_of_spent h₀ h hspent
  refine ⟨sent.replicaId, strategy, result.response, result.latencyMs, rfl, ?_⟩
  generalize hsettled : (Except.ok result : Settled ν β) = settled at htruth
  cases htruth with
  | lost _ _ => cases hsettled
  | refused _ _ _ _ _ => cases hsettled
  | cut _ _ _ _ _ => cases hsettled
  | @unparsed status _ hstatus hending =>
      have hfalse := hunparsed _ status hstatus
      cases hending with
      | lost _ => cases hsettled
      | refused _ _ => cases hsettled
      | cut _ _ _ => cases hsettled
      | read _ hserved hread =>
          obtain rfl := Served.answered.inj hserved
          cases hfalse.symm.trans hread
  | @served y servedAt latencyMs latencyMs' hreached hkilled hfailing htaken hwoke =>
      obtain rfl := Except.ok.inj hsettled
      have hy := Sole.mem hreached
      obtain ⟨-, -, -, hinfer, -⟩ := hreached
      obtain ⟨z, hz, hwake⟩ := hwoke
      obtain ⟨sent₁, hget₁⟩ := sent_of_step (h.step_of_mem hy) (Or.inl hinfer)
      obtain ⟨hrequest₁, hid₁, -⟩ := sent_of_end h hy hget₁ hsent
      obtain ⟨sent₂, hget₂⟩ := sent_of_step (h.step_of_mem hz) (Or.inr ⟨_, _, hwake⟩)
      obtain ⟨hrequest₂, hid₂, hpayload₂⟩ := sent_of_end h hz hget₂ hsent
      refine ⟨⟨y, hy, ?_, hkilled, hfailing⟩, z, hz, j, sent₂, servedAt, latencyMs, hwake, hget₂,
        hrequest₂, hid₂, hpayload₂.trans hpayload, rfl⟩
      simp [ranBy, htaken, requestOf, hget₁, hrequest₁, hid₁]

/-! ### A request run twice -/

/-- A replica takes a request and is given up; the next one serves it. -/
def runTwice : Except String (Fleet ℕ (Option (ReplicaReply ℕ)) ×
    Trace ℕ (Option (ReplicaReply ℕ)) × Fleet ℕ (Option (ReplicaReply ℕ))) :=
  perform .pair ⟨.roundRobin, ⟨1, 1⟩⟩ [.pollAll, .health 0 0, .health 1 0,
    .probeEvent 0 (.headers 5) "t0" "e0", .probeEvent 0 .bodyComplete "t0" "e0",
    .probeEvent 1 (.headers 5) "t1" "e1", .probeEvent 1 .bodyComplete "t1" "e1",
    .request "request-1" none .still, .infer 0, .sendEvent 0 .timerFired,
    .sendEvent 0 .abortDelivered, .resume 0 .still .still, .infer 1, .wake 1 "t2" 7,
    .sendEvent 1 (.headers 8), .sendEvent 1 .bodyComplete, .resume 1 .still .still]

theorem runTwice_answer : ∃ (c₀ c : Fleet ℕ (Option (ReplicaReply ℕ)))
    (tr : Trace ℕ (Option (ReplicaReply ℕ))) (hd : Handler ℕ (Option (ReplicaReply ℕ)))
    (res : RouteResponse ℕ (Option (ReplicaReply ℕ))),
    boot .pair ⟨.roundRobin, ⟨1, 1⟩⟩ = .ok c₀ ∧ Exec (Step .pair) c₀ tr c ∧
      c.main.handlers[0]? = some hd ∧ hd.phase = .responded res ∧ res.status = 200 ∧
      hd.attempts = [⟨"replica-1", .timeout, none⟩] ∧ (0, "replica-1") ∈ tr.filterMap ranBy := by
  obtain ⟨⟨c₀, tr, c⟩, h, hc⟩ := exists_of_check runTwice (fun run =>
    (run.2.2.main.handlers[0]?).any fun hd => match hd.phase with
      | .responded res => decide (res.status = 200) &&
          decide (hd.attempts = [⟨"replica-1", .timeout, none⟩]) &&
          decide ((0, "replica-1") ∈ run.2.1.filterMap ranBy)
      | .routing => false
      | .sending _ _ => false
      | .rejected _ => false) (by decide)
  obtain ⟨hd, hget, hd'⟩ := (Option.any_eq_true _ _).mp hc
  obtain ⟨hboot, hexec⟩ := exec_of_perform h
  cases hphase : hd.phase with
  | responded res =>
      simp only [hphase, Bool.and_eq_true, decide_eq_true_eq] at hd'
      exact ⟨c₀, c, tr, hd, res, hboot, hexec, hget, hphase, hd'.1.1, hd'.1.2, hd'.2⟩
  | _ => simp [hphase] at hd'

theorem reaches_once_runTwice : ∃ tr : Trace ℕ (Option (ReplicaReply ℕ)),
    (0, "replica-1") ∈ tr.filterMap ranBy ∧ (tr.filterMap reachedBy).Nodup := by
  obtain ⟨c₀, c, tr, hd, res, h₀, h, -, -, -, -, hran⟩ := runTwice_answer
  exact ⟨tr, hran, (reaches_once h₀ h).1⟩

/-- The first attempt was given up, and says nothing. -/
theorem attempts_truthful_runTwice : ∃ (tr : Trace ℕ (Option (ReplicaReply ℕ)))
    (c : Fleet ℕ (Option (ReplicaReply ℕ))) (j : ℕ) (err : ReplicaRequestError),
    Fared .pair tr c 0 j "replica-1" (.error (.request err)) ∧ err.kind = .timeout := by
  obtain ⟨c₀, c, tr, hd, res, h₀, h, hget, -, -, hattempts, -⟩ := runTwice_answer
  obtain ⟨j, sent, err, -, -, -, -, heq, hfared, -⟩ :=
    attempts_truthful h₀ h hget ⟨"replica-1", .timeout, none⟩ (by simp [hattempts])
  exact ⟨tr, c, j, err, hfared, (congrArg RouteAttempt.kind heq).symm⟩

/-- The replica that ran it first is listed. -/
theorem answer_discloses_runTwice : ∃ (tr : Trace ℕ (Option (ReplicaReply ℕ)))
    (res : RouteResponse ℕ (Option (ReplicaReply ℕ))), (0, "replica-1") ∈ tr.filterMap ranBy ∧
      (res.body.replicaId = some "replica-1" ∨ ∃ attempt ∈ res.body.attempts,
        attempt.replicaId = "replica-1" ∧ attempt.kind ≠ .httpStatus) := by
  obtain ⟨c₀, c, tr, hd, res, h₀, h, hget, hphase, -, -, hran⟩ := runTwice_answer
  exact ⟨tr, res, hran, answer_discloses h₀ h hget hphase hran⟩

/-- And the one that served it is named. -/
theorem answer_truthful_runTwice : ∃ (tr : Trace ℕ (Option (ReplicaReply ℕ)))
    (hd : Handler ℕ (Option (ReplicaReply ℕ))) (id : String) (response : Option (ReplicaReply ℕ)),
      (0, "replica-1") ∈ tr.filterMap ranBy ∧ Worked .pair tr 0 id hd.payload response := by
  obtain ⟨c₀, c, tr, hd, res, h₀, h, hget, hphase, hok, -, hran⟩ := runTwice_answer
  obtain ⟨id, strategy, response, latencyMs, -, hworked⟩ :=
    answer_truthful (fun _ _ hnone => by cases hnone) h₀ h hget hphase hok
  exact ⟨tr, hd, id, response, hran, hworked⟩

end Fleet

end WhyRouted
