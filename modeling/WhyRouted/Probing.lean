import WhyRouted.FleetCalls

/-! # What a probe tells

A probe is answered by the replica at one moment and applied at another, and in between the replica
may be killed, revived, given work and relieved of it.  What is applied is what held at the moment
of the answer (`probe_truthful`), and that moment lies in the sweep the probe is of: no other sweep
was launched since. -/

namespace WhyRouted

namespace Fleet

variable {ν β : Type} [JsNumber ν] {deps : FleetDeps ν β} {c₀ c c' : Fleet ν β} {tr tr' : Trace ν β}
  {report : FleetReport ν β} {config : RoutingConfig ν}

/-- A step that launches a sweep. -/
def Launches (x : Stride ν β) : Prop := x.label.1 = .pollAll ∧ x.pre.transport.polling = false

/-- Step `y` is replica `id` answering probe `k` of the sweep. -/
structure AnswersProbe (y : Stride ν β) (k : ℕ) (id : String) (baselineLoad : ℕ) : Prop where
  label : y.label.1 = .health k baselineLoad
  replica : y.label.2.replica =
    some (id, .health baselineLoad, .replied ((y.pre.replicas id).health baselineLoad))

/-- In step `z` the headers of the answer to probe `k` come, with their latency. -/
def Times (z : Stride ν β) (k : ℕ) (latencyMs : ν) : Prop :=
  ∃ now eventId, z.label.1 = .probeEvent k (.headers latencyMs) now eventId

/-- Replica `id` answered probe `k` in a step of the run, no sweep was launched since, and if the
probe waits for its body, its headers have come since, with the latency it has. -/
def HandledIn (tr : Trace ν β) (k : ℕ) (id : String) (reply : ReplicaReply ν)
    (wait : Wait ν (HealthResult ν)) : Prop :=
  ∃ tr₁ y tr₂ baselineLoad, tr = tr₁ ++ y :: tr₂ ∧ AnswersProbe y k id baselineLoad ∧
    reply = (y.pre.replicas id).health baselineLoad ∧ (∀ z ∈ tr₂, ¬ Launches z) ∧
    ∀ latencyMs, wait = .body latencyMs → ∃ z ∈ tr₂, Times z k latencyMs

omit [JsNumber ν] in
theorem HandledIn.concat {k : ℕ} {id : String} {reply : ReplicaReply ν}
    {wait wait' : Wait ν (HealthResult ν)} (h : HandledIn tr k id reply wait) {x : Stride ν β}
    (hx : ¬ Launches x) (hwait : ∀ latencyMs, wait' = .body latencyMs →
      wait = .body latencyMs ∨ Times x k latencyMs) : HandledIn (tr ++ [x]) k id reply wait' := by
  obtain ⟨tr₁, y, tr₂, baselineLoad, rfl, hy, hreply, hnone, htimed⟩ := h
  refine ⟨tr₁, y, tr₂ ++ [x], baselineLoad, by simp, hy, hreply, fun z hz => ?_,
    fun latencyMs hbody => ?_⟩
  · rcases List.mem_append.mp hz with hz | hz
    · exact hnone z hz
    · rw [List.mem_singleton.mp hz]
      exact hx
  · rcases hwait latencyMs hbody with hbefore | htimes
    · obtain ⟨z, hz, htimes⟩ := htimed latencyMs hbefore
      exact ⟨z, List.mem_append_left _ hz, htimes⟩
    · exact ⟨x, List.mem_append_right _ (List.mem_singleton_self x), htimes⟩

/-- Every answer a probe has was given in the run, and so was the latency it has. -/
def Handled (tr : Trace ν β) (c : Fleet ν β) : Prop :=
  ∀ k id reply p, c.probed[k]? = some (id, .answered reply) → c.transport.probes[k]? = some p →
    HandledIn tr k id reply p.2.wait

namespace Handled

omit [JsNumber ν] in
theorem of_same (hh : Handled tr c) {a : FleetInput ν β} (hsame : c'.probed = c.probed)
    (hprobes : c'.transport.probes = c.transport.probes)
    (hnot : ¬ (a = .pollAll ∧ c.transport.polling = false)) :
    Handled (tr ++ [⟨c, (a, report), c'⟩]) c' := by
  intro k id reply p hget hprobe
  rw [hsame] at hget
  rw [hprobes] at hprobe
  exact (hh k id reply p hget hprobe).concat hnot fun latencyMs hbody => Or.inl hbody

omit [JsNumber ν] in
theorem moved (hh : Handled tr c) {k : ℕ} {event : WireEvent ν} {now eventId id : String}
    {x y : Exchange ν (HealthResult ν)} (hprobe : c.transport.probes[k]? = some (id, x))
    (hwait : ∀ latencyMs, y.wait = .body latencyMs →
      x.wait = .body latencyMs ∨ event = .headers latencyMs)
    (hprobed : c'.probed = c.probed)
    (hprobes : c'.transport.probes = c.transport.probes.set k (id, y)) :
    Handled (tr ++ [⟨c, (.probeEvent k event now eventId, report), c'⟩]) c' := by
  intro k' id' reply p hget hprobe'
  rw [hprobed] at hget
  rw [hprobes] at hprobe'
  by_cases hk : k = k'
  · subst hk
    obtain ⟨hlt, -⟩ := List.getElem?_eq_some_iff.mp hprobe
    rw [List.getElem?_set_self hlt] at hprobe'
    obtain rfl := Option.some.inj hprobe'
    refine (hh k id' reply _ hget hprobe).concat (by simp [Launches]) fun latencyMs hbody => ?_
    refine (hwait latencyMs hbody).imp_right ?_
    rintro rfl
    exact ⟨now, eventId, rfl⟩
  · rw [List.getElem?_set_ne hk] at hprobe'
    exact (hh k' id' reply p hget hprobe').concat (by simp [Launches]) fun _ hbody => Or.inl hbody

theorem step (hh : Handled tr c) (hw : Wired deps c) {a : FleetInput ν β}
    (h : c.step deps a = .ok (c', report)) : Handled (tr ++ [⟨c, (a, report), c'⟩]) c' := by
  cases step_cases h with
  | began _ => exact hh.of_same (dispatch_probed ..) (dispatch_probes ..) (by simp)
  | resumed _ _ _ _ _ => exact hh.of_same (dispatch_probed ..) (dispatch_probes ..) (by simp)
  | skipped hpolling => exact hh.of_same rfl rfl (by simp [hpolling])
  | swept _ =>
      intro k id reply p hget _
      obtain ⟨replica, -, hpair⟩ := List.mem_map.mp (List.mem_of_getElem? hget)
      cases hpair
  | probeMoved _ hdeliver hprobe hadvance _ =>
      exact hh.moved hprobe (fun _ => body_of_advance hdeliver hadvance) rfl rfl
  | probed _ hdeliver hprobe hadvance _ _ =>
      exact hh.moved hprobe (fun _ => body_of_advance hdeliver hadvance) rfl rfl
  | @health k baselineLoad id replica out hprobed hreplica =>
      obtain ⟨-, rfl⟩ := Prod.mk.inj (Except.ok.inj hreplica)
      intro k' id' reply p hget hprobe
      by_cases hk : k = k'
      · subst hk
        obtain ⟨hlt, -⟩ := List.getElem?_eq_some_iff.mp hprobed
        rw [List.getElem?_set_self hlt] at hget
        obtain ⟨rfl, hserved⟩ := Prod.mk.inj (Option.some.inj hget)
        obtain rfl := Served.answered.inj hserved
        -- a probe that travels has no headers yet
        obtain ⟨-, hrelays⟩ := forall₂_getElem? hw.probes hprobe hprobed
        refine ⟨tr, _, [], baselineLoad, rfl, ⟨rfl, rfl⟩, rfl, by simp, fun latencyMs hbody => ?_⟩
        obtain ⟨reply, hserved, -⟩ := hrelays.body latencyMs hbody
        cases hserved
      · rw [List.getElem?_set_ne hk] at hget
        exact (hh k' id' reply p hget hprobe).concat (by simp [Launches]) fun _ hbody =>
          Or.inl hbody
  | _ => exact hh.of_same rfl rfl (by simp)

end Handled

theorem handled_of_exec (h₀ : boot deps config = .ok c₀) (h : Exec (Step deps) c₀ tr c) :
    Handled tr c := by
  induction h with
  | nil =>
      obtain ⟨-, -, -, hprobed, -⟩ := boot_spec h₀
      intro k id reply p hget
      simp [hprobed] at hget
  | snoc hexec hs ih => exact ih.step (wired_of_exec h₀ hexec) hs

/-! ### Truth -/

/-- The probe a step applied, and its result. -/
def appliedBy (x : Stride ν β) : Option (String × HealthResult ν) :=
  x.label.2.main.bind fun label => match label.1 with
    | .probed id result _ _ => some (id, result)
    | _ => none

/-- What the probe a step applies shows of replica `id`, and what it rests on. -/
inductive Truth (deps : FleetDeps ν β) (tr : Trace ν β) (id : String) (x : Stride ν β) :
    HealthResult ν → Prop where
  /-- The call to it was lost, or given up. -/
  | lost {k : ℕ} {event : WireEvent ν} {now eventId : String}
      {exchange : Exchange ν (HealthResult ν)} (hx : x.label.1 = .probeEvent k event now eventId)
      (hprobe : x.pre.transport.probes[k]? = some (id, exchange)) (hloses : event.loses = true) :
      Truth deps tr id x deps.adapter.failed
  /-- It was killed when it answered. -/
  | down {k : ℕ} {latencyMs : ν} {now eventId : String} {exchange : Exchange ν (HealthResult ν)}
      {tr₁ tr₂ : Trace ν β} {y : Stride ν β} {baselineLoad : ℕ}
      (hx : x.label.1 = .probeEvent k (.headers latencyMs) now eventId)
      (hprobe : x.pre.transport.probes[k]? = some (id, exchange)) (hsplit : tr = tr₁ ++ y :: tr₂)
      (hy : AnswersProbe y k id baselineLoad) (hkilled : (y.pre.replicas id).killed = true)
      (hsweep : ∀ z ∈ tr₂, ¬ Launches z) : Truth deps tr id x deps.adapter.failed
  /-- It was not, this was its load, and the headers have come since, with this latency. -/
  | up {k : ℕ} {latencyMs : ν} {now eventId : String} {exchange : Exchange ν (HealthResult ν)}
      {tr₁ tr₂ : Trace ν β} {y : Stride ν β} {baselineLoad : ℕ}
      (hx : x.label.1 = .probeEvent k .bodyComplete now eventId)
      (hprobe : x.pre.transport.probes[k]? = some (id, exchange)) (hsplit : tr = tr₁ ++ y :: tr₂)
      (hy : AnswersProbe y k id baselineLoad) (hkilled : (y.pre.replicas id).killed = false)
      (hsweep : ∀ z ∈ tr₂, ¬ Launches z) (htimed : ∃ z ∈ tr₂, Times z k latencyMs) :
      Truth deps tr id x ⟨true, latencyMs, JsNumber.ofNat (y.pre.running id + baselineLoad)⟩

theorem truth_of_step (h₀ : boot deps config = .ok c₀) (hpre : Exec (Step deps) c₀ tr c)
    {a : FleetInput ν β} (hstep : c.step deps a = .ok (c', report)) {id : String}
    {result : HealthResult ν} (hx : appliedBy ⟨c, (a, report), c'⟩ = some (id, result)) :
    Truth deps tr id ⟨c, (a, report), c'⟩ result := by
  have hwired := wired_of_exec h₀ hpre
  have hhandled := handled_of_exec h₀ hpre
  cases step_cases hstep with
  | @probed k event _ _ id' _ served _ x _ result' _ _ hprobed hdeliver hprobe hadvance
      hsettled _ =>
      obtain ⟨rfl, rfl⟩ : id' = id ∧ result' = result := by simpa [appliedBy] using hx
      obtain ⟨rfl, hrelays⟩ := forall₂_getElem? hwired.probes hprobe hprobed
      replace hprobed : c.probed[k]? = some (id', served) := hprobed
      replace hrelays : Relays deps.adapter.checkHealth ReplicaReply.probeBody x served := hrelays
      -- what the replica had answered, once it is known to have
      have hanswer : ∀ reply, served.reply = some reply → HandledIn tr k id' reply x.wait := by
        intro reply hreply
        obtain rfl := Served.reply_eq_some_iff.mp hreply
        exact hhandled k id' reply _ hprobed hprobe
      cases moves_of_advance hadvance with
      | unreachable _ =>
          obtain rfl := Wait.settled.inj hsettled
          cases event <;> simp [WireEvent.deliver] at hdeliver
          exact .lost rfl hprobe rfl
      | answered _ _ => cases hsettled
      | notOk _ hok =>
          obtain rfl := Wait.settled.inj hsettled
          cases event <;> simp [WireEvent.deliver] at hdeliver
          obtain ⟨reply, hreply, rfl, -⟩ := hdeliver
          obtain ⟨tr₁, y, tr₂, baselineLoad, hsplit, hy, rfl, hsweep, -⟩ := hanswer reply hreply
          refine .down rfl hprobe hsplit hy ?_ hsweep
          by_contra hnot
          rw [ReplicaApp.health, if_neg hnot] at hok
          cases hok
      | fetchAborted _ =>
          obtain rfl := Wait.settled.inj hsettled
          cases event <;> simp [WireEvent.deliver] at hdeliver
          exact .lost rfl hprobe rfl
      | fired hwait => exact absurd hsettled (hwait _)
      | chunk hwait => cases hwait.symm.trans hsettled
      | @bodyRead latencyMs _ hwait =>
          obtain rfl := Wait.settled.inj hsettled
          cases event <;> simp [WireEvent.deliver] at hdeliver
          obtain ⟨reply, hreply, rfl⟩ := hdeliver
          obtain ⟨tr₁, y, tr₂, baselineLoad, hsplit, hy, hhealth, hsweep, htimed⟩ :=
            hanswer reply hreply
          obtain ⟨reply', hserved, hok⟩ := hrelays.body _ hwait
          rw [hserved] at hreply
          obtain rfl := Option.some.inj hreply
          by_cases hkilled : (y.pre.replicas id').killed = true
          · rw [hhealth, ReplicaApp.health, if_pos hkilled] at hok
            cases hok
          · have hcount : (y.pre.replicas id').inFlight = y.pre.running id' := by
              rw [hsplit] at hpre
              exact (wired_of_exec h₀ hpre.split.1).inFlight (accounts_of_run h₀ hpre.split.1 id')
            rw [hhealth, ReplicaApp.health, if_neg hkilled, hcount]
            exact .up rfl hprobe hsplit hy (by simpa using hkilled) hsweep
              (htimed latencyMs hwait)
      | bodyCut _ =>
          obtain rfl := Wait.settled.inj hsettled
          cases event <;> simp [WireEvent.deliver] at hdeliver
          exact .lost rfl hprobe rfl
      | bodyAborted _ =>
          obtain rfl := Wait.settled.inj hsettled
          cases event <;> simp [WireEvent.deliver] at hdeliver
          exact .lost rfl hprobe rfl
  | _ => simp [appliedBy] at hx

/-- **What a probe tells was so.**  In every run, a probe that was applied either was lost in the
network or by its timer, and failed; or the replica answered it in a step of the run, after its
sweep was launched, and it failed exactly if the replica was killed at that step, and otherwise
showed the number of sends that slept there at that step, and the baseline, with the latency the
headers came with after that. -/
theorem probe_truthful (h₀ : boot deps config = .ok c₀) {x : Stride ν β}
    (h : Exec (Step deps) c₀ (tr ++ x :: tr') c) {id : String} {result : HealthResult ν}
    (hx : appliedBy x = some (id, result)) : Truth deps tr id x result := by
  obtain ⟨hpre, hstep, -⟩ := h.split
  exact truth_of_step h₀ hpre hstep hx

/-- A replica is killed after it has answered a probe, and before the answer arrives. -/
def killedBehindProbe : Except String (Fleet ℕ (Option (ReplicaReply ℕ)) ×
    Trace ℕ (Option (ReplicaReply ℕ)) × Fleet ℕ (Option (ReplicaReply ℕ))) :=
  perform .small ⟨.roundRobin, ⟨1, 1⟩⟩ [.pollAll, .health 0 2, .operator "replica-1" .kill,
    .probeEvent 0 (.headers 5) "t0" "e0", .probeEvent 0 .bodyComplete "t1" "e1"]

/-- The probe tells what held when it was answered: the replica was up, with a load of two. -/
theorem probe_truthful_killedBehindProbe : ∃ (tr : Trace ℕ (Option (ReplicaReply ℕ)))
    (x : Stride ℕ (Option (ReplicaReply ℕ))), (x.pre.replicas "replica-1").killed = true ∧
    Truth .small tr "replica-1" x ⟨true, 5, 2⟩ := by
  obtain ⟨⟨c₀, tr, c⟩, h, hc⟩ := exists_of_check killedBehindProbe (fun run =>
    run.2.1.getLast?.any fun x => (x.pre.replicas "replica-1").killed &&
      decide (appliedBy x = some ("replica-1", ⟨true, 5, 2⟩))) (by decide)
  obtain ⟨x, hlast, hx⟩ := (Option.any_eq_true _ _).mp hc
  obtain ⟨tr, rfl⟩ := List.getLast?_eq_some_iff.mp hlast
  simp only [Bool.and_eq_true, decide_eq_true_eq] at hx
  obtain ⟨hboot, hexec⟩ := exec_of_perform h
  exact ⟨tr, x, hx.1, probe_truthful hboot hexec hx.2⟩

end Fleet

end WhyRouted
