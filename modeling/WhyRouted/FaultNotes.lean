import WhyRouted.Detection
import WhyRouted.RequestTruth

/-! # What a simulated failure does

`simulate_failure` tells what the replica reported, and what to expect.  What it tells is true: a
call it answers was handled by the replica, once, and the state it shows is the replica's then
(`injection_truthful`).  What it says to expect is true as well: a kill is found by the health
checks and a revival too (`kill_detected`, `recovery_detected`), and a replica that fails its
inferences only is brought down by a request, not by the poll loop, and does nothing meanwhile
(`failInfer_found_by_request`). -/

namespace WhyRouted

namespace Fleet

variable {ν β : Type} [JsNumber ν] {deps : FleetDeps ν β} {c₀ c c' : Fleet ν β}
  {tr tr' w w' : Trace ν β} {report : FleetReport ν β} {config : RoutingConfig ν} {r : String}

/-! ### The calls of the admin endpoints -/

/-- How far an admin call has got with its replica. -/
inductive AdminArrival (tr : Trace ν β) (n : ℕ) (injection : Injection) : Served ν → Prop where
  | travelling (hnone : ∀ z ∈ tr, ¬ z.label.1 = .admin n) : AdminArrival tr n injection .travelling
  | answered {y : Stride ν β} (hsole : Sole (fun z => z.label.1 = .admin n) tr y) :
      AdminArrival tr n injection (.answered
        (.faults ((y.pre.replicas injection.replicaId).admin injection.mode).faults))

omit [JsNumber ν] in
theorem AdminArrival.concat {n : ℕ} {injection : Injection} {served : Served ν} {x : Stride ν β}
    (h : AdminArrival tr n injection served) (hx : ¬ x.label.1 = .admin n) :
    AdminArrival (tr ++ [x]) n injection served := by
  cases h with
  | travelling hnone => exact .travelling (forall_not_concat hnone hx)
  | answered hsole => exact .answered (hsole.concat hx)

/-- The account of every admin call of a run. -/
structure AdminArrivals (tr : Trace ν β) (c : Fleet ν β) : Prop where
  known : ∀ z ∈ tr, ∀ n, z.label.1 = .admin n → n < c.admins.length
  each : ∀ (n : ℕ) (call : AdminCall ν), c.admins[n]? = some call →
    AdminArrival tr n call.injection call.served

namespace AdminArrivals

omit [JsNumber ν] in
theorem extend (ha : AdminArrivals tr c) {x : Stride ν β} (hx : ∀ n, ¬ x.label.1 = .admin n)
    (hlen : c.admins.length ≤ c'.admins.length)
    (hadmins : ∀ (n : ℕ) (call' : AdminCall ν), c'.admins[n]? = some call' →
      (∃ call, c.admins[n]? = some call ∧ call'.injection = call.injection ∧
        call'.served = call.served) ∨ c.admins.length ≤ n ∧ call'.served = .travelling) :
    AdminArrivals (tr ++ [x]) c' := by
  refine ⟨marked_concat ha.known hlen fun n hn => absurd hn (hx n), fun n call' hget => ?_⟩
  rcases hadmins n call' hget with ⟨call, hold, hinjection, hserved⟩ | ⟨hnew, hserved⟩
  · rw [hinjection, hserved]
    exact (ha.each n call hold).concat (hx n)
  · rw [hserved]
    exact .travelling (forall_not_concat (not_marked_of_le ha.known hnew) (hx n))

omit [JsNumber ν] in
theorem of_same (ha : AdminArrivals tr c) {x : Stride ν β} (hx : ∀ n, ¬ x.label.1 = .admin n)
    (hsame : c'.admins = c.admins) : AdminArrivals (tr ++ [x]) c' := by
  refine ha.extend hx (by rw [hsame]) fun n call' hget => ?_
  rw [hsame] at hget
  exact Or.inl ⟨call', hget, rfl, rfl⟩

/-- **What one step preserves.** -/
theorem step (ha : AdminArrivals tr c) {a : FleetInput ν β}
    (h : c.step deps a = .ok (c', report)) :
    AdminArrivals (tr ++ [⟨c, (a, report), c'⟩]) c' := by
  cases step_cases h with
  | began _ => exact ha.of_same (by simp) (dispatch_admins ..)
  | resumed _ _ _ _ _ => exact ha.of_same (by simp) (dispatch_admins ..)
  | simulated =>
      refine ha.extend (by simp) (by simp) fun n call' hget => ?_
      rw [List.getElem?_append] at hget
      split_ifs at hget with hlt
      · exact Or.inl ⟨call', hget, rfl, rfl⟩
      · obtain rfl := List.mem_singleton.mp (List.mem_of_getElem? hget)
        exact Or.inr ⟨by omega, rfl⟩
  | @injected n lost now call outcome reported hcall _ _ _ =>
      refine ha.extend (by simp) (by simp) fun k call' hget => ?_
      rw [List.getElem?_set] at hget
      split_ifs at hget with hk
      · subst hk
        obtain rfl := Option.some.inj hget
        exact Or.inl ⟨call, hcall, rfl, rfl⟩
      · exact Or.inl ⟨call', hget, rfl, rfl⟩
  | @admin n call replica out hcall hserved hreplica =>
      obtain ⟨hlt, -⟩ := List.getElem?_eq_some_iff.mp hcall
      obtain ⟨-, rfl⟩ := Prod.mk.inj (Except.ok.inj hreplica)
      refine ⟨marked_concat ha.known (List.length_set ..).ge fun k hk => ?_, fun k call' hget => ?_⟩
      · rw [List.length_set, ← FleetInput.admin.inj hk]
        exact hlt
      · by_cases hk : n = k
        · subst hk
          rw [List.getElem?_set_self hlt] at hget
          obtain rfl := Option.some.inj hget
          have htravels := ha.each n call hcall
          rw [hserved] at htravels
          cases htravels with
          | travelling hnone => exact .answered (sole_last hnone rfl)
        · rw [List.getElem?_set_ne hk] at hget
          exact (ha.each k call' hget).concat fun hlabel => hk (FleetInput.admin.inj hlabel)
  | _ => exact ha.of_same (by simp) rfl

end AdminArrivals

/-- **What a run preserves.** -/
theorem adminArrivals_of_exec (h₀ : boot deps config = .ok c₀) (h : Exec (Step deps) c₀ tr c) :
    AdminArrivals tr c := by
  induction h with
  | nil =>
      obtain ⟨-, -, -, -, -, hadmins⟩ := boot_spec h₀
      refine ⟨by simp, fun n call hget => ?_⟩
      simp [hadmins] at hget
  | snoc _ hs ih => exact ih.step hs

/-- The admin call whose answer, or loss, ends a `simulate_failure` in a step. -/
def endedBy (x : Stride ν β) : Option ℕ :=
  match x.label.1 with
  | .injected n _ _ => some n
  | _ => none

/-- **What `simulate_failure` reports was so.**  In every run, a call that injects a fault ends with
an internal error, and then says nothing; or the replica handled it, in one step of the run, and
the state reported is the one that step left its flags in. -/
theorem injection_truthful (h₀ : boot deps config = .ok c₀) {x : Stride ν β}
    (h : Exec (Step deps) c₀ (tr ++ x :: tr') c) {n : ℕ} (hx : endedBy x = some n) :
    ∃ call, x.pre.admins[n]? = some call ∧
      ((∃ reason, x.label.2.answer = some (.failed .internalError reason)) ∨
        ∃ y now, Sole (fun z => z.label.1 = .admin n) tr y ∧ x.label.2.answer = some (.ok
          { changed := none
            before := none
            after := ((y.pre.replicas call.injection.replicaId).admin call.injection.mode).faults
            appliedAt := now
            notes := [call.injection.mode.note] })) := by
  obtain ⟨hpre, hstep, -⟩ := h.split
  obtain ⟨pre, ⟨a, report⟩, post⟩ := x
  replace hstep : pre.step deps a = .ok (post, report) := hstep
  have harrivals := adminArrivals_of_exec h₀ hpre
  cases step_cases hstep with
  | @injected n' lost now call outcome reported hcall _ houtcome hreported =>
      obtain rfl : n' = n := by simpa [endedBy] using hx
      refine ⟨call, hcall, ?_⟩
      cases reported with
      | error message => exact Or.inl ⟨_, rfl⟩
      | ok state =>
          obtain ⟨-, status, -, hstate⟩ := (HttpFaultInjector.inject_eq_ok_iff _).mp hreported.symm
          rcases houtcome with ⟨err, rfl⟩ | ⟨reply, hserved, rfl⟩
          · cases hstate
          have harrival := harrivals.each n' call hcall
          rw [hserved] at harrival
          cases harrival with
          | @answered y hsole =>
              refine Or.inr ⟨y, now, hsole, ?_⟩
              obtain ⟨-, hbody⟩ := AdminOutcome.answered.inj hstate
              obtain ⟨hkilled, hfailing⟩ := AdminBody.object.inj (Except.ok.inj hbody)
              obtain ⟨killed, inferFailing⟩ := state
              obtain rfl := Option.some.inj hkilled
              obtain rfl := Option.some.inj hfailing
              rfl
  | _ => simp [endedBy] at hx

/-! ### A replica that fails its inferences -/

omit [JsNumber ν] in
theorem failing_of_replicaStep {s s' : ReplicaApp} {a : ReplicaInput ν} {out : ReplicaOutput ν}
    (hs : s.inferFailing = true) (ha : a ≠ .admin .revive) (h : s.step a = .ok (s', out)) :
    s'.inferFailing = true := by
  cases a with
  | health baselineLoad => rw [ReplicaApp.eq_of_health h]; exact hs
  | admin mode =>
      obtain ⟨rfl, -⟩ := Prod.mk.inj (Except.ok.inj h)
      cases mode with
      | kill => exact hs
      | failInfer => rfl
      | revive => exact absurd rfl ha
  | infer unparsed =>
      cases unparsed with
      | some status =>
          obtain ⟨rfl, -⟩ := Prod.mk.inj (Except.ok.inj h)
          exact hs
      | none =>
          have h : s.infer = (s', out) := Except.ok.inj h
          rw [ReplicaApp.infer, if_pos (by simp [hs])] at h
          obtain ⟨rfl, -⟩ := Prod.mk.inj h
          exact hs
  | wakes call servedAt latencyMs =>
      simp only [ReplicaApp.step] at h
      split_ifs at h
      obtain ⟨rfl, -⟩ := Prod.mk.inj (Except.ok.inj h)
      exact hs

/-- Until it is revived it fails them. -/
theorem failing_of_step {a : FleetInput ν β} (hc : (c.replicas r).inferFailing = true)
    (hnot : injectedBy (⟨c, (a, report), c'⟩ : Stride ν β) ≠ some (r, .revive))
    (h : c.step deps a = .ok (c', report)) : (c'.replicas r).inferFailing = true := by
  cases replica_case h with
  | none _ hsame => rw [hsame]; exact hc
  | @one id b out replica hreport hreplica hset =>
      rw [hset]
      by_cases hid : r = id
      · subst hid
        rw [Function.update_self]
        refine failing_of_replicaStep hc ?_ hreplica
        rintro rfl
        exact hnot (by simp [injectedBy, hreport])
      · rw [Function.update_of_ne hid]
        exact hc

theorem not_ran_of_failing {a : FleetInput ν β} (hc : (c.replicas r).inferFailing = true)
    (h : c.step deps a = .ok (c', report)) (i : ℕ) :
    ranBy (⟨c, (a, report), c'⟩ : Stride ν β) ≠ some (i, r) := by
  intro hran
  obtain ⟨j, htaken, hrequest⟩ := Option.bind_eq_some_iff.mp hran
  obtain rfl : a = .infer j := infer_of_taken htaken
  cases step_cases h with
  | @arrived _ sent replica out hsent _ hreplica =>
      obtain ⟨sent', hsent', hpair⟩ := Option.map_eq_some_iff.mp hrequest
      obtain rfl := Option.some.inj (hsent.symm.trans hsent')
      obtain ⟨-, rfl⟩ := Prod.mk.inj hpair
      rcases arrival_of_infer hreplica with ⟨_, _, rfl⟩ | ⟨_, _, rfl⟩ | ⟨-, hfailing, rfl⟩
      · cases htaken
      · cases htaken
      · cases hc.symm.trans hfailing

/-- What takes a replica of the fleet down in a step is a failed probe or an ejection. -/
theorem event_of_down (h₀ : boot deps config = .ok c₀) (h : Exec (Step deps) c₀ tr c)
    (hr : r ∈ deps.adapter.replicas.map (·.id)) {a : FleetInput ν β}
    (hs : c.step deps a = .ok (c', report)) (hup : healthOf c r ≠ some .unhealthy)
    (hdown : healthOf c' r = some .unhealthy) :
    eventOf r (⟨c, (a, report), c'⟩ : Stride ν β) = some .failed ∨
      eventOf r (⟨c, (a, report), c'⟩ : Stride ν β) = some .ejected := by
  rw [healthOf_of_run h₀ h hr] at hup
  rw [healthOf_of_run h₀ (h.snoc (a := (a, report)) hs) hr, history_concat] at hdown
  cases hevent : eventOf r (⟨c, (a, report), c'⟩ : Stride ν β) with
  | none =>
      rw [hevent, Option.toList_none, List.append_nil] at hdown
      exact absurd hdown hup
  | some e =>
      cases e with
      | failed => exact Or.inl rfl
      | ejected => exact Or.inr rfl
      | succeeded =>
          rw [hevent, Option.toList_some, ReplicaHysteresis.run_concat] at hdown
          simp only [ReplicaHysteresis.next] at hdown
          split_ifs at hdown
          · cases hdown
          · exact absurd hdown hup

/-- **`fail_infer` is found by requests.**  In every run, while a replica fails its inferences, is
not killed and loses no probe, it runs no request; and once a probe of it has been applied, what
marks it down is always a request to it that failed, never the poll loop. -/
theorem failInfer_found_by_request (h₀ : boot deps config = .ok c₀)
    (hpre : Exec (Step deps) c₀ tr c) (hw : Exec (Step deps) c (w ++ w') c')
    (hr : r ∈ deps.adapter.replicas.map (·.id)) (hs : Steady false r c (w ++ w'))
    (hfailing : (c.replicas r).inferFailing = true)
    (hstays : ∀ x ∈ w ++ w', injectedBy x ≠ some (r, .revive))
    (hprobed : probesOf (history r w) ≠ []) :
    (∀ x ∈ w ++ w', ∀ i, ranBy x ≠ some (i, r)) ∧
      ∀ x ∈ w', healthOf x.pre r ≠ some .unhealthy → healthOf x.post r = some .unhealthy →
        ∃ j sent err, resumedBy x = some (j, .error (.request err)) ∧
          x.pre.sent[j]? = some sent ∧ sent.replicaId = r ∧ err.retryable = true := by
  obtain ⟨-, hall⟩ := hw.invariant_of_mem (P := fun c => (c.replicas r).inferFailing = true)
    (fun x hx hc => failing_of_step hc (hstays x hx) (hw.step_of_mem hx)) hfailing
  refine ⟨fun x hx => not_ran_of_failing (hall x hx).1 (hw.step_of_mem hx),
    fun x hx hup hdown => ?_⟩
  obtain ⟨u, v, rfl, hbefore, hstep, hafter⟩ := hw.split_of_mem hx
  rcases event_of_down h₀ (hpre.trans hbefore) hr hstep hup hdown with hfailed | hejected
  · -- the probe would be up to date, and the replica is not killed
    have hs' : Steady false r c (w ++ (u ++ [x])) := hs.mono (by simp; tauto)
    obtain ⟨stale, m, hprobes, hlen, -⟩ := (sampled_of_steady h₀ hpre hafter hs').probes
    rw [← List.append_assoc, history_concat, hfailed, Option.toList_some, probesOf_concat,
      if_neg (by simp), history_append, probesOf_append] at hprobes
    have hlength := congrArg List.length hprobes
    have hpos := List.length_pos_iff.mpr hprobed
    simp only [List.length_append, List.length_singleton, List.length_replicate] at hlength
    cases m with
    | zero => omega
    | succ m =>
        rw [List.replicate_succ', ← List.append_assoc] at hprobes
        obtain ⟨-, hlast⟩ := List.append_inj' hprobes rfl
        cases hlast
  · obtain ⟨j, sent, -, err, hsent, hid, -, -, hretry, hresumed⟩ :=
      resumed_of_ejected h₀ (hpre.trans hbefore) hstep hejected
    exact ⟨j, sent, err, hresumed, hsent, hid, hretry⟩

/-! ### Two faults -/

/-- A replica fails its inferences, is probed, and is brought down by a request. -/
def failedByRequest : Except String (Stretch ℕ (Option (ReplicaReply ℕ))) :=
  performThen .small ⟨.roundRobin, ⟨1, 1⟩⟩ [.operator "replica-1" .failInfer]
    [.pollAll, .health 0 0, .probeEvent 0 (.headers 5) "t0" "e0",
      .probeEvent 0 .bodyComplete "t0" "e0", .request "request-1" none .still, .infer 0,
      .sendEvent 0 (.headers 6), .resume 0 .still .still]

theorem failInfer_found_by_request_failedByRequest :
    ∃ (x : Stride ℕ (Option (ReplicaReply ℕ))) (j : ℕ) (err : ReplicaRequestError),
      healthOf x.pre "replica-1" = some .healthy ∧ healthOf x.post "replica-1" = some .unhealthy ∧
        resumedBy x = some (j, .error (.request err)) ∧ err.retryable = true := by
  obtain ⟨run, h, hc⟩ := exists_of_check failedByRequest (fun run =>
    !(run.before.replicas "replica-1").killed &&
      (run.before.replicas "replica-1").inferFailing &&
      decide (∀ x ∈ run.window, injectedBy x ≠ some ("replica-1", .kill)) &&
      decide (∀ x ∈ run.window, injectedBy x ≠ some ("replica-1", .revive)) &&
      decide (∀ x ∈ run.window, lostBy x ≠ some "replica-1") &&
      decide (probesOf (history "replica-1" (run.window.take 4)) ≠ []) &&
      (run.window.drop 4).any fun x => decide (healthOf x.pre "replica-1" = some .healthy) &&
        decide (healthOf x.post "replica-1" = some .unhealthy)) (by decide)
  simp only [Bool.and_eq_true, decide_eq_true_eq, List.any_eq_true, Bool.not_eq_true'] at hc
  obtain ⟨⟨⟨⟨⟨⟨halive, hfailing⟩, hkilled⟩, hstays⟩, hkept⟩, hprobed⟩, x, hx, hup, hdown⟩ := hc
  obtain ⟨hboot, hexec, hwindow⟩ := exec_of_performThen h
  rw [← List.take_append_drop 4 run.window] at hwindow hkilled hstays hkept
  obtain ⟨-, hfound⟩ := failInfer_found_by_request hboot hexec hwindow (by decide)
    ⟨halive, hkilled, fun _ => hkept⟩ hfailing hstays hprobed
  obtain ⟨j, -, err, hresumed, -, -, hretry⟩ := hfound x hx (by simp [hup]) hdown
  exact ⟨x, j, err, hup, hdown, hresumed, hretry⟩

/-- A client kills a replica whose inferences fail already. -/
def simulatedKill : Except String (Fleet ℕ (Option (ReplicaReply ℕ)) ×
    Trace ℕ (Option (ReplicaReply ℕ)) × Fleet ℕ (Option (ReplicaReply ℕ))) :=
  perform .small ⟨.roundRobin, ⟨1, 1⟩⟩ [.operator "replica-1" .failInfer,
    .simulate "replica-1" none "t0", .admin 0, .operator "replica-1" .revive,
    .injected 0 none "t1"]

/-- What it is told is what the replica was when it handled the call. -/
theorem injection_truthful_simulatedKill : ∃ (x : Stride ℕ (Option (ReplicaReply ℕ)))
    (y : Stride ℕ (Option (ReplicaReply ℕ))),
      (x.pre.replicas "replica-1").killed = false ∧ y.label.1 = .admin 0 ∧
      ∃ report : ActionReport FaultState, x.label.2.answer = some (.ok report) ∧
        report.after = ⟨true, true⟩ ∧ ∃ call : AdminCall ℕ,
          report.after =
            ((y.pre.replicas call.injection.replicaId).admin call.injection.mode).faults := by
  obtain ⟨⟨c₀, tr, c⟩, h, hc⟩ := exists_of_check simulatedKill (fun run =>
    run.2.1.getLast?.any fun x => !(x.pre.replicas "replica-1").killed &&
      decide (endedBy x = some 0) && match x.label.2.answer with
        | some (.ok report) => decide (report.after = ⟨true, true⟩)
        | some (.failed _ _) => false
        | none => false) (by decide)
  obtain ⟨x, hlast, hx⟩ := (Option.any_eq_true _ _).mp hc
  obtain ⟨tr, rfl⟩ := List.getLast?_eq_some_iff.mp hlast
  simp only [Bool.and_eq_true, decide_eq_true_eq, Bool.not_eq_true'] at hx
  obtain ⟨⟨halive, hended⟩, hanswer⟩ := hx
  obtain ⟨hboot, hexec⟩ := exec_of_perform h
  obtain ⟨call, -, ⟨reason, hfailed⟩ | ⟨y, now, hsole, hok⟩⟩ :=
    injection_truthful hboot hexec hended
  · rw [hfailed] at hanswer
    cases hanswer
  · rw [hok] at hanswer
    obtain ⟨-, -, -, hy, -⟩ := hsole
    exact ⟨x, y, halive, hy, _, hok, of_decide_eq_true hanswer, call, rfl⟩

end Fleet

end WhyRouted
