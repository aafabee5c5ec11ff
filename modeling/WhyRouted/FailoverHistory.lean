import Mathlib.Algebra.Order.Ring.Nat
import WhyRouted.PhantomEjections

/-! # The failover history is complete

The log is a second account of the fleet's health, kept by two writers: the scheduler's
transitions, without those that carry a reason, and the retry loop, which is trusted to record
the ones left out.  `PhantomEjections` says when it records too much.  Here: it never records
too little.

`step_logs` is what one step appends and why; each transition of a replica is then read off the
entry of the step that made it, and `CompleteHistory` holds along every run. -/

namespace WhyRouted

namespace System

variable {ν β : Type}

/-! ### What a step appends -/

/-- What a step appends to the log, by its cause. -/
inductive StepLogs (th : Thresholds) (s : System ν β) : Input ν β → Option FailoverEvent → Prop
  | nothing {a : Input ν β} (hevent : ∀ r, s.eventOf r a = none) : StepLogs th s a none
  | request {i : ℕ} {err : ReplicaRequestError} {ambient ambient' : Ambient} {hd : Handler ν β}
      {replicaId : String} (hget : s.handlers[i]? = some hd)
      (hto : s.sendingTo i = some replicaId) (hretry : err.retryable = true) :
      StepLogs th s (.settle i (.error (.request err)) ambient ambient')
        (some (hd.ejectEvent replicaId err (ambient.uuid 0) (ambient.clock 0)))
  | probe (id : String) (result : HealthResult ν) (now eventId : String) :
      StepLogs th s (.probed id result now eventId)
        ((s.control.health.record id).bind fun before => ControlPlane.probeEvent th id
          before.health (before.next th result.event).health now eventId)

variable [JsNumber ν] {th : Thresholds} {deps : RouteDeps ν β} {s s' : System ν β}
  {report : Report ν β} {a : Input ν β} {r : String}

/-- **Every step appends one entry at most**, with its cause. -/
theorem step_logs (hm : s.control.health.Mirrors) (h : s.step th deps a = .ok (s', report)) :
    ∃ added, s'.control.failover = s.control.failover ++ added.toList ∧
      StepLogs th s a added := by
  cases a with
  | settle i settled ambient ambient' =>
      obtain ⟨hd, replicaId, hget, hto, hstores, -, -⟩ := settle_step h
      rcases hstores with ⟨hretry, hsame⟩ | ⟨err, cp₁, rfl, hretry, heject, hsame⟩
      · have hfail := s.failing_of_fatal i ambient ambient' hretry
        refine ⟨none, by simp [hsame.failover], .nothing fun r => ?_⟩
        simp [eventOf, hfail]
      · refine ⟨_, ?_, .request hget hto hretry⟩
        rw [hsame.failover, ← ControlPlane.failover_of_eject hm heject]
        rfl
  | request requestId payload ambient =>
      obtain ⟨hcase, -, -⟩ := step_case h
      cases hcase with
      | quiet _ hevent _ _ hsame => exact ⟨none, by simp [hsame.failover], .nothing hevent⟩
      | failed hfail => cases hfail
  | probed id result now eventId =>
      obtain ⟨⟨cp, out⟩, hact, h⟩ := ok_of_bind h
      obtain ⟨rfl, -⟩ := Prod.mk.inj (Except.ok.inj h)
      exact ⟨_, ControlPlane.failover_of_probed hm hact, .probe id result now eventId⟩
  | tool call =>
      obtain ⟨⟨cp, out⟩, hact, h⟩ := ok_of_bind h
      obtain ⟨rfl, -⟩ := Prod.mk.inj (Except.ok.inj h)
      exact ⟨none, by simp [(ControlPlane.logs_of_tool hact).1], .nothing fun _ => rfl⟩

/-! ### What a transition has left in the log -/

/-- The entry names what took `r` down: the probe, or the request whose send failed. -/
def CausedBy (x : Transition (System ν β) (Input ν β × Report ν β)) (r : String)
    (event : FailoverEvent) : Prop :=
  match x.label.1 with
  | .probed id _ _ _ => id = r ∧ event.trigger = .healthCheck ∧ event.requestId = none
  | .settle i _ _ _ => x.pre.sendingTo i = some r ∧ event.trigger = .requestFailure ∧
      ∃ hd, x.pre.handlers[i]? = some hd ∧ event.requestId = some hd.requestId
  | _ => False

/-- The step appended exactly this entry. -/
def Appended (x : Transition (System ν β) (Input ν β × Report ν β)) (event : FailoverEvent) :
    Prop :=
  x.post.control.failover = x.pre.control.failover ++ [event]

theorem healthOf_of_probed (hm : s.control.health.Mirrors) {id : String} {result : HealthResult ν}
    {now eventId : String} (h : s.step th deps (.probed id result now eventId) = .ok (s', report))
    {before : ReplicaHysteresis} (hbefore : s.control.health.record id = some before) :
    s.healthOf id = some before.health ∧
      s'.healthOf id = some (before.next th result.event).health := by
  unfold healthOf
  rw [step_record hm h id, hbefore]
  simp [eventOf]

omit [JsNumber ν] in
theorem eventOf_settle_ne {i : ℕ} {err : ReplicaRequestError} {ambient ambient' : Ambient}
    {id : String} (hto : s.sendingTo i = some id) (hr : id ≠ r) :
    s.eventOf r (.settle i (.error (.request err)) ambient ambient') = none := by
  have hfail : s.failing (.settle i (.error (.request err)) ambient ambient') ≠ some r := by
    simp only [failing, hto]
    split_ifs <;> simp [hr]
  exact if_neg hfail

/-- A change of health is a probe of the replica, or its failed send. -/
theorem changes_of_logs (hm : s.control.health.Mirrors)
    (h : s.step th deps a = .ok (s', report)) (hchange : s'.healthOf r ≠ s.healthOf r) :
    (∃ result now eventId before, a = .probed r result now eventId ∧
      s.control.health.record r = some before ∧
      s'.control.failover = s.control.failover ++ (ControlPlane.probeEvent th r before.health
        (before.next th result.event).health now eventId).toList) ∨
    ∃ i err ambient ambient' hd, a = .settle i (.error (.request err)) ambient ambient' ∧
      s.handlers[i]? = some hd ∧ s.sendingTo i = some r ∧ err.retryable = true ∧
      s'.control.failover = s.control.failover ++
        [hd.ejectEvent r err (ambient.uuid 0) (ambient.clock 0)] := by
  have huntouched : s.eventOf r a ≠ none := fun hnone =>
    hchange (healthOf_of_untouched hm h hnone)
  obtain ⟨added, hadded, hlogs⟩ := step_logs hm h
  cases hlogs with
  | nothing hevent => exact absurd (hevent r) huntouched
  | @request i err ambient ambient' hd replicaId hget hto hretry =>
      have hid : replicaId = r := by
        by_contra hne
        exact huntouched (eventOf_settle_ne hto hne)
      subst hid
      exact .inr ⟨i, err, ambient, ambient', hd, rfl, hget, hto, hretry, hadded⟩
  | probe id result now eventId =>
      have hid : id = r := by
        by_contra hne
        exact huntouched (if_neg hne)
      subst hid
      cases hrecord : s.control.health.record id with
      | none =>
          refine absurd ?_ hchange
          unfold healthOf
          rw [step_record hm h id, hrecord]
          rfl
      | some before =>
          rw [hrecord] at hadded
          exact .inl ⟨result, now, eventId, before, rfl, rfl, hadded⟩

theorem logged_of_wentDown {x : Transition (System ν β) (Input ν β × Report ν β)}
    (hm : x.pre.control.health.Mirrors) (hstep : Step th deps x.pre x.label x.post)
    (hdown : WentDown r x) :
    ∃ event, Appended x event ∧ event.replicaId = r ∧ event.kind = .ejected ∧
      CausedBy x r event := by
  obtain ⟨s, ⟨a, report⟩, s'⟩ := x
  have hchange : s'.healthOf r ≠ s.healthOf r := fun heq => hdown.1 (heq.symm.trans hdown.2)
  rcases changes_of_logs hm hstep hchange with
    ⟨result, now, eventId, before, rfl, hrecord, hlog⟩ |
    ⟨i, err, ambient, ambient', hd, rfl, hget, hto, -, hlog⟩
  · obtain ⟨hpre, hpost⟩ := healthOf_of_probed hm hstep hrecord
    have hafter : (before.next th result.event).health = .unhealthy :=
      Option.some.inj (hpost.symm.trans hdown.2)
    have hbefore : before.health ≠ .unhealthy := by
      intro hu
      exact hdown.1 (hpre.trans (congrArg some hu))
    simp only [ControlPlane.probeEvent, hafter, hbefore, if_false, if_true] at hlog
    exact ⟨_, hlog, rfl, rfl, rfl, rfl, rfl⟩
  · exact ⟨_, hlog, rfl, rfl, hto, rfl, hd, hget, rfl⟩

theorem logged_of_recovered {x : Transition (System ν β) (Input ν β × Report ν β)}
    (hm : x.pre.control.health.Mirrors) (hstep : Step th deps x.pre x.label x.post)
    (hup : Recovered r x) :
    ∃ event, Appended x event ∧ event.replicaId = r ∧ event.kind = .recovered := by
  obtain ⟨s, ⟨a, report⟩, s'⟩ := x
  obtain ⟨hpre₀, hpost₀⟩ := hup
  have hchange : s'.healthOf r ≠ s.healthOf r := by
    intro heq
    cases hpost₀.symm.trans (heq.trans hpre₀)
  rcases changes_of_logs hm hstep hchange with
    ⟨result, now, eventId, before, rfl, hrecord, hlog⟩ |
    ⟨i, err, ambient, ambient', hd, rfl, hget, hto, hretry, hlog⟩
  · obtain ⟨hpre, hpost⟩ := healthOf_of_probed hm hstep hrecord
    have hafter : (before.next th result.event).health = .healthy :=
      Option.some.inj (hpost.symm.trans hpost₀)
    have hbefore : before.health = .unhealthy := Option.some.inj (hpre.symm.trans hpre₀)
    simp only [ControlPlane.probeEvent, hafter, hbefore] at hlog
    exact ⟨_, hlog, rfl, rfl⟩
  · have hfail : s.failing (.settle i (.error (.request err)) ambient ambient') = some r :=
      (if_pos hretry).trans hto
    cases hpost₀.symm.trans (healthOf_of_failing hm hstep hfail)

/-- A replica that becomes healthy for the first time leaves nothing. -/
theorem silent_of_first {x : Transition (System ν β) (Input ν β × Report ν β)}
    (hm : x.pre.control.health.Mirrors) (hstep : Step th deps x.pre x.label x.post)
    (hbefore : x.pre.healthOf r = some .unknown) (hafter : x.post.healthOf r = some .healthy) :
    x.post.control.failover = x.pre.control.failover := by
  obtain ⟨s, ⟨a, report⟩, s'⟩ := x
  have hchange : s'.healthOf r ≠ s.healthOf r := by
    intro heq
    cases hafter.symm.trans (heq.trans hbefore)
  rcases changes_of_logs hm hstep hchange with
    ⟨result, now, eventId, before, rfl, hrecord, hlog⟩ |
    ⟨i, err, ambient, ambient', hd, rfl, hget, hto, hretry, hlog⟩
  · obtain ⟨hpre, hpost⟩ := healthOf_of_probed hm hstep hrecord
    have hafter' : (before.next th result.event).health = .healthy :=
      Option.some.inj (hpost.symm.trans hafter)
    have hbefore' : before.health = .unknown := Option.some.inj (hpre.symm.trans hbefore)
    simpa [ControlPlane.probeEvent, hafter', hbefore'] using hlog
  · have hfail : s.failing (.settle i (.error (.request err)) ambient ambient') = some r :=
      (if_pos hretry).trans hto
    cases hafter.symm.trans (healthOf_of_failing hm hstep hfail)

/-! ### Along a run -/

variable {s₀ : System ν β} {tr tr' : Trace ν β} {replicas : List Replica}
  {config : RoutingConfig ν}

/-- The log of `r` in `s`, after the run `tr`, has every transition of `r` in it. -/
structure CompleteHistory (r : String) (tr : Trace ν β) (s : System ν β) : Prop where
  /-- The last entry tells whether `r` is unhealthy. -/
  last_iff : s.healthOf r = some .unhealthy ↔
    (s.control.failover.kindsOf r).getLast? = some .ejected
  /-- Each time `r` went down, an ejection was recorded that names the cause. -/
  ejected : ∀ x ∈ tr, WentDown r x → ∃ event ∈ s.control.failover, Appended x event ∧
    event.replicaId = r ∧ event.kind = .ejected ∧ CausedBy x r event
  /-- Each time it recovered, one recovery was recorded. -/
  recovered : ∀ x ∈ tr, Recovered r x → ∃ event ∈ s.control.failover, Appended x event ∧
    event.replicaId = r ∧ event.kind = .recovered
  /-- There is no other recovery. -/
  matched : (s.control.failover.kindsOf r).count .recovered =
    tr.countP fun x => decide (Recovered r x)
  /-- The first time it became healthy nothing was recorded. -/
  first : ∀ x ∈ tr, x.pre.healthOf r = some .unknown → x.post.healthOf r = some .healthy →
    x.post.control.failover = x.pre.control.failover

omit [JsNumber ν] in
/-- The kind a step logs tells the health it leaves. -/
theorem getLast?_kinds {kinds : List FailoverKind} {before after : Option ReplicaHealth}
    (hlast : before = some .unhealthy ↔ kinds.getLast? = some .ejected)
    (hstays : before = some .unhealthy → after = some .unhealthy ∨ after = some .healthy) :
    after = some .unhealthy ↔
      (kinds ++ (kindOfChange before after).toList).getLast? = some .ejected := by
  unfold kindOfChange
  split_ifs with hdown hup
  · simp [hdown.2]
  · simp [hup.2]
  · rw [Option.toList_none, List.append_nil, ← hlast]
    constructor
    · intro hu
      by_contra hne
      exact hdown ⟨hne, hu⟩
    · intro hu
      exact (hstays hu).resolve_right fun hh => hup ⟨hu, hh⟩

theorem CompleteHistory.step (hc : CompleteHistory r tr s) (hm : s.control.health.Mirrors)
    (h : s.step th deps a = .ok (s', report)) :
    CompleteHistory r (tr ++ [⟨s, (a, report), s'⟩]) s' := by
  have hstep : Step th deps s (a, report) s' := h
  obtain ⟨added, hadded, -⟩ := step_logs hm h
  have hkinds := step_kinds hm h r
  have hold : ∀ event ∈ s.control.failover, event ∈ s'.control.failover := by
    intro event hevent
    rw [hadded]
    exact List.mem_append_left _ hevent
  have hnew : ∀ event, Appended (⟨s, (a, report), s'⟩ : Transition (System ν β) _) event →
      event ∈ s'.control.failover := by
    intro event happ
    rw [show s'.control.failover = _ from happ]
    exact List.mem_append_right _ (List.mem_singleton_self event)
  constructor
  · rw [hkinds]
    split_ifs with hfail
    · simp [healthOf_of_failing hm h hfail]
    · exact getLast?_kinds hc.last_iff (healthOf_of_unhealthy hm h)
  · intro x hx hdown
    rcases List.mem_append.mp hx with hx | hx
    · obtain ⟨event, hevent, hrest⟩ := hc.ejected x hx hdown
      exact ⟨event, hold event hevent, hrest⟩
    · obtain rfl := List.mem_singleton.mp hx
      obtain ⟨event, happ, hrest⟩ := logged_of_wentDown hm hstep hdown
      exact ⟨event, hnew event happ, happ, hrest⟩
  · intro x hx hup
    rcases List.mem_append.mp hx with hx | hx
    · obtain ⟨event, hevent, hrest⟩ := hc.recovered x hx hup
      exact ⟨event, hold event hevent, hrest⟩
    · obtain rfl := List.mem_singleton.mp hx
      obtain ⟨event, happ, hrest⟩ := logged_of_recovered hm hstep hup
      exact ⟨event, hnew event happ, happ, hrest⟩
  · rw [hkinds, List.count_append, hc.matched, List.countP_append, List.countP_singleton]
    congr 1
    have hrec : Recovered r (⟨s, (a, report), s'⟩ : Transition (System ν β) _) ↔
        s.healthOf r = some .unhealthy ∧ s'.healthOf r = some .healthy := Iff.rfl
    split_ifs with hfail hup hup
    · have hu := healthOf_of_failing hm h hfail
      rw [decide_eq_true_eq, hrec, hu] at hup
      cases hup.2
    · rfl
    · rw [decide_eq_true_eq, hrec] at hup
      simp [kindOfChange, hup.1, hup.2]
    · rw [decide_eq_true_eq, hrec] at hup
      unfold kindOfChange
      rw [if_neg hup]
      split_ifs <;> rfl
  · intro x hx hbefore hafter
    rcases List.mem_append.mp hx with hx | hx
    · exact hc.first x hx hbefore hafter
    · obtain rfl := List.mem_singleton.mp hx
      exact silent_of_first hm hstep hbefore hafter

/-- **No ejection or recovery is lost**: along every run the log of every replica has all of its
transitions, and its last entry tells whether it is unhealthy. -/
theorem history_complete (h₀ : boot replicas config = .ok s₀) (h : Exec (Step th deps) s₀ tr s)
    (r : String) : CompleteHistory r tr s := by
  induction h with
  | nil =>
      have htells := logTells_boot (ν := ν) (β := β) h₀ r
      refine ⟨htells.last_iff.symm, by simp, by simp, ?_, by simp⟩
      obtain ⟨-, hfailover, -, -⟩ := wire_spec (wire_of_boot h₀).1
      rw [hfailover]
      rfl
  | snoc hexec hs ih => exact ih.step (mirrors_of_exec h₀ hexec) hs

/-- A replica comes up, times out on a request, and comes back. -/
def outage : Except String (System ℕ Unit × Trace ℕ Unit × System ℕ Unit) := do
  let s₀ ← boot [⟨"replica-1", ""⟩] ⟨.roundRobin, ⟨1, 1⟩⟩
  let run ← replay (step .twoOne .oneRetry) s₀ [
    .probed "replica-1" ⟨true, 5, 0⟩ "t0" "e0",
    .request "request-1" () .still,
    .settle 0 timedOut .still .still,
    .probed "replica-1" ⟨true, 5, 0⟩ "t1" "e1"]
  return (s₀, run)

/-- Its outage is in the log, once each way. -/
theorem history_complete_outage : ∃ (s₀ s : System ℕ Unit) (tr : Trace ℕ Unit),
    Exec (Step .twoOne .oneRetry) s₀ tr s ∧ CompleteHistory "replica-1" tr s ∧
    s.control.failover.kindsOf "replica-1" = [.ejected, .recovered] := by
  obtain ⟨⟨s₀, tr, s⟩, h, hc⟩ := exists_of_check outage (fun run =>
    decide (run.2.2.control.failover.kindsOf "replica-1" = [.ejected, .recovered])) (by decide)
  obtain ⟨_, h₀, h⟩ := ok_of_bind h
  obtain ⟨_, hr, h⟩ := ok_of_bind h
  cases Except.ok.inj h
  have hexec := (exec_of_replay hr).1
  exact ⟨s₀, s, tr, hexec, history_complete h₀ hexec "replica-1", of_decide_eq_true hc⟩

end System

end WhyRouted
