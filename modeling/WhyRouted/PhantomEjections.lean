import Mathlib.Algebra.Order.Ring.Nat
import WhyRouted.Histories
import WhyRouted.SystemSteps

/-! # Phantom ejections

The failover log is written by two parties that do not know of each other.  The scheduler
announces the transitions its probes make, and those match the replica's health exactly.  The
retry loop records an ejection after every retryable failure, whether or not its `eject` found
the replica still in rotation.

`step_kinds` is what one step logs about one replica.  From it, the log of a replica tells its
transitions, each of them once, along an execution exactly when no send to it fails retryably
while it is already unhealthy (`phantom_iff`). -/

namespace WhyRouted

/-- The entry a change of health calls for. -/
def kindOfChange (before after : Option ReplicaHealth) : Option FailoverKind :=
  if before ≠ some .unhealthy ∧ after = some .unhealthy then some .ejected
  else if before = some .unhealthy ∧ after = some .healthy then some .recovered
  else none

@[simp] theorem kindOfChange_self (health : Option ReplicaHealth) :
    kindOfChange health health = none := by
  unfold kindOfChange
  split_ifs with h₁ h₂
  · exact absurd h₁.2 h₁.1
  · cases h₂.1.symm.trans h₂.2
  · rfl

/-! ### What an operation logs -/

namespace ControlPlane

variable {ν : Type} [JsNumber ν] {th : Thresholds} {cp cp' : ControlPlane ν} {out : Output ν}

theorem kindsOf_probeEvent (th : Thresholds) (id : String) (before after : ReplicaHealth)
    (now eventId r : String) :
    FailoverEvents.kindsOf (probeEvent th id before after now eventId).toList r =
      if id = r then (kindOfChange (some before) (some after)).toList else [] := by
  unfold probeEvent kindOfChange
  cases before <;> cases after <;> simp [FailoverEvents.kindsOf_singleton]

theorem kindsOf_of_probed (hm : cp.health.Mirrors) {id : String} {result : HealthResult ν}
    {now eventId : String} (h : cp.act th (.probed id result now eventId) = .ok (cp', out))
    (r : String) : cp'.failover.kindsOf r = cp.failover.kindsOf r ++
      if id = r then (kindOfChange ((cp.health.record r).map (·.health))
        ((cp'.health.record r).map (·.health))).toList else [] := by
  rw [failover_of_probed hm h, FailoverEvents.kindsOf_append]
  congr 1
  cases hid : cp.health.record id with
  | none =>
      by_cases hr : id = r
      · subst hr
        rw [act_record hm h, hid, if_pos rfl]
        rfl
      · rw [if_neg hr]
        rfl
  | some before =>
      rw [Option.bind_some, kindsOf_probeEvent]
      by_cases hr : id = r
      · subst hr
        rw [act_record hm h, hid]
        simp [eventOf]
      · rw [if_neg hr, if_neg hr]

end ControlPlane

/-! ### What a step logs -/

namespace System

variable {ν β : Type} [JsNumber ν] {th : Thresholds} {deps : RouteDeps ν β} {s s' : System ν β}
  {report : Report ν β} {a : Input ν β}

/-- **What a step logs about `r`**: an ejection if a send to it failed retryably, and otherwise
what the change of its health calls for. -/
theorem step_kinds (hm : s.control.health.Mirrors) (h : s.step th deps a = .ok (s', report))
    (r : String) : s'.control.failover.kindsOf r = s.control.failover.kindsOf r ++
      (if s.failing a = some r then some FailoverKind.ejected
        else kindOfChange (s.healthOf r) (s'.healthOf r)).toList := by
  have huntouched := healthOf_of_untouched hm h (r := r)
  obtain ⟨hcase, -, -⟩ := step_case h
  cases hcase with
  | quiet hfail hevent _ _ hsame => rw [hsame.failover, hfail, huntouched (hevent r)]; simp
  | @failed _ _ id reason now eventId event cp₁ hfail hevent _ _ hid hkind heject hsame =>
      rw [hsame.failover, show (cp₁.recordEvent event).failover = cp₁.failover ++ [event] from rfl,
        ControlPlane.failover_of_eject hm heject, FailoverEvents.kindsOf_append,
        FailoverEvents.kindsOf_singleton, hid, hkind, hfail]
      by_cases hr : id = r
      · simp [hr]
      · rw [huntouched ((hevent r).trans (if_neg hr))]
        simp [hr]
  | @probed id result now eventId out hact =>
      rw [ControlPlane.kindsOf_of_probed hm hact]
      by_cases hr : id = r
      · simp [hr, failing, healthOf]
      · rw [huntouched (if_neg hr)]
        simp [hr, failing]
  | tool hact =>
      rw [(ControlPlane.logs_of_tool hact).1, huntouched rfl]
      simp [failing]

/-! ### Along a run -/

variable {s₀ : System ν β} {tr tr₁ tr₂ : Trace ν β} {replicas : List Replica}
  {config : RoutingConfig ν}

/-- The steps of an execution in which `r` went down. -/
def fallsOf (r : String) (tr : Trace ν β) : ℕ := tr.countP fun x => decide (WentDown r x)

/-- After the run `tr` to `s`, the log of `r` holds one ejection for each time it went down,
with a recovery between any two. -/
structure NoPhantom (r : String) (tr : Trace ν β) (s : System ν β) : Prop where
  alternates : Alternates .ejected .recovered (s.control.failover.kindsOf r)
  matched : (s.control.failover.kindsOf r).count .ejected = fallsOf r tr

/-- The invariant behind it: the last entry of `r` tells whether it is unhealthy. -/
structure LogTells (r : String) (tr : Trace ν β) (s : System ν β) : Prop
    extends NoPhantom r tr s where
  last_iff : (s.control.failover.kindsOf r).getLast? = some .ejected ↔
    s.healthOf r = some .unhealthy

theorem logTells_boot (h₀ : boot replicas config = .ok s₀) (r : String) : LogTells r [] s₀ := by
  obtain ⟨-, hfailover, hrecord, -⟩ := wire_spec (wire_of_boot h₀).1
  have hhealth : s₀.healthOf r ≠ some .unhealthy := by
    unfold healthOf
    rw [hrecord]
    split_ifs <;> simp [ReplicaHysteresis.initial]
  have hkinds : s₀.control.failover.kindsOf r = [] := by rw [hfailover]; rfl
  refine ⟨⟨?_, ?_⟩, ?_⟩
  · rw [hkinds]; exact trivial
  · rw [hkinds]; rfl
  · rw [hkinds]; simp [hhealth]

omit [JsNumber ν] in
theorem fallsOf_concat (r : String) (tr : Trace ν β)
    (x : Transition (System ν β) (Input ν β × Report ν β)) :
    fallsOf r (tr ++ [x]) = fallsOf r tr + if WentDown r x then 1 else 0 := by
  simp [fallsOf, List.countP_append, List.countP_singleton]

/-- A step keeps the log telling unless it fails a send to a replica already unhealthy. -/
theorem LogTells.step {r : String} (hl : LogTells r tr s) (hm : s.control.health.Mirrors)
    (h : s.step th deps a = .ok (s', report))
    (hok : s.failing a = some r → s.healthOf r ≠ some .unhealthy) :
    LogTells r (tr ++ [⟨s, (a, report), s'⟩]) s' := by
  have hkinds : s'.control.failover.kindsOf r = s.control.failover.kindsOf r ++
      (kindOfChange (s.healthOf r) (s'.healthOf r)).toList := by
    rw [step_kinds hm h r]
    split_ifs with hfail
    · simp [kindOfChange, hok hfail, healthOf_of_failing hm h hfail]
    · rfl
  have hfalls := fallsOf_concat r tr ⟨s, (a, report), s'⟩
  have hchange : kindOfChange (s.healthOf r) (s'.healthOf r) =
      if WentDown r ⟨s, (a, report), s'⟩ then some .ejected
      else if Recovered r ⟨s, (a, report), s'⟩ then some .recovered else none := rfl
  rw [hchange] at hkinds
  split_ifs at hkinds with hdown hup
  · have hlast := mt hl.last_iff.mp hdown.1
    refine ⟨⟨?_, ?_⟩, ?_⟩
    · rw [hkinds, Option.toList_some, alternates_concat_iff (by decide)]
      exact ⟨hl.alternates, Or.inl ⟨rfl, hlast⟩⟩
    · rw [hkinds, hfalls, if_pos hdown]
      simp [hl.matched]
    · rw [hkinds]
      simp [show s'.healthOf r = some .unhealthy from hdown.2]
  · have hlast := hl.last_iff.mpr hup.1
    refine ⟨⟨?_, ?_⟩, ?_⟩
    · rw [hkinds, Option.toList_some, alternates_concat_iff (by decide)]
      exact ⟨hl.alternates, Or.inr ⟨rfl, hlast⟩⟩
    · rw [hkinds, hfalls, if_neg hdown]
      simp [hl.matched]
    · rw [hkinds]
      simp [show s'.healthOf r = some .healthy from hup.2]
  · rw [Option.toList_none, List.append_nil] at hkinds
    refine ⟨⟨?_, ?_⟩, ?_⟩
    · rw [hkinds]
      exact hl.alternates
    · rw [hkinds, hfalls, if_neg hdown]
      exact hl.matched
    · rw [hkinds, hl.last_iff]
      constructor
      · intro hu
        exact (healthOf_of_unhealthy hm h hu).resolve_right fun hh => hup ⟨hu, hh⟩
      · intro hu
        by_contra hne
        exact hdown ⟨hne, hu⟩

/-- **When the failover history has no phantom.**  In every state of a run the log of `r`
matches its transitions, exactly when no step of the run fails a send to `r` while `r` is
already unhealthy. -/
theorem phantom_iff (h₀ : boot replicas config = .ok s₀) (h : Exec (Step th deps) s₀ tr s)
    (r : String) :
    (∀ tr₁ tr₂ t, tr = tr₁ ++ tr₂ → Exec (Step th deps) s₀ tr₁ t → NoPhantom r tr₁ t) ↔
      ∀ x ∈ tr, x.pre.failing x.label.1 = some r → x.pre.healthOf r ≠ some .unhealthy := by
  constructor
  · intro hno x hx hfail hu
    obtain ⟨tr₁, tr₂, rfl⟩ := List.append_of_mem hx
    obtain ⟨hpre, hstep, -⟩ := h.split
    have hbefore := (hno tr₁ (x :: tr₂) x.pre rfl hpre).matched
    have hafter := (hno (tr₁ ++ [x]) tr₂ x.post (List.append_cons ..) (hpre.snoc hstep)).matched
    -- the step logs an ejection, and `r` does not go down: it is down
    have hdown : ¬ WentDown r x := fun hdown => hdown.1 hu
    rw [step_kinds (mirrors_of_exec h₀ hpre) hstep r, if_pos hfail, fallsOf_concat,
      if_neg hdown, List.count_append, hbefore] at hafter
    simp at hafter
  · intro hall
    have htells : ∀ tr₁ tr₂ t, tr = tr₁ ++ tr₂ → Exec (Step th deps) s₀ tr₁ t →
        LogTells r tr₁ t := by
      intro tr₁ tr₂ t htr hexec
      induction hexec generalizing tr₂ with
      | nil => exact logTells_boot h₀ r
      | @snoc tr₁ s₁ t a hexec hs ih =>
          have htr' : tr = tr₁ ++ ⟨s₁, a, t⟩ :: tr₂ := by rw [htr, List.append_assoc]; rfl
          have hbefore := ih (⟨s₁, a, t⟩ :: tr₂) htr'
          have hok := hall ⟨s₁, a, t⟩ (by rw [htr']; simp)
          exact hbefore.step (mirrors_of_exec h₀ hexec) hs hok
    intro tr₁ tr₂ t htr hexec
    exact (htells tr₁ tr₂ t htr hexec).toNoPhantom

/-! ### Two requests on one failing replica -/

/-- Both requests are sent to the only replica, and both time out. -/
def twoTimeouts : Except String (System ℕ Unit × Trace ℕ Unit × System ℕ Unit) := do
  let s₀ ← boot [⟨"replica-1", ""⟩] ⟨.roundRobin, ⟨1, 1⟩⟩
  let run ← replay (step .twoOne .oneRetry) s₀ [
    .probed "replica-1" ⟨true, 5, 0⟩ "t0" "e0",
    .request "request-1" () .still,
    .request "request-2" () .still,
    .settle 0 timedOut .still .still,
    .settle 1 timedOut .still .still]
  return (s₀, run)

theorem twoTimeouts_run : ∃ (s₀ s : System ℕ Unit) (tr : Trace ℕ Unit),
    boot [⟨"replica-1", ""⟩] ⟨.roundRobin, ⟨1, 1⟩⟩ = .ok s₀ ∧
    Exec (Step .twoOne .oneRetry) s₀ tr s ∧
    s.control.failover.kindsOf "replica-1" = [.ejected, .ejected] := by
  obtain ⟨⟨s₀, tr, s⟩, h, hc⟩ := exists_of_check twoTimeouts (fun run =>
    decide (run.2.2.control.failover.kindsOf "replica-1" = [.ejected, .ejected])) (by decide)
  obtain ⟨_, h₀, h⟩ := ok_of_bind h
  obtain ⟨_, hr, h⟩ := ok_of_bind h
  cases Except.ok.inj h
  exact ⟨s₀, s, tr, h₀, (exec_of_replay hr).1, of_decide_eq_true hc⟩

theorem not_alternates_ejected_ejected :
    ¬ Alternates FailoverKind.ejected .recovered [.ejected, .ejected] := by decide

/-- The second timeout finds the replica already out of rotation and is recorded all the same. -/
theorem ejection_recorded_twice : ∃ (s₀ s : System ℕ Unit) (tr : Trace ℕ Unit),
    boot [⟨"replica-1", ""⟩] ⟨.roundRobin, ⟨1, 1⟩⟩ = .ok s₀ ∧
    Exec (Step .twoOne .oneRetry) s₀ tr s ∧
    s.control.failover.kindsOf "replica-1" = [.ejected, .ejected] ∧
    ¬ NoPhantom "replica-1" tr s := by
  obtain ⟨s₀, s, tr, h₀, h, hkinds⟩ := twoTimeouts_run
  refine ⟨s₀, s, tr, h₀, h, hkinds, fun hno => not_alternates_ejected_ejected ?_⟩
  rw [← hkinds]
  exact hno.alternates

/-- The rule finds the step to blame. -/
theorem phantom_iff_two_timeouts : ∃ (tr : Trace ℕ Unit), ∃ x ∈ tr,
    x.pre.failing x.label.1 = some "replica-1" ∧ x.pre.healthOf "replica-1" = some .unhealthy := by
  obtain ⟨s₀, s, tr, h₀, h, hkinds⟩ := twoTimeouts_run
  refine ⟨tr, ?_⟩
  by_contra hnone
  have hno := (phantom_iff h₀ h "replica-1").mpr fun x hx hfail hu => hnone ⟨x, hx, hfail, hu⟩
  have hs := (hno tr [] s (List.append_nil tr).symm h).alternates
  rw [hkinds] at hs
  exact not_alternates_ejected_ejected hs

end System

end WhyRouted
