import Mathlib.Algebra.Order.Ring.Nat
import WhyRouted.Runs

/-! # Hysteresis is exact

Over every execution of the control plane, a replica's health changes exactly at the events its
own history calls for: `M` successful probes in a row, `N` failed ones in a row, or an
ejection.  The reasons the failover log synthesizes for the first two are true of the probes
that were made. -/

namespace WhyRouted

variable {ν : Type} [JsNumber ν]

/-- The record of a replica, as the scheduler holds it and as the registry shows it. -/
def ControlPlane.Shows (cp : ControlPlane ν) (r : String) (h : ReplicaHysteresis) : Prop :=
  cp.health.record r = some h ∧
    (cp.registry.get? r).map (fun state => state.runtime.hysteresis) = some h

/-- One step of a replica with the history `earlier`, by the event `e` or by none. -/
structure ExactAt (th : Thresholds) (earlier : List HealthEvent) (e : Option HealthEvent)
    (before after : ReplicaHysteresis) : Prop where
  becomes_healthy : before.health ≠ .healthy → (after.health = .healthy ↔
    e = some .succeeded ∧ okRun th (earlier ++ e.toList) = th.healthyThreshold)
  becomes_unhealthy : before.health ≠ .unhealthy → (after.health = .unhealthy ↔
    (e = some .failed ∧ failRun (earlier ++ e.toList) = th.unhealthyThreshold) ∨
      e = some .ejected)
  never_unknown : before.health ≠ .unknown → after.health ≠ .unknown
  untouched : e = none → after = before
  /-- An ejection of a replica already unhealthy changes neither health nor counters. -/
  ejected_again : e = some .ejected → before.health = .unhealthy → after = before

theorem exactAt_run (th : Thresholds) (earlier : List HealthEvent) (e : Option HealthEvent) :
    ExactAt th earlier e (.run th earlier) (.run th (earlier ++ e.toList)) := by
  cases e with
  | none =>
      rw [Option.toList_none, List.append_nil]
      exact ⟨fun h => by simp [h], fun h => by simp [h], id, fun _ => rfl, by simp⟩
  | some e =>
      refine ⟨fun h => ?_, fun h => ?_, health_ne_unknown th earlier e, by simp,
        fun he hu => ?_⟩
      · simpa using becomes_healthy_iff th earlier e h
      · simpa using becomes_unhealthy_iff th earlier e h
      · obtain rfl := Option.some.inj he
        rw [Option.toList_some, ReplicaHysteresis.run_concat,
          ReplicaHysteresis.next_ejected_of_unhealthy th hu]

/-- A reason the log made up is true of the probes so far. -/
inductive TrueReason (th : Thresholds) (events : List HealthEvent) (event : FailoverEvent) : Prop
  | ejected (hkind : event.kind = .ejected)
      (hreason : event.reason = FailoverEvents.failedProbes th)
      (hprobes : ∃ l, probesOf events = l ++ List.replicate th.unhealthyThreshold .failed)
  | recovered (hkind : event.kind = .recovered)
      (hreason : event.reason = FailoverEvents.healthyProbes th)
      (hprobes : ∃ l, probesOf events = l ++ List.replicate th.healthyThreshold .succeeded)

open ControlPlane

variable {th : Thresholds} {cp cp₀ : ControlPlane ν} {tr tr' : Trace ν}
  {x : Transition (ControlPlane ν) (Action ν × Output ν)} {replicas : List Replica}
  {config : RoutingConfig ν}

theorem trueReason_of_probeEvent {earlier : List HealthEvent} {e : HealthEvent} {id : String}
    {now eventId : String} {event : FailoverEvent} (he : e ≠ .ejected)
    (h : probeEvent th id (ReplicaHysteresis.run th earlier).health
      (ReplicaHysteresis.run th (earlier ++ [e])).health now eventId = some event) :
    event.replicaId = id ∧ event.trigger = .healthCheck ∧ TrueReason th (earlier ++ [e]) event := by
  unfold probeEvent at h
  split_ifs at h with hsame hu hr
  · obtain rfl := Option.some.inj h
    have hne : (ReplicaHysteresis.run th earlier).health ≠ .unhealthy :=
      fun h => hsame (h.trans hu.symm)
    rcases (becomes_unhealthy_iff th earlier e hne).mp hu with ⟨-, hrun⟩ | hej
    · exact ⟨rfl, rfl, .ejected rfl rfl (probesOf_of_failRun hrun)⟩
    · exact absurd hej he
  · obtain rfl := Option.some.inj h
    have hne : (ReplicaHysteresis.run th earlier).health ≠ .healthy := by rw [hr.2]; decide
    obtain ⟨-, hrun⟩ := (becomes_healthy_iff th earlier e hne).mp hr.1
    exact ⟨rfl, rfl, .recovered rfl rfl (probesOf_of_okRun hrun)⟩

/-- **Hysteresis is exact over every history**, and the synthesized reasons are true. -/
theorem hysteresis_exact (h₀ : wire replicas config = .ok cp₀)
    (h : Exec (Step th) cp₀ (tr ++ x :: tr') cp) :
    (∀ r ∈ replicas.map (·.id), ∃ before after, x.pre.Shows r before ∧ x.post.Shows r after ∧
      ExactAt th (history r tr) (eventOf r x.label.1) before after) ∧
    (∀ id result now eventId, x.label.1 = .probed id result now eventId →
      x.post.failover = x.pre.failover ∨ ∃ event,
        x.post.failover = x.pre.failover ++ [event] ∧ event.replicaId = id ∧
          event.trigger = .healthCheck ∧ TrueReason th (history id (tr ++ [x])) event) ∧
    (∀ id reason now eventId, x.label.1 = .eject id reason now eventId →
      x.post.failover = x.pre.failover) := by
  obtain ⟨hpre, hstep, -⟩ := h.split
  obtain ⟨hm, hrecord⟩ := record_of_exec h₀ hpre
  refine ⟨?_, ?_, ?_⟩
  · intro r hr
    obtain ⟨hm', hrecord'⟩ := record_of_exec h₀ (hpre.snoc hstep)
    have hbefore := (hrecord r).trans (if_pos hr)
    have hafter := (hrecord' r).trans (if_pos hr)
    rw [history_append, history_singleton] at hafter
    exact ⟨_, _, ⟨hbefore, (hm r).trans hbefore⟩, ⟨hafter, (hm' r).trans hafter⟩,
      exactAt_run th _ _⟩
  · intro id result now eventId hlabel
    have hact : x.pre.act th (.probed id result now eventId) = .ok (x.post, x.label.2) :=
      hlabel ▸ hstep
    rw [failover_of_probed hm hact, hrecord]
    split_ifs with hid
    · rw [Option.bind_some, ← ReplicaHysteresis.run_concat, history_append, history_singleton,
        hlabel, eventOf, if_pos rfl, Option.toList_some]
      cases he : probeEvent th id _ _ now eventId with
      | none => exact Or.inl (List.append_nil _)
      | some event =>
          refine Or.inr ⟨event, rfl, trueReason_of_probeEvent ?_ he⟩
          unfold HealthResult.event
          split_ifs <;> simp
    · exact Or.inl (List.append_nil _)
  · intro id reason now eventId hlabel
    have hact : x.pre.act th (.eject id reason now eventId) = .ok (x.post, x.label.2) :=
      hlabel ▸ hstep
    exact failover_of_eject hm hact

/-- A replica comes up, fails two probes in a row, recovers and is ejected; then a probe
succeeds. -/
def flapping : Except String
    (ControlPlane ℕ × (Trace ℕ × ControlPlane ℕ) × ControlPlane ℕ × Output ℕ) := do
  let cp₀ ← wire [⟨"replica-1", ""⟩] ⟨.roundRobin, ⟨1, 1⟩⟩
  let run ← replay (act .twoOne) cp₀ [
    .probed "replica-1" ⟨true, 5, 0⟩ "t0" "e0",
    .probed "replica-1" ⟨false, 200, 0⟩ "t1" "e1",
    .probed "replica-1" ⟨false, 200, 0⟩ "t2" "e2",
    .probed "replica-1" ⟨true, 5, 0⟩ "t3" "e3",
    .eject "replica-1" "request failed: timeout" "t4" "e4"]
  let last ← run.2.act .twoOne (.probed "replica-1" ⟨true, 5, 0⟩ "t5" "e5")
  return (cp₀, run, last)

/-- It is healthy again, for a reason that is true. -/
theorem hysteresis_exact_flapping : ∃ (cp₀ s t : ControlPlane ℕ) (tr : Trace ℕ)
    (before after : ReplicaHysteresis) (event : FailoverEvent),
    wire [⟨"replica-1", ""⟩] ⟨.roundRobin, ⟨1, 1⟩⟩ = .ok cp₀ ∧ Exec (Step .twoOne) cp₀ tr s ∧
    tr.map (fun y => (y.post.health.record "replica-1").map (·.health)) =
      [some .healthy, some .healthy, some .unhealthy, some .healthy, some .unhealthy] ∧
    s.Shows "replica-1" before ∧ t.Shows "replica-1" after ∧ before.health = .unhealthy ∧
    after.health = .healthy ∧
    ExactAt .twoOne [.succeeded, .failed, .failed, .succeeded, .ejected] (some .succeeded)
      before after ∧
    t.failover = s.failover ++ [event] ∧
    TrueReason .twoOne [.succeeded, .failed, .failed, .succeeded, .ejected, .succeeded] event := by
  obtain ⟨⟨cp₀, ⟨tr, s⟩, t, out⟩, h, hc⟩ := exists_of_check flapping (fun run =>
    decide (run.2.1.1.map (fun y => (y.post.health.record "replica-1").map (·.health)) =
      [some .healthy, some .healthy, some .unhealthy, some .healthy, some .unhealthy]) &&
    decide ((run.2.1.2.health.record "replica-1").map (·.health) = some .unhealthy) &&
    decide ((run.2.2.1.health.record "replica-1").map (·.health) = some .healthy) &&
    decide (run.2.1.2.failover.length < run.2.2.1.failover.length)) (by decide)
  simp only [Bool.and_eq_true, decide_eq_true_eq] at hc
  obtain ⟨⟨⟨hhealths, hdown⟩, hup⟩, hgrown⟩ := hc
  obtain ⟨_, h₀, h⟩ := ok_of_bind h
  obtain ⟨_, hr, h⟩ := ok_of_bind h
  obtain ⟨_, hact, h⟩ := ok_of_bind h
  cases Except.ok.inj h
  obtain ⟨hexec, hlabels⟩ := exec_of_replay hr
  have hhistory : history "replica-1" tr =
      [.succeeded, .failed, .failed, .succeeded, .ejected] := by
    rw [history_eq_filterMap, hlabels]
    decide
  obtain ⟨hexact, hreason, -⟩ := hysteresis_exact h₀
    (hexec.trans (Exec.single (show Step .twoOne s (_, out) t from hact)))
  obtain ⟨before, after, hbefore, hafter, hat⟩ := hexact "replica-1" (by decide)
  rcases hreason _ _ _ _ rfl with hsame | ⟨event, hevent, -, -, htrue⟩
  · rw [show t.failover = s.failover from hsame] at hgrown
    exact absurd hgrown (lt_irrefl _)
  · rw [hhistory] at hat
    rw [history_append, hhistory] at htrue
    rw [show s.health.record "replica-1" = some before from hbefore.1] at hdown
    rw [show t.health.record "replica-1" = some after from hafter.1] at hup
    exact ⟨cp₀, s, t, tr, before, after, event, h₀, hexec, hhealths, hbefore, hafter,
      Option.some.inj hdown, Option.some.inj hup, hat, hevent, htrue⟩

end WhyRouted
