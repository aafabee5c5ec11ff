import Mathlib.Algebra.Order.Ring.Nat
import WhyRouted.SystemSteps

/-! # Stale ejections

A request can be slow: it was sent to a replica, other requests and probes took the replica out
of rotation and brought it back, and only then does its own send fail.  `eject` looks at the
health it finds and at nothing else, so it cannot tell such a failure from a fresh one: it
leaves the replica alone exactly when the replica happens to be out of rotation again
(`stale_iff`). -/

namespace WhyRouted

/-- The request whose send settles in a step. -/
def Input.settles {ν β : Type} : Input ν β → Option ℕ
  | .settle i _ _ _ => some i
  | _ => none

namespace System

variable {ν β : Type}

/-- After `earlier`, the step `x` is a stale failure: some request was sent to `r` and has been
waiting since, `r` has gone down and recovered in the meantime, and now that send fails
retryably. -/
structure StaleFailure (r : String) (earlier : Trace ν β)
    (x : Transition (System ν β) (Input ν β × Report ν β)) : Prop where
  sent : ∃ i before send since, earlier = before ++ send :: since ∧
    send.pre.sendingTo i ≠ some r ∧ (∀ y ∈ send :: since, y.post.sendingTo i = some r) ∧
    x.label.1.settles = some i ∧
    ∃ l₁ down l₂ up l₃, since = l₁ ++ down :: (l₂ ++ up :: l₃) ∧ WentDown r down ∧ Recovered r up
  failing : x.pre.failing x.label.1 = some r

/-- A step that leaves the health and the counters of `r` as they are, both in the scheduler and
in the registry. -/
structure Spares (r : String) (x : Transition (System ν β) (Input ν β × Report ν β)) : Prop where
  record : x.post.control.health.record r = x.pre.control.health.record r
  runtime : (x.post.control.registry.get? r).map (fun state => state.runtime.hysteresis) =
    (x.pre.control.registry.get? r).map (fun state => state.runtime.hysteresis)

variable [JsNumber ν] {th : Thresholds} {deps : RouteDeps ν β} {s₀ s : System ν β}
  {tr tr₁ tr₂ : Trace ν β} {x : Transition (System ν β) (Input ν β × Report ν β)}
  {replicas : List Replica} {config : RoutingConfig ν} {r : String}

/-- A retryable failure spares the replica exactly when it is already out of rotation. -/
theorem spares_iff (h₀ : boot replicas config = .ok s₀)
    (h : Exec (Step th deps) s₀ (tr₁ ++ x :: tr₂) s) (hr : x.pre.failing x.label.1 = some r) :
    Spares r x ↔ x.pre.healthOf r = some .unhealthy := by
  obtain ⟨hpre, hstep, -⟩ := h.split
  have hm := mirrors_of_exec h₀ hpre
  have hm' := mirrors_of_exec h₀ (hpre.snoc hstep)
  constructor
  · intro hspares
    have hsame : x.post.healthOf r = x.pre.healthOf r := by
      unfold healthOf
      rw [hspares.record]
    rw [← hsame]
    exact healthOf_of_failing hm hstep hr
  · intro hu
    have hrecord : x.post.control.health.record r = x.pre.control.health.record r := by
      obtain ⟨hy, hget, hu⟩ := Option.map_eq_some_iff.mp hu
      rw [step_record hm hstep r, hget, eventOf_of_failing hr, Option.map_some, Option.elim_some,
        ReplicaHysteresis.next_ejected_of_unhealthy th hu]
    have hruntime := (hm' r).trans (hrecord.trans (hm r).symm)
    exact ⟨hrecord, hruntime⟩

/-- **When a stale ejection undoes nothing.**  All stale failures of a run spare `r`, exactly
when each of them finds `r` out of rotation once more. -/
theorem stale_iff (h₀ : boot replicas config = .ok s₀) (h : Exec (Step th deps) s₀ tr s)
    (r : String) :
    (∀ tr₁ x tr₂, tr = tr₁ ++ x :: tr₂ → StaleFailure r tr₁ x → Spares r x) ↔
      ∀ tr₁ x tr₂, tr = tr₁ ++ x :: tr₂ → StaleFailure r tr₁ x →
        x.pre.healthOf r = some .unhealthy := by
  constructor
  · rintro hall tr₁ x tr₂ rfl hx
    exact (spares_iff h₀ h hx.failing).mp (hall tr₁ x tr₂ rfl hx)
  · rintro hall tr₁ x tr₂ rfl hx
    exact (spares_iff h₀ h hx.failing).mpr (hall tr₁ x tr₂ rfl hx)

/-! ### A slow request -/

/-- The first request is slow.  The second times out and ejects the only replica, a probe brings
it back, and then the first times out too. -/
def slowRequest : Except String (System ℕ Unit × Trace ℕ Unit × System ℕ Unit) := do
  let s₀ ← boot [⟨"replica-1", ""⟩] ⟨.roundRobin, ⟨1, 1⟩⟩
  let run ← replay (step .twoOne .oneRetry) s₀ [
    .probed "replica-1" ⟨true, 5, 0⟩ "t0" "e0",
    .request "request-1" () .still,
    .request "request-2" () .still,
    .settle 1 timedOut .still .still,
    .probed "replica-1" ⟨true, 5, 0⟩ "t1" "e1",
    .settle 0 timedOut .still .still]
  return (s₀, run)

theorem slowRequest_run : ∃ (s₀ s : System ℕ Unit) (tr : Trace ℕ Unit)
    (x : Transition (System ℕ Unit) (Input ℕ Unit × Report ℕ Unit)),
    boot [⟨"replica-1", ""⟩] ⟨.roundRobin, ⟨1, 1⟩⟩ = .ok s₀ ∧
    Exec (Step .twoOne .oneRetry) s₀ (tr ++ [x]) s ∧ StaleFailure "replica-1" tr x ∧
    x.pre.healthOf "replica-1" = some .healthy ∧ x.post.healthOf "replica-1" = some .unhealthy := by
  obtain ⟨⟨s₀, tr, s⟩, h, hc⟩ := exists_of_check slowRequest (fun run => match run.2.1 with
    | [_, send, other, down, up, x] =>
        decide (send.pre.sendingTo 0 ≠ some "replica-1") &&
        decide (∀ y ∈ [send, other, down, up], y.post.sendingTo 0 = some "replica-1") &&
        decide (WentDown "replica-1" down) && decide (Recovered "replica-1" up) &&
        decide (x.label.1.settles = some 0) &&
        decide (x.pre.failing x.label.1 = some "replica-1") &&
        decide (x.pre.healthOf "replica-1" = some .healthy) &&
        decide (x.post.healthOf "replica-1" = some .unhealthy)
    | _ => false) (by decide)
  obtain ⟨_, h₀, h⟩ := ok_of_bind h
  obtain ⟨_, hr, h⟩ := ok_of_bind h
  cases Except.ok.inj h
  split at hc
  next first send other down up x htr =>
    simp only [Bool.and_eq_true, decide_eq_true_eq] at hc
    obtain ⟨⟨⟨⟨⟨⟨⟨hsend, hwait⟩, hdown⟩, hup⟩, hsettles⟩, hfail⟩, hhealthy⟩, hunhealthy⟩ := hc
    obtain rfl : tr = [first, send, other, down, up] ++ [x] := htr
    refine ⟨s₀, s, [first, send, other, down, up], x, h₀, (exec_of_replay hr).1, ⟨?_, hfail⟩,
      hhealthy, hunhealthy⟩
    exact ⟨0, [first], send, [other, down, up], rfl, hsend, hwait, hsettles,
      [other], down, [], up, [], rfl, hdown, hup⟩
  · cases hc

/-- A failure older than the recovery takes the healthy replica out of rotation again. -/
theorem stale_ejection_undoes_recovery : ∃ (s₀ s : System ℕ Unit) (tr : Trace ℕ Unit)
    (x : Transition (System ℕ Unit) (Input ℕ Unit × Report ℕ Unit)),
    boot [⟨"replica-1", ""⟩] ⟨.roundRobin, ⟨1, 1⟩⟩ = .ok s₀ ∧
    Exec (Step .twoOne .oneRetry) s₀ (tr ++ [x]) s ∧ StaleFailure "replica-1" tr x ∧
    x.pre.healthOf "replica-1" = some .healthy ∧ x.post.healthOf "replica-1" = some .unhealthy ∧
    ¬ Spares "replica-1" x := by
  obtain ⟨s₀, s, tr, x, h₀, h, hx, hhealthy, hunhealthy⟩ := slowRequest_run
  refine ⟨s₀, s, tr, x, h₀, h, hx, hhealthy, hunhealthy, fun hspares => ?_⟩
  have hsame : x.post.healthOf "replica-1" = x.pre.healthOf "replica-1" := by
    unfold healthOf
    rw [hspares.record]
  rw [hhealthy, hunhealthy] at hsame
  cases hsame

theorem stale_iff_slow_request : ∃ (tr₁ tr₂ : Trace ℕ Unit)
    (x : Transition (System ℕ Unit) (Input ℕ Unit × Report ℕ Unit)),
    StaleFailure "replica-1" tr₁ x ∧ ¬ (∀ tr₃ y tr₄, tr₁ ++ x :: tr₂ = tr₃ ++ y :: tr₄ →
      StaleFailure "replica-1" tr₃ y → Spares "replica-1" y) := by
  obtain ⟨s₀, s, tr, x, h₀, h, hx, hhealthy, -⟩ := slowRequest_run
  refine ⟨tr, [], x, hx, fun hall => ?_⟩
  have hu := (stale_iff h₀ h "replica-1").mp hall tr x [] rfl hx
  rw [hhealthy] at hu
  cases hu

end System

end WhyRouted
