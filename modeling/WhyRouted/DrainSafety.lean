import Mathlib.Algebra.Order.Ring.Nat
import WhyRouted.RoundAccount
import WhyRouted.SystemSteps

/-! # Drain safety

A drain can land at any await of any number of retry loops.  What makes it take effect at once
is that a handler never waits between the engine's answer and the send: the answer, the send
and the registry they rest on belong to one step (`Asked`).  So between a drain and the next
restore every round of every request sees the replica drained (`drain_safe`). -/

namespace WhyRouted

namespace System

variable {ν β : Type} [JsNumber ν] {th : Thresholds} {deps : RouteDeps ν β}
  {s₀ s s' : System ν β} {tr win : Trace ν β}
  {x : Transition (System ν β) (Input ν β × Report ν β)} {replicas : List Replica}
  {config : RoutingConfig ν} {r : String}

omit [JsNumber ν] in
theorem adminOf_eq_some_iff {admin : ReplicaAdmin} : s.adminOf r = some admin ↔
    ∃ state ∈ s.control.registry.items, state.id = r ∧ state.admin = admin := by
  unfold adminOf
  rw [Option.map_eq_some_iff]
  constructor
  · rintro ⟨state, hget, hadmin⟩
    obtain ⟨hmem, hid⟩ := s.control.registry.get?_eq_some_iff.mp hget
    exact ⟨state, hmem, hid, hadmin⟩
  · rintro ⟨state, hmem, hid, hadmin⟩
    exact ⟨state, s.control.registry.get?_eq_some_iff.mpr ⟨hmem, hid⟩, hadmin⟩

/-! ### The rounds of a drained replica -/

structure LeavesOut (r : String) (decision : RouteResult ν) : Prop where
  excluded : ⟨r, .drained⟩ ∈ decision.excluded
  unscored : r ∉ decision.candidates.map (·.replicaId)
  unpicked : decision.outcome ≠ .ok r

theorem leavesOut_of_drained (hr : s.adminOf r = some .drained) (engine : Engine)
    (exclude : Option (List String)) :
    LeavesOut r (engine.route s.control.registry.items s.control.config exclude).1 := by
  obtain ⟨state, hmem, hid, hadmin⟩ := adminOf_eq_some_iff.mp hr
  have hscored : ∀ state' ∈ scoredReplicas s.control.registry.items s.control.config exclude,
      state'.id ≠ r := by
    intro state' hs' hid'
    obtain ⟨hmem', hactive, -⟩ := (mem_scoredReplicas _ _ _).mp hs'
    rw [s.control.registry.eq_of_mem_of_key_eq hmem' hmem (hid'.trans hid.symm), hadmin] at hactive
    cases hactive
  refine ⟨?_, ?_, ?_⟩
  · exact (mem_route_excluded engine s.control.registry s.control.config exclude _).mpr
      ⟨state, hmem, hid, hadmin⟩
  · rw [candidates_replicaId, List.mem_map]
    rintro ⟨state', hs', hid'⟩
    exact hscored state' hs' hid'
  · intro hok
    obtain ⟨state', hs', hid'⟩ := route_ok engine _ _ _ hok
    exact hscored state' hs' hid'

/-- A step that ends with `r` drained neither routes nor sends to it. -/
structure Avoids (r : String) (report : Report ν β) : Prop where
  rounds : ∀ decision ∈ routedOf report.calls, LeavesOut r decision
  unsent : r ∉ sentOf report.calls

theorem avoids_of_step {a : Input ν β} {report : Report ν β}
    (h : s.step th deps a = .ok (s', report)) (hr : s'.adminOf r = some .drained) :
    Avoids r report := by
  obtain ⟨-, hasked, -⟩ := step_case h
  have hrounds : ∀ decision ∈ routedOf report.calls, LeavesOut r decision := by
    intro decision hmem
    obtain ⟨engine, exclude, rfl⟩ := hasked.routed decision hmem
    exact leavesOut_of_drained hr engine (some exclude)
  refine ⟨hrounds, fun hsent => ?_⟩
  obtain ⟨decision, hmem, hok⟩ := hasked.sent r hsent
  exact (hrounds decision hmem).unpicked hok

/-! ### From a drain to the next restore -/

omit [JsNumber ν] in
theorem asksOf_drain : asksOf r (.tool (.drainReplica r) : Input ν β) = some .drained := if_pos rfl

omit [JsNumber ν] in
theorem asksOf_ne_active {a : Input ν β} (h : a ≠ .tool (.restoreReplica r)) :
    asksOf r a ≠ some .active := by
  cases a with
  | request requestId payload ambient => simp [asksOf]
  | settle i settled ambient ambient' => simp [asksOf]
  | probed id result now eventId => simp [asksOf]
  | tool call =>
      cases call with
      | drainReplica id => simp [asksOf, ControlPlane.adminOf]
      | restoreReplica id =>
          have hid : id ≠ r := fun hid => h (by rw [hid])
          simp [asksOf, ControlPlane.adminOf, hid]
      | setRoutingStrategy name => simp [asksOf, ControlPlane.adminOf]
      | setScoringWeights weights => simp [asksOf, ControlPlane.adminOf]

theorem drained_of_step (hm : s.control.health.Mirrors) {a : Input ν β} {report : Report ν β}
    (h : s.step th deps a = .ok (s', report)) (hr : s.adminOf r = some .drained)
    (hrestore : a ≠ .tool (.restoreReplica r)) : s'.adminOf r = some .drained := by
  have hne := asksOf_ne_active hrestore
  rw [step_admin hm h r, hr, Option.map_some]
  cases ha : asksOf r a with
  | none => rfl
  | some admin =>
      cases admin with
      | active => exact absurd ha hne
      | drained => rfl

theorem adminOf_ne_none (h₀ : boot replicas config = .ok s₀) (h : Exec (Step th deps) s₀ tr s)
    (hr : r ∈ replicas.map (·.id)) : s.adminOf r ≠ none := by
  have hrecord := (record_of_run h₀ h r).trans (if_pos hr)
  obtain ⟨state, hget, -⟩ := (mirrors_of_exec h₀ h).registered hrecord
  have hget : s.control.registry.get? r = some state := hget
  simp [adminOf, hget]

/-- **Drain safety.**  From the step that drains a replica of the fleet until the next step that
restores it, no request is sent to it, every round of every request reports it as drained and
scores it never, and no step changes the operator's intent for it. -/
theorem drain_safe (h₀ : boot replicas config = .ok s₀)
    (h : Exec (Step th deps) s₀ (tr ++ x :: win) s) (hr : r ∈ replicas.map (·.id))
    (hdrain : x.label.1 = .tool (.drainReplica r))
    (hrestore : ∀ y ∈ win, y.label.1 ≠ .tool (.restoreReplica r)) :
    x.post.adminOf r = some .drained ∧ ∀ y ∈ win, Avoids r y.label.2 ∧
      y.pre.adminOf r = some .drained ∧ y.post.adminOf r = some .drained := by
  obtain ⟨hpre, hstep, hwin⟩ := h.split
  have hstart : x.post.adminOf r = some .drained := by
    obtain ⟨admin, hadmin⟩ := Option.ne_none_iff_exists'.mp (adminOf_ne_none h₀ hpre hr)
    rw [step_admin (mirrors_of_exec h₀ hpre) hstep r, hdrain, asksOf_drain, hadmin]
    rfl
  have hkeep : ∀ y ∈ win, y.pre.adminOf r = some .drained → y.post.adminOf r = some .drained := by
    intro y hy hdrained
    obtain ⟨tr₁, hexec⟩ := h.pre_of_mem (x := y) (by simp [hy])
    exact drained_of_step (mirrors_of_exec h₀ hexec) (hwin.step_of_mem hy) hdrained (hrestore y hy)
  obtain ⟨-, hall⟩ := hwin.invariant_of_mem (P := fun t => t.adminOf r = some .drained) hkeep hstart
  refine ⟨hstart, fun y hy => ?_⟩
  obtain ⟨hbefore, hafter⟩ := hall y hy
  exact ⟨avoids_of_step (hwin.step_of_mem hy) hafter, hbefore, hafter⟩

/-! ### A drain under a request -/

/-- A request is waiting for the only replica when that is drained; its send fails, and the
round that follows leaves the replica out. -/
def drainUnderRequest : Except String (System ℕ Unit × Trace ℕ Unit × System ℕ Unit) := do
  let s₀ ← boot [⟨"replica-1", ""⟩] ⟨.roundRobin, ⟨1, 1⟩⟩
  let run ← replay (step .twoOne .oneRetry) s₀ [
    .probed "replica-1" ⟨true, 5, 0⟩ "t0" "e0",
    .request "request-1" () .still,
    .tool (.drainReplica "replica-1"),
    .settle 0 timedOut .still .still]
  return (s₀, run)

theorem drain_safe_under_request :
    ∃ (x y : Transition (System ℕ Unit) (Input ℕ Unit × Report ℕ Unit)),
    x.pre.sendingTo 0 = some "replica-1" ∧ x.post.adminOf "replica-1" = some .drained ∧
    (routedOf y.label.2.calls).length = 1 ∧ Avoids "replica-1" y.label.2 := by
  obtain ⟨⟨s₀, tr, s⟩, h, hc⟩ := exists_of_check drainUnderRequest (fun run => match run.2.1 with
    | [_, _, x, y] => decide (x.pre.sendingTo 0 = some "replica-1") &&
        decide ((routedOf y.label.2.calls).length = 1)
    | _ => false) (by decide)
  obtain ⟨_, h₀, h⟩ := ok_of_bind h
  obtain ⟨_, hr, h⟩ := ok_of_bind h
  cases Except.ok.inj h
  split at hc
  next first send x y htr =>
    obtain ⟨hwait, hround⟩ : _ ∧ _ := by simpa using hc
    obtain rfl : tr = [first, send] ++ x :: [y] := htr
    obtain ⟨hexec, hlabels⟩ := exec_of_replay hr
    simp only [List.cons_append, List.nil_append, List.map_cons, List.map_nil,
      List.cons.injEq] at hlabels
    obtain ⟨-, -, hx, hy, -⟩ := hlabels
    obtain ⟨hdrained, hall⟩ := drain_safe h₀ hexec (r := "replica-1") (by decide) hx
      (by simp [hy])
    exact ⟨x, y, hwait, hdrained, hround, (hall y (by simp)).1⟩
  · cases hc

end System

end WhyRouted
