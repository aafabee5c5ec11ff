import Mathlib.Algebra.Order.Ring.Nat
import WhyRouted.RoundAccount
import WhyRouted.Runs

/-! # Which healthy replicas are in rotation

Rotation is decided in three places: the hysteresis automaton keeps a replica healthy through
fewer than `N` failed probes, the scheduler clears its latency at each of them, and
latency-weighted scores no replica without a latency.  Together, while nothing else takes a
healthy replica out, it is a candidate exactly when the strategy in force is another, or its
last probe succeeded (`candidate_iff`). -/

namespace WhyRouted

open ControlPlane

variable {ν : Type} [JsNumber ν] {th : Thresholds} {cp cp₀ s t t' : ControlPlane ν}
  {tr₁ tr₂ : Trace ν} {replicas : List Replica} {config : RoutingConfig ν} {r : String}

/-- Nothing in `tr₂`, after `tr₁`, takes `r` out of rotation: no ejection, no drain, and never
`N` failed probes in a row. -/
structure Undisturbed (th : Thresholds) (r : String) (tr₁ tr₂ : Trace ν) : Prop where
  ejected : ∀ x ∈ tr₂, eventOf r x.label.1 ≠ some .ejected
  drained : ∀ x ∈ tr₂, x.label.1 ≠ .tool (.drainReplica r)
  failures : ∀ l, l <+: tr₂ → failRun (history r (tr₁ ++ l)) < th.unhealthyThreshold

/-- Registered, active and healthy. -/
def InService (cp : ControlPlane ν) (r : String) : Prop :=
  ∃ state, cp.registry.get? r = some state ∧ state.admin = .active ∧
    state.runtime.health = .healthy

omit [JsNumber ν] in
theorem adminOf_eq_drained {a : Action ν} (h : adminOf r a = some .drained) :
    a = .tool (.drainReplica r) := by
  unfold adminOf at h
  split at h
  · split_ifs at h with hr
    rw [hr]
  · split_ifs at h
    cases h
  · cases h

omit [JsNumber ν] in
theorem Undisturbed.of_append {l l' : Trace ν} (hu : Undisturbed th r tr₁ (l ++ l')) :
    Undisturbed th r tr₁ l where
  ejected x hx := hu.ejected x (List.mem_append_left _ hx)
  drained x hx := hu.drained x (List.mem_append_left _ hx)
  failures l₁ hl₁ := hu.failures l₁ (hl₁.trans (List.prefix_append _ _))

/-- Short of `N` failures and of an ejection, an event leaves a healthy replica healthy. -/
theorem healthy_of_next {events : List HealthEvent} {e : HealthEvent}
    (hh : (ReplicaHysteresis.run th events).health = .healthy) (he : e ≠ .ejected)
    (hlt : failRun (events ++ [e]) < th.unhealthyThreshold) :
    (ReplicaHysteresis.run th (events ++ [e])).health = .healthy := by
  have hunhealthy : (ReplicaHysteresis.run th (events ++ [e])).health ≠ .unhealthy := by
    rw [Ne, becomes_unhealthy_iff th events e (by rw [hh]; decide)]
    rintro (⟨-, hrun⟩ | hej)
    · omega
    · exact he hej
  have hunknown := health_ne_unknown th events e (by rw [hh]; decide)
  cases h : (ReplicaHysteresis.run th (events ++ [e])).health with
  | healthy => rfl
  | unhealthy => exact absurd h hunhealthy
  | unknown => exact absurd h hunknown

theorem inService_of_undisturbed (h₀ : wire replicas config = .ok cp₀)
    (h₁ : Exec (Step th) cp₀ tr₁ s) (hr : InService s r) (h₂ : Exec (Step th) s tr₂ t)
    (hu : Undisturbed th r tr₁ tr₂) : InService t r := by
  induction h₂ with
  | nil => exact hr
  | @snoc tr s' t a hexec hs ih =>
      obtain ⟨state, hget, hadmin, hhealth⟩ := ih hu.of_append
      have hx : ⟨s', a, t⟩ ∈ tr ++ [⟨s', a, t⟩] := by simp
      obtain ⟨hm, -⟩ := record_of_exec h₀ (h₁.trans hexec)
      have hget' : t.registry.get? r = some (touch th r a.1 state) := by
        rw [(act_touches hm hs).2, hget]
        rfl
      refine ⟨touch th r a.1 state, hget', ?_, ?_⟩
      · rw [admin_touch, hadmin]
        cases ha : adminOf r a.1 with
        | none => rfl
        | some admin =>
            cases admin with
            | active => rfl
            | drained => exact absurd (adminOf_eq_drained ha) (hu.drained _ hx)
      · show (touch th r a.1 state).runtime.hysteresis.health = .healthy
        rw [hysteresis_touch]
        cases he : eventOf r a.1 with
        | none => exact hhealth
        | some e =>
            have hrun := hysteresis_of_exec h₀ (h₁.trans hexec) hget
            have hlt := hu.failures _ (List.prefix_refl _)
            rw [← List.append_assoc, history_append, history_singleton, he] at hlt
            rw [Option.elim_some, hrun, ← ReplicaHysteresis.run_concat]
            refine healthy_of_next (hrun ▸ hhealth) ?_ hlt
            rintro rfl
            exact hu.ejected _ hx he

/-- Whether a replica in service is a candidate depends on its latency under latency-weighted
alone. -/
theorem candidate_iff_scores (engine : Engine) (registry : Registry ν) (config : RoutingConfig ν)
    (exclude : Option (List String)) {state : ReplicaState ν} (hget : registry.get? r = some state)
    (hadmin : state.admin = .active) (hhealth : state.runtime.health = .healthy)
    (hex : r ∉ exclude.getD []) :
    r ∈ (engine.route registry.items config exclude).1.candidates.map (·.replicaId) ↔
      (config.strategyName = .latencyWeighted → state.runtime.latencyMs ≠ none) := by
  obtain ⟨hmem, hid⟩ := registry.get?_eq_some_iff.mp hget
  rw [candidates_replicaId, List.mem_map]
  constructor
  · rintro ⟨r', hr', hid'⟩
    obtain ⟨hmem', -, -, -, hscore⟩ := (mem_scoredReplicas _ _ _).mp hr'
    rw [registry.eq_of_mem_of_key_eq hmem hmem' (hid.trans hid'.symm)]
    exact (scores_eq_true_iff _ _).mp hscore
  · intro h
    refine ⟨state, (mem_scoredReplicas _ _ _).mpr ⟨hmem, hadmin, hhealth, ?_, ?_⟩, hid⟩
    · rw [hid]; exact hex
    · exact (scores_eq_true_iff _ _).mpr h

/-- **When a healthy replica is in rotation.**  Routing at the end of an undisturbed window, a
replica that was in service at its start is a candidate exactly when the strategy in force is
not latency-weighted or its last probe did not fail; and then the round picks. -/
theorem candidate_iff (h₀ : wire replicas config = .ok cp₀) (h₁ : Exec (Step th) cp₀ tr₁ s)
    (hr : InService s r) (h₂ : Exec (Step th) s tr₂ t) (hu : Undisturbed th r tr₁ tr₂)
    {exclude : Option (List String)} (hex : r ∉ exclude.getD []) {decision : RouteResult ν}
    (h₃ : t.act th (.route exclude) = .ok (t', .routed decision)) :
    (r ∈ decision.candidates.map (·.replicaId) ↔
      t.config.strategyName ≠ .latencyWeighted ∨ failRun (history r (tr₁ ++ tr₂)) = 0) ∧
    (t.config.strategyName ≠ .latencyWeighted ∨ failRun (history r (tr₁ ++ tr₂)) = 0 →
      ∃ id, decision.outcome = .ok id) := by
  obtain ⟨state, hget, hadmin, hhealth⟩ := inService_of_undisturbed h₀ h₁ hr h₂ hu
  obtain rfl : (t.engine.route t.registry.items t.config exclude).1 = decision := by
    have := (Prod.mk.inj (Except.ok.inj h₃)).2
    injection this
  have hrun := hysteresis_of_exec h₀ (h₁.trans h₂) hget
  have hfail : state.runtime.consecFailures = failRun (history r (tr₁ ++ tr₂)) := by
    have hne : (ReplicaHysteresis.run th (history r (tr₁ ++ tr₂))).health ≠ .unhealthy := by
      have hhealth' : state.runtime.hysteresis.health = .healthy := hhealth
      rw [← hrun, hhealth']
      decide
    rw [← (tracks_run th (history r (tr₁ ++ tr₂))).failures hne, ← hrun]
    rfl
  have hlatency := (measured_of_exec h₀ (h₁.trans h₂) hget).none_iff hhealth
  rw [hfail] at hlatency
  have hiff := candidate_iff_scores t.engine t.registry t.config exclude hget hadmin hhealth hex
  have hmem : r ∈ (t.engine.route t.registry.items t.config exclude).1.candidates.map
      (·.replicaId) ↔ t.config.strategyName ≠ .latencyWeighted ∨
        failRun (history r (tr₁ ++ tr₂)) = 0 := by
    rw [hiff, imp_iff_not_or, Ne, hlatency, not_not]
  refine ⟨hmem, ?_⟩
  intro hin
  apply route_picks
  intro hnil
  have hcandidate := hmem.mpr hin
  rw [candidates_replicaId, hnil] at hcandidate
  cases hcandidate

/-! ### One blip -/

/-- One replica under latency-weighted, probed once in time and once in vain, then asked for. -/
def blip : Except String (ControlPlane ℕ × (Trace ℕ × ControlPlane ℕ) ×
    (Trace ℕ × ControlPlane ℕ) × ControlPlane ℕ × Output ℕ) := do
  let cp₀ ← wire [⟨"replica-1", ""⟩] ⟨.latencyWeighted, ⟨1, 1⟩⟩
  let up ← replay (act .twoOne) cp₀ [.probed "replica-1" ⟨true, 5, 0⟩ "t0" "e0"]
  let down ← replay (act .twoOne) up.2 [.probed "replica-1" ⟨false, 500, 0⟩ "t1" "e1"]
  let asked ← down.2.act .twoOne (.route none)
  return (cp₀, up, down, asked)

theorem blip_run : ∃ (cp₀ s t t' : ControlPlane ℕ) (tr₁ tr₂ : Trace ℕ) (decision : RouteResult ℕ),
    wire [⟨"replica-1", ""⟩] ⟨.latencyWeighted, ⟨1, 1⟩⟩ = .ok cp₀ ∧
    Exec (Step .twoOne) cp₀ tr₁ s ∧ InService s "replica-1" ∧ Exec (Step .twoOne) s tr₂ t ∧
    Undisturbed .twoOne "replica-1" tr₁ tr₂ ∧
    t.act .twoOne (.route none) = .ok (t', .routed decision) ∧
    decision.candidates = [] ∧ decision.outcome = .error .noRoutableReplica := by
  obtain ⟨⟨cp₀, ⟨tr₁, s⟩, ⟨tr₂, t⟩, t', out⟩, h, hc⟩ := exists_of_check blip (fun run =>
    (run.2.1.2.registry.get? "replica-1").any (fun state : ReplicaState ℕ =>
      decide (state.admin = .active) && decide (state.runtime.health = .healthy)) &&
    (match run.2.2.2.2 with
      | .routed ⟨.error .noRoutableReplica, _, [], _⟩ => true
      | _ => false)) (by decide)
  obtain ⟨_, h₀, h⟩ := ok_of_bind h
  obtain ⟨_, h₁, h⟩ := ok_of_bind h
  obtain ⟨_, h₂, h⟩ := ok_of_bind h
  obtain ⟨_, h₃, h⟩ := ok_of_bind h
  cases Except.ok.inj h
  obtain ⟨hexec₁, hlabels₁⟩ := exec_of_replay h₁
  obtain ⟨hexec₂, hlabels₂⟩ := exec_of_replay h₂
  simp only [Bool.and_eq_true, Option.any_eq_true, decide_eq_true_eq] at hc
  obtain ⟨⟨state, hget, hadmin, hhealth⟩, hout⟩ := hc
  have hlabel : ∀ x ∈ tr₂, x.label.1 = .probed "replica-1" ⟨false, 500, 0⟩ "t1" "e1" := by
    intro x hx
    have := List.mem_map_of_mem (f := fun x => x.label.1) hx
    rw [hlabels₂] at this
    exact List.mem_singleton.mp this
  split at hout
  · refine ⟨cp₀, s, t, t', tr₁, tr₂, _, h₀, hexec₁, ⟨state, hget, hadmin, hhealth⟩, hexec₂,
      ⟨?_, ?_, ?_⟩, h₃, rfl, rfl⟩
    · intro x hx
      rw [hlabel x hx]
      decide
    · intro x hx
      rw [hlabel x hx]
      simp
    · intro l hl
      have hl' := hl.map fun x => x.label.1
      rw [hlabels₂] at hl'
      rw [history_eq_filterMap, List.map_append, hlabels₁]
      rcases List.prefix_cons_iff.mp hl' with hnil | ⟨l', hcons, hl'⟩
      · rw [hnil]; decide
      · rw [hcons, List.prefix_nil.mp hl']; decide
  · cases hout

/-- With `N = 2`, one failed probe takes the only replica, still healthy, out of rotation. -/
theorem blip_leaves_rotation : ∃ (cp₀ s t t' : ControlPlane ℕ) (tr₁ tr₂ : Trace ℕ)
    (decision : RouteResult ℕ),
    wire [⟨"replica-1", ""⟩] ⟨.latencyWeighted, ⟨1, 1⟩⟩ = .ok cp₀ ∧
    Exec (Step .twoOne) cp₀ tr₁ s ∧ InService s "replica-1" ∧ Exec (Step .twoOne) s tr₂ t ∧
    Undisturbed .twoOne "replica-1" tr₁ tr₂ ∧
    t.act .twoOne (.route none) = .ok (t', .routed decision) ∧
    "replica-1" ∉ decision.candidates.map (·.replicaId) ∧
    decision.outcome = .error .noRoutableReplica := by
  obtain ⟨cp₀, s, t, t', tr₁, tr₂, decision, h₀, h₁, hr, h₂, hu, h₃, hnil, ho⟩ := blip_run
  exact ⟨cp₀, s, t, t', tr₁, tr₂, decision, h₀, h₁, hr, h₂, hu, h₃, by simp [hnil], ho⟩

theorem candidate_iff_blip : ∃ (s t t' : ControlPlane ℕ) (tr₁ tr₂ : Trace ℕ)
    (decision : RouteResult ℕ), InService s "replica-1" ∧ Exec (Step .twoOne) s tr₂ t ∧
    t.act .twoOne (.route none) = .ok (t', .routed decision) ∧
    ("replica-1" ∈ decision.candidates.map (·.replicaId) ↔
      t.config.strategyName ≠ .latencyWeighted ∨
        failRun (history "replica-1" (tr₁ ++ tr₂)) = 0) := by
  obtain ⟨cp₀, s, t, t', tr₁, tr₂, decision, h₀, h₁, hr, h₂, hu, h₃, -⟩ := blip_run
  obtain ⟨hiff, -⟩ := candidate_iff h₀ h₁ hr h₂ hu (by simp) h₃
  exact ⟨s, t, t', tr₁, tr₂, decision, hr, h₂, h₃, hiff⟩

end WhyRouted
