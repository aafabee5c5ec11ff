import WhyRouted.Tools

/-! # Every round accounts for the fleet

A `route` outcome is a partition of the registry it ran on: each replica is a candidate, or
excluded with the reason that takes precedence, or, under latency-weighted alone, unscored for
want of a measurement.  `AccountsFor` states it as a whole and `route_accountsFor` proves it of
every engine state, registry, config and exclude list. -/

namespace WhyRouted

variable {ν : Type}

/-- Why a round excludes a replica; a drain is the more specific cause. -/
def ExcludedFor (exclude : Option (List String)) (r : ReplicaState ν) : ExclusionReason → Prop
  | .drained => r.admin = .drained
  | .unhealthy => r.admin = .active ∧ r.runtime.health ≠ .healthy
  | .alreadyTried =>
      r.admin = .active ∧ r.runtime.health = .healthy ∧ r.id ∈ exclude.getD []

/-- What a round owes the fleet `replicas` it ran on. -/
structure AccountsFor (replicas : List (ReplicaState ν)) (config : RoutingConfig ν)
    (exclude : Option (List String)) (result : RouteResult ν) : Prop where
  /-- No replica is reported twice. -/
  once : (result.candidates.map (·.replicaId) ++ result.excluded.map (·.replicaId)).Nodup
  /-- The excluded are exactly those with a reason, under that reason. -/
  excluded_iff : ∀ e : ExcludedCandidate, e ∈ result.excluded ↔
    ∃ r ∈ replicas, r.id = e.replicaId ∧ ExcludedFor exclude r e.reason
  /-- The candidates are exactly the others, with their load and latency; latency-weighted
  alone leaves out those without a measurement. -/
  candidates_iff : ∀ m : Measured ν, m ∈ result.candidates.map (·.measured) ↔
    ∃ r ∈ replicas, r.measured = m ∧ r.admin = .active ∧ r.runtime.health = .healthy ∧
      r.id ∉ exclude.getD [] ∧
      (config.strategyName = .latencyWeighted → r.runtime.latencyMs ≠ none)
  picked_mem : ∀ id, result.outcome = .ok id → id ∈ result.candidates.map (·.replicaId)
  noHealthy_iff : result.outcome = .error .noHealthyReplicas ↔
    ∀ r ∈ replicas, ¬ (r.admin = .active ∧ r.runtime.health = .healthy)
  /-- The drain and restore tools agree on when nothing is routable. -/
  routableReplicas_iff : ∀ id s, stateOf replicas id = some s →
    (result.outcome = .error .noHealthyReplicas ↔ s.routableReplicas = 0)
  noRoutable_iff : result.outcome = .error .noRoutableReplica ↔
    (∃ r ∈ replicas, r.admin = .active ∧ r.runtime.health = .healthy) ∧ result.candidates = []

theorem excludedFor_droppedReason {exclude : Option (List String)} {r : ReplicaState ν}
    (h : r.admin = .drained ∨ r.runtime.health ≠ .healthy) (reason : ExclusionReason) :
    reason = droppedReason r ↔ reason ≠ .alreadyTried ∧ ExcludedFor exclude r reason := by
  cases hadmin : r.admin with
  | drained => cases reason <;> simp [droppedReason, ExcludedFor, hadmin]
  | active =>
      have hhealth : r.runtime.health ≠ .healthy := by simpa [hadmin] using h
      cases reason <;> simp [droppedReason, ExcludedFor, hadmin, hhealth]

theorem excludedFor_dropped {exclude : Option (List String)} {r : ReplicaState ν}
    {reason : ExclusionReason} (h : ExcludedFor exclude r reason) (hne : reason ≠ .alreadyTried) :
    r.admin = .drained ∨ r.runtime.health ≠ .healthy := by
  cases reason with
  | drained => exact Or.inl h
  | unhealthy => exact Or.inr h.2
  | alreadyTried => exact absurd rfl hne

variable [JsNumber ν] (engine : Engine) (registry : Registry ν) (config : RoutingConfig ν)
  (exclude : Option (List String))

theorem candidates_replicaId :
    (engine.route registry.items config exclude).1.candidates.map (·.replicaId) =
      (scoredReplicas registry.items config exclude).map (·.id) := by
  have h := congrArg (List.map Measured.replicaId)
    (route_measured engine registry.items config exclude)
  simpa [List.map_map, Function.comp_def, CandidateScore.measured, ReplicaState.measured] using h

theorem route_once : ((engine.route registry.items config exclude).1.candidates.map (·.replicaId) ++
    (engine.route registry.items config exclude).1.excluded.map (·.replicaId)).Nodup := by
  rw [candidates_replicaId, route_excluded, List.map_append, List.map_map, List.map_map]
  have hids : ((poolReplicas registry.items exclude ++ (droppedReplicas registry.items ++
      triedReplicas registry.items exclude)).map (fun r => r.id)).Nodup :=
    ((filters_perm registry.items exclude).map _).nodup_iff.mpr registry.nodup
  have hscored : ((scoredReplicas registry.items config exclude).map (·.id)).Sublist
      ((poolReplicas registry.items exclude).map (·.id)) := List.filter_sublist.map _
  rw [List.map_append, List.map_append] at hids
  exact hids.sublist (hscored.append (List.Sublist.refl _))

theorem mem_route_excluded (e : ExcludedCandidate) :
    e ∈ (engine.route registry.items config exclude).1.excluded ↔
      ∃ r ∈ registry.items, r.id = e.replicaId ∧ ExcludedFor exclude r e.reason := by
  obtain ⟨id, reason⟩ := e
  simp only [route_excluded, List.mem_append, List.mem_map, ExcludedCandidate.mk.injEq]
  constructor
  · rintro (⟨r, hr, rfl, hreason⟩ | ⟨r, hr, rfl, rfl⟩)
    · obtain ⟨hmem, hdrop⟩ := mem_droppedReplicas.mp hr
      exact ⟨r, hmem, rfl, ((excludedFor_droppedReason hdrop reason).mp hreason.symm).2⟩
    · obtain ⟨hkept, htried⟩ := mem_triedReplicas.mp hr
      obtain ⟨hmem, hadmin, hhealth⟩ := mem_keptReplicas.mp hkept
      exact ⟨r, hmem, rfl, hadmin, hhealth, htried⟩
  · rintro ⟨r, hr, rfl, hex⟩
    by_cases hne : reason = .alreadyTried
    · subst hne
      obtain ⟨hadmin, hhealth, htried⟩ := hex
      exact Or.inr ⟨r, mem_triedReplicas.mpr
        ⟨mem_keptReplicas.mpr ⟨hr, hadmin, hhealth⟩, htried⟩, rfl, rfl⟩
    · have hdrop := excludedFor_dropped hex hne
      exact Or.inl ⟨r, mem_droppedReplicas.mpr ⟨hr, hdrop⟩, rfl,
        ((excludedFor_droppedReason hdrop reason).mpr ⟨hne, hex⟩).symm⟩

theorem mem_route_candidates (m : Measured ν) :
    m ∈ (engine.route registry.items config exclude).1.candidates.map (·.measured) ↔
      ∃ r ∈ registry.items, r.measured = m ∧ r.admin = .active ∧ r.runtime.health = .healthy ∧
        r.id ∉ exclude.getD [] ∧
        (config.strategyName = .latencyWeighted → r.runtime.latencyMs ≠ none) := by
  simp only [route_measured, List.mem_map, mem_scoredReplicas, scores_eq_true_iff]
  constructor
  · rintro ⟨r, ⟨hr, h⟩, hm⟩
    exact ⟨r, hr, hm, h⟩
  · rintro ⟨r, hr, hm, h⟩
    exact ⟨r, ⟨hr, h⟩, hm⟩

omit [JsNumber ν] in
theorem keptReplicas_eq_nil_iff {replicas : List (ReplicaState ν)} : keptReplicas replicas = [] ↔
    ∀ r ∈ replicas, ¬ (r.admin = .active ∧ r.runtime.health = .healthy) := by
  rw [List.eq_nil_iff_forall_not_mem]
  simp only [mem_keptReplicas, not_and]

/-- **Every round accounts for every replica exactly once.** -/
theorem route_accountsFor :
    AccountsFor registry.items config exclude (engine.route registry.items config exclude).1 where
  once := route_once engine registry config exclude
  excluded_iff := mem_route_excluded engine registry config exclude
  candidates_iff := mem_route_candidates engine registry config exclude
  picked_mem := by
    intro id h
    obtain ⟨r, hr, rfl⟩ := route_ok engine registry.items config exclude h
    rw [candidates_replicaId]
    exact List.mem_map_of_mem hr
  noHealthy_iff := by
    rw [route_noHealthy_iff, keptReplicas_eq_nil_iff]
  routableReplicas_iff := by
    intro id s hs
    rw [route_noHealthy_iff, routableReplicas_of_stateOf hs, List.length_eq_zero_iff]
  noRoutable_iff := by
    rw [route_noRoutable_iff, Ne, keptReplicas_eq_nil_iff]
    have hnil : (engine.route registry.items config exclude).1.candidates = [] ↔
        scoredReplicas registry.items config exclude = [] := by
      rw [← List.map_eq_nil_iff (f := (·.measured)), route_measured, List.map_eq_nil_iff]
    rw [hnil]
    simp only [not_forall, not_not, exists_prop]

end WhyRouted
