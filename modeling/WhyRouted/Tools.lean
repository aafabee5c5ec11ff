import WhyRouted.Engine

/-! # The action tools

The handlers of `src/mcp/tools/replica-admin.ts` (shared by `drain_replica` and
`restore_replica`), `set-routing-strategy.ts` and `set-scoring-weights.ts`.  A handler reads
the state before its write, writes, and reads back; a failure is decided before any write.
Each handler is synchronous, so nothing interleaves with its two reads. -/

namespace WhyRouted

variable {ν : Type}

/-- What an action handler returns (`src/mcp/action.ts`). -/
inductive ActionOutput (S : Type) where
  | applied (before : Option S) (after : S) (notes : List String)
  | unknownReplica (reason : String)
  | invalidInput (reason : String)
  | unsupported (reason : String)

/-! ### Drain and restore -/

/-- What `drain_replica` and `restore_replica` report before and after the write. -/
structure ReplicaAdminState where
  replicaId : String
  admin : ReplicaAdmin
  health : ReplicaHealth
  routable : Bool
  routableReplicas : ℕ
deriving DecidableEq, Repr

/-- Whether the engine can pick the replica. -/
def isRoutable (r : ReplicaState ν) : Bool :=
  decide (r.admin = .active) && decide (r.runtime.health = .healthy)

/-- The view of one replica in a snapshot of the fleet. -/
def stateOf (replicas : List (ReplicaState ν)) (replicaId : String) : Option ReplicaAdminState :=
  (replicas.find? fun r => r.id = replicaId).map fun replica =>
    { replicaId
      admin := replica.admin
      health := replica.runtime.health
      routable := isRoutable replica
      routableReplicas := (replicas.filter isRoutable).length }

/-- The advisories of a finished drain or restore. -/
def adminNotes (target : ReplicaAdmin) (after : ReplicaAdminState) : List String :=
  (if target = .drained ∧ after.routableReplicas = 0 then
    ["no replica is routable now: requests will fail until one is restored"] else []) ++
  (if target = .active ∧ after.health ≠ .healthy then
    ["still not routable: the replica is " ++ after.health.text ++
      ", and restoring clears only the drain"] else [])

/-- Move one replica to `target` and report what changed. -/
def setReplicaAdmin (registry : Registry ν) (replicaId : String) (target : ReplicaAdmin) :
    Except String (ActionOutput ReplicaAdminState × Registry ν) :=
  match stateOf registry.items replicaId with
  | none =>
      .ok (.unknownReplica ("no replica with id \"" ++ replicaId ++ "\" is registered"), registry)
  | some before => do
      let registry' ← registry.setAdmin replicaId target
      match stateOf registry'.items replicaId with
      | none => .error ("replica \"" ++ replicaId ++
          "\" vanished from the registry during the update")
      | some after => return (.applied before after (adminNotes target after), registry')

/-! ### Strategy and weights -/

variable [JsNumber ν]

/-- `set_routing_strategy`: an unknown name is rejected before anything is written. -/
def setRoutingStrategy (config : RoutingConfig ν) (strategy : String) :
    Except String (ActionOutput StrategyName × RoutingConfig ν) :=
  match parseStrategyName strategy with
  | none => .ok (.invalidInput ("unknown routing strategy " ++ jsonString strategy ++
      ", expected one of " ++ ", ".intercalate (strategyNames.map StrategyName.text)), config)
  | some _ => do
      let config' ← config.setStrategyName strategy
      return (.applied config.strategyName config'.strategyName [], config')

/-- `set_scoring_weights`: rejected weights leave the stored ones untouched. -/
def setScoringWeights (config : RoutingConfig ν) (next : ScoringWeights ν) :
    Except String (ActionOutput (ScoringWeights ν) × RoutingConfig ν) :=
  match assertValidWeights next with
  | .error reason => .ok (.invalidInput reason, config)
  | .ok () => do
      let config' ← config.setWeights next
      let notes := if config'.strategyName = .latencyWeighted then [] else
        ["the active strategy is " ++ config'.strategyName.text ++
          ", which does not use scoring weights: they are stored but have no effect until " ++
          "latency-weighted is active"]
      return (.applied config.weights config'.weights notes, config')

/-! ### What the handlers do to the state -/

section spec

omit [JsNumber ν]

variable {registry : Registry ν} {replicaId : String} {target : ReplicaAdmin}

theorem stateOf_eq_none_iff : stateOf registry.items replicaId = none ↔
    registry.get? replicaId = none := by
  simp [stateOf, KeyedList.get?]

theorem stateOf_of_get? {replica : ReplicaState ν} (h : registry.get? replicaId = some replica) :
    stateOf registry.items replicaId = some
      { replicaId, admin := replica.admin, health := replica.runtime.health
        routable := isRoutable replica
        routableReplicas := (registry.items.filter isRoutable).length } := by
  unfold stateOf
  have hfind : (registry.items.find? fun r => r.id = replicaId) = some replica := h
  rw [hfind, Option.map_some]

theorem routableReplicas_of_stateOf {replicas : List (ReplicaState ν)} {s : ReplicaAdminState}
    (h : stateOf replicas replicaId = some s) :
    s.routableReplicas = (keptReplicas replicas).length := by
  obtain ⟨r, _, rfl⟩ := Option.map_eq_some_iff.mp h
  have hkeep : (isRoutable : ReplicaState ν → Bool) = fun replica =>
      decide (replica.admin ≠ .drained) && decide (replica.runtime.health = .healthy) := by
    funext r
    cases hr : r.admin <;> simp [isRoutable, hr]
  simp only [keptReplicas, hkeep]

theorem id_withAdmin (admin : ReplicaAdmin) (state : ReplicaState ν) :
    ({ state with admin } : ReplicaState ν).id = state.id := rfl

/-- The registry with one replica's `admin` written, and nothing else. -/
def Registry.withAdmin (registry : Registry ν) (replicaId : String) (admin : ReplicaAdmin) :
    Registry ν :=
  registry.modify replicaId (fun state => { state with admin }) (id_withAdmin admin)

/-- What a drain or restore does, with the states it reports: it throws nothing, and it either
found no such replica and changed nothing or wrote that replica's `admin`. -/
theorem setReplicaAdmin_spec (registry : Registry ν) (replicaId : String) (target : ReplicaAdmin) :
    (registry.get? replicaId = none ∧ ∃ reason,
      setReplicaAdmin registry replicaId target = .ok (.unknownReplica reason, registry)) ∨
    ∃ before after notes, stateOf registry.items replicaId = some before ∧
      stateOf (registry.withAdmin replicaId target).items replicaId = some after ∧
      after.admin = target ∧
      setReplicaAdmin registry replicaId target =
        .ok (.applied (some before) after notes, registry.withAdmin replicaId target) := by
  unfold setReplicaAdmin
  cases hget : registry.get? replicaId with
  | none => exact Or.inl ⟨rfl, _, by rw [stateOf_eq_none_iff.mpr hget]⟩
  | some replica =>
      have hset : registry.setAdmin replicaId target = .ok (registry.withAdmin replicaId target) :=
        Registry.update_ok ⟨replica, hget⟩
      have hwritten : (registry.withAdmin replicaId target).get? replicaId =
          some { replica with admin := target } := by
        unfold Registry.withAdmin
        rw [KeyedList.get?_modify_self, hget, Option.map_some]
      have hbefore := stateOf_of_get? hget
      obtain ⟨after, hafter, hadmin⟩ : ∃ after,
          stateOf (registry.withAdmin replicaId target).items replicaId = some after ∧
            after.admin = target := ⟨_, stateOf_of_get? hwritten, rfl⟩
      refine Or.inr ⟨_, after, adminNotes target after, hbefore, hafter, hadmin, ?_⟩
      simp only [hbefore, hset, bind, Except.bind, hafter]
      rfl

theorem setReplicaAdmin_cases (registry : Registry ν) (replicaId : String) (target : ReplicaAdmin) :
    (registry.get? replicaId = none ∧ ∃ reason,
      setReplicaAdmin registry replicaId target = .ok (.unknownReplica reason, registry)) ∨
    ∃ before after notes registry', registry.setAdmin replicaId target = .ok registry' ∧
      setReplicaAdmin registry replicaId target = .ok (.applied before after notes, registry') := by
  rcases setReplicaAdmin_spec registry replicaId target with
    hnone | ⟨before, after, notes, hbefore, -, -, hok⟩
  · exact Or.inl hnone
  · refine Or.inr ⟨_, after, notes, _, Registry.update_ok ?_, hok⟩
    rw [← Option.isSome_iff_exists, Option.isSome_iff_ne_none]
    intro hnone
    rw [stateOf_eq_none_iff.mpr hnone] at hbefore
    cases hbefore

end spec

omit [JsNumber ν] in
theorem setRoutingStrategy_spec (config : RoutingConfig ν) (name : String) :
    (∃ reason, setRoutingStrategy config name = .ok (.invalidInput reason, config)) ∨
    ∃ strategy : StrategyName, strategy.text = name ∧ setRoutingStrategy config name =
      .ok (.applied (some config.strategyName) strategy [],
        { config with strategyName := strategy }) := by
  unfold setRoutingStrategy
  cases hparse : parseStrategyName name with
  | none => exact Or.inl ⟨_, rfl⟩
  | some strategy =>
      have hnamed : strategy.text = name := by
        simpa using List.find?_some hparse
      refine Or.inr ⟨strategy, hnamed, ?_⟩
      simp only [RoutingConfig.setStrategyName, assertValidStrategyName, hparse]
      rfl

theorem setScoringWeights_spec (config : RoutingConfig ν) (weights : ScoringWeights ν) :
    (∃ reason, setScoringWeights config weights = .ok (.invalidInput reason, config)) ∨
    ∃ notes, setScoringWeights config weights =
      .ok (.applied (some config.weights) weights notes, { config with weights }) := by
  unfold setScoringWeights
  cases hvalid : assertValidWeights weights with
  | error reason => exact Or.inl ⟨_, rfl⟩
  | ok _ =>
      right
      simp only [RoutingConfig.setWeights, hvalid]
      exact ⟨_, rfl⟩

end WhyRouted
