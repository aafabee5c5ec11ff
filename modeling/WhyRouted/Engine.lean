import WhyRouted.Registry
import WhyRouted.Strategies

/-! # The routing config and the routing engine

`src/routing/config.ts` and `src/routing/engine.ts`.  The engine keeps one strategy instance,
rebuilt only when the configured name changes, and reads the registry and the config afresh on
every `route`.

`route` filters the fleet twice (what it keeps, what it drops), splits what it kept by the
caller's `exclude`, and asks the strategy to score and to pick.  The section after it states,
without the case analysis on the early returns, what a result reports and when each outcome
happens. -/

namespace WhyRouted

variable {ν : Type} [JsNumber ν]

/-! ### Live routing config -/

/-- The active strategy name and scoring weights. -/
structure RoutingConfig (ν : Type) where
  strategyName : StrategyName
  weights : ScoringWeights ν
deriving DecidableEq, Repr

/-- `STRATEGY_NAMES`, in the order the factories are listed. -/
def strategyNames : List StrategyName := [.roundRobin, .leastLoaded, .latencyWeighted]

/-- The strategy a string names, if it names one. -/
def parseStrategyName (name : String) : Option StrategyName :=
  strategyNames.find? (fun n => n.text = name)

/-- The check of one weight. -/
def assertValidWeight (key : String) (value : ν) : Except String Unit :=
  if !JsNumber.isFinite value || JsNumber.lt value (JsNumber.ofNat 0) then
    .error (key ++ " must be a finite number >= 0, got " ++ JsNumber.json value)
  else .ok ()

/-- Throws unless both weights are finite and `>= 0`. -/
def assertValidWeights (weights : ScoringWeights ν) : Except String Unit := do
  assertValidWeight "loadWeight" weights.loadWeight
  assertValidWeight "latencyWeight" weights.latencyWeight

/-- Throws unless the string names a strategy. -/
def assertValidStrategyName (name : String) : Except String StrategyName :=
  match parseStrategyName name with
  | some n => .ok n
  | none => .error ("unknown routing strategy " ++ jsonString name ++ ", expected one of "
      ++ ", ".intercalate (strategyNames.map StrategyName.text))

namespace RoutingConfig

def setStrategyName (config : RoutingConfig ν) (name : String) :
    Except String (RoutingConfig ν) := do
  let strategyName ← assertValidStrategyName name
  return { config with strategyName }

def setWeights (config : RoutingConfig ν) (weights : ScoringWeights ν) :
    Except String (RoutingConfig ν) := do
  assertValidWeights weights
  return { config with weights }

end RoutingConfig

/-! ### The engine -/

inductive RouteError where
  | noHealthyReplicas
  | noRoutableReplica
deriving DecidableEq, Repr

/-- The error's name in a response body and in a decision record. -/
def RouteError.text : RouteError → String
  | noHealthyReplicas => "no_healthy_replicas"
  | noRoutableReplica => "no_routable_replica"

/-- Outcome of one `route` call, with what the round scored and excluded. -/
structure RouteResult (ν : Type) where
  outcome : Except RouteError String
  strategy : StrategyName
  candidates : List (CandidateScore ν)
  excluded : List ExcludedCandidate

/-- The engine's state: the strategy instance it holds, none before the first pick. -/
structure Engine where
  active : Option Strategy
deriving DecidableEq, Repr

/-- The held instance, or a fresh one when the configured name is another. -/
def Engine.strategyFor (engine : Engine) (name : StrategyName) : Strategy :=
  match engine.active with
  | some strategy => if strategy.name = name then strategy else createStrategy name
  | none => createStrategy name

section filters

omit [JsNumber ν]

variable (replicas : List (ReplicaState ν)) (exclude : Option (List String))

/-- The replicas a round keeps. -/
def keptReplicas : List (ReplicaState ν) :=
  replicas.filter fun replica =>
    decide (replica.admin ≠ .drained) && decide (replica.runtime.health = .healthy)

/-- The replicas a round drops before anything is scored. -/
def droppedReplicas : List (ReplicaState ν) :=
  replicas.filter fun replica =>
    decide (replica.admin = .drained) || decide (replica.runtime.health ≠ .healthy)

/-- How a dropped replica is reported: a drain is the more specific cause. -/
def droppedReason (replica : ReplicaState ν) : ExclusionReason :=
  if replica.admin = .drained then .drained else .unhealthy

/-- `exclude !== undefined && exclude.includes(replica.id)`. -/
def alreadyTried (replica : ReplicaState ν) : Bool := exclude.any (·.contains replica.id)

/-- The kept replicas the caller has not tried yet: what the strategy is handed. -/
def poolReplicas : List (ReplicaState ν) :=
  (keptReplicas replicas).filter fun replica => !alreadyTried exclude replica

/-- The kept replicas the caller has tried. -/
def triedReplicas : List (ReplicaState ν) :=
  (keptReplicas replicas).filter (alreadyTried exclude)

end filters

/-- Pick a replica for the next request, and the engine as the call leaves it. -/
def Engine.route (engine : Engine) (replicas : List (ReplicaState ν)) (config : RoutingConfig ν)
    (exclude : Option (List String)) : RouteResult ν × Engine :=
  let healthy := keptReplicas replicas
  let dropped := (droppedReplicas replicas).map fun replica =>
    (⟨replica.id, droppedReason replica⟩ : ExcludedCandidate)
  if healthy.length = 0 then
    (⟨.error .noHealthyReplicas, config.strategyName, [], dropped⟩, engine)
  else
    let excluded := dropped ++ (triedReplicas replicas exclude).map fun replica =>
      (⟨replica.id, .alreadyTried⟩ : ExcludedCandidate)
    let pool := poolReplicas replicas exclude
    let strategy := engine.strategyFor config.strategyName
    let candidates := strategy.score pool config.weights
    if pool.length = 0 then
      (⟨.error .noRoutableReplica, strategy.name, candidates, excluded⟩, ⟨some strategy⟩)
    else
      match strategy.pick pool config.weights with
      | (none, strategy') =>
          (⟨.error .noRoutableReplica, strategy.name, candidates, excluded⟩, ⟨some strategy'⟩)
      | (some replicaId, strategy') =>
          (⟨.ok replicaId, strategy.name, candidates, excluded⟩, ⟨some strategy'⟩)

/-! ### What a round reports -/

@[simp] theorem Engine.name_strategyFor (engine : Engine) (name : StrategyName) :
    (engine.strategyFor name).name = name := by
  unfold Engine.strategyFor
  split
  · split_ifs with h
    · exact h
    · exact Strategy.name_createStrategy name
  · exact Strategy.name_createStrategy name

section membership

omit [JsNumber ν]

variable {replicas : List (ReplicaState ν)} {exclude : Option (List String)} {r : ReplicaState ν}

theorem mem_keptReplicas : r ∈ keptReplicas replicas ↔
    r ∈ replicas ∧ r.admin = .active ∧ r.runtime.health = .healthy := by
  have hadmin : r.admin ≠ .drained ↔ r.admin = .active := by cases r.admin <;> simp
  simp [keptReplicas, hadmin]

theorem mem_droppedReplicas : r ∈ droppedReplicas replicas ↔
    r ∈ replicas ∧ (r.admin = .drained ∨ r.runtime.health ≠ .healthy) := by
  simp [droppedReplicas]

theorem alreadyTried_eq_true : alreadyTried exclude r = true ↔ r.id ∈ exclude.getD [] := by
  cases exclude <;> simp [alreadyTried]

theorem mem_poolReplicas : r ∈ poolReplicas replicas exclude ↔
    r ∈ keptReplicas replicas ∧ r.id ∉ exclude.getD [] := by
  simp [poolReplicas, ← alreadyTried_eq_true]

theorem mem_triedReplicas : r ∈ triedReplicas replicas exclude ↔
    r ∈ keptReplicas replicas ∧ r.id ∈ exclude.getD [] := by
  simp [triedReplicas, ← alreadyTried_eq_true]

/-- The two filters are complementary and the split by `exclude` is exact: together they list
the fleet once. -/
theorem filters_perm (replicas : List (ReplicaState ν)) (exclude : Option (List String)) :
    (poolReplicas replicas exclude ++
      (droppedReplicas replicas ++ triedReplicas replicas exclude)).Perm replicas := by
  have hpool : (poolReplicas replicas exclude ++ triedReplicas replicas exclude).Perm
      (keptReplicas replicas) :=
    List.perm_append_comm.trans (List.filter_append_perm _ _)
  have hfleet : (keptReplicas replicas ++ droppedReplicas replicas).Perm replicas := by
    have hdrop : droppedReplicas replicas = replicas.filter fun replica =>
        !(decide (replica.admin ≠ .drained) && decide (replica.runtime.health = .healthy)) := by
      unfold droppedReplicas
      congr 1
      funext replica
      simp [Bool.not_and]
    rw [hdrop]
    exact List.filter_append_perm _ _
  calc
    List.Perm (poolReplicas replicas exclude ++
          (droppedReplicas replicas ++ triedReplicas replicas exclude))
        (poolReplicas replicas exclude ++
          (triedReplicas replicas exclude ++ droppedReplicas replicas)) :=
      List.perm_append_comm.append_left _
    List.Perm _ (keptReplicas replicas ++ droppedReplicas replicas) := by
      rw [← List.append_assoc]
      exact hpool.append_right _
    List.Perm _ replicas := hfleet

end membership

section outcome

variable (engine : Engine) (replicas : List (ReplicaState ν)) (config : RoutingConfig ν)
  (exclude : Option (List String))

/-- The candidates the configured strategy scores. -/
def scoredReplicas : List (ReplicaState ν) :=
  (poolReplicas replicas exclude).filter config.strategyName.scores

def roundPick : Option String :=
  ((engine.strategyFor config.strategyName).pick (poolReplicas replicas exclude)
    config.weights).1

theorem route_strategy :
    (engine.route replicas config exclude).1.strategy = config.strategyName := by
  simp only [Engine.route]
  split_ifs
  · rfl
  · simp
  · split <;> simp

theorem route_excluded : (engine.route replicas config exclude).1.excluded =
    (droppedReplicas replicas).map (fun r => ⟨r.id, droppedReason r⟩) ++
      (triedReplicas replicas exclude).map (fun r => ⟨r.id, .alreadyTried⟩) := by
  simp only [Engine.route]
  split_ifs with h
  · have hnil : triedReplicas replicas exclude = [] := by
      rw [triedReplicas, List.length_eq_zero_iff.mp h, List.filter_nil]
    simp [hnil]
  · rfl
  · split <;> rfl

theorem route_measured : (engine.route replicas config exclude).1.candidates.map (·.measured) =
    (scoredReplicas replicas config exclude).map (·.measured) := by
  simp only [Engine.route, scoredReplicas]
  split_ifs with h
  · have hnil : poolReplicas replicas exclude = [] := by
      rw [poolReplicas, List.length_eq_zero_iff.mp h, List.filter_nil]
    simp [hnil]
  · rw [measured_score, Engine.name_strategyFor]
  · split <;> rw [measured_score, Engine.name_strategyFor]

/-- The outcome, without the early return on an empty pool: nothing is picked from one. -/
theorem route_outcome : (engine.route replicas config exclude).1.outcome =
    if keptReplicas replicas = [] then .error .noHealthyReplicas
    else match roundPick engine replicas config exclude with
      | none => .error .noRoutableReplica
      | some id => .ok id := by
  simp only [Engine.route, List.length_eq_zero_iff]
  split_ifs with h hp
  · rfl
  · have hnone : roundPick engine replicas config exclude = none := by
      rw [roundPick, pick_eq_none_iff, hp, List.filter_nil]
    rw [hnone]
  · unfold roundPick
    split <;> simp_all

theorem route_ok {id : String} (h : (engine.route replicas config exclude).1.outcome = .ok id) :
    ∃ r ∈ scoredReplicas replicas config exclude, r.id = id := by
  rw [route_outcome] at h
  split_ifs at h
  cases hp : roundPick engine replicas config exclude with
  | none => simp [hp] at h
  | some picked =>
      simp only [hp, Except.ok.injEq] at h
      subst h
      simpa [scoredReplicas] using pick_mem hp

theorem route_noHealthy_iff :
    (engine.route replicas config exclude).1.outcome = .error .noHealthyReplicas ↔
      keptReplicas replicas = [] := by
  rw [route_outcome]
  split_ifs with h
  · simp [h]
  · cases roundPick engine replicas config exclude <;> simp [h]

theorem route_noRoutable_iff :
    (engine.route replicas config exclude).1.outcome = .error .noRoutableReplica ↔
      keptReplicas replicas ≠ [] ∧ scoredReplicas replicas config exclude = [] := by
  have hpick : roundPick engine replicas config exclude = none ↔
      scoredReplicas replicas config exclude = [] := by
    rw [roundPick, pick_eq_none_iff, Engine.name_strategyFor, scoredReplicas]
  rw [route_outcome, ← hpick]
  split_ifs with h
  · simp [h]
  · cases roundPick engine replicas config exclude <;> simp [h]

theorem route_picks (h : scoredReplicas replicas config exclude ≠ []) :
    ∃ id, (engine.route replicas config exclude).1.outcome = .ok id := by
  cases ho : (engine.route replicas config exclude).1.outcome with
  | ok id => exact ⟨id, rfl⟩
  | error e =>
      cases e with
      | noHealthyReplicas =>
          have hk := (route_noHealthy_iff engine replicas config exclude).mp ho
          simp [scoredReplicas, poolReplicas, hk] at h
      | noRoutableReplica =>
          exact absurd ((route_noRoutable_iff engine replicas config exclude).mp ho).2 h

omit [JsNumber ν] in
theorem mem_scoredReplicas {r : ReplicaState ν} : r ∈ scoredReplicas replicas config exclude ↔
    r ∈ replicas ∧ r.admin = .active ∧ r.runtime.health = .healthy ∧
      r.id ∉ exclude.getD [] ∧ config.strategyName.scores r = true := by
  rw [scoredReplicas, List.mem_filter, mem_poolReplicas, mem_keptReplicas]
  tauto

end outcome

section picked

variable {engine : Engine} {replicas : List (ReplicaState ν)}
  {config : RoutingConfig ν} {exclude : Option (List String)} {id : String}

theorem route_picked (h : (engine.route replicas config exclude).1.outcome = .ok id) :
    ((engine.strategyFor config.strategyName).pick (poolReplicas replicas exclude)
        config.weights).1 = some id ∧
      (engine.route replicas config exclude).2.strategyFor config.strategyName =
        ((engine.strategyFor config.strategyName).pick (poolReplicas replicas exclude)
          config.weights).2 ∧
      (engine.route replicas config exclude).1.candidates =
        (engine.strategyFor config.strategyName).score (poolReplicas replicas exclude)
          config.weights := by
  have hstrategy : ∀ strategy : Strategy, strategy.name = config.strategyName →
      (⟨some strategy⟩ : Engine).strategyFor config.strategyName = strategy := by
    intro strategy hname
    simp [Engine.strategyFor, hname]
  have hname := Engine.name_strategyFor engine config.strategyName
  simp only [Engine.route] at h ⊢
  split_ifs at h ⊢ with hkept hpool
  split at h
  · cases h
  · next picked strategy' hpick =>
      obtain rfl := Except.ok.inj h
      rw [hpick]
      refine ⟨rfl, hstrategy strategy' ?_, rfl⟩
      rw [← hname]
      cases hs : engine.strategyFor config.strategyName <;> rw [hs] at hpick <;>
        obtain ⟨-, rfl⟩ := Prod.mk.inj hpick <;> rfl

omit [JsNumber ν] in
theorem nodup_poolReplicas (registry : Registry ν) (exclude : Option (List String)) :
    ((poolReplicas registry.items exclude).map (·.id)).Nodup := by
  have hsub : (poolReplicas registry.items exclude).Sublist registry.items :=
    List.filter_sublist.trans List.filter_sublist
  exact List.Nodup.sublist (hsub.map _) registry.nodup

end picked

end WhyRouted
