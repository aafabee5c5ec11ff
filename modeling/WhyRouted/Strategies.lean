import WhyRouted.Types

/-! # The routing strategies

`src/routing/strategies/*.ts`.  A strategy instance is its name together with the only state
any of them keeps, round-robin's cursor.  `pick` chooses a replica id and returns the instance
as the call leaves it; `score` ranks the candidates and changes nothing.

Each strategy is modelled as it is coded, `pick` and `score` separately.  The engine needs of
a strategy only what the last section proves for all three: `score` reports exactly the
scoreable candidates, with the load and latency they came with, and `pick` returns one of the
scored ids, or `none` exactly when nothing was scored. -/

namespace WhyRouted

open JsNumber

variable {ν : Type} [JsNumber ν]

/-- One entry of `score`'s result: the candidate's own data and its score. -/
def scoreEntry (candidate : ReplicaState ν) (score : ν) : CandidateScore ν where
  replicaId := candidate.id
  inFlight := candidate.runtime.inFlight
  latencyMs := candidate.runtime.latencyMs
  score := score
  considered := true

/-! ### Round-robin -/

namespace RoundRobin

def pick (cursor : ℕ) (candidates : List (ReplicaState ν)) : Option String × ℕ :=
  if candidates.length = 0 then (none, cursor)
  else ((candidates[cursor % candidates.length]?).map (·.id), cursor + 1)

/-- Cyclic distance from the cursor. -/
def score (cursor : ℕ) (candidates : List (ReplicaState ν)) : List (CandidateScore ν) :=
  if candidates.length = 0 then []
  else candidates.mapIdx fun index candidate =>
    -- `cursor % length` is below `length`, so the subtraction never truncates
    scoreEntry candidate
      (ofNat ((index + candidates.length - cursor % candidates.length) % candidates.length))

end RoundRobin

/-! ### Least-loaded -/

namespace LeastLoaded

/-- Fewer requests in flight, or as many and a smaller id. -/
def better (candidate best : ReplicaState ν) : Bool :=
  lt candidate.runtime.inFlight best.runtime.inFlight ||
    (eq candidate.runtime.inFlight best.runtime.inFlight && codeUnitLt candidate.id best.id)

def pick : List (ReplicaState ν) → Option String
  | [] => none
  | first :: rest =>
      some (rest.foldl (fun best candidate => if better candidate best then candidate else best)
        first).id

def score (candidates : List (ReplicaState ν)) : List (CandidateScore ν) :=
  candidates.map fun candidate => scoreEntry candidate candidate.runtime.inFlight

end LeastLoaded

/-! ### Latency-weighted -/

namespace LatencyWeighted

/-- `loadWeight * inFlight + latencyWeight * latencyMs`.  Only called on a candidate with a
measurement; a missing one would count as `0`, as `null` does in a product. -/
def scoreOf (candidate : ReplicaState ν) (weights : ScoringWeights ν) : ν :=
  add (mul weights.loadWeight candidate.runtime.inFlight)
    (mul weights.latencyWeight (candidate.runtime.latencyMs.getD (ofNat 0)))

/-- Whether the candidate has a latency measurement. -/
def scoreable (candidate : ReplicaState ν) : Bool := candidate.runtime.latencyMs.isSome

/-- A lower score than the best one so far, or the same and a smaller id. -/
def better (weights : ScoringWeights ν) (candidate best : ReplicaState ν) (bestScore : ν) : Bool :=
  lt (scoreOf candidate weights) bestScore ||
    (eq (scoreOf candidate weights) bestScore && codeUnitLt candidate.id best.id)

def pick (candidates : List (ReplicaState ν)) (weights : ScoringWeights ν) : Option String :=
  match candidates.filter scoreable with
  | [] => none
  | first :: rest =>
      some (rest.foldl (fun (best : ReplicaState ν × ν) candidate =>
        if better weights candidate best.1 best.2 then (candidate, scoreOf candidate weights)
        else best) (first, scoreOf first weights)).1.id

def score (candidates : List (ReplicaState ν)) (weights : ScoringWeights ν) :
    List (CandidateScore ν) :=
  (candidates.filter scoreable).map fun candidate =>
    scoreEntry candidate (scoreOf candidate weights)

end LatencyWeighted

/-! ### Strategy instances -/

/-- A strategy instance. -/
inductive Strategy where
  | roundRobin (cursor : ℕ)
  | leastLoaded
  | latencyWeighted
deriving DecidableEq, Repr

/-- A fresh instance of the named strategy. -/
def createStrategy : StrategyName → Strategy
  | .roundRobin => .roundRobin 0
  | .leastLoaded => .leastLoaded
  | .latencyWeighted => .latencyWeighted

namespace Strategy

def name : Strategy → StrategyName
  | roundRobin _ => .roundRobin
  | leastLoaded => .leastLoaded
  | latencyWeighted => .latencyWeighted

@[simp] theorem name_createStrategy (n : StrategyName) : (createStrategy n).name = n := by
  cases n <;> rfl

def pick (strategy : Strategy) (candidates : List (ReplicaState ν)) (weights : ScoringWeights ν) :
    Option String × Strategy :=
  match strategy with
  | roundRobin cursor =>
      let (picked, cursor') := RoundRobin.pick cursor candidates
      (picked, roundRobin cursor')
  | leastLoaded => (LeastLoaded.pick candidates, leastLoaded)
  | latencyWeighted => (LatencyWeighted.pick candidates weights, latencyWeighted)

def score (strategy : Strategy) (candidates : List (ReplicaState ν)) (weights : ScoringWeights ν) :
    List (CandidateScore ν) :=
  match strategy with
  | roundRobin cursor => RoundRobin.score cursor candidates
  | leastLoaded => LeastLoaded.score candidates
  | latencyWeighted => LatencyWeighted.score candidates weights

end Strategy

/-! ### What the engine relies on -/

/-- The candidates a strategy scores: latency-weighted needs a measurement. -/
def StrategyName.scores (n : StrategyName) (candidate : ReplicaState ν) : Bool :=
  match n with
  | .latencyWeighted => LatencyWeighted.scoreable candidate
  | _ => true

omit [JsNumber ν] in
theorem scores_eq_true_iff (n : StrategyName) (candidate : ReplicaState ν) :
    n.scores candidate = true ↔ (n = .latencyWeighted → candidate.runtime.latencyMs ≠ none) := by
  cases n <;> simp [StrategyName.scores, LatencyWeighted.scoreable, Option.isSome_iff_ne_none]

omit [JsNumber ν] in
@[simp] theorem filter_scores_roundRobin (candidates : List (ReplicaState ν)) :
    candidates.filter StrategyName.roundRobin.scores = candidates :=
  List.filter_eq_self.mpr fun _ _ => rfl

omit [JsNumber ν] in
@[simp] theorem filter_scores_leastLoaded (candidates : List (ReplicaState ν)) :
    candidates.filter StrategyName.leastLoaded.scores = candidates :=
  List.filter_eq_self.mpr fun _ _ => rfl

omit [JsNumber ν] in
@[simp] theorem filter_scores_latencyWeighted (candidates : List (ReplicaState ν)) :
    candidates.filter StrategyName.latencyWeighted.scores =
      candidates.filter LatencyWeighted.scoreable := rfl

/-- What `score` reports about a candidate, apart from the score. -/
structure Measured (ν : Type) where
  replicaId : String
  inFlight : ν
  latencyMs : Option ν
deriving DecidableEq

def CandidateScore.measured (c : CandidateScore ν) : Measured ν :=
  ⟨c.replicaId, c.inFlight, c.latencyMs⟩

def ReplicaState.measured (r : ReplicaState ν) : Measured ν :=
  ⟨r.id, r.runtime.inFlight, r.runtime.latencyMs⟩

/-- **`score` accounts for the pool**: the scoreable candidates, in the pool's order, each with
the load and latency it came with. -/
theorem measured_score (strategy : Strategy) (candidates : List (ReplicaState ν))
    (weights : ScoringWeights ν) :
    (strategy.score candidates weights).map (·.measured) =
      (candidates.filter strategy.name.scores).map (·.measured) := by
  cases strategy with
  | roundRobin cursor =>
      simp only [Strategy.score, RoundRobin.score, Strategy.name, filter_scores_roundRobin]
      split_ifs with h
      · rw [List.length_eq_zero_iff.mp h]; rfl
      · apply List.ext_getElem?
        intro i
        rw [List.getElem?_map, List.getElem?_mapIdx, List.getElem?_map, Option.map_map]
        rfl
  | leastLoaded =>
      simp only [Strategy.score, LeastLoaded.score, Strategy.name, filter_scores_leastLoaded,
        List.map_map]
      rfl
  | latencyWeighted =>
      simp only [Strategy.score, LatencyWeighted.score, Strategy.name, List.map_map]
      rfl

theorem LeastLoaded.pick_mem {candidates : List (ReplicaState ν)} {id : String}
    (h : LeastLoaded.pick candidates = some id) : ∃ c ∈ candidates, c.id = id := by
  cases candidates with
  | nil => simp [LeastLoaded.pick] at h
  | cons first rest =>
      refine ⟨_, ?_, Option.some.inj h⟩
      refine List.foldlRecOn rest _ (motive := (· ∈ first :: rest)) List.mem_cons_self ?_
      intro best hbest candidate hc
      split_ifs
      · exact List.mem_cons_of_mem first hc
      · exact hbest

theorem LatencyWeighted.pick_mem {candidates : List (ReplicaState ν)} {weights : ScoringWeights ν}
    {id : String} (h : LatencyWeighted.pick candidates weights = some id) :
    ∃ c ∈ candidates.filter LatencyWeighted.scoreable, c.id = id := by
  unfold LatencyWeighted.pick at h
  cases hs : candidates.filter LatencyWeighted.scoreable with
  | nil => simp [hs] at h
  | cons first rest =>
      rw [hs] at h
      refine ⟨_, ?_, Option.some.inj h⟩
      refine List.foldlRecOn rest _
        (motive := fun best : ReplicaState ν × ν => best.1 ∈ first :: rest)
        List.mem_cons_self ?_
      intro best hbest candidate hc
      split_ifs
      · exact List.mem_cons_of_mem first hc
      · exact hbest

omit [JsNumber ν] in
theorem RoundRobin.pick_mem {cursor : ℕ} {candidates : List (ReplicaState ν)} {id : String}
    (h : (RoundRobin.pick cursor candidates).1 = some id) : ∃ c ∈ candidates, c.id = id := by
  unfold RoundRobin.pick at h
  split_ifs at h with h0
  obtain ⟨c, hc, rfl⟩ := Option.map_eq_some_iff.mp h
  exact ⟨c, List.mem_of_getElem? hc, rfl⟩

theorem pick_mem {strategy : Strategy} {candidates : List (ReplicaState ν)}
    {weights : ScoringWeights ν} {id : String}
    (h : (strategy.pick candidates weights).1 = some id) :
    ∃ c ∈ candidates.filter strategy.name.scores, c.id = id := by
  cases strategy with
  | roundRobin cursor => simpa [Strategy.name] using RoundRobin.pick_mem h
  | leastLoaded => simpa [Strategy.name] using LeastLoaded.pick_mem h
  | latencyWeighted => exact LatencyWeighted.pick_mem h

theorem pick_eq_none_iff (strategy : Strategy) (candidates : List (ReplicaState ν))
    (weights : ScoringWeights ν) :
    (strategy.pick candidates weights).1 = none ↔
      candidates.filter strategy.name.scores = [] := by
  cases strategy with
  | roundRobin cursor =>
      simp only [Strategy.pick, RoundRobin.pick, Strategy.name, filter_scores_roundRobin]
      split_ifs with h
      · simpa using h
      · have hlt : cursor % candidates.length < candidates.length :=
          Nat.mod_lt _ (Nat.pos_of_ne_zero h)
        simpa [List.getElem?_eq_getElem hlt] using h
  | leastLoaded => cases candidates <;> simp [Strategy.pick, LeastLoaded.pick, Strategy.name]
  | latencyWeighted =>
      simp only [Strategy.pick, LatencyWeighted.pick, Strategy.name, filter_scores_latencyWeighted]
      cases candidates.filter LatencyWeighted.scoreable <;> simp

end WhyRouted
