import Mathlib.Algebra.Order.Ring.Nat
import Mathlib.Data.List.Nodup
import Mathlib.Data.List.Perm.Subperm
import Mathlib.Data.Nat.Cast.Order.Ring
import Mathlib.Data.Nat.ModEq
import WhyRouted.CodeUnits
import WhyRouted.RunningMinimum
import WhyRouted.Strategies

/-! # What a pick means in terms of the scores

`pick` and `score` are coded separately: a running minimum with a tie-break against a plain
map, an index under a cursor against a cyclic distance.  Here they are shown to describe one
choice, for every instance a run of calls can leave.

The two load-aware strategies keep the candidate whose key, its score and then its id by code
units, is least, so their running minimum is the library's, as long as no score is `NaN`
(`pick_iff_least`).  Round-robin's distances rotate `0, …, n - 1`, and the candidate under the
cursor is at distance `0`.  So no stated score is below the pick's (`least_of_pick`).  In exact
arithmetic no score is `NaN`, and the two agree in full (`Agrees`). -/

namespace WhyRouted

open JsNumber RunningMinimum

variable {ν : Type}

/-! ### The key of a load-aware pick -/

section key

variable {κ : Type} {score : ReplicaState ν → κ}

/-- A score and then the id: what a load-aware strategy minimizes. -/
def rankKey (score : ReplicaState ν → κ) (candidate : ReplicaState ν) : κ ×ₗ List ℕ :=
  toLex (score candidate, codeUnits candidate.id)

theorem rankKey_inj {candidates : List (ReplicaState ν)} (hids : (candidates.map (·.id)).Nodup) :
    ∀ a ∈ candidates, ∀ b ∈ candidates, rankKey score a = rankKey score b → a = b := by
  intro a ha b hb h
  have hpair : (score a, codeUnits a.id) = (score b, codeUnits b.id) := toLex.injective h
  have hid : a.id = b.id := codeUnits_injective (Prod.mk.inj hpair).2
  exact List.inj_on_of_nodup_map hids ha hb hid

theorem rankKey_le_iff [LinearOrder κ] {a b : ReplicaState ν} :
    rankKey score a ≤ rankKey score b ↔
      score a < score b ∨ (score a = score b ∧ codeUnits a.id ≤ codeUnits b.id) :=
  Prod.Lex.toLex_le_toLex

end key

/-! ### The pick of a load-aware strategy -/

section number

variable [JsNumber ν] {κ : Type} [LinearOrder κ] {strategy : Strategy}
  {candidates : List (ReplicaState ν)} {weights : ScoringWeights ν} {id : String}

/-- `pick` keeps a running minimum of the candidates. -/
theorem LeastLoaded.pick_eq_best (candidates : List (ReplicaState ν)) :
    LeastLoaded.pick candidates = candidates.head?.map fun first =>
      (best LeastLoaded.better first candidates.tail).id := by
  cases candidates <;> rfl

/-- `pick` keeps a running minimum of the scoreable candidates, with its score beside it. -/
theorem LatencyWeighted.pick_eq_best (candidates : List (ReplicaState ν))
    (weights : ScoringWeights ν) :
    LatencyWeighted.pick candidates weights =
      (candidates.filter scoreable).head?.map fun first =>
        (best (fun a b => better weights a b (scoreOf b weights)) first
          (candidates.filter scoreable).tail).id := by
  unfold LatencyWeighted.pick
  cases candidates.filter scoreable with
  | nil => rfl
  | cons first rest =>
      simp only [List.head?_cons, List.tail_cons, Option.map_some]
      rw [foldl_scored (fun a b => better weights a b (scoreOf b weights)) (scoreOf · weights)]
      intro held candidate
      rfl

/-- The score a load-aware strategy gives a candidate. -/
def StrategyName.rank (n : StrategyName) (weights : ScoringWeights ν)
    (candidate : ReplicaState ν) : ν :=
  match n with
  | .latencyWeighted => LatencyWeighted.scoreOf candidate weights
  | _ => candidate.runtime.inFlight

theorem score_loadAware (hname : strategy.name ≠ .roundRobin)
    (candidates : List (ReplicaState ν)) (weights : ScoringWeights ν) :
    strategy.score candidates weights = (candidates.filter strategy.name.scores).map
      fun candidate => scoreEntry candidate (strategy.name.rank weights candidate) := by
  cases strategy with
  | roundRobin cursor => exact absurd rfl hname
  | leastLoaded =>
      simp only [Strategy.score, LeastLoaded.score, Strategy.name, filter_scores_leastLoaded]
      rfl
  | latencyWeighted => rfl

theorem rankKey_lt_iff_of_number (cmp : Comparison ν κ) {score : ReplicaState ν → ν}
    {a : ReplicaState ν} (ha : isNaN (score a) = false) (b : ReplicaState ν) :
    (lt (score a) (score b) || (eq (score a) (score b) && codeUnitLt a.id b.id)) = true ↔
      rankKey (cmp.value <| score ·) a < rankKey (cmp.value <| score ·) b := by
  have hvalue : cmp.value (score a) ≠ ⊥ := cmp.isNaN_eq_false_iff.mp ha
  unfold rankKey
  rw [Prod.Lex.toLex_lt_toLex, Bool.or_eq_true, Bool.and_eq_true, cmp.lt_iff, cmp.eq_iff,
    codeUnitLt_iff]
  simp [hvalue]

/-- **The load-aware pick**: the scoreable candidate whose score, and then id, is least, as long as
the scores are numbers. -/
theorem pick_iff_least (cmp : Comparison ν κ) (hname : strategy.name ≠ .roundRobin)
    (hids : (candidates.map (·.id)).Nodup)
    (hnumber : ∀ c ∈ candidates.filter strategy.name.scores,
      isNaN (strategy.name.rank weights c) = false) :
    (strategy.pick candidates weights).1 = some id ↔
      ∃ c ∈ candidates.filter strategy.name.scores, c.id = id ∧
        ∀ d ∈ candidates.filter strategy.name.scores,
          rankKey (cmp.value <| strategy.name.rank weights ·) c ≤
            rankKey (cmp.value <| strategy.name.rank weights ·) d := by
  have hscored : ((candidates.filter strategy.name.scores).map (·.id)).Nodup :=
    hids.sublist (List.filter_sublist.map _)
  have hpick : ∃ better, (∀ a ∈ candidates.filter strategy.name.scores, ∀ b,
        better a b = true ↔ rankKey (cmp.value <| strategy.name.rank weights ·) a <
          rankKey (cmp.value <| strategy.name.rank weights ·) b) ∧
      (strategy.pick candidates weights).1 =
        (candidates.filter strategy.name.scores).head?.map fun first =>
          (best better first (candidates.filter strategy.name.scores).tail).id := by
    cases strategy with
    | roundRobin cursor => exact absurd rfl hname
    | leastLoaded =>
        refine ⟨LeastLoaded.better, fun a ha => rankKey_lt_iff_of_number cmp (hnumber a ha), ?_⟩
        simp only [Strategy.name, filter_scores_leastLoaded]
        exact LeastLoaded.pick_eq_best candidates
    | latencyWeighted =>
        exact ⟨_, fun a ha => rankKey_lt_iff_of_number cmp (hnumber a ha),
          LatencyWeighted.pick_eq_best candidates weights⟩
  obtain ⟨better, hbetter, hpick⟩ := hpick
  rw [hpick]
  cases hs : candidates.filter strategy.name.scores with
  | nil => simp
  | cons first rest =>
      rw [hs] at hscored hbetter
      replace hbetter := fun a ha => hbetter a (List.mem_cons_of_mem first ha)
      simp only [List.head?_cons, List.tail_cons, Option.map_some, Option.some.injEq]
      constructor
      · intro h
        exact ⟨_, best_mem hbetter, h, fun d hd => key_best_le hbetter hd⟩
      · rintro ⟨c, hc, rfl, hleast⟩
        rw [(best_eq_iff hbetter (rankKey_inj hscored)).mpr ⟨hc, hleast⟩]

/-! ### The pick of round-robin -/

omit [JsNumber ν] in
/-- Different indices are at different distances from a cursor. -/
theorem RoundRobin.distance_inj {n cursor i j : ℕ} (hi : i < n) (hj : j < n)
    (h : (i + n - cursor % n) % n = (j + n - cursor % n) % n) : i = j := by
  have hcursor : cursor % n < n := Nat.mod_lt cursor (by omega)
  have hcongr : i + n - cursor % n + cursor % n ≡ j + n - cursor % n + cursor % n [MOD n] :=
    Nat.ModEq.add_right _ h
  rw [Nat.sub_add_cancel (by omega), Nat.sub_add_cancel (by omega)] at hcongr
  have hmod : i ≡ j [MOD n] := Nat.ModEq.add_right_cancel' n hcongr
  exact Nat.ModEq.eq_of_lt_of_lt hmod hi hj

omit [JsNumber ν] in
/-- The distances from a cursor are `0, …, n - 1`, started at the cursor's place. -/
theorem RoundRobin.distance_perm {n cursor : ℕ} (hn : 0 < n) :
    ((List.range n).map fun index => (index + n - cursor % n) % n).Perm (List.range n) := by
  have hinj : ∀ i ∈ List.range n, ∀ j ∈ List.range n,
      (i + n - cursor % n) % n = (j + n - cursor % n) % n → i = j :=
    fun _ hi _ hj h => distance_inj (List.mem_range.mp hi) (List.mem_range.mp hj) h
  have hnodup : ((List.range n).map fun index => (index + n - cursor % n) % n).Nodup :=
    List.nodup_range.map_on hinj
  have hsub : ((List.range n).map fun index => (index + n - cursor % n) % n) ⊆
      List.range n := by
    intro d hd
    obtain ⟨i, -, rfl⟩ := List.mem_map.mp hd
    exact List.mem_range.mpr (Nat.mod_lt _ hn)
  apply (List.subperm_of_subset hnodup hsub).perm_of_length_le
  simp

theorem RoundRobin.distance_eq_zero_iff {n cursor index : ℕ} (hindex : index < n) :
    (index + n - cursor % n) % n = 0 ↔ index = cursor % n := by
  have hcursor : cursor % n < n := Nat.mod_lt cursor (by omega)
  rcases Nat.lt_or_ge index (cursor % n) with hlt | hge
  · rw [Nat.mod_eq_of_lt (by omega)]
    omega
  · have hsum : index + n - cursor % n = index - cursor % n + n := by omega
    rw [hsum, Nat.add_mod_right, Nat.mod_eq_of_lt (by omega)]
    omega

/-- Each candidate is scored its distance from the cursor, and the pick is the one at `0`. -/
theorem RoundRobin.score_distance {cursor : ℕ} (hids : (candidates.map (·.id)).Nodup)
    (hpick : (RoundRobin.pick cursor candidates).1 = some id) :
    ∀ d ∈ RoundRobin.score cursor candidates, ∃ k : ℕ, d.score = ofNat k ∧
      (k = 0 ↔ d.replicaId = id) := by
  unfold RoundRobin.pick at hpick
  split_ifs at hpick with h0
  have hcursor : cursor % candidates.length < candidates.length :=
    Nat.mod_lt _ (Nat.pos_of_ne_zero h0)
  rw [List.getElem?_eq_getElem hcursor, Option.map_some, Option.some.injEq] at hpick
  unfold RoundRobin.score
  rw [if_neg h0]
  intro d hd
  obtain ⟨i, hi, rfl⟩ := List.mem_mapIdx.mp hd
  have hsame : candidates[i].id = id ↔ i = cursor % candidates.length := by
    rw [← hpick]
    constructor
    · intro heq
      have hget : candidates[i] = candidates[cursor % candidates.length] :=
        List.inj_on_of_nodup_map hids (List.getElem_mem hi) (List.getElem_mem hcursor) heq
      exact (hids.of_map _).getElem_inj_iff.mp hget
    · intro heq
      subst heq
      rfl
  exact ⟨_, rfl, (RoundRobin.distance_eq_zero_iff hi).trans hsame.symm⟩

theorem RoundRobin.scored_of_pick {cursor : ℕ}
    (hpick : (RoundRobin.pick cursor candidates).1 = some id) :
    ∃ c ∈ RoundRobin.score cursor candidates, c.replicaId = id := by
  have hmeasured := measured_score (.roundRobin cursor) candidates ⟨ofNat 0, ofNat 0⟩
  obtain ⟨r, hr, hid⟩ := RoundRobin.pick_mem hpick
  have hmem : r.measured ∈ (RoundRobin.score cursor candidates).map (·.measured) := by
    rw [show (RoundRobin.score cursor candidates).map (·.measured) = _ from hmeasured]
    exact List.mem_map_of_mem (by simpa [Strategy.name] using hr)
  obtain ⟨c, hc, hcr⟩ := List.mem_map.mp hmem
  exact ⟨c, hc, (congrArg Measured.replicaId hcr).trans hid⟩

/-! ### No score is below the pick's -/

theorem RoundRobin.least_of_pick (law : Lawful ν κ) {cursor : ℕ}
    (hids : (candidates.map (·.id)).Nodup)
    (hpick : (RoundRobin.pick cursor candidates).1 = some id) :
    ∃ c ∈ RoundRobin.score cursor candidates, c.replicaId = id ∧
      ∀ d ∈ RoundRobin.score cursor candidates, le c.score d.score = true := by
  have hdistance := RoundRobin.score_distance hids hpick
  obtain ⟨c, hc, hcid⟩ := RoundRobin.scored_of_pick hpick
  refine ⟨c, hc, hcid, fun d hd => ?_⟩
  obtain ⟨k, hk, hzero⟩ := hdistance c hc
  obtain ⟨m, hm, -⟩ := hdistance d hd
  rw [hk, hm, hzero.mpr hcid]
  exact law.ofNat_le m

theorem least_of_pick_loadAware (cmp : Comparison ν κ) (hname : strategy.name ≠ .roundRobin)
    (hids : (candidates.map (·.id)).Nodup)
    (hnumber : ∀ c ∈ candidates.filter strategy.name.scores,
      isNaN (strategy.name.rank weights c) = false)
    (hpick : (strategy.pick candidates weights).1 = some id) :
    ∃ c ∈ strategy.score candidates weights, c.replicaId = id ∧
      ∀ d ∈ strategy.score candidates weights, le c.score d.score = true := by
  obtain ⟨c, hc, rfl, hleast⟩ := (pick_iff_least cmp hname hids hnumber).mp hpick
  rw [score_loadAware hname]
  refine ⟨_, List.mem_map_of_mem hc, rfl, fun e he => ?_⟩
  obtain ⟨d, hd, rfl⟩ := List.mem_map.mp he
  refine cmp.le_iff.mpr ⟨cmp.isNaN_eq_false_iff.mp (hnumber c hc), ?_⟩
  rcases rankKey_le_iff.mp (hleast d hd) with hlt | ⟨heq, -⟩
  · exact hlt.le
  · exact heq.le

/-- **The pick is scored, and no score is below its**, as long as the numbers a load-aware strategy
compares are no `NaN`. -/
theorem least_of_pick (law : Lawful ν κ) (hids : (candidates.map (·.id)).Nodup)
    (hnumber : strategy.name = .roundRobin ∨ ∀ c ∈ candidates.filter strategy.name.scores,
      isNaN (strategy.name.rank weights c) = false)
    (hpick : (strategy.pick candidates weights).1 = some id) :
    ∃ c ∈ strategy.score candidates weights, c.replicaId = id ∧
      ∀ d ∈ strategy.score candidates weights, le c.score d.score = true := by
  by_cases hname : strategy.name = .roundRobin
  · cases strategy with
    | roundRobin cursor => exact RoundRobin.least_of_pick law hids hpick
    | leastLoaded => cases hname
    | latencyWeighted => cases hname
  · exact least_of_pick_loadAware law.toComparison hname hids (hnumber.resolve_left hname) hpick

end number

/-! ### Runs of calls -/

/-- One call of a strategy instance. -/
inductive StrategyCall (ν : Type) where
  | pick (candidates : List (ReplicaState ν)) (weights : ScoringWeights ν)
  | score (candidates : List (ReplicaState ν)) (weights : ScoringWeights ν)

def StrategyCall.isPick {ν : Type} : StrategyCall ν → Bool
  | pick _ _ => true
  | score _ _ => false

namespace Strategy

variable [JsNumber ν]

/-- The instance after a run of calls: only a pick can move it. -/
def after (strategy : Strategy) : List (StrategyCall ν) → Strategy
  | [] => strategy
  | .pick candidates weights :: calls => (strategy.pick candidates weights).2.after calls
  | .score _ _ :: calls => strategy.after calls

/-- What the picks of a run of calls return, in order. -/
def picks (strategy : Strategy) : List (StrategyCall ν) → List (Option String)
  | [] => []
  | .pick candidates weights :: calls =>
      (strategy.pick candidates weights).1 :: (strategy.pick candidates weights).2.picks calls
  | .score _ _ :: calls => strategy.picks calls

/-- The score calls of a run can be dropped: the picks are those of the picks alone. -/
theorem picks_filter (strategy : Strategy) (calls : List (StrategyCall ν)) :
    strategy.picks (calls.filter StrategyCall.isPick) = strategy.picks calls := by
  induction calls generalizing strategy with
  | nil => rfl
  | cons call calls ih =>
      cases call with
      | pick candidates weights => exact congrArg (List.cons _) (ih _)
      | score candidates weights => exact ih strategy

end Strategy

/-! ### In exact arithmetic -/

section exact

variable [Semiring ν] [LinearOrder ν] [ToString ν] {strategy : Strategy}
  {candidates : List (ReplicaState ν)} {weights : ScoringWeights ν}

theorem pick_loadAware_iff (hname : strategy.name ≠ .roundRobin)
    (hids : (candidates.map (·.id)).Nodup) {id : String} :
    (strategy.pick candidates weights).1 = some id ↔
      ∃ c ∈ candidates.filter strategy.name.scores, c.id = id ∧
        ∀ d ∈ candidates.filter strategy.name.scores,
          rankKey (strategy.name.rank weights) c ≤ rankKey (strategy.name.rank weights) d := by
  rw [pick_iff_least (Comparison.exact ν) hname hids fun c _ => isNaN_exact _]
  simp only [rankKey_le_iff, Comparison.exact, WithBot.coe_lt_coe, WithBot.coe_inj]

/-- The order of the candidates does not matter to a load-aware pick. -/
theorem pick_perm (hname : strategy.name ≠ .roundRobin) (hids : (candidates.map (·.id)).Nodup)
    {candidates' : List (ReplicaState ν)} (hperm : candidates'.Perm candidates) :
    (strategy.pick candidates' weights).1 = (strategy.pick candidates weights).1 := by
  have hids' : (candidates'.map (·.id)).Nodup := (hperm.map _).nodup_iff.mpr hids
  have hmem : ∀ c, c ∈ candidates'.filter strategy.name.scores ↔
      c ∈ candidates.filter strategy.name.scores := fun c => (hperm.filter _).mem_iff
  apply Option.ext
  intro id
  rw [pick_loadAware_iff hname hids', pick_loadAware_iff hname hids]
  simp only [hmem]

theorem RoundRobin.scores_eq (cursor : ℕ) (candidates : List (ReplicaState ν)) :
    (RoundRobin.score cursor candidates).map (·.score) =
      ((List.range candidates.length).map fun index =>
        (index + candidates.length - cursor % candidates.length) % candidates.length).map
          (Nat.cast : ℕ → ν) := by
  unfold RoundRobin.score
  split_ifs with h
  · rw [h]
    rfl
  · apply List.ext_getElem
    · simp
    · intro i hi hi'
      simp [scoreEntry, ofNat]

theorem RoundRobin.score_eq_zero_iff [IsStrictOrderedRing ν] {cursor : ℕ}
    (hids : (candidates.map (·.id)).Nodup) {id : String}
    (hpick : (RoundRobin.pick cursor candidates).1 = some id) :
    ∀ d ∈ RoundRobin.score cursor candidates, d.score = 0 ↔ d.replicaId = id := by
  intro d hd
  obtain ⟨k, hk, hzero⟩ := RoundRobin.score_distance hids hpick d hd
  rw [hk]
  exact Nat.cast_eq_zero.trans hzero

/-! ### Agreement -/

/-- What `score` and `pick` say about one candidate list. -/
structure Agrees (strategy : Strategy) (candidates : List (ReplicaState ν))
    (weights : ScoringWeights ν) : Prop where
  /-- Nothing is scored exactly when nothing is picked. -/
  empty_iff : strategy.score candidates weights = [] ↔
    (strategy.pick candidates weights).1 = none
  /-- The picked id is scored, no score is lower, and a load-aware strategy breaks ties by the
  least id. -/
  minimal : ∀ id, (strategy.pick candidates weights).1 = some id →
    ∃ c ∈ strategy.score candidates weights, c.replicaId = id ∧
      (∀ d ∈ strategy.score candidates weights, c.score ≤ d.score) ∧
      (strategy.name ≠ .roundRobin → ∀ d ∈ strategy.score candidates weights,
        d.score = c.score → d.replicaId ≠ id → codeUnitLt id d.replicaId = true)
  /-- The order of the candidates is nothing to a load-aware strategy. -/
  permuted : strategy.name ≠ .roundRobin → ∀ candidates', candidates'.Perm candidates →
    (strategy.pick candidates' weights).1 = (strategy.pick candidates weights).1
  /-- Round-robin scores `0, …, n - 1`, each once. -/
  rotation : strategy.name = .roundRobin →
    ((strategy.score candidates weights).map (·.score)).Perm
      ((List.range candidates.length).map (Nat.cast : ℕ → ν))
  /-- Round-robin picks the one it scores `0`. -/
  unique_zero : strategy.name = .roundRobin →
    ∀ id, (strategy.pick candidates weights).1 = some id →
      ∀ d ∈ strategy.score candidates weights, d.score = 0 ↔ d.replicaId = id

theorem score_eq_nil_iff (strategy : Strategy) (candidates : List (ReplicaState ν))
    (weights : ScoringWeights ν) : strategy.score candidates weights = [] ↔
      (strategy.pick candidates weights).1 = none := by
  have hmeasured := measured_score strategy candidates weights
  rw [pick_eq_none_iff]
  constructor
  · intro h
    rw [h, List.map_nil] at hmeasured
    exact List.map_eq_nil_iff.mp hmeasured.symm
  · intro h
    rw [h, List.map_nil] at hmeasured
    exact List.map_eq_nil_iff.mp hmeasured

theorem minimal_loadAware (hname : strategy.name ≠ .roundRobin)
    (hids : (candidates.map (·.id)).Nodup) {id : String}
    (hpick : (strategy.pick candidates weights).1 = some id) :
    ∃ c ∈ strategy.score candidates weights, c.replicaId = id ∧
      (∀ d ∈ strategy.score candidates weights, c.score ≤ d.score) ∧
      (∀ d ∈ strategy.score candidates weights,
        d.score = c.score → d.replicaId ≠ id → codeUnitLt id d.replicaId = true) := by
  obtain ⟨c, hc, rfl, hleast⟩ := (pick_loadAware_iff hname hids).mp hpick
  rw [score_loadAware hname]
  refine ⟨_, List.mem_map_of_mem hc, rfl, ?_, ?_⟩
  · intro e he
    obtain ⟨d, hd, rfl⟩ := List.mem_map.mp he
    rcases rankKey_le_iff.mp (hleast d hd) with hlt | ⟨heq, -⟩
    · exact hlt.le
    · exact heq.le
  · intro e he htie hne
    obtain ⟨d, hd, rfl⟩ := List.mem_map.mp he
    apply codeUnitLt_iff.mpr
    rcases rankKey_le_iff.mp (hleast d hd) with hlt | ⟨-, hle⟩
    · exact absurd htie.symm hlt.ne
    · exact lt_of_le_of_ne hle fun heq => hne (codeUnits_injective heq).symm

variable [IsStrictOrderedRing ν]

theorem agrees (strategy : Strategy) (hids : (candidates.map (·.id)).Nodup) :
    Agrees strategy candidates weights where
  empty_iff := score_eq_nil_iff strategy candidates weights
  minimal := by
    intro id hpick
    by_cases hname : strategy.name = .roundRobin
    · cases strategy with
      | roundRobin cursor =>
          obtain ⟨c, hc, hid, hle⟩ := RoundRobin.least_of_pick (Lawful.exact ν) hids hpick
          exact ⟨c, hc, hid, fun d hd => le_exact.mp (hle d hd), fun hne => absurd rfl hne⟩
      | leastLoaded => cases hname
      | latencyWeighted => cases hname
    · obtain ⟨c, hc, hid, hle, htie⟩ := minimal_loadAware hname hids hpick
      exact ⟨c, hc, hid, hle, fun _ => htie⟩
  permuted := fun hname _ hperm => pick_perm hname hids hperm
  rotation := by
    intro hname
    cases strategy with
    | roundRobin cursor =>
        change ((RoundRobin.score cursor candidates).map (·.score)).Perm _
        rw [RoundRobin.scores_eq]
        rcases Nat.eq_zero_or_pos candidates.length with h0 | hpos
        · rw [h0]
          exact List.Perm.refl _
        · exact (RoundRobin.distance_perm hpos).map _
    | leastLoaded => cases hname
    | latencyWeighted => cases hname
  unique_zero := by
    intro hname id hpick
    cases strategy with
    | roundRobin cursor => exact RoundRobin.score_eq_zero_iff hids hpick
    | leastLoaded => cases hname
    | latencyWeighted => cases hname

/-- **`score` and `pick` agree**: on every instance a run of calls leaves, on every list of
candidates with distinct ids, `score` describes the pick; and a run's picks are decided by its
picks alone, so scoring between them changes none. -/
theorem score_describes_pick (name : StrategyName) (history : List (StrategyCall ν)) :
    (∀ (candidates : List (ReplicaState ν)) (weights : ScoringWeights ν),
      (candidates.map (·.id)).Nodup →
      Agrees ((createStrategy name).after history) candidates weights) ∧
    ∀ calls calls' : List (StrategyCall ν),
      calls.filter StrategyCall.isPick = calls'.filter StrategyCall.isPick →
        (createStrategy name).picks calls = (createStrategy name).picks calls' := by
  refine ⟨fun _ _ hids => agrees _ hids, ?_⟩
  intro calls calls' h
  rw [← Strategy.picks_filter, h, Strategy.picks_filter]

end exact

/-- Two idle replicas without a measurement. -/
def idlePair : List (ReplicaState ℕ) :=
  [⟨⟨"replica-2", "http://b"⟩, initialRuntime, .active⟩,
    ⟨⟨"replica-1", "http://a"⟩, initialRuntime, .active⟩]

/-- A tie under a cursor that has wrapped round. -/
theorem score_describes_pick_idlePair :
    Agrees ((createStrategy .roundRobin).after
        [.pick idlePair ⟨1, 1⟩, .score idlePair ⟨1, 1⟩, .pick idlePair ⟨1, 1⟩])
      idlePair ⟨1, 1⟩ :=
  (score_describes_pick .roundRobin _).1 idlePair ⟨1, 1⟩ (by decide)

end WhyRouted
