import Mathlib.Data.List.Sort
import WhyRouted.HandleRoute
import WhyRouted.TimeRange

/-! # Aggregates over recorded decisions

`aggregate` and `nearestRank` of `src/mcp/tools/query-decisions.ts`: one pass over the decisions
that counts the served ones, in all and by replica, and collects their latencies, and then the
percentiles of the sorted sample.

`servedByReplica` is the list of the object's own properties, in the order they were created.
The ids of a fleet are never names an object inherits. -/

namespace WhyRouted

variable {ν : Type}

/-! ### Percentiles -/

section percentile

variable [JsNumber ν]

/-- Ascending order, for `sort((a, b) => a - b)`. -/
def NotGreater (a b : ν) : Prop := JsNumber.lt b a = false

instance : DecidableRel (NotGreater (ν := ν)) := fun _ _ => inferInstanceAs (Decidable (_ = false))

/-- `Math.ceil((p / 100) * n)`, with the product taken exactly. -/
def ceilPercent (p n : ℕ) : ℕ := (p * n + 99) / 100

/-- The value at 1-based index `max(1, ceil(p / 100 * n))` of an ascending array. -/
def nearestRank (sorted : List ν) (p : ℕ) : Option ν :=
  sorted[max 1 (ceilPercent p sorted.length) - 1]?

/-- The sample size and the percentiles of some latencies. -/
structure LatencySummary (ν : Type) where
  sampleSize : ℕ
  p50Ms : Option ν
  p95Ms : Option ν
  p99Ms : Option ν
deriving DecidableEq, Repr

/-- The summary of a sample, none when there is nothing in it. -/
def latencySummary (latencies : List ν) : Option (LatencySummary ν) :=
  let sorted := latencies.insertionSort NotGreater
  if sorted.length = 0 then none
  else some
    { sampleSize := sorted.length, p50Ms := nearestRank sorted 50
      p95Ms := nearestRank sorted 95, p99Ms := nearestRank sorted 99 }

omit [JsNumber ν] in
theorem nearestRank_ne_none {sorted : List ν} (h : sorted ≠ []) {p : ℕ} (hp : p ≤ 100) :
    nearestRank sorted p ≠ none := by
  have hpos : 0 < sorted.length := List.length_pos_iff.mpr h
  have hle : p * sorted.length ≤ 100 * sorted.length := Nat.mul_le_mul_right _ hp
  unfold nearestRank ceilPercent
  rw [Ne, List.getElem?_eq_none_iff]
  omega

theorem latencySummary_eq_none_iff {latencies : List ν} :
    latencySummary latencies = none ↔ latencies = [] := by
  unfold latencySummary
  simp only [List.length_insertionSort, List.length_eq_zero_iff]
  split_ifs with h <;> simp [h]

theorem latencySummary_eq_some {latencies : List ν} {summary : LatencySummary ν}
    (h : latencySummary latencies = some summary) :
    summary = ⟨latencies.length, nearestRank (latencies.insertionSort NotGreater) 50,
      nearestRank (latencies.insertionSort NotGreater) 95,
      nearestRank (latencies.insertionSort NotGreater) 99⟩ := by
  unfold latencySummary at h
  simp only [List.length_insertionSort] at h
  split_ifs at h
  exact (Option.some.inj h).symm

end percentile

/-! ### The pass over the decisions -/

/-- `counts[id] = (counts[id] ?? 0) + 1`. -/
def bump (counts : List (String × ℕ)) (id : String) : List (String × ℕ) :=
  if counts.any (·.1 = id) then counts.map fun c => if c.1 = id then (c.1, c.2 + 1) else c
  else counts ++ [(id, 1)]

/-- The accumulators of the loop. -/
structure Tally (ν : Type) where
  served : ℕ
  servedByReplica : List (String × ℕ)
  latencies : List ν
deriving DecidableEq, Repr

def Tally.add (t : Tally ν) (d : Decision ν) : Tally ν :=
  let t := match d.chosenReplicaId with
    | none => t
    | some id => { t with served := t.served + 1, servedByReplica := bump t.servedByReplica id }
  { t with latencies := t.latencies ++ d.latencyMs.toList }

def tally (decisions : List (Decision ν)) : Tally ν := decisions.foldl Tally.add ⟨0, [], []⟩

structure AggregateData (ν : Type) where
  range : ResolvedRange
  total : ℕ
  served : ℕ
  failed : ℕ
  servedByReplica : List (String × ℕ)
  latency : Option (LatencySummary ν)
deriving DecidableEq, Repr

def aggregate [JsNumber ν] (decisions : List (Decision ν)) (range : ResolvedRange) :
    AggregateData ν :=
  let t := tally decisions
  { range, total := decisions.length, served := t.served
    -- at most as many as there are, so the difference never truncates
    failed := decisions.length - t.served
    servedByReplica := t.servedByReplica, latency := latencySummary t.latencies }

/-! ### What the pass computes -/

/-- `counts[id]`, if the object has the property. -/
def propertyOf (counts : List (String × ℕ)) (id : String) : Option ℕ :=
  (counts.find? (·.1 = id)).map (·.2)

theorem propertyOf_eq_none_iff {counts : List (String × ℕ)} {id : String} :
    propertyOf counts id = none ↔ ¬ counts.any (·.1 = id) = true := by
  rw [propertyOf, Option.map_eq_none_iff, List.find?_eq_none, List.any_eq_true, not_exists]
  simp only [not_and]

theorem mem_keys_iff {counts : List (String × ℕ)} {id : String} :
    id ∈ counts.map (·.1) ↔ propertyOf counts id ≠ none := by
  rw [Ne, propertyOf_eq_none_iff, not_not, List.any_eq_true, List.mem_map]
  simp only [decide_eq_true_eq]

theorem propertyOf_increment (counts : List (String × ℕ)) (id r : String) :
    propertyOf (counts.map fun c => if c.1 = id then (c.1, c.2 + 1) else c) r =
      (propertyOf counts r).map fun n => if r = id then n + 1 else n := by
  unfold propertyOf
  have hkey : ((fun c : String × ℕ => decide (c.1 = r)) ∘
      fun c => if c.1 = id then (c.1, c.2 + 1) else c) = fun c => decide (c.1 = r) := by
    funext c
    simp only [Function.comp]
    split_ifs <;> rfl
  rw [List.find?_map, hkey, Option.map_map, Option.map_map]
  cases hfind : counts.find? (·.1 = r) with
  | none => rfl
  | some c =>
      have hc : c.1 = r := by simpa using List.find?_some hfind
      simp only [Option.map_some, Function.comp, hc]
      split_ifs <;> rfl

theorem propertyOf_bump (counts : List (String × ℕ)) (id r : String) :
    propertyOf (bump counts id) r =
      if r = id then some ((propertyOf counts id).getD 0 + 1) else propertyOf counts r := by
  unfold bump
  split_ifs with hhas hr hr
  · obtain ⟨n, hn⟩ := Option.ne_none_iff_exists'.mp fun hnone =>
      propertyOf_eq_none_iff.mp hnone hhas
    rw [propertyOf_increment, hr, hn]
    simp
  · rw [propertyOf_increment]
    simp [hr]
  · have hnone := propertyOf_eq_none_iff.mpr hhas
    rw [hr, hnone]
    have hfind : counts.find? (·.1 = id) = none := Option.map_eq_none_iff.mp hnone
    simp [propertyOf, List.find?_append, hfind]
  · have hother : ¬ id = r := fun h => hr h.symm
    simp [propertyOf, List.find?_append, hother]

theorem nodup_keys_bump {counts : List (String × ℕ)} (h : (counts.map (·.1)).Nodup)
    (id : String) : ((bump counts id).map (·.1)).Nodup := by
  unfold bump
  split_ifs with hhas
  · have hkeys : (counts.map fun c => if c.1 = id then (c.1, c.2 + 1) else c).map (·.1) =
        counts.map (·.1) := by
      rw [List.map_map]
      apply List.map_congr_left
      intro c _
      show (if c.1 = id then (c.1, c.2 + 1) else c).1 = c.1
      split_ifs <;> rfl
    rwa [hkeys]
  · rw [List.map_append]
    refine List.nodup_append'.mpr ⟨h, List.nodup_singleton id, ?_⟩
    rw [List.map_singleton, List.disjoint_singleton]
    intro hmem
    obtain ⟨c, hc, rfl⟩ := List.mem_map.mp hmem
    exact hhas (List.any_eq_true.mpr ⟨c, hc, decide_eq_true rfl⟩)

theorem tally_concat (decisions : List (Decision ν)) (d : Decision ν) :
    tally (decisions ++ [d]) = (tally decisions).add d := by
  unfold tally
  rw [List.foldl_append]
  rfl

theorem served_tally (decisions : List (Decision ν)) :
    (tally decisions).served = decisions.countP (·.chosenReplicaId.isSome) := by
  induction decisions using List.reverseRecOn with
  | nil => rfl
  | append_singleton decisions d ih =>
      rw [tally_concat, List.countP_append, ← ih]
      cases hc : d.chosenReplicaId <;> simp [Tally.add, hc]

theorem latencies_tally (decisions : List (Decision ν)) :
    (tally decisions).latencies = decisions.filterMap (·.latencyMs) := by
  induction decisions using List.reverseRecOn with
  | nil => rfl
  | append_singleton decisions d ih =>
      rw [tally_concat, List.filterMap_append, ← ih]
      cases hc : d.chosenReplicaId <;> cases hl : d.latencyMs <;> simp [Tally.add, hc, hl]

theorem propertyOf_tally (decisions : List (Decision ν)) (r : String) :
    propertyOf (tally decisions).servedByReplica r =
      if decisions.countP (·.chosenReplicaId = some r) = 0 then none
      else some (decisions.countP (·.chosenReplicaId = some r)) := by
  induction decisions using List.reverseRecOn with
  | nil => rfl
  | append_singleton decisions d ih =>
      rw [tally_concat, List.countP_append]
      cases hc : d.chosenReplicaId with
      | none => simpa [Tally.add, hc] using ih
      | some id =>
          simp only [Tally.add, hc]
          rw [propertyOf_bump, List.countP_singleton, hc]
          by_cases hr : r = id
          · subst hr
            rw [ih]
            generalize decisions.countP _ = n
            cases n <;> simp
          · have hother : ¬ id = r := fun h => hr h.symm
            simpa [hr, hother] using ih

theorem nodup_keys_tally (decisions : List (Decision ν)) :
    ((tally decisions).servedByReplica.map (·.1)).Nodup := by
  induction decisions using List.reverseRecOn with
  | nil => exact List.nodup_nil
  | append_singleton decisions d ih =>
      rw [tally_concat]
      cases hc : d.chosenReplicaId with
      | none => simpa [Tally.add, hc] using ih
      | some id => simpa [Tally.add, hc] using nodup_keys_bump ih id

end WhyRouted
