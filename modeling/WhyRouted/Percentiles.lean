import Mathlib.Algebra.BigOperators.Group.List.Basic
import WhyRouted.Aggregates
import WhyRouted.OrderStatistics

/-! # The numbers of an aggregate

`aggregate` of `src/mcp/tools/query-decisions.ts` over latencies of an ordered type: the counts add
up, the order of the decisions does not show, and each percentile it reports is the nearest-rank
percentile of the sample, so the array is never read past its end. -/

namespace WhyRouted

variable {ν : Type}

/-! ### The counts -/

theorem sum_increment {counts : List (String × ℕ)} (h : (counts.map (·.1)).Nodup) {id : String}
    (hmem : counts.any (·.1 = id) = true) :
    ((counts.map fun c => if c.1 = id then (c.1, c.2 + 1) else c).map (·.2)).sum =
      (counts.map (·.2)).sum + 1 := by
  induction counts with
  | nil => exact absurd hmem Bool.false_ne_true
  | cons c counts ih =>
      rw [List.map_cons, List.nodup_cons] at h
      simp only [List.map_cons, List.sum_cons]
      by_cases hc : c.1 = id
      · -- the key stands here, so nowhere further on
        have hrest : (counts.map fun c => if c.1 = id then (c.1, c.2 + 1) else c) = counts := by
          conv_rhs => rw [← List.map_id counts]
          apply List.map_congr_left
          intro other hother
          have hne : ¬ other.1 = id := fun he =>
            h.1 (List.mem_map.mpr ⟨other, hother, he.trans hc.symm⟩)
          rw [if_neg hne, id_eq]
        rw [hrest, if_pos hc]
        omega
      · rw [List.any_cons, decide_eq_false hc, Bool.false_or] at hmem
        rw [if_neg hc, ih h.2 hmem]
        omega

theorem sum_bump {counts : List (String × ℕ)} (h : (counts.map (·.1)).Nodup) (id : String) :
    ((bump counts id).map (·.2)).sum = (counts.map (·.2)).sum + 1 := by
  unfold bump
  split_ifs with hmem
  · exact sum_increment h hmem
  · simp

theorem sum_servedByReplica (decisions : List (Decision ν)) :
    ((tally decisions).servedByReplica.map (·.2)).sum = (tally decisions).served := by
  induction decisions using List.reverseRecOn with
  | nil => rfl
  | append_singleton decisions d ih =>
      rw [tally_concat]
      cases hc : d.chosenReplicaId with
      | none => simpa [Tally.add, hc] using ih
      | some id => simp [Tally.add, hc, sum_bump (nodup_keys_tally decisions) id, ih]

/-! ### The percentiles -/

section percentiles

variable [Semiring ν] [LinearOrder ν] [ToString ν]

theorem notGreater_iff {a b : ν} : NotGreater a b ↔ a ≤ b := by
  unfold NotGreater JsNumber.lt JsNumber.ofOrdered
  rw [decide_eq_false_iff_not, not_lt]

theorem sorted_notGreater (sample : List ν) :
    sample.insertionSort NotGreater = sample.insertionSort (· ≤ ·) := by
  have hrel : (NotGreater : ν → ν → Prop) = (· ≤ ·) := by
    funext a b
    exact propext notGreater_iff
  congr 1

/-- The index the code reads is in the array, and what stands there is the percentile. -/
theorem nearestRank_sorted {sample : List ν} (h : sample ≠ []) {p : ℕ} (hpos : 0 < p)
    (hp : p ≤ 100) :
    ∃ v, nearestRank (sample.insertionSort NotGreater) p = some v ∧
      OrderStatistics.IsPercentile sample p v := by
  rw [sorted_notGreater]
  have hperm := List.perm_insertionSort (· ≤ ·) sample
  have hsorted := List.pairwise_insertionSort (· ≤ ·) sample
  have hn : 0 < (sample.insertionSort (· ≤ ·)).length := by
    rw [hperm.length_eq]
    exact List.length_pos_iff.mpr h
  generalize sample.insertionSort (· ≤ ·) = sorted at hperm hsorted hn ⊢
  have hle : p * sorted.length ≤ 100 * sorted.length := Nat.mul_le_mul_right _ hp
  have hge : sorted.length ≤ p * sorted.length := Nat.le_mul_of_pos_left _ hpos
  have hk : max 1 (ceilPercent p sorted.length) - 1 < sorted.length := by
    unfold ceilPercent
    omega
  refine ⟨_, List.getElem?_eq_getElem hk,
    (OrderStatistics.IsPercentile.of_getElem hsorted hk ?_ ?_).perm hperm⟩
  -- the ceiling is the first count that reaches `p` percent, and the one before it does not
  · unfold ceilPercent
    omega
  · unfold ceilPercent
    omega

/-- The numbers of an aggregate: the counts add up, the order of the decisions does not show, and
the percentiles are those of the latencies, in order and none above the largest. -/
theorem aggregate_nearest_rank (decisions : List (Decision ν)) (range : ResolvedRange) :
    (aggregate decisions range).total = decisions.length ∧
    (aggregate decisions range).served + (aggregate decisions range).failed =
      (aggregate decisions range).total ∧
    ((aggregate decisions range).servedByReplica.map (·.2)).sum =
      (aggregate decisions range).served ∧
    ((aggregate decisions range).servedByReplica.map (·.1)).Nodup ∧
    (∀ others : List (Decision ν), others.Perm decisions →
      { aggregate others range with servedByReplica := [] } =
        { aggregate decisions range with servedByReplica := [] } ∧
      ∀ id, propertyOf (aggregate others range).servedByReplica id =
        propertyOf (aggregate decisions range).servedByReplica id) ∧
    (decisions.filterMap (·.latencyMs) ≠ [] →
      ∃ p50 p95 p99 largest, (aggregate decisions range).latency =
          some ⟨(decisions.filterMap (·.latencyMs)).length, some p50, some p95, some p99⟩ ∧
        OrderStatistics.IsPercentile (decisions.filterMap (·.latencyMs)) 50 p50 ∧
        OrderStatistics.IsPercentile (decisions.filterMap (·.latencyMs)) 95 p95 ∧
        OrderStatistics.IsPercentile (decisions.filterMap (·.latencyMs)) 99 p99 ∧
        (decisions.filterMap (·.latencyMs)).max? = some largest ∧
        p50 ≤ p95 ∧ p95 ≤ p99 ∧ p99 ≤ largest) := by
  have hserved : (tally decisions).served ≤ decisions.length := by
    rw [served_tally]
    exact List.countP_le_length
  refine ⟨rfl, Nat.add_sub_cancel' hserved, sum_servedByReplica decisions,
    nodup_keys_tally decisions, fun others hperm => ⟨?_, fun id => ?_⟩, fun hsome => ?_⟩
  · have hlatencies := hperm.filterMap (·.latencyMs)
    simp only [aggregate, served_tally, latencies_tally, hperm.length_eq, hperm.countP_eq,
      latencySummary, sorted_notGreater, OrderStatistics.sort_perm hlatencies]
  · simp only [aggregate, propertyOf_tally, hperm.countP_eq]
  · obtain ⟨p50, h50, hp50⟩ := nearestRank_sorted hsome (p := 50) (by omega) (by omega)
    obtain ⟨p95, h95, hp95⟩ := nearestRank_sorted hsome (p := 95) (by omega) (by omega)
    obtain ⟨p99, h99, hp99⟩ := nearestRank_sorted hsome (p := 99) (by omega) (by omega)
    obtain ⟨largest, hmax⟩ := Option.ne_none_iff_exists'.mp (List.max?_eq_none_iff.not.mpr hsome)
    refine ⟨p50, p95, p99, largest, ?_, hp50, hp95, hp99, hmax, hp50.mono hp95 (by omega),
      hp95.mono hp99 (by omega), (List.max?_le_iff hmax).mp le_rfl p99 hp99.mem⟩
    obtain ⟨summary, hsummary⟩ := Option.ne_none_iff_exists'.mp
      (latencySummary_eq_none_iff.not.mpr hsome)
    show latencySummary (tally decisions).latencies = _
    rw [latencies_tally, hsummary, latencySummary_eq_some hsummary, h50, h95, h99]

end percentiles

end WhyRouted
