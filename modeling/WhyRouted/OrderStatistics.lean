import Mathlib.Data.List.Sort

/-! # Order statistics

In an ascending list the element at index `k` has at least `k + 1` elements that are not above it
and at most `k` that are below it (`countP_le_getElem`, `countP_lt_getElem`).  These two counts say
what a percentile of a sample is, whatever order the sample was taken in (`IsPercentile`).  Ranked
by a key, the second of a list is the least of what is left without the first (`second_iff`).

Nothing here is about a particular program: the elements are those of any linear order. -/

namespace OrderStatistics

variable {α : Type*} [LinearOrder α] {l l' : List α} {k : ℕ}

/-- At least `k + 1` elements are not above the one at index `k`. -/
theorem countP_le_getElem (h : l.Pairwise (· ≤ ·)) (hk : k < l.length) :
    k + 1 ≤ l.countP (· ≤ l[k]) := by
  have hfirst : (l.take (k + 1)).countP (· ≤ l[k]) = (l.take (k + 1)).length := by
    rw [List.countP_eq_length]
    intro a ha
    obtain ⟨i, hi, rfl⟩ := List.mem_iff_getElem.mp ha
    rw [List.length_take] at hi
    rw [List.getElem_take, decide_eq_true_eq]
    rcases Nat.lt_or_ge i k with hlt | hge
    · exact List.pairwise_iff_getElem.mp h i k (by omega) hk hlt
    · have hik : i = k := by omega
      subst hik
      exact le_rfl
  have hsub := (List.take_sublist (k + 1) l).countP_le (p := (· ≤ l[k]))
  rw [hfirst, List.length_take] at hsub
  omega

/-- At most `k` elements are below the one at index `k`. -/
theorem countP_lt_getElem (h : l.Pairwise (· ≤ ·)) (hk : k < l.length) :
    l.countP (· < l[k]) ≤ k := by
  have hrest : (l.drop k).countP (· < l[k]) = 0 := by
    rw [List.countP_eq_zero]
    intro a ha
    obtain ⟨i, hi, rfl⟩ := List.mem_iff_getElem.mp ha
    rw [List.getElem_drop, decide_eq_true_eq, not_lt]
    rcases Nat.eq_zero_or_pos i with rfl | hpos
    · exact le_rfl
    · exact List.pairwise_iff_getElem.mp h k (k + i) hk (by rw [List.length_drop] at hi; omega)
        (by omega)
  have hsplit := congrArg (List.countP (· < l[k])) (List.take_append_drop k l)
  rw [List.countP_append, hrest] at hsplit
  have hlength := List.countP_le_length (p := (· < l[k])) (l := l.take k)
  rw [List.length_take] at hlength
  omega

theorem sort_perm (h : l.Perm l') : l.insertionSort (· ≤ ·) = l'.insertionSort (· ≤ ·) := by
  have hperm : (l.insertionSort (· ≤ ·)).Perm (l'.insertionSort (· ≤ ·)) :=
    (List.perm_insertionSort _ l).trans (h.trans (List.perm_insertionSort _ l').symm)
  exact hperm.eq_of_pairwise' (List.pairwise_insertionSort _ l) (List.pairwise_insertionSort _ l')

/-! ### Percentiles -/

/-- The value `v` of the sample has at least `p` percent of the sample at or below it, and fewer
than `p` percent below it. -/
structure IsPercentile (sample : List α) (p : ℕ) (v : α) : Prop where
  mem : v ∈ sample
  enough : p * sample.length ≤ 100 * sample.countP (· ≤ v)
  fewer : 100 * sample.countP (· < v) < p * sample.length

namespace IsPercentile

variable {sample : List α} {p q : ℕ} {v w : α}

theorem perm (h : IsPercentile l p v) (hperm : l.Perm l') : IsPercentile l' p v where
  mem := hperm.mem_iff.mp h.mem
  enough := by rw [← hperm.length_eq, ← hperm.countP_eq]; exact h.enough
  fewer := by rw [← hperm.length_eq, ← hperm.countP_eq]; exact h.fewer

theorem mono (hv : IsPercentile sample p v) (hw : IsPercentile sample q w) (hpq : p ≤ q) :
    v ≤ w := by
  by_contra hlt
  have hcount : sample.countP (· ≤ w) ≤ sample.countP (· < v) :=
    List.countP_mono_left fun a _ ha =>
      decide_eq_true (lt_of_le_of_lt (of_decide_eq_true ha) (lt_of_not_ge hlt))
  have hle : p * sample.length ≤ q * sample.length := Nat.mul_le_mul_right _ hpq
  have := hv.fewer
  have := hw.enough
  omega

theorem unique (hv : IsPercentile sample p v) (hw : IsPercentile sample p w) : v = w :=
  le_antisymm (hv.mono hw le_rfl) (hw.mono hv le_rfl)

/-- In an ascending sample it stands at the first index that leaves `p` percent behind it. -/
theorem of_getElem (h : sample.Pairwise (· ≤ ·)) (hk : k < sample.length)
    (henough : p * sample.length ≤ 100 * (k + 1)) (hfewer : 100 * k < p * sample.length) :
    IsPercentile sample p sample[k] where
  mem := List.getElem_mem hk
  enough := le_trans henough (Nat.mul_le_mul_left 100 (countP_le_getElem h hk))
  fewer := lt_of_le_of_lt (Nat.mul_le_mul_left 100 (countP_lt_getElem h hk)) hfewer

end IsPercentile

/-! ### The second of a ranking -/

section ranking

variable {β κ : Type*} [LinearOrder κ] {key : β → κ} {items : List β} {a b : β}

/-- Ranked by distinct keys, the second is the least of the others. -/
theorem second_iff (hnodup : items.Nodup)
    (hinj : ∀ c ∈ items, ∀ d ∈ items, key c = key d → c = d) (ha : a ∈ items)
    (hleast : ∀ c ∈ items, key a ≤ key c) :
    (items.insertionSort (fun c d => key c ≤ key d))[1]? = some b ↔
      b ∈ items ∧ b ≠ a ∧ ∀ c ∈ items, c ≠ a → key b ≤ key c := by
  have hperm := List.perm_insertionSort (fun c d => key c ≤ key d) items
  have hsorted := List.pairwise_insertionSort (fun c d => key c ≤ key d) items
  generalize items.insertionSort (fun c d => key c ≤ key d) = ranked at hperm hsorted ⊢
  have hmem : ∀ c, c ∈ ranked ↔ c ∈ items := fun c => hperm.mem_iff
  have hdistinct : ranked.Nodup := hperm.nodup_iff.mpr hnodup
  match ranked with
  | [] => exact absurd ((hmem a).mpr ha) List.not_mem_nil
  | first :: rest =>
      obtain ⟨hfirst, hrest⟩ := List.pairwise_cons.mp hsorted
      obtain ⟨hnew, -⟩ := List.nodup_cons.mp hdistinct
      -- the first of the ranking is the least
      have hfirst_eq : first = a := by
        have hmem_first := (hmem first).mp List.mem_cons_self
        rcases List.mem_cons.mp ((hmem a).mpr ha) with heq | hin
        · exact heq.symm
        · exact hinj _ hmem_first _ ha (le_antisymm (hfirst a hin) (hleast _ hmem_first))
      subst hfirst_eq
      have hothers : ∀ c, c ∈ rest ↔ c ∈ items ∧ c ≠ first := by
        intro c
        rw [← hmem, List.mem_cons]
        constructor
        · intro hc
          exact ⟨.inr hc, fun heq => hnew (heq ▸ hc)⟩
        · rintro ⟨heq | hc, hne⟩
          · exact absurd heq hne
          · exact hc
      match rest with
      | [] =>
          simp only [List.getElem?_cons_succ, List.getElem?_nil, reduceCtorEq, false_iff, not_and]
          intro hb hne
          exact absurd ((hothers b).mpr ⟨hb, hne⟩) List.not_mem_nil
      | second :: rest =>
          obtain ⟨hsecond, -⟩ := List.pairwise_cons.mp hrest
          have hle : ∀ c ∈ second :: rest, key second ≤ key c := by
            intro c hc
            rcases List.mem_cons.mp hc with rfl | hc
            · exact le_rfl
            · exact hsecond c hc
          rw [List.getElem?_cons_succ, List.getElem?_cons_zero, Option.some.injEq]
          constructor
          · rintro rfl
            obtain ⟨hin, hne⟩ := (hothers second).mp List.mem_cons_self
            exact ⟨hin, hne, fun c hc hca => hle c ((hothers c).mpr ⟨hc, hca⟩)⟩
          · rintro ⟨hb, hne, hall⟩
            obtain ⟨hin, hsecond_ne⟩ := (hothers second).mp List.mem_cons_self
            exact hinj _ hin _ hb (le_antisymm (hle b ((hothers b).mpr ⟨hb, hne⟩))
              (hall second hin hsecond_ne))

end ranking

end OrderStatistics
