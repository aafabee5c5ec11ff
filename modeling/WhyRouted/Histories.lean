import Mathlib.Data.List.DropRight
import Mathlib.Data.List.Induction

/-! # Trailing runs, alternation, what still stands, and what happened once

Four notions for reading a list as a history, oldest entry first.

* `trailing p l` is the length of the run of entries satisfying `p` that `l` ends with: how
  many times in a row, up to now.  `trailing_concat` is its recursion on the last entry and
  `le_trailing_iff` reads it as a suffix.
* `Alternates a b l` says that `l` is `a, b, a, b, …`.  `alternates_concat_iff` says when it
  can be continued, by looking at the last entry only.
* `Standing p q l` says that a `p` has happened and no `q` since: what a `q` undoes still holds.
  `standing_concat_iff` is its recursion on the last entry.
* `Sole p l y` says that `y` is the one entry satisfying `p`.  `sole_last` and `Sole.concat` are
  its two ways to come from a list without the last entry.

And a history that marks the entries of a table that grows (`marked_concat`, `not_marked_of_le`),
and one cut where it shows something for the last time (`exists_of_getLast?_filterMap`) or after
as many others (`exists_of_getElem?_filterMap`). -/

variable {α : Type}

/-! ### Trailing runs -/

/-- How many entries at the end of `l`, in a row, satisfy `p`. -/
def trailing (p : α → Bool) (l : List α) : ℕ := (l.rtakeWhile p).length

@[simp] theorem trailing_nil (p : α → Bool) : trailing p [] = 0 := by simp [trailing]

theorem trailing_concat (p : α → Bool) (l : List α) (x : α) :
    trailing p (l ++ [x]) = if p x then trailing p l + 1 else 0 := by
  unfold trailing
  cases h : p x with
  | true => rw [List.rtakeWhile_concat_pos p l x h]; simp
  | false => rw [List.rtakeWhile_concat_neg p l x (by simp [h])]; simp

/-- At least `n` in a row: the last `n` entries exist and satisfy `p`. -/
theorem le_trailing_iff (p : α → Bool) (l : List α) (n : ℕ) :
    n ≤ trailing p l ↔ ∃ l₁ l₂, l = l₁ ++ l₂ ∧ l₂.length = n ∧ ∀ x ∈ l₂, p x := by
  induction l using List.reverseRecOn generalizing n with
  | nil =>
      rw [trailing_nil, Nat.le_zero]
      constructor
      · rintro rfl
        exact ⟨[], [], rfl, rfl, by simp⟩
      · rintro ⟨l₁, l₂, h, rfl, _⟩
        simp [(List.append_eq_nil_iff.mp h.symm).2]
  | append_singleton l x ih =>
      rw [trailing_concat]
      cases n with
      | zero => simp
      | succ n =>
          constructor
          · intro h
            by_cases hx : p x
            · rw [if_pos hx] at h
              obtain ⟨l₁, l₂, rfl, hl, hp⟩ := (ih n).mp (by omega)
              refine ⟨l₁, l₂ ++ [x], by simp, by simp [hl], ?_⟩
              intro y hy
              rcases List.mem_append.mp hy with hy | hy
              · exact hp y hy
              · rw [List.mem_singleton.mp hy]; exact hx
            · rw [if_neg hx] at h; omega
          · rintro ⟨l₁, l₂, h, hl, hp⟩
            obtain ⟨l₃, y, rfl⟩ := List.eq_nil_or_concat' l₂ |>.resolve_left (by
              rintro rfl; simp at hl)
            rw [← List.append_assoc] at h
            obtain ⟨rfl, hxy⟩ := List.append_inj' h rfl
            obtain rfl := List.singleton_inj.mp hxy
            have hn : n ≤ trailing p (l₁ ++ l₃) := (ih n).mpr
              ⟨l₁, l₃, rfl, by simpa using hl, fun z hz => hp z (List.mem_append_left _ hz)⟩
            rw [if_pos (hp x (by simp))]
            omega

theorem exists_append_replicate [DecidableEq α] {a : α} {l : List α} {n : ℕ}
    (h : n ≤ trailing (fun x => decide (x = a)) l) : ∃ l₁, l = l₁ ++ List.replicate n a := by
  obtain ⟨l₁, l₂, rfl, rfl, hall⟩ := (le_trailing_iff _ l n).mp h
  have hl₂ : l₂ = List.replicate l₂.length a :=
    List.eq_replicate_of_mem fun x hx => by simpa using hall x hx
  exact ⟨l₁, congrArg (l₁ ++ ·) hl₂⟩

/-! ### Alternation -/

/-- `l` is `a, b, a, b, …`, starting with `a`. -/
def Alternates (a b : α) : List α → Prop
  | [] => True
  | x :: l => x = a ∧ Alternates b a l

instance instDecidableAlternates [DecidableEq α] :
    ∀ (a b : α) (l : List α), Decidable (Alternates a b l)
  | _, _, [] => isTrue trivial
  | a, b, x :: l =>
      have := instDecidableAlternates b a l
      inferInstanceAs (Decidable (x = a ∧ Alternates b a l))

theorem Alternates.eq_or_eq {a b : α} {l : List α} (h : Alternates a b l) :
    ∀ x ∈ l, x = a ∨ x = b := by
  induction l generalizing a b with
  | nil => simp
  | cons y l ih =>
      obtain ⟨rfl, h⟩ := h
      intro x hx
      rcases List.mem_cons.mp hx with rfl | hx
      · exact Or.inl rfl
      · exact (ih h x hx).symm

/-- An alternating list goes on with `a` unless its last entry is `a`, and then with `b`. -/
theorem alternates_concat_iff {a b : α} (hab : a ≠ b) (l : List α) (x : α) :
    Alternates a b (l ++ [x]) ↔ Alternates a b l ∧
      ((x = a ∧ l.getLast? ≠ some a) ∨ (x = b ∧ l.getLast? = some a)) := by
  induction l generalizing a b with
  | nil => simp [Alternates]
  | cons y l ih =>
      simp only [List.cons_append, Alternates, ih hab.symm, and_assoc]
      apply and_congr_right
      intro hy
      apply and_congr_right
      intro hl
      subst hy
      cases l using List.reverseRecOn with
      | nil => simp
      | append_singleton l z =>
          rw [← List.cons_append, List.getLast?_concat, List.getLast?_concat]
          rcases hl.eq_or_eq z (by simp) with rfl | rfl
          · simp [hab.symm]
          · simp [hab]

/-! ### Standing -/

section standing

variable {p q : α → Prop} {l : List α}

/-- Some entry satisfies `p`, and none after it satisfies `q`. -/
def Standing (p q : α → Prop) (l : List α) : Prop :=
  ∃ l₁ x l₂, l = l₁ ++ x :: l₂ ∧ p x ∧ ∀ y ∈ l₂, ¬ q y

theorem not_standing_nil : ¬ Standing p q [] := by
  rintro ⟨l₁, x, l₂, h, -⟩
  simp at h

/-- The last entry starts it anew, or leaves it standing. -/
theorem standing_concat_iff (x : α) : Standing p q (l ++ [x]) ↔ p x ∨ (Standing p q l ∧ ¬ q x) := by
  constructor
  · rintro ⟨l₁, y, l₂, h, hp, hq⟩
    rcases List.eq_nil_or_concat' l₂ with rfl | ⟨l₃, z, rfl⟩
    · obtain ⟨-, hxy⟩ := List.append_inj' h rfl
      obtain rfl := List.singleton_inj.mp hxy
      exact Or.inl hp
    · rw [← List.cons_append, ← List.append_assoc] at h
      obtain ⟨rfl, hxz⟩ := List.append_inj' h rfl
      obtain rfl := List.singleton_inj.mp hxz
      exact Or.inr ⟨⟨l₁, y, l₃, rfl, hp, fun w hw => hq w (List.mem_append_left _ hw)⟩,
        hq x (List.mem_append_right _ (List.mem_singleton_self x))⟩
  · rintro (hp | ⟨⟨l₁, y, l₂, rfl, hp, hq⟩, hx⟩)
    · exact ⟨l, x, [], rfl, hp, by simp⟩
    · refine ⟨l₁, y, l₂ ++ [x], by simp, hp, fun w hw => ?_⟩
      rcases List.mem_append.mp hw with hw | hw
      · exact hq w hw
      · rw [List.mem_singleton.mp hw]
        exact hx

/-- What stands without being started anew has been standing. -/
theorem Standing.of_append {l' : List α} (h : Standing p q (l ++ l')) (hnone : ∀ x ∈ l', ¬ p x) :
    Standing p q l := by
  induction l' using List.reverseRecOn with
  | nil => rwa [List.append_nil] at h
  | append_singleton l' x ih =>
      rw [← List.append_assoc, standing_concat_iff] at h
      have hlast := hnone x (List.mem_append_right _ (List.mem_singleton_self x))
      exact ih (h.resolve_left hlast).1 fun y hy => hnone y (List.mem_append_left _ hy)

end standing

/-! ### The only entry of its kind -/

section sole

variable {p : α → Prop} {l : List α} {x y : α}

/-- `y` is the one entry that satisfies `p`. -/
def Sole (p : α → Prop) (l : List α) (y : α) : Prop :=
  ∃ l₁ l₂, l = l₁ ++ y :: l₂ ∧ p y ∧ (∀ z ∈ l₁, ¬ p z) ∧ ∀ z ∈ l₂, ¬ p z

theorem sole_last (hnone : ∀ z ∈ l, ¬ p z) (hx : p x) : Sole p (l ++ [x]) x :=
  ⟨l, [], rfl, hx, hnone, by simp⟩

theorem Sole.concat (h : Sole p l y) (hx : ¬ p x) : Sole p (l ++ [x]) y := by
  obtain ⟨l₁, l₂, rfl, hy, hbefore, hafter⟩ := h
  refine ⟨l₁, l₂ ++ [x], by simp, hy, hbefore, fun z hz => ?_⟩
  rcases List.mem_append.mp hz with hz | hz
  · exact hafter z hz
  · rw [List.mem_singleton.mp hz]
    exact hx

theorem Sole.mem (h : Sole p l y) : y ∈ l := by
  obtain ⟨l₁, l₂, rfl, -⟩ := h
  simp

theorem Sole.eq_of_mem (h : Sole p l y) (hmem : x ∈ l) (hx : p x) : x = y := by
  obtain ⟨l₁, l₂, rfl, -, hbefore, hafter⟩ := h
  rcases List.mem_append.mp hmem with hmem | hmem
  · exact absurd hx (hbefore x hmem)
  · rcases List.mem_cons.mp hmem with rfl | hmem
    · rfl
    · exact absurd hx (hafter x hmem)

theorem forall_not_concat (hnone : ∀ z ∈ l, ¬ p z) (hx : ¬ p x) : ∀ z ∈ l ++ [x], ¬ p z := by
  intro z hz
  rcases List.mem_append.mp hz with hz | hz
  · exact hnone z hz
  · rw [List.mem_singleton.mp hz]
    exact hx

end sole

/-! ### Marks on a table that grows -/

section marks

variable {mark : ℕ → α → Prop} {l : List α} {x : α} {n m : ℕ}

theorem marked_concat (hknown : ∀ z ∈ l, ∀ j, mark j z → j < n) (hle : n ≤ m)
    (hx : ∀ j, mark j x → j < m) : ∀ z ∈ l ++ [x], ∀ j, mark j z → j < m := by
  intro z hz j hj
  rcases List.mem_append.mp hz with hz | hz
  · exact (hknown z hz j hj).trans_le hle
  · rw [List.mem_singleton.mp hz] at hj
    exact hx j hj

theorem not_marked_of_le (hknown : ∀ z ∈ l, ∀ j, mark j z → j < n) {j : ℕ} (hj : n ≤ j) :
    ∀ z ∈ l, ¬ mark j z := by
  intro z hz hmark
  exact absurd (hknown z hz j hmark) (by omega)

end marks

/-! ### The last of a kind, and each of them -/

theorem exists_of_getLast?_filterMap {β : Type} {f : α → Option β} {l : List α} {b : β}
    (h : (l.filterMap f).getLast? = some b) :
    ∃ l₁ x l₂, l = l₁ ++ x :: l₂ ∧ f x = some b ∧ ∀ y ∈ l₂, f y = none := by
  obtain ⟨before, hsplit⟩ := List.getLast?_eq_some_iff.mp h
  obtain ⟨l₁, l₂, rfl, -, hrest⟩ := List.filterMap_eq_append_iff.mp hsplit
  obtain ⟨l₃, x, l₄, rfl, -, hx, hnone⟩ := List.filterMap_eq_cons_iff.mp hrest
  exact ⟨l₁ ++ l₃, x, l₄, by simp, hx, List.filterMap_eq_nil_iff.mp hnone⟩

theorem exists_of_getElem?_filterMap {β : Type} {f : α → Option β} {l : List α} {k : ℕ} {b : β}
    (h : (l.filterMap f)[k]? = some b) :
    ∃ l₁ x l₂, l = l₁ ++ x :: l₂ ∧ f x = some b ∧ (l₁.filterMap f).length = k := by
  obtain ⟨hlt, rfl⟩ := List.getElem?_eq_some_iff.mp h
  have hsplit : l.filterMap f =
      (l.filterMap f).take k ++ (l.filterMap f)[k] :: (l.filterMap f).drop (k + 1) := by
    rw [List.getElem_cons_drop, List.take_append_drop]
  obtain ⟨l₁, l₂, hl, hbefore, hrest⟩ := List.filterMap_eq_append_iff.mp hsplit
  obtain ⟨l₃, x, l₄, rfl, hnone, hx, -⟩ := List.filterMap_eq_cons_iff.mp hrest
  refine ⟨l₁ ++ l₃, x, l₄, by rw [hl, List.append_assoc], hx, ?_⟩
  rw [List.filterMap_append, hbefore, List.filterMap_eq_nil_iff.mpr hnone, List.append_nil,
    List.length_take_of_le hlt.le]
