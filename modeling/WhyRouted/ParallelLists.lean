import Mathlib.Algebra.Order.Ring.Nat
import Mathlib.Data.List.Forall2
import Mathlib.Data.List.Perm.Basic

/-! # Lists that change one entry at a time

A list kept as a table: entries are put last and changed in place (`List.set`).  What a change does
to what is read off the table: to a relation with another table, entry by entry
(`forall₂_set_left`, `forall₂_set_right`), to the number of the entries of a kind
(`countP_set_add`), to what the entries hold, as a bag (`filterMap_set_perm`), and to a sum over
them (`sum_map_set_lt`). -/

variable {α β γ : Type}

/-! ### Two tables side by side -/

section forall₂

variable {R : α → β → Prop} {l : List α} {l' : List β} {k : ℕ} {a : α} {b : β}

theorem forall₂_getElem? (h : List.Forall₂ R l l') (ha : l[k]? = some a) (hb : l'[k]? = some b) :
    R a b := by
  obtain ⟨hk, rfl⟩ := List.getElem?_eq_some_iff.mp ha
  obtain ⟨hk', rfl⟩ := List.getElem?_eq_some_iff.mp hb
  exact h.get hk hk'

theorem exists_getElem?_of_forall₂ (h : List.Forall₂ R l l') (ha : l[k]? = some a) :
    ∃ b, l'[k]? = some b ∧ R a b := by
  obtain ⟨hk, -⟩ := List.getElem?_eq_some_iff.mp ha
  have hk' : k < l'.length := h.length_eq ▸ hk
  have hb : l'[k]? = some l'[k] := List.getElem?_eq_getElem hk'
  exact ⟨l'[k], hb, forall₂_getElem? h ha hb⟩

theorem forall₂_set (h : List.Forall₂ R l l') (k : ℕ) (hab : R a b) :
    List.Forall₂ R (l.set k a) (l'.set k b) := by
  induction h generalizing k with
  | nil => exact List.Forall₂.nil
  | cons hxy hl ih =>
      cases k with
      | zero => exact List.Forall₂.cons hab hl
      | succ k => exact List.Forall₂.cons hxy (ih k)

theorem forall₂_set_left (h : List.Forall₂ R l l') (hb : l'[k]? = some b) (hab : R a b) :
    List.Forall₂ R (l.set k a) l' := by
  obtain ⟨hk, rfl⟩ := List.getElem?_eq_some_iff.mp hb
  have hset := forall₂_set h k hab
  rwa [List.set_getElem_self] at hset

theorem forall₂_set_right (h : List.Forall₂ R l l') (ha : l[k]? = some a) (hab : R a b) :
    List.Forall₂ R l (l'.set k b) := by
  obtain ⟨hk, rfl⟩ := List.getElem?_eq_some_iff.mp ha
  have hset := forall₂_set h k hab
  rwa [List.set_getElem_self] at hset

end forall₂

/-! ### Reading one table -/

section reading

variable {l : List α} {k : ℕ} {a b : α} {p : α → Bool}

theorem countP_set_add (hget : l[k]? = some a) (b : α) :
    (l.set k b).countP p + (p a).toNat = l.countP p + (p b).toNat := by
  induction l generalizing k with
  | nil => cases hget
  | cons x l ih =>
      cases k with
      | zero =>
          obtain rfl := Option.some.inj hget
          rw [List.set_cons_zero, List.countP_cons, List.countP_cons]
          cases p x <;> cases p b <;> rfl
      | succ k =>
          have hrest := ih (k := k) hget
          rw [List.set_cons_succ, List.countP_cons, List.countP_cons]
          omega

theorem filterMap_set_perm (f : α → Option γ) (hget : l[k]? = some a) (b : α) : ∃ rest,
    (l.filterMap f).Perm ((f a).toList ++ rest) ∧
    ((l.set k b).filterMap f).Perm ((f b).toList ++ rest) := by
  obtain ⟨hk, rfl⟩ := List.getElem?_eq_some_iff.mp hget
  have hcons : ∀ x, ((x :: l.eraseIdx k).filterMap f) =
      (f x).toList ++ (l.eraseIdx k).filterMap f := by
    intro x
    cases hx : f x <;> simp [hx]
  refine ⟨(l.eraseIdx k).filterMap f, ?_, ?_⟩
  · rw [← hcons]
    exact ((List.getElem_cons_eraseIdx_perm hk).symm).filterMap f
  · rw [← hcons]
    exact (List.set_perm_cons_eraseIdx hk b).filterMap f

end reading

/-! ### The table as a whole -/

theorem map_set_of_eq (f : α → β) {l : List α} {k : ℕ} {a a' : α} (hget : l[k]? = some a)
    (hsame : f a' = f a) : (l.set k a').map f = l.map f := by
  have himage : (l.map f)[k]? = some (f a) := by rw [List.getElem?_map, hget, Option.map_some]
  obtain ⟨hlt, himage⟩ := List.getElem?_eq_some_iff.mp himage
  rw [List.map_set, hsame, ← himage, List.set_getElem_self]

theorem sum_map_set_lt (f : α → ℕ) {l : List α} {k : ℕ} {a a' : α} (hget : l[k]? = some a)
    (hlt : f a' < f a) : ((l.set k a').map f).sum < (l.map f).sum := by
  induction l generalizing k with
  | nil => simp at hget
  | cons x l ih =>
      cases k with
      | zero =>
          obtain rfl : x = a := by simpa using hget
          simp only [List.set_cons_zero, List.map_cons, List.sum_cons]
          omega
      | succ k =>
          have hrest := ih (k := k) (by simpa using hget)
          simp only [List.set_cons_succ, List.map_cons, List.sum_cons]
          omega
