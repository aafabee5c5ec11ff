import Mathlib.Data.List.MinMax
import Mathlib.Data.Prod.Lex

/-! # Running minima

A loop over a list that keeps the best element seen so far and replaces it only by a strictly
better one.  When "better" is "has a smaller key" of every element that is compared, the loop
computes the list's `argmin`; when the keys are distinct besides, the element it ends with is the
one whose key is least, whatever the order of the list.

Nothing here is about a particular program: the elements and the keys are arbitrary. -/

namespace RunningMinimum

variable {α κ σ : Type*}

/-- The loop: `first`, then every element of `rest` in order. -/
def best (better : α → α → Bool) (first : α) (rest : List α) : α :=
  rest.foldl (fun held candidate => if better candidate held then candidate else held) first

/-- A loop that also carries the held element's score holds the same element, and its score. -/
theorem foldl_scored (better : α → α → Bool) (score : α → σ) (step : α × σ → α → α × σ)
    (hstep : ∀ held candidate, step (held, score held) candidate =
      if better candidate held then (candidate, score candidate) else (held, score held))
    (first : α) (rest : List α) :
    rest.foldl step (first, score first) =
      (best better first rest, score (best better first rest)) := by
  unfold best
  induction rest generalizing first with
  | nil => rfl
  | cons candidate rest ih =>
      rw [List.foldl_cons, List.foldl_cons, hstep]
      split_ifs
      · exact ih candidate
      · exact ih first

section keyed

variable [LinearOrder κ] {key : α → κ} {better : α → α → Bool} {first : α} {rest : List α}

/-- The loop ends with the list's first element of least key. -/
theorem some_best_eq_argmin (hbetter : ∀ a ∈ rest, ∀ b, better a b = true ↔ key a < key b) :
    some (best better first rest) = (first :: rest).argmin key := by
  have hfold : ∀ held, some (best better held rest) =
      rest.foldl (List.argAux fun b c => key b < key c) (some held) := by
    unfold best
    induction rest with
    | nil => intro held; rfl
    | cons candidate rest ih =>
        intro held
        rw [List.foldl_cons, List.foldl_cons, ih fun a ha => hbetter a (List.mem_cons_of_mem _ ha)]
        have hfirst := hbetter candidate List.mem_cons_self held
        congr 1
        by_cases hlt : key candidate < key held
        · rw [if_pos (hfirst.mpr hlt)]
          exact (if_pos hlt).symm
        · rw [if_neg (mt hfirst.mp hlt)]
          exact (if_neg hlt).symm
  exact hfold first

theorem best_mem (hbetter : ∀ a ∈ rest, ∀ b, better a b = true ↔ key a < key b) :
    best better first rest ∈ first :: rest :=
  List.argmin_mem (some_best_eq_argmin hbetter).symm

theorem key_best_le (hbetter : ∀ a ∈ rest, ∀ b, better a b = true ↔ key a < key b) {a : α}
    (ha : a ∈ first :: rest) : key (best better first rest) ≤ key a :=
  List.le_of_mem_argmin ha (some_best_eq_argmin hbetter).symm

theorem best_eq_iff (hbetter : ∀ a ∈ rest, ∀ b, better a b = true ↔ key a < key b)
    (hinj : ∀ a ∈ first :: rest, ∀ b ∈ first :: rest, key a = key b → a = b)
    {m : α} : best better first rest = m ↔
      m ∈ first :: rest ∧ ∀ a ∈ first :: rest, key m ≤ key a := by
  have hmem : best better first rest ∈ first :: rest := best_mem hbetter
  constructor
  · intro h
    subst h
    exact ⟨hmem, fun a ha => key_best_le hbetter ha⟩
  · rintro ⟨hm, hleast⟩
    have hle : key (best better first rest) ≤ key m := key_best_le hbetter hm
    have hge : key m ≤ key (best better first rest) := hleast _ hmem
    exact hinj _ hmem m hm (le_antisymm hle hge)

end keyed

end RunningMinimum
