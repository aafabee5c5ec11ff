import Mathlib.Data.Char
import Mathlib.Data.List.Lex
import WhyRouted.Types

/-! # The order of strings

JavaScript compares strings by their UTF-16 code units, which is not the order of their code
points: a character outside the basic plane is two surrogates and sorts below the last
characters of the plane.  The encoding is injective, because a high surrogate is never a
character of its own, so the comparison is a strict total order on strings. -/

namespace WhyRouted

/-! ### The encoding -/

/-- The code units of one character. -/
def charUnits (c : Char) : List ℕ :=
  if c.toNat < 0x10000 then [c.toNat]
  else [0xD800 + (c.toNat - 0x10000) / 0x400, 0xDC00 + (c.toNat - 0x10000) % 0x400]

theorem codeUnits_eq_flatMap (s : String) : codeUnits s = s.toList.flatMap charUnits := rfl

theorem toNat_lt_or_gt (c : Char) :
    c.toNat < 0xD800 ∨ (0xDFFF < c.toNat ∧ c.toNat < 0x110000) := c.valid

theorem charUnits_ne_nil (c : Char) : charUnits c ≠ [] := by
  unfold charUnits
  split_ifs <;> simp

/-- No code of a character is the start of another's. -/
theorem charUnits_append_inj {c d : Char} {us vs : List ℕ}
    (h : charUnits c ++ us = charUnits d ++ vs) : c = d ∧ us = vs := by
  have hc := toNat_lt_or_gt c
  have hd := toNat_lt_or_gt d
  unfold charUnits at h
  split_ifs at h with hcb hdb hdb
  · simp only [List.cons_append, List.nil_append, List.cons.injEq] at h
    exact ⟨Char.toNat_inj.mp h.1, h.2⟩
  -- one is a single unit and the other a pair: the first unit decides
  · simp only [List.cons_append, List.nil_append, List.cons.injEq] at h
    omega
  · simp only [List.cons_append, List.nil_append, List.cons.injEq] at h
    omega
  · simp only [List.cons_append, List.nil_append, List.cons.injEq] at h
    obtain ⟨hhigh, hlow, hrest⟩ := h
    have hcd : c.toNat = d.toNat := by omega
    exact ⟨Char.toNat_inj.mp hcd, hrest⟩

theorem flatMap_charUnits_injective : Function.Injective (List.flatMap charUnits) := by
  intro cs
  induction cs with
  | nil =>
      intro ds h
      cases ds with
      | nil => rfl
      | cons d ds =>
          rw [List.flatMap_nil, List.flatMap_cons] at h
          exact absurd (List.append_eq_nil_iff.mp h.symm).1 (charUnits_ne_nil d)
  | cons c cs ih =>
      intro ds h
      cases ds with
      | nil =>
          rw [List.flatMap_nil, List.flatMap_cons] at h
          exact absurd (List.append_eq_nil_iff.mp h).1 (charUnits_ne_nil c)
      | cons d ds =>
          rw [List.flatMap_cons, List.flatMap_cons] at h
          obtain ⟨hcd, hrest⟩ := charUnits_append_inj h
          rw [hcd, ih hrest]

theorem codeUnits_injective : Function.Injective codeUnits := by
  intro a b h
  exact String.toList_injective (flatMap_charUnits_injective h)

/-! ### The comparison -/

theorem codeUnitLt_iff {a b : String} : codeUnitLt a b = true ↔ codeUnits a < codeUnits b :=
  decide_eq_true_iff

theorem codeUnitLt_irrefl (a : String) : codeUnitLt a a = false := by
  unfold codeUnitLt
  exact decide_eq_false (lt_irrefl (codeUnits a))

/-- A text of characters of the basic plane is its own encoding. -/
theorem codeUnits_of_basic {a : String} (h : ∀ c ∈ a.toList, c.toNat < 0x10000) :
    codeUnits a = a.toList.map Char.toNat := by
  rw [codeUnits_eq_flatMap, ← List.flatMap_singleton' (a.toList.map Char.toNat), List.flatMap_map]
  apply List.flatMap_congr
  intro c hc
  exact if_pos (h c hc)

theorem codeUnitLt_iff_of_basic {a b : String} (ha : ∀ c ∈ a.toList, c.toNat < 0x10000)
    (hb : ∀ c ∈ b.toList, c.toNat < 0x10000) : codeUnitLt a b = true ↔ a.toList < b.toList := by
  have hmono : ∀ {s t : List Char}, s < t → s.map Char.toNat < t.map Char.toNat :=
    fun h => List.map_lt (fun _ _ hlt => hlt) h
  rw [codeUnitLt_iff, codeUnits_of_basic ha, codeUnits_of_basic hb]
  constructor
  · intro h
    rcases lt_trichotomy a.toList b.toList with hlt | heq | hgt
    · exact hlt
    · rw [heq] at h
      exact absurd h (lt_irrefl _)
    · exact absurd h (lt_asymm (hmono hgt))
  · exact hmono

end WhyRouted
