import Mathlib.Data.List.DropRight
import WhyRouted.CodeUnits

/-! # String functions of the language

`trim`, `toLowerCase` and `length` as JavaScript has them, and the decimal text of a counter. -/

namespace WhyRouted

/-! ### Trimming -/

/-- The characters `trim` strips: white space and line terminators. -/
def isJsSpace (c : Char) : Bool :=
  [0x09, 0x0A, 0x0B, 0x0C, 0x0D, 0x20, 0xA0, 0x1680, 0x2028, 0x2029, 0x202F, 0x205F, 0x3000,
    0xFEFF].contains c.toNat || decide (0x2000 ≤ c.toNat ∧ c.toNat ≤ 0x200A)

/-- `s.trim()`. -/
def jsTrim (s : String) : String :=
  String.ofList ((s.toList.dropWhile isJsSpace).rdropWhile isJsSpace)

/-- No white space at either end. -/
def Trimmed (s : String) : Prop :=
  (∀ c ∈ s.toList.head?, isJsSpace c = false) ∧ ∀ c ∈ s.toList.getLast?, isJsSpace c = false

theorem trimmed_jsTrim (s : String) : Trimmed (jsTrim s) := by
  unfold Trimmed jsTrim
  rw [String.toList_ofList]
  generalize hl : s.toList.dropWhile isJsSpace = l
  have hhead : ∀ c ∈ l.head?, isJsSpace c = false := by
    intro c hc
    rw [← hl] at hc
    have hnot := List.head?_dropWhile_not isJsSpace s.toList
    rw [Option.mem_def.mp hc] at hnot
    exact hnot
  constructor
  · intro c hc
    have hprefix := List.rdropWhile_prefix isJsSpace l
    apply hhead
    obtain ⟨rest, hrest⟩ := hprefix
    cases hr : l.rdropWhile isJsSpace with
    | nil => rw [hr] at hc; cases hc
    | cons d ds =>
        rw [hr] at hc hrest
        rw [← hrest]
        exact hc
  · intro c hc
    cases hr : l.rdropWhile isJsSpace with
    | nil => rw [hr] at hc; cases hc
    | cons d ds =>
        have hne : l.rdropWhile isJsSpace ≠ [] := by rw [hr]; simp
        have hlast := List.rdropWhile_last_not isJsSpace l hne
        rw [List.getLast?_eq_some_getLast hne, Option.mem_some_iff] at hc
        rw [hc] at hlast
        exact Bool.not_eq_true _ ▸ hlast

theorem jsTrim_of_trimmed {s : String} (h : Trimmed s) : jsTrim s = s := by
  obtain ⟨hhead, hlast⟩ := h
  have hleft : s.toList.dropWhile isJsSpace = s.toList := by
    cases hs : s.toList with
    | nil => rfl
    | cons c cs =>
        rw [hs] at hhead
        exact List.dropWhile_cons_of_neg (by simp [hhead c rfl])
  have hright : s.toList.rdropWhile isJsSpace = s.toList := by
    rw [List.rdropWhile_eq_self_iff]
    intro hne
    simp [hlast _ (List.getLast?_eq_some_getLast hne)]
  rw [jsTrim, hleft, hright, String.ofList_toList]

theorem jsTrim_ne_empty {s : String} {c : Char} (hc : c ∈ s.toList) (h : isJsSpace c = false) :
    jsTrim s ≠ "" := by
  intro hempty
  have hnil : (s.toList.dropWhile isJsSpace).rdropWhile isJsSpace = [] := by
    rw [← String.toList_ofList (l := (s.toList.dropWhile isJsSpace).rdropWhile isJsSpace)]
    exact congrArg String.toList hempty
  rw [← List.takeWhile_append_dropWhile (p := isJsSpace) (l := s.toList)] at hc
  rcases List.mem_append.mp hc with hstart | hrest
  · have hspace := List.mem_takeWhile_imp hstart
    rw [h] at hspace
    cases hspace
  · have hspace := List.rdropWhile_eq_nil_iff.mp hnil c hrest
    rw [h] at hspace
    cases hspace

/-! ### Case and length -/

/-- `c.toLowerCase()` on the letters of ASCII; other characters stay.  No character outside
ASCII has one of the letters compared with it here as its lower case. -/
def asciiLower (c : Char) : Char :=
  if 'A' ≤ c ∧ c ≤ 'Z' then Char.ofNat (c.toNat + 32) else c

/-- `s.toLowerCase()`, for comparison with ASCII text. -/
def jsLower (s : String) : String := String.ofList (s.toList.map asciiLower)

/-- `s.length`. -/
def jsLength (s : String) : ℕ := (codeUnits s).length

/-! ### Counters -/

theorem natText_injective : Function.Injective (toString : ℕ → String) := by
  intro m n h
  have hm : (toString m).toList = Nat.toDigits 10 m := by
    simp [Nat.repr_eq_ofList_toDigits]
  have hn : (toString n).toList = Nat.toDigits 10 n := by
    simp [Nat.repr_eq_ofList_toDigits]
  have hdigits : Nat.toDigits 10 m = Nat.toDigits 10 n := by rw [← hm, ← hn, h]
  have hback := congrArg (fun l => Nat.ofDigitChars 10 l 0) hdigits
  simpa using hback

end WhyRouted
