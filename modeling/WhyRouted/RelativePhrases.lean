import Mathlib.Data.List.TakeDrop
import WhyRouted.PatternLanguage
import WhyRouted.ReadTools

/-! # Relative phrases

`resolveLast` reads a phrase by one pattern: an optional `last`, `past` or `previous`, an optional
count, a unit.  Which phrases the pattern takes is a matter of its language; which count and which
unit it captures is a matter of the order in which it tries, the unit as short as it can be so that
a plural `s` is left out of it. -/

namespace WhyRouted

open IsoTime (Instant timeClip toISOString)
open TextPattern

/-! ### The grammar of a phrase -/

/-- `last`, `past` or `previous`, and white space; or nothing. -/
def Introduces (part : List Char) : Prop :=
  part = [] ∨ ∃ word ∈ ["last", "past", "previous"], ∃ w spaces, part = w ++ spaces ∧
    w.map asciiLower = word.toList ∧ spaces ≠ [] ∧ ∀ c ∈ spaces, isJsSpace c = true

/-- A row of digits, and any white space; or nothing, which counts 1. -/
def Counts (part : List Char) (count : ℕ) : Prop :=
  (part = [] ∧ count = 1) ∨ ∃ digits spaces, part = digits ++ spaces ∧ digits ≠ [] ∧
    (∀ c ∈ digits, c.isDigit = true) ∧ (∀ c ∈ spaces, isJsSpace c = true) ∧
    count = Nat.ofDigitChars 10 digits 0

/-- The phrase asks for so many of the unit of that name, which may stand in the plural. -/
def AsksFor (text : List Char) (count : ℕ) (name : String) : Prop :=
  ∃ before number unit plural, text = before ++ (number ++ (unit ++ plural)) ∧
    Introduces before ∧ Counts number count ∧ unit.map asciiLower = name.toList ∧
    (plural = [] ∨ plural.map asciiLower = ['s'])

/-- The parts of a phrase, whatever its unit. -/
structure Phrased (text before number : List Char) (count : ℕ) (letters : List Char) : Prop where
  text_eq : text = before ++ (number ++ letters)
  introduces : Introduces before
  counts : Counts number count
  nonempty : letters ≠ []
  isLetter : ∀ c ∈ letters, isLetter c = true

/-- The letters of a unit without a plural `s`. -/
def singular (letters : List Char) : List Char :=
  if 2 ≤ letters.length ∧ letters.getLast?.map asciiLower = some 's' then letters.dropLast
  else letters

variable {text before number letters : List Char} {count : ℕ}

/-! ### Which phrases the pattern takes -/

theorem accepts_caseless {word : String} {part : List Char} :
    (caseless word).Accepts part ↔ part.map asciiLower = word.toList.map asciiLower :=
  accepts_literal

/-- One of the words, in either case. -/
def Says (words : List String) (w : List Char) : Prop :=
  ∃ word ∈ words, w.map asciiLower = word.toList.map asciiLower

theorem accepts_words {words : List String} {part : List Char} :
    (Pattern.oneOf (words.map caseless)).Accepts part ↔ Says words part := by
  rw [accepts_oneOf]
  constructor
  · rintro ⟨a, ha, hpart⟩
    obtain ⟨word, hmem, rfl⟩ := List.mem_map.mp ha
    exact ⟨word, hmem, accepts_caseless.mp hpart⟩
  · rintro ⟨word, hmem, hpart⟩
    exact ⟨caseless word, List.mem_map_of_mem hmem, accepts_caseless.mpr hpart⟩

theorem accepts_backwards {part : List Char} (h : backwards.Accepts part) :
    ∃ w spaces, part = w ++ spaces ∧ Says ["last", "past", "previous"] w ∧ spaces ≠ [] ∧
      ∀ c ∈ spaces, isJsSpace c = true := by
  obtain ⟨w, _, rfl, hword, spaces, _, rfl, hspaces, rfl⟩ := h
  obtain ⟨hne, hspaces⟩ := accepts_many1.mp hspaces
  exact ⟨w, spaces, by simp, accepts_words.mp hword, hne, hspaces⟩

theorem lower_backwards : ∀ word ∈ ["last", "past", "previous"],
    word.toList.map asciiLower = word.toList := by decide

theorem introduces_of_accepts {part : List Char} (h : backwards.optional.Accepts part) :
    Introduces part := by
  rcases accepts_optional.mp h with rfl | h
  · exact .inl rfl
  · obtain ⟨w, spaces, hpart, ⟨word, hword, hw⟩, hne, hspaces⟩ := accepts_backwards h
    exact .inr ⟨word, hword, w, spaces, hpart, hw.trans (lower_backwards word hword), hne, hspaces⟩

theorem Introduces.parts {part : List Char} (h : Introduces part) :
    part = [] ∨ ∃ w spaces, part = w ++ spaces ∧ Says ["last", "past", "previous"] w ∧
      spaces ≠ [] ∧ ∀ c ∈ spaces, isJsSpace c = true := by
  rcases h with hnil | ⟨word, hword, w, spaces, hpart, hw, hne, hspaces⟩
  · exact .inl hnil
  · exact .inr ⟨w, spaces, hpart, ⟨word, hword, hw.trans (lower_backwards word hword).symm⟩, hne,
      hspaces⟩

theorem counts_of_accepts {part : List Char}
    (h : (Pattern.optional (.group 1 (.all [.many1 Char.isDigit, spaces]))).Accepts part) :
    ∃ count, Counts part count := by
  rcases accepts_optional.mp h with rfl | ⟨digits, _, rfl, hdigits, spaces, _, rfl, hspaces, rfl⟩
  · exact ⟨1, .inl ⟨rfl, rfl⟩⟩
  · obtain ⟨hne, hdigits⟩ := accepts_many1.mp hdigits
    exact ⟨_, .inr ⟨digits, spaces, by simp, hne, hdigits, hspaces, rfl⟩⟩

theorem isLetter_of_lower {c : Char} (h : asciiLower c = 's') : isLetter c = true := by
  simp [isLetter, h]

theorem phrased_of_accepts {part : List Char} (hbefore : Introduces before)
    (hpart : countAndUnit.Accepts part) :
    ∃ number count letters, Phrased (before ++ part) before number count letters := by
  obtain ⟨number, _, rfl, hnumber, unit, _, rfl, hunit, plural, _, rfl, hplural, rfl⟩ := hpart
  obtain ⟨hne, hletters⟩ := accepts_few1.mp hunit
  obtain ⟨count, hcounts⟩ := counts_of_accepts hnumber
  refine ⟨number, count, unit ++ plural, by simp, hbefore, hcounts, by simp [hne], ?_⟩
  intro c hc
  rcases List.mem_append.mp hc with hc | hc
  · exact hletters c hc
  · rcases accepts_optional.mp hplural with rfl | hplural
    · cases hc
    · have hlower := accepts_caseless.mp hplural
      have hs : asciiLower c ∈ ['s'] := by
        have hmem := List.mem_map_of_mem (f := asciiLower) hc
        rw [hlower] at hmem
        exact hmem
      exact isLetter_of_lower (List.mem_singleton.mp hs)

theorem phrased_of_exec {m : Match} (h : lastPhrase.exec text 0 = some m) :
    ∃ before number count letters, Phrased text before number count letters := by
  obtain ⟨pos, c, -, -, hfirst, -, -⟩ := exec_eq_some h
  have hmem : c ∈ lastPhrase.results text ⟨pos, []⟩ := List.mem_of_mem_head? hfirst
  obtain ⟨d₀, hstart, hmem⟩ := mem_results_seq.mp hmem
  obtain ⟨d₁, hbefore, hmem⟩ := mem_results_seq.mp hmem
  obtain ⟨d₂, hunit, hmem⟩ := mem_results_seq.mp hmem
  obtain ⟨d₃, hfinish, -⟩ := mem_results_seq.mp hmem
  obtain ⟨hzero, rfl⟩ := mem_start_iff.mp hstart
  have hend := (mem_finish_iff.mp hfinish).1
  obtain ⟨before, htakes, hbefore⟩ := accepts_of_mem_results hbefore
  obtain ⟨part, htakes', hpart⟩ := accepts_of_mem_results hunit
  obtain ⟨number, count, letters, hphrase⟩ :=
    phrased_of_accepts (introduces_of_accepts hbefore) hpart
  have htext := (htakes.append htakes').text_eq
  rw [hzero, hend, List.drop_zero, List.drop_length, List.append_nil] at htext
  rw [← htext] at hphrase
  exact ⟨before, number, count, letters, hphrase⟩

/-! ### What the pattern captures -/

theorem toNat_of_isDigit {c : Char} (h : c.isDigit = true) : 48 ≤ c.toNat ∧ c.toNat ≤ 57 := by
  simpa [Char.isDigit, Char.le_def, UInt32.le_iff_toNat_le] using h

theorem toNat_of_isLetter {c : Char} (h : isLetter c = true) :
    (65 ≤ c.toNat ∧ c.toNat ≤ 90) ∨ (97 ≤ c.toNat ∧ c.toNat ≤ 122) := by
  have hle : ∀ a b : Char, a ≤ b ↔ a.toNat ≤ b.toNat := fun _ _ => Iff.rfl
  unfold isLetter asciiLower at h
  split_ifs at h with hupper
  · exact .inl ⟨(hle _ _).mp hupper.1, (hle _ _).mp hupper.2⟩
  · rw [decide_eq_true_eq, hle, hle] at h
    exact .inr h

theorem not_space_of_toNat {c : Char} (hlow : 0x20 < c.toNat) (hhigh : c.toNat < 0x7F) :
    isJsSpace c = false := by
  simp [isJsSpace]
  omega

theorem isLetter_not_space {c : Char} (h : isLetter c = true) : isJsSpace c = false := by
  have hrange := toNat_of_isLetter h
  exact not_space_of_toNat (by omega) (by omega)

theorem isDigit_not_space {c : Char} (h : c.isDigit = true) : isJsSpace c = false := by
  have hrange := toNat_of_isDigit h
  exact not_space_of_toNat (by omega) (by omega)

theorem isLetter_not_digit {c : Char} (h : isLetter c = true) : c.isDigit = false := by
  have hrange := toNat_of_isLetter h
  rw [← Bool.not_eq_true]
  intro hdigit
  have := toNat_of_isDigit hdigit
  omega

theorem space_not_digit {c : Char} (h : isJsSpace c = true) : c.isDigit = false := by
  rw [← Bool.not_eq_true]
  intro hdigit
  rw [isDigit_not_space hdigit] at h
  cases h

theorem head_of_letters (hne : letters ≠ []) (hletters : ∀ c ∈ letters, isLetter c = true)
    (rest : List Char) : ∀ d ∈ (letters ++ rest).head?, isLetter d = true := by
  obtain ⟨c, cs, rfl⟩ := List.exists_cons_of_ne_nil hne
  intro d hd
  obtain rfl := Option.some.inj hd
  exact hletters c List.mem_cons_self

/-- No two of the words begin with the same `k` letters, in either case. -/
def ToldApart (k : ℕ) (words : List String) : Prop :=
  ∀ word ∈ words, ∀ other ∈ words, other ≠ word → k ≤ word.toList.length ∧
    k ≤ other.toList.length ∧
    (other.toList.map asciiLower).take k ≠ (word.toList.map asciiLower).take k

instance (k : ℕ) (words : List String) : Decidable (ToldApart k words) :=
  inferInstanceAs (Decidable (∀ word ∈ words, ∀ other ∈ words, other ≠ word → _ ∧ _ ∧ _ ≠ _))

theorem first_word {k : ℕ} {words : List String} (hwords : ToldApart k words) {w rest : List Char}
    (hsaid : Says words w) {pos : ℕ} (htext : text.drop pos = w ++ rest)
    (groups : List (ℕ × Span)) :
    (Pattern.oneOf (words.map caseless)).first text ⟨pos, groups⟩ =
      some ⟨pos + w.length, groups⟩ := by
  obtain ⟨word, hmem, hw⟩ := hsaid
  have hlength : w.length = word.toList.length := by simpa using congrArg List.length hw
  have hother : ∀ other ∈ words, other ≠ word →
      (caseless other).results text ⟨pos, groups⟩ = [] := by
    intro other hmem' hne
    obtain ⟨hk, hk', hdiff⟩ := hwords word hmem other hmem' hne
    unfold caseless
    rw [results_literal, htext, List.length_map, if_neg]
    intro hsame
    apply hdiff
    rw [← hsame, ← hw, ← List.map_take, ← List.map_take, List.take_take, Nat.min_eq_left hk',
      List.take_append_of_le_length (by omega)]
  clear hwords
  induction words with
  | nil => cases hmem
  | cons other words ih =>
      rw [List.map_cons, Pattern.oneOf]
      by_cases heq : other = word
      · subst heq
        exact first_alt_left (first_literal htext hw groups)
      · rw [first_alt_right (hother other List.mem_cons_self heq)]
        exact ih ((List.mem_cons.mp hmem).resolve_left (Ne.symm heq))
          fun other' hmem' => hother other' (List.mem_cons_of_mem other hmem')

theorem toldApart_backwards : ToldApart 2 ["last", "past", "previous"] := by decide

theorem isLetter_of_lower_eq {c d : Char} (h : asciiLower c = asciiLower d) :
    isLetter c = isLetter d := by
  unfold isLetter
  rw [h]

theorem head_of_says {words : List String}
    (hwords : words.all (fun word => word.toList.head?.any isLetter) = true) {w : List Char}
    (h : Says words w) : ∃ c cs, w = c :: cs ∧ isLetter c = true := by
  obtain ⟨word, hmem, hw⟩ := h
  have hhead := List.all_eq_true.mp hwords word hmem
  cases hword : word.toList with
  | nil =>
      rw [hword] at hhead
      cases hhead
  | cons d ds =>
      rw [hword] at hhead hw
      cases w with
      | nil => cases hw
      | cons c cs =>
          have hc : asciiLower c = asciiLower d := (List.cons.inj hw).1
          exact ⟨c, cs, rfl, (isLetter_of_lower_eq hc).trans hhead⟩

theorem Counts.cases_head (h : Counts number count) (hletters : ∀ c ∈ letters, isLetter c = true) :
    (∀ c ∈ number ++ letters, isLetter c = true) ∨
      ∃ c cs, number ++ letters = c :: cs ∧ c.isDigit = true := by
  rcases h with ⟨rfl, -⟩ | ⟨digits, spaces, rfl, hne, hdigits, -, -⟩
  · exact .inl hletters
  · cases digits with
    | nil => exact absurd rfl hne
    | cons c cs => exact .inr ⟨c, cs ++ spaces ++ letters, by simp, hdigits c List.mem_cons_self⟩

/-- A count and a unit do not begin with a word that introduces a phrase. -/
theorem not_introduced (h : Counts number count) (hletters : ∀ c ∈ letters, isLetter c = true)
    {part rest : List Char} (heq : number ++ letters = part ++ rest) :
    ¬ backwards.Accepts part := by
  intro hpart
  obtain ⟨w, spaces, rfl, hw, hne, hspaces⟩ := accepts_backwards hpart
  rcases h.cases_head hletters with hall | ⟨c, cs, hcons, hdigit⟩
  · obtain ⟨c, hc⟩ := List.exists_mem_of_ne_nil spaces hne
    have hmem : c ∈ number ++ letters := by
      rw [heq]
      simp [hc]
    have hspace := hspaces c hc
    rw [isLetter_not_space (hall c hmem)] at hspace
    cases hspace
  · obtain ⟨c', cs', rfl, hletter⟩ := head_of_says (by decide) hw
    rw [hcons] at heq
    obtain ⟨rfl, -⟩ := List.cons.inj heq
    rw [isLetter_not_digit hletter] at hdigit
    cases hdigit

theorem Counts.not_blank (h : Counts number count) {rest : List Char}
    (hrest : ∀ d ∈ rest.head?, isLetter d = true) :
    ∀ d ∈ (number ++ rest).head?, isJsSpace d = false := by
  rcases h with ⟨rfl, -⟩ | ⟨digits, spaces, rfl, hne, hdigits, -, -⟩
  · exact fun d hd => isLetter_not_space (hrest d hd)
  · obtain ⟨c, cs, rfl⟩ := List.exists_cons_of_ne_nil hne
    intro d hd
    obtain rfl := Option.some.inj hd
    exact isDigit_not_space (hdigits c List.mem_cons_self)

theorem first_backwards {w spaces rest : List Char} {pos : ℕ}
    (hsaid : Says ["last", "past", "previous"] w) (hne : spaces ≠ [])
    (hspaces : ∀ c ∈ spaces, isJsSpace c = true) (hrest : ∀ c ∈ rest.head?, isJsSpace c = false)
    (htext : text.drop pos = w ++ (spaces ++ rest)) :
    backwards.first text ⟨pos, []⟩ = some ⟨pos + (w ++ spaces).length, []⟩ := by
  have hwordFirst := first_word toldApart_backwards hsaid htext []
  have hspacesFirst := first_many1 (drop_of_append htext) hne hspaces hrest []
  have hfirst := first_seq hwordFirst (first_seq hspacesFirst (first_empty _))
  rw [Nat.add_assoc, ← List.length_append] at hfirst
  exact hfirst

theorem first_introduction (h : Phrased text before number count letters) :
    backwards.optional.first text ⟨0, []⟩ = some ⟨before.length, []⟩ := by
  have htext : text.drop 0 = before ++ (number ++ letters) := h.text_eq
  rcases h.introduces.parts with rfl | ⟨w, spaces, rfl, hsaid, hne, hspaces⟩
  · apply first_optional_of_nil
    rw [List.eq_nil_iff_forall_not_mem]
    intro c hc
    obtain ⟨part, htakes, hpart⟩ := accepts_of_mem_results hc
    exact not_introduced h.counts h.isLetter (htext.symm.trans htakes.text_eq) hpart
  · have hafter := h.counts.not_blank fun d hd => h.isLetter d (List.mem_of_mem_head? hd)
    rw [List.append_assoc] at htext
    have hfirst := first_optional (first_backwards hsaid hne hspaces hafter htext)
    rw [Nat.zero_add] at hfirst
    exact hfirst

/-- The group of the count, unless there is none. -/
def countGroups (pos : ℕ) (number : List Char) : List (ℕ × Span) :=
  if number = [] then [] else [(1, ⟨pos, pos + number.length⟩)]

theorem first_count (h : Counts number count) {rest : List Char}
    (hrest : ∀ d ∈ rest.head?, isLetter d = true) {pos : ℕ}
    (htext : text.drop pos = number ++ rest) :
    (Pattern.optional (.group 1 (.all [.many1 Char.isDigit, spaces]))).first text ⟨pos, []⟩ =
      some ⟨pos + number.length, countGroups pos number⟩ := by
  rcases h with ⟨rfl, -⟩ | ⟨digits, blanks, rfl, hne, hdigits, hblanks, -⟩
  · apply first_optional_of_nil
    rw [List.eq_nil_iff_forall_not_mem]
    intro c hc
    obtain ⟨part, htakes, hpart⟩ := accepts_of_mem_results hc
    obtain ⟨digits, after, rfl, hdigits, -⟩ := hpart
    obtain ⟨hne, hdigits⟩ := accepts_many1.mp hdigits
    obtain ⟨d, ds, rfl⟩ := List.exists_cons_of_ne_nil hne
    have hhead : d ∈ rest.head? := by
      have heq : rest = d :: ds ++ after ++ text.drop c.pos := htext.symm.trans htakes.text_eq
      rw [heq]
      rfl
    have hdigit := hdigits d List.mem_cons_self
    rw [isLetter_not_digit (hrest d hhead)] at hdigit
    cases hdigit
  · have hafter : ∀ d ∈ rest.head?, isJsSpace d = false := fun d hd =>
      isLetter_not_space (hrest d hd)
    have hafter' : ∀ d ∈ (blanks ++ rest).head?, d.isDigit = false := by
      intro d hd
      cases blanks with
      | nil => exact isLetter_not_digit (hrest d hd)
      | cons c cs =>
          obtain rfl := Option.some.inj hd
          exact space_not_digit (hblanks c List.mem_cons_self)
    rw [List.append_assoc] at htext
    have hlast := drop_of_append htext
    have hmany := first_many text isJsSpace ⟨pos + digits.length, []⟩
    rw [runLength_of_drop hlast hblanks hafter] at hmany
    have hfirst := first_optional (first_group (i := 1)
      (first_seq (first_many1 htext hne hdigits hafter' []) (first_seq hmany (first_empty _))))
    rw [Nat.add_assoc, ← List.length_append] at hfirst
    rw [countGroups, if_neg (by simp [hne])]
    exact hfirst

/-! ### The unit and its plural -/

/-- What is left out of the unit. -/
def pluralOf (letters : List Char) : List Char :=
  if 2 ≤ letters.length ∧ letters.getLast?.map asciiLower = some 's' then
    letters.drop (letters.length - 1)
  else []

theorem singular_append_plural (letters : List Char) :
    singular letters ++ pluralOf letters = letters := by
  unfold singular pluralOf
  split_ifs
  · rw [List.dropLast_eq_take, List.take_append_drop]
  · exact List.append_nil letters

theorem plural_cases (letters : List Char) :
    pluralOf letters = [] ∨ (pluralOf letters).map asciiLower = ['s'] := by
  unfold pluralOf
  split_ifs with h
  · obtain ⟨hlength, hlast⟩ := h
    have hne : letters ≠ [] := by
      rintro rfl
      cases hlast
    rw [List.getLast?_eq_some_getLast hne] at hlast
    refine .inr ?_
    rw [List.drop_length_sub_one hne]
    simpa using hlast
  · exact .inl rfl

theorem singular_ne_nil (h : letters ≠ []) : singular letters ≠ [] := by
  unfold singular
  split_ifs with hs
  · rw [← List.length_pos_iff, List.length_dropLast]
    omega
  · exact h

theorem length_le_singular {n : ℕ} (hn : 0 < n) (hend : letters.drop n = [] ∨
    (letters.drop n).map asciiLower = ['s']) : (singular letters).length ≤ n := by
  rcases hend with hend | hend
  · rw [List.drop_eq_nil_iff] at hend
    have hlength := congrArg List.length (singular_append_plural letters)
    rw [List.length_append] at hlength
    omega
  · have hlength := congrArg List.length hend
    rw [List.length_map, List.length_drop, List.length_singleton] at hlength
    have hne : letters ≠ [] := by
      rintro rfl
      rw [List.drop_nil] at hend
      cases hend
    have hplural : 2 ≤ letters.length ∧ letters.getLast?.map asciiLower = some 's' := by
      refine ⟨by omega, ?_⟩
      have hlast := List.drop_length_sub_one hne
      rw [show letters.length - 1 = n by omega] at hlast
      rw [hlast] at hend
      rw [List.getLast?_eq_some_getLast hne, Option.map_some]
      exact congrArg some (List.singleton_inj.mp hend)
    rw [singular, if_pos hplural, List.length_dropLast]
    omega

/-- After the unit: a plural `s`, and what holds at the end of the word. -/
def closing (close : Pattern) : Pattern := (Pattern.optional (caseless "s")).seq (close.seq .empty)

/-- From a place to the end of a word, the assertion holds at that end only. -/
structure HoldsAtEnd (close : Pattern) (text : List Char) (pos stop : ℕ) : Prop where
  holds : ∀ groups, close.first text ⟨stop, groups⟩ = some ⟨stop, groups⟩
  inside : ∀ c : Cursor, pos < c.pos → c.pos < stop → close.results text c = []

theorem accepts_plural {part : List Char} (h : (Pattern.optional (caseless "s")).Accepts part) :
    part = [] ∨ part.map asciiLower = ['s'] :=
  (accepts_optional.mp h).imp id accepts_caseless.mp

section Unit

variable {close : Pattern} {pos : ℕ} {rest : List Char}

theorem drop_inside (htext : text.drop pos = letters ++ rest) {n : ℕ} (hn : n ≤ letters.length) :
    text.drop (pos + n) = letters.drop n ++ rest := by
  rw [← List.drop_drop, htext, List.drop_append_of_le_length hn]

theorem closing_nil (hclose : HoldsAtEnd close text pos (pos + letters.length))
    (htext : text.drop pos = letters ++ rest) {n : ℕ} (hn : 0 < n)
    (h : ¬ (letters.drop n = [] ∨ (letters.drop n).map asciiLower = ['s']))
    (groups : List (ℕ × Span)) : (closing close).results text ⟨pos + n, groups⟩ = [] := by
  have hlt : n < letters.length := by
    by_contra hle
    exact h (.inl (List.drop_of_length_le (not_lt.mp hle)))
  rw [List.eq_nil_iff_forall_not_mem]
  intro c hc
  obtain ⟨d, hd, hlast⟩ := mem_results_seq.mp hc
  obtain ⟨d', hclosed, -⟩ := mem_results_seq.mp hlast
  obtain ⟨part, htakes, hpart⟩ := accepts_of_mem_results hd
  have hpos : d.pos = pos + n + part.length := htakes.pos_eq
  have hstop : pos + letters.length ≤ d.pos := by
    by_contra hin
    rw [hclose.inside d (by omega) (not_le.mp hin)] at hclosed
    cases hclosed
  rcases accepts_plural hpart with rfl | hs
  · rw [List.length_nil] at hpos
    omega
  · have hone : part.length = 1 := by simpa using congrArg List.length hs
    have heq := (drop_inside htext (le_of_lt hlt)).symm.trans htakes.text_eq
    obtain ⟨hdrop, -⟩ := List.append_inj heq (by rw [List.length_drop]; omega)
    rw [hdrop] at h
    exact h (.inr hs)

theorem first_closing (hclose : HoldsAtEnd close text pos (pos + letters.length))
    (htext : text.drop pos = letters ++ rest) (hrest : ∀ d ∈ rest.head?, isLetter d = false)
    {n : ℕ} (hn : n ≤ letters.length)
    (h : letters.drop n = [] ∨ (letters.drop n).map asciiLower = ['s'])
    (groups : List (ℕ × Span)) :
    (closing close).first text ⟨pos + n, groups⟩ = some ⟨pos + letters.length, groups⟩ := by
  have hdrop := drop_inside htext hn
  rcases h with h | h
  · have hend : n = letters.length := Nat.le_antisymm hn (List.drop_eq_nil_iff.mp h)
    rw [h, List.nil_append] at hdrop
    have hnone : (caseless "s").results text ⟨pos + n, groups⟩ = [] := by
      unfold caseless
      rw [results_literal, hdrop, if_neg]
      intro hs
      cases rest with
      | nil => cases hs
      | cons d ds =>
          have hlower : asciiLower d = 's' := (List.cons.inj hs).1
          have hnot := hrest d rfl
          rw [isLetter_of_lower hlower] at hnot
          cases hnot
    rw [hend] at hnone ⊢
    exact first_seq (first_optional_of_nil hnone) (first_seq (hclose.holds groups) (first_empty _))
  · have hone : (letters.drop n).length = 1 := by simpa using congrArg List.length h
    have hs := first_literal hdrop h groups
    rw [List.length_drop] at hone hs
    rw [show pos + n + (letters.length - n) = pos + letters.length by omega] at hs
    exact first_seq (first_optional hs) (first_seq (hclose.holds groups) (first_empty _))

theorem results_unit (hne : letters ≠ []) (hletters : ∀ c ∈ letters, isLetter c = true)
    (htext : text.drop pos = letters ++ rest) (hrest : ∀ d ∈ rest.head?, isLetter d = false)
    (groups : List (ℕ × Span)) :
    (Pattern.group 2 (.few1 isLetter)).results text ⟨pos, groups⟩ =
      (List.range letters.length).map fun n =>
        ⟨pos + 1 + n, (2, ⟨pos, pos + 1 + n⟩) :: groups⟩ := by
  cases letters with
  | nil => exact absurd rfl hne
  | cons d ds =>
      have hrun : runLength isLetter text (pos + 1) = ds.length :=
        runLength_of_drop (drop_of_cons htext) (fun e he => hletters e (.tail d he)) hrest
      have hd := hletters d List.mem_cons_self
      simp [Pattern.few1, Pattern.results, getElem?_of_drop htext, hd, hrun]

theorem exists_range_eq_append {k n : ℕ} (h : k < n) :
    ∃ rest, List.range n = List.range k ++ k :: rest := by
  obtain ⟨m, rfl⟩ : ∃ m, n = k + (m + 1) := ⟨n - k - 1, by omega⟩
  rw [List.range_add, List.range_succ_eq_map]
  exact ⟨_, rfl⟩

theorem first_unit (hne : letters ≠ []) (hletters : ∀ c ∈ letters, isLetter c = true)
    (htext : text.drop pos = letters ++ rest) (hrest : ∀ d ∈ rest.head?, isLetter d = false)
    (hclose : HoldsAtEnd close text pos (pos + letters.length)) (groups : List (ℕ × Span)) :
    ((Pattern.group 2 (.few1 isLetter)).seq (closing close)).first text ⟨pos, groups⟩ =
      some ⟨pos + letters.length, (2, ⟨pos, pos + (singular letters).length⟩) :: groups⟩ := by
  have hsingular := List.length_pos_iff.mpr (singular_ne_nil hne)
  have hparts := congrArg List.length (singular_append_plural letters)
  rw [List.length_append] at hparts
  obtain ⟨k, hk⟩ := Nat.exists_eq_add_of_lt hsingular
  rw [Nat.zero_add] at hk
  obtain ⟨more, hrange⟩ := exists_range_eq_append (show k < letters.length by omega)
  have hways := results_unit hne hletters htext hrest groups
  rw [hrange, List.map_append, List.map_cons] at hways
  refine first_seq_of_skip hways ?_ ?_
  -- a shorter unit leaves more than a plural `s`
  · intro d hd
    obtain ⟨m, hm, rfl⟩ := List.mem_map.mp hd
    rw [List.mem_range] at hm
    rw [Nat.add_assoc, Nat.add_comm 1]
    refine closing_nil hclose htext (Nat.succ_pos m) (fun hend => ?_) _
    have hle := length_le_singular (Nat.succ_pos m) hend
    omega
  · have hplural : letters.drop (k + 1) = pluralOf letters := by
      rw [← hk]
      nth_rewrite 2 [← singular_append_plural letters]
      exact List.drop_left
    rw [hk, Nat.add_assoc, Nat.add_comm 1]
    refine first_closing hclose htext hrest (by omega) ?_ _
    rw [hplural]
    exact plural_cases letters

/-- The count and the unit are taken up to the end of the word. -/
theorem first_countAndUnit (h : Counts number count) (hne : letters ≠ [])
    (hletters : ∀ c ∈ letters, isLetter c = true)
    (htext : text.drop pos = number ++ (letters ++ rest))
    (hrest : ∀ d ∈ rest.head?, isLetter d = false)
    (hclose : HoldsAtEnd close text (pos + number.length)
      (pos + number.length + letters.length)) :
    (countAndUnit.seq (close.seq .empty)).first text ⟨pos, []⟩ =
      some ⟨pos + number.length + letters.length,
        (2, ⟨pos + number.length, pos + number.length + (singular letters).length⟩) ::
          countGroups pos number⟩ := by
  have hhead := head_of_letters hne hletters rest
  have hunit := first_unit hne hletters (drop_of_append htext) hrest hclose (countGroups pos number)
  have hassoc : (countAndUnit.seq (close.seq .empty)).results text ⟨pos, []⟩ = _ :=
    results_all_seq _ _ _
  exact (congrArg List.head? hassoc).trans (first_seq (first_count h hhead htext) hunit)

end Unit

/-! ### Reading a phrase -/

/-- The match of a phrase is the whole of it. -/
theorem exec_of_phrased (h : Phrased text before number count letters) :
    lastPhrase.exec text 0 = some ⟨⟨0, text.length⟩,
      (2, ⟨before.length + number.length,
        before.length + number.length + (singular letters).length⟩) ::
      countGroups before.length number⟩ := by
  have htext : text.drop before.length = number ++ (letters ++ []) := by
    rw [h.text_eq, List.drop_left, List.append_nil]
  have hlength := congrArg List.length h.text_eq
  rw [List.length_append, List.length_append, ← Nat.add_assoc] at hlength
  have hclose : HoldsAtEnd .finish text (before.length + number.length)
      (before.length + number.length + letters.length) := by
    rw [← hlength]
    refine ⟨first_finish rfl, fun c _ hlt => ?_⟩
    exact if_neg (Nat.ne_of_lt hlt)
  have hparts := first_countAndUnit h.counts h.nonempty h.isLetter htext (by simp) hclose
  rw [← hlength] at hparts
  exact exec_of_first (first_seq (first_start []) (first_seq (first_introduction h) hparts))

theorem group_unit (h : Phrased text before number count letters) :
    (lastPhrase.exec text 0).bind (·.group? 2 text) = some (String.ofList (singular letters)) := by
  have hof : Span.of ⟨before.length + number.length,
      before.length + number.length + (singular letters).length⟩
      ((before ++ number) ++ (singular letters ++ pluralOf letters)) =
      String.ofList (singular letters) := of_append (by simp) (by simp)
  rw [singular_append_plural, List.append_assoc, ← h.text_eq] at hof
  rw [exec_of_phrased h]
  exact congrArg some hof

theorem group_count (h : Phrased text before number count letters) :
    (lastPhrase.exec text 0).bind (·.group? 1 text) =
      if number = [] then none else some (String.ofList number) := by
  have hof : Span.of ⟨before.length, before.length + number.length⟩
      (before ++ (number ++ letters)) = String.ofList number := of_append rfl rfl
  rw [← h.text_eq] at hof
  rw [exec_of_phrased h, countGroups]
  split_ifs
  · rfl
  · exact congrArg some hof

theorem not_exec_of_not_phrased
    (h : ¬ ∃ before number count letters, Phrased text before number count letters) :
    lastPhrase.exec text 0 = none := by
  cases hexec : lastPhrase.exec text 0 with
  | none => rfl
  | some m => exact absurd (phrased_of_exec hexec) h

theorem Counts.eq_one (h : Counts number count) (hnil : number = []) : count = 1 := by
  rcases h with ⟨-, hone⟩ | ⟨digits, blanks, heq, hne, -⟩
  · exact hone
  · rw [hnil] at heq
    exact absurd (List.append_eq_nil_iff.mp heq.symm).1 hne

theorem Counts.digitsValue_eq (h : Counts number count) (hne : number ≠ []) :
    digitsValue (jsTrim (String.ofList number)) = count := by
  rcases h with ⟨rfl, -⟩ | ⟨digits, blanks, rfl, hdigits, hall, hblanks, rfl⟩
  · exact absurd rfl hne
  · have hnot : ∀ c ∈ digits, ¬ isJsSpace c = true := fun c hc => by
      rw [isDigit_not_space (hall c hc)]
      exact Bool.false_ne_true
    have hleft : (digits ++ blanks).dropWhile isJsSpace = digits ++ blanks := by
      cases digits with
      | nil => exact absurd rfl hdigits
      | cons c cs => exact List.dropWhile_cons_of_neg (hnot c List.mem_cons_self)
    have hright : (digits ++ blanks).rdropWhile isJsSpace = digits := by
      rw [List.rdropWhile, List.reverse_append, List.dropWhile_append_of_pos]
      · have hdrop : digits.rdropWhile isJsSpace = digits := by
          rw [List.rdropWhile_eq_self_iff]
          exact fun hdigits => hnot _ (List.getLast_mem hdigits)
        exact hdrop
      · exact fun c hc => hblanks c (List.mem_reverse.mp hc)
    rw [digitsValue, jsTrim, String.toList_ofList, String.toList_ofList, hleft, hright]

/-- The name of the unit, in lower case. -/
def unitName (letters : List Char) : String := String.ofList ((singular letters).map asciiLower)

theorem jsLower_singular : jsLower (String.ofList (singular letters)) = unitName letters := by
  rw [jsLower, String.toList_ofList, unitName]

section Resolving

variable {phrase : String} (now : Instant)

theorem resolveLast_not_phrased
    (h : ¬ ∃ before number count letters,
      Phrased (jsTrim phrase).toList before number count letters) :
    ∃ reason, resolveLast phrase now = .ok (.error reason) := by
  unfold resolveLast
  dsimp only
  rw [not_exec_of_not_phrased h]
  exact ⟨_, rfl⟩

variable (h : Phrased (jsTrim phrase).toList before number count letters)
include h

theorem resolveLast_unknown (hname : unitTable.lookup (unitName letters) = none)
    (hother : unitName letters ≠ "constructor") :
    ∃ reason, resolveLast phrase now = .ok (.error reason) := by
  have hunit : unitMs (String.ofList (singular letters)) = none := by
    rw [unitMs, jsLower_singular, hname]
    exact if_neg hother
  unfold resolveLast
  dsimp only
  rw [group_unit h, Option.bind_some, hunit]
  exact ⟨_, rfl⟩

/-- A count of a unit: it is refused, or it goes back from now. -/
theorem resolveLast_unit {unit : UnitValue}
    (hunit : unitMs (String.ofList (singular letters)) = some unit) :
    resolveLast phrase now =
      if count < 1 then .ok (.error (unreadable phrase "the count must be at least 1"))
      else if (unit.times count).any fun span => maxRelativeDays * 86400000 < span then
        .ok (.error (unreadable phrase ("at most " ++ toString maxRelativeDays ++ " days back")))
      else do
        let lo ← TimeValue.isoString ((unit.times count).bind fun span => timeClip (now.ms - span))
        let hi ← TimeValue.isoString (some now)
        return .ok ⟨lo, hi⟩ := by
  unfold resolveLast
  dsimp only
  rw [group_unit h, Option.bind_some, hunit]
  rw [group_count h]
  by_cases hnumber : number = []
  · rw [if_pos hnumber, h.counts.eq_one hnumber]
  · rw [if_neg hnumber, ← h.counts.digitsValue_eq hnumber]

end Resolving

end WhyRouted
