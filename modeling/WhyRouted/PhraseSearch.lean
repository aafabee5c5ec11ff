import WhyRouted.RelativeRanges
import WhyRouted.WholeTimes

/-! # The relative phrase that is found

`findRange` looks for a relative phrase by a pattern that takes any word for a unit, and then by the
pattern of `resolveLast` in what the first one matched.  The first pattern takes the phrase that
stands first, up to the end of its word (`exec_relative`), and both split it alike, so that a phrase
is found just if it is the first, whatever the words of the others. -/

namespace WhyRouted

open IsoTime (Instant timeClip toISOString)
open TextPattern

/-! ### Phrases in a text -/

/-- A phrase that begins with `last`, `past` or `previous` stands in the text as whole words,
whatever its unit. -/
structure PhraseAt (text : List Char) (start stop : ℕ) (part : List Char) (count : ℕ)
    (letters : List Char) : Prop where
  starts : atBoundary text start = true
  ends : atBoundary text stop = true
  text_eq : text.drop start = part ++ text.drop stop
  stop_eq : stop = start + part.length
  written : ∃ before number, before ≠ [] ∧ Phrased part before number count letters

/-- It counts a unit of so many milliseconds. -/
def UnitPhraseAt (text : List Char) (start stop : ℕ) (part : List Char) (count ms : ℕ) : Prop :=
  ∃ letters name, PhraseAt text start stop part count letters ∧ (name, ms) ∈ unitTable ∧
    Names letters name

/-- The phrase that stands first. -/
structure FirstPhrase (text : List Char) (start stop : ℕ) (part : List Char) (count : ℕ)
    (letters : List Char) : Prop where
  phrase : PhraseAt text start stop part count letters
  leftmost : ∀ start' stop' part' count' letters',
    PhraseAt text start' stop' part' count' letters' → start ≤ start'

variable {text part part' before number letters letters' rest : List Char}
  {start start' stop stop' pos count count' ms : ℕ}

/-! ### Where a word ends -/

theorem isWord_of_isLetter {c : Char} (h : isLetter c = true) : isWord c = true := by
  have hrange := toNat_of_isLetter h
  have hle : ∀ a b : Char, a ≤ b ↔ a.toNat ≤ b.toNat := fun _ _ => Iff.rfl
  unfold isWord
  simp only [hle, Bool.or_eq_true, decide_eq_true_eq]
  rcases hrange with hupper | hlower
  · exact .inl (.inl (.inr hupper))
  · exact .inl (.inl (.inl hlower))

theorem atBoundary_inside (htext : text.drop pos = letters ++ rest)
    (hletters : ∀ c ∈ letters, isLetter c = true) {place : ℕ} (hpos : pos < place)
    (hplace : place < pos + letters.length) : atBoundary text place = false := by
  have hword : ∀ n, n < letters.length → text[pos + n]?.any isWord = true := by
    intro n hn
    have hdrop := drop_inside htext (le_of_lt hn)
    rw [List.drop_eq_getElem_cons hn] at hdrop
    rw [getElem?_of_drop hdrop]
    exact isWord_of_isLetter (hletters _ (List.getElem_mem hn))
  obtain ⟨n, rfl⟩ : ∃ n, place = pos + (n + 1) := ⟨place - pos - 1, by omega⟩
  have hbefore := hword n (by omega)
  have hafter := hword (n + 1) (by omega)
  unfold atBoundary
  rw [if_neg (by omega), show pos + (n + 1) - 1 = pos + n by omega, hbefore, hafter]
  rfl

theorem not_letter_of_boundary (htext : text.drop pos = letters ++ rest) (hne : letters ≠ [])
    (hletters : ∀ c ∈ letters, isLetter c = true)
    (hends : atBoundary text (pos + letters.length) = true) :
    ∀ d ∈ rest.head?, isLetter d = false := by
  intro d hd
  obtain ⟨ds, rfl⟩ := List.head?_eq_some_iff.mp hd
  have hlength := List.length_pos_iff.mpr hne
  rw [← Bool.not_eq_true]
  intro hletter
  have hall : ∀ c ∈ letters ++ [d], isLetter c = true := by
    intro c hc
    rcases List.mem_append.mp hc with hc | hc
    · exact hletters c hc
    · rwa [List.mem_singleton.mp hc]
  have hlonger : text.drop pos = (letters ++ [d]) ++ ds := by
    rw [htext, List.append_assoc, List.singleton_append]
  have hinside : atBoundary text (pos + letters.length) = false :=
    atBoundary_inside hlonger hall (by omega) (by simp)
  rw [hends] at hinside
  cases hinside

theorem holdsAtEnd_boundary (htext : text.drop pos = letters ++ rest)
    (hletters : ∀ c ∈ letters, isLetter c = true)
    (hends : atBoundary text (pos + letters.length) = true) :
    HoldsAtEnd .boundary text pos (pos + letters.length) := by
  refine ⟨first_boundary hends, fun c hlow hhigh => ?_⟩
  simp [Pattern.results, atBoundary_inside htext hletters hlow hhigh]

/-! ### How the phrase is matched -/

/-- The cursor after a phrase. -/
def phraseEnd (start stop : ℕ) (before number letters : List Char) : Cursor :=
  ⟨stop, (2, ⟨start + before.length + number.length,
      start + before.length + number.length + (singular letters).length⟩) ::
    countGroups (start + before.length) number⟩

/-- Where a phrase stands, it is what the pattern takes first. -/
theorem first_relative (hstarts : atBoundary text start = true)
    (hends : atBoundary text stop = true) (htext : text.drop start = part ++ text.drop stop)
    (hstop : stop = start + part.length) (hne : before ≠ [])
    (h : Phrased part before number count letters) :
    relativePhrase.first text ⟨start, []⟩ = some (phraseEnd start stop before number letters) := by
  rcases h.introduces.parts with rfl | ⟨w, spaces, rfl, hsaid, hspacesNe, hspaces⟩
  · exact absurd rfl hne
  have hwritten : text.drop start =
      w ++ (spaces ++ (number ++ (letters ++ text.drop stop))) := by
    rw [htext, h.text_eq]
    simp
  have hhead := head_of_letters h.nonempty h.isLetter (text.drop stop)
  have hbackwards := first_backwards hsaid hspacesNe hspaces (h.counts.not_blank hhead) hwritten
  have hafter : text.drop (start + (w ++ spaces).length) =
      number ++ (letters ++ text.drop stop) := by
    rw [← List.append_assoc] at hwritten
    exact drop_of_append hwritten
  have hplace : start + (w ++ spaces).length + number.length + letters.length = stop := by
    rw [hstop, h.text_eq]
    simp only [List.length_append]
    omega
  have hword := drop_of_append hafter
  have hclose := holdsAtEnd_boundary hword h.isLetter (by rwa [hplace])
  have hnot := not_letter_of_boundary hword h.nonempty h.isLetter (by rwa [hplace])
  have hparts := first_countAndUnit h.counts h.nonempty h.isLetter hafter hnot hclose
  rw [hplace] at hparts
  exact first_seq (first_boundary hstarts []) (first_seq hbackwards hparts)

theorem phraseAt_of_mem_results {c : Cursor} (h : c ∈ relativePhrase.results text ⟨start, []⟩) :
    ∃ part count letters, PhraseAt text start c.pos part count letters := by
  obtain ⟨d₀, hopen, h⟩ := mem_results_seq.mp h
  obtain ⟨d₁, hbefore, h⟩ := mem_results_seq.mp h
  obtain ⟨d₂, hunit, h⟩ := mem_results_seq.mp h
  obtain ⟨d₃, hclose, h⟩ := mem_results_seq.mp h
  obtain rfl := List.mem_singleton.mp h
  obtain ⟨hstarts, rfl⟩ := mem_boundary_iff.mp hopen
  obtain ⟨hends, rfl⟩ := mem_boundary_iff.mp hclose
  obtain ⟨before, htakes, hbefore⟩ := accepts_of_mem_results hbefore
  obtain ⟨part, htakes', hpart⟩ := accepts_of_mem_results hunit
  have hne : before ≠ [] := by
    obtain ⟨w, spaces, rfl, -, hne, -⟩ := accepts_backwards hbefore
    simp [hne]
  have hintroduces := introduces_of_accepts (accepts_optional.mpr (.inr hbefore))
  obtain ⟨number, count, letters, hphrase⟩ := phrased_of_accepts hintroduces hpart
  have hall := htakes.append htakes'
  exact ⟨before ++ part, count, letters, hstarts, hends, hall.text_eq, hall.pos_eq, before, number,
    hne, hphrase⟩

theorem PhraseAt.start_le (h : PhraseAt text start stop part count letters) :
    start ≤ text.length := by
  obtain ⟨before, number, hne, hphrase⟩ := h.written
  by_contra hlong
  have htext := h.text_eq
  rw [List.drop_of_length_le (by omega), hphrase.text_eq] at htext
  have hnil := (List.append_eq_nil_iff.mp htext.symm).1
  exact hne (List.append_eq_nil_iff.mp hnil).1

theorem PhraseAt.first (h : PhraseAt text start stop part count letters) :
    ∃ before number, Phrased part before number count letters ∧
      relativePhrase.first text ⟨start, []⟩ =
        some (phraseEnd start stop before number letters) := by
  obtain ⟨before, number, hne, hphrase⟩ := h.written
  exact ⟨before, number, hphrase,
    first_relative h.starts h.ends h.text_eq h.stop_eq hne hphrase⟩

/-- The parts of a phrase are read in one way. -/
theorem Phrased.unique {before' number' : List Char} (h : Phrased text before number count letters)
    (h' : Phrased text before' number' count' letters') : count = count' ∧
      singular letters = singular letters' := by
  have hunit := (group_unit h).symm.trans (group_unit h')
  have hcount := (group_count h).symm.trans (group_count h')
  refine ⟨?_, String.ofList_injective (Option.some.inj hunit)⟩
  by_cases hnumber : number = []
  · by_cases hnumber' : number' = []
    · rw [h.counts.eq_one hnumber, h'.counts.eq_one hnumber']
    · rw [if_pos hnumber, if_neg hnumber'] at hcount
      cases hcount
  · by_cases hnumber' : number' = []
    · rw [if_neg hnumber, if_pos hnumber'] at hcount
      cases hcount
    · rw [if_neg hnumber, if_neg hnumber'] at hcount
      rw [← h.counts.digitsValue_eq hnumber, ← h'.counts.digitsValue_eq hnumber',
        Option.some.inj hcount]

theorem FirstPhrase.unique (h : FirstPhrase text start stop part count letters)
    (h' : FirstPhrase text start' stop' part' count' letters') :
    start = start' ∧ stop = stop' ∧ part = part' ∧ count = count' ∧
      unitName letters = unitName letters' := by
  obtain rfl : start = start' :=
    Nat.le_antisymm (h.leftmost _ _ _ _ _ h'.phrase) (h'.leftmost _ _ _ _ _ h.phrase)
  obtain ⟨before, number, hparts, hfirst⟩ := h.phrase.first
  obtain ⟨before', number', hparts', hfirst'⟩ := h'.phrase.first
  obtain rfl : stop = stop' := congrArg Cursor.pos (Option.some.inj (hfirst.symm.trans hfirst'))
  obtain rfl : part = part' :=
    List.append_cancel_right (h.phrase.text_eq.symm.trans h'.phrase.text_eq)
  obtain ⟨hcount, hunit⟩ := hparts.unique hparts'
  exact ⟨rfl, rfl, rfl, hcount, by rw [unitName, hunit, unitName]⟩

/-! ### The phrase that is found -/

/-- The match is a phrase, and the pattern of `resolveLast` splits the phrase as it does. -/
structure Finds (text : List Char) (m : Match) (part : List Char) (count : ℕ)
    (letters : List Char) : Prop where
  first : FirstPhrase text m.span.start m.span.stop part count letters
  text_eq : m.text text = String.ofList part
  count_eq : m.group? 1 text = (lastPhrase.exec part 0).bind (·.group? 1 part)
  unit_eq : m.group? 2 text = (lastPhrase.exec part 0).bind (·.group? 2 part)

/-- **The phrase that stands first is found.** -/
theorem exec_relative {m : Match} (h : relativePhrase.exec text 0 = some m) :
    ∃ part count letters, Finds text m part count letters := by
  obtain ⟨start, c, -, -, hfirst, rfl, hbefore⟩ := exec_eq_some h
  obtain ⟨part, count, letters, hphrase⟩ :=
    phraseAt_of_mem_results (List.mem_of_mem_head? hfirst)
  obtain ⟨before, number, hparts, hfirst'⟩ := hphrase.first
  have hgroups : c.groups = (phraseEnd start c.pos before number letters).groups :=
    congrArg Cursor.groups (Option.some.inj (hfirst.symm.trans hfirst'))
  have hnumber : text.drop (start + before.length) =
      number ++ (singular letters ++ (pluralOf letters ++ text.drop c.pos)) := by
    have htext := hphrase.text_eq
    rw [hparts.text_eq, List.append_assoc] at htext
    rw [drop_of_append htext, ← List.append_assoc (singular letters), singular_append_plural,
      List.append_assoc]
  refine ⟨part, count, letters, ⟨hphrase, ?_⟩, of_drop hphrase.text_eq hphrase.stop_eq, ?_, ?_⟩
  · intro start' stop' part' count' letters' hphrase'
    by_contra hlt
    obtain ⟨before', number', -, hsome⟩ := hphrase'.first
    rw [Pattern.first, hbefore start' (Nat.zero_le start') (not_le.mp hlt)] at hsome
    cases hsome
  · rw [group_count hparts, Match.group?, hgroups, phraseEnd, List.lookup_cons, countGroups]
    split_ifs
    · rfl
    · exact congrArg some (of_drop hnumber rfl)
  · rw [group_unit hparts, Match.group?, hgroups]
    exact congrArg some (of_drop (drop_of_append hnumber) rfl)

theorem exec_relative_isSome (h : PhraseAt text start stop part count letters) :
    (relativePhrase.exec text 0).isSome := by
  obtain ⟨before, number, -, hfirst⟩ := h.first
  exact exec_isSome (Nat.zero_le start) h.start_le (List.mem_of_mem_head? hfirst)

end WhyRouted
