import WhyRouted.PhraseSearch

/-! # Relative phrases that are found

`findRange` says `none` where its pattern finds a phrase that counts no unit, though another phrase
of the text does. -/

namespace WhyRouted

open IsoTime (Instant timeClip toISOString)
open TextPattern

/-! ### What the search owes a text -/

/-- The text writes no pair of timestamps and no pair of clock times. -/
def Unpaired (text : List Char) : Prop :=
  ∀ start stop first last, ¬ PairAt isoTimestamp text start stop first last ∧
    ¬ PairAt clockTime text start stop first last

/-- The text contains a phrase that counts a unit. -/
def WritesPhrase (text : List Char) : Prop :=
  ∃ start stop part count ms, UnitPhraseAt text start stop part count ms

/-- The answer to a phrase: its range, or the refusal of its count. -/
inductive AnswersPhrase (part : List Char) (count ms : ℕ) (now : Instant) : RangeSearch → Prop where
  | range {lo : Instant} (hcount : 1 ≤ count) (hspan : count * ms ≤ maxRelativeDays * 86400000)
      (hlo : now.ms - lo.ms = (count * ms : ℕ)) : AnswersPhrase part count ms now
        (.range ⟨toISOString lo.ms, toISOString now.ms⟩ (String.ofList part))
  | tooFew (hcount : count < 1) : AnswersPhrase part count ms now
      (.invalid (unreadable (String.ofList part) "the count must be at least 1"))
  | tooMany (hcount : 1 ≤ count) (hspan : maxRelativeDays * 86400000 < count * ms) :
      AnswersPhrase part count ms now (.invalid (unreadable (String.ofList part)
        ("at most " ++ toString maxRelativeDays ++ " days back")))

/-- `resolveLast` splits what was matched into the count and the unit of the match. -/
def SplitAlike (text : List Char) (m : Match) : Prop :=
  let matched := (jsTrim (m.text text)).toList
  ∃ m', lastPhrase.exec matched 0 = some m' ∧ m'.group? 1 matched = m.group? 1 text ∧
    m'.group? 2 matched = m.group? 2 text

/-- Where the text contains a phrase, such a phrase is answered; and where the search comes to its
relative phrases, the phrase is resolved as it was found. -/
structure FindsPhrases (dates : Dates) (question : String) (now : Instant) : Prop where
  found : Unpaired question.toList → WritesPhrase question.toList →
    ∃ start stop part count ms answer, UnitPhraseAt question.toList start stop part count ms ∧
      findRange dates question now = .ok answer ∧ AnswersPhrase part count ms now answer
  same : ∀ m, isoPair.exec question.toList 0 = none → clockPair.exec question.toList 0 = none →
    relativePhrase.exec question.toList 0 = some m →
    ((m.group? 2 question.toList).bind unitMs).isSome = true → SplitAlike question.toList m

/-- The phrase that stands first in the text counts a unit, and starts at a date. -/
def FirstCounts (text : List Char) (now : Instant) : Prop :=
  ∃ start stop part count letters name ms, FirstPhrase text start stop part count letters ∧
    (name, ms) ∈ unitTable ∧ Names letters name ∧
    (1 ≤ count → count * ms ≤ maxRelativeDays * 86400000 →
      -8640000000000000 ≤ now.ms - (count * ms : ℕ))

variable {text part part' before number letters letters' : List Char}
  {start stop count count' ms : ℕ} {m : Match} {now : Instant} {dates : Dates} {question : String}
  {answer : RangeSearch}

/-! ### What was matched -/

theorem Phrased.jsTrim_eq (h : Phrased part before number count letters) (hne : before ≠ []) :
    jsTrim (String.ofList part) = String.ofList part := by
  refine jsTrim_of_trimmed ⟨?_, ?_⟩
  · rcases h.introduces.parts with rfl | ⟨w, spaces, rfl, hsaid, -⟩
    · exact absurd rfl hne
    obtain ⟨c, cs, rfl, hc⟩ := head_of_says (by decide) hsaid
    intro d hd
    rw [String.toList_ofList, h.text_eq] at hd
    obtain rfl := Option.some.inj hd
    exact isLetter_not_space hc
  · intro d hd
    rw [String.toList_ofList, h.text_eq, ← List.append_assoc,
      List.getLast?_append_of_ne_nil _ h.nonempty] at hd
    exact isLetter_not_space (h.isLetter d (List.mem_of_mem_getLast? hd))

theorem Phrased.matched (h : Phrased part before number count letters) (hne : before ≠ []) :
    Phrased (jsTrim (String.ofList part)).toList before number count letters := by
  rwa [h.jsTrim_eq hne, String.toList_ofList]

theorem Finds.splitAlike (h : Finds text m part count letters) : SplitAlike text m := by
  obtain ⟨before, number, hne, hphrase⟩ := h.first.phrase.written
  unfold SplitAlike
  rw [h.text_eq, hphrase.jsTrim_eq hne, String.toList_ofList, h.count_eq, h.unit_eq,
    exec_of_phrased hphrase]
  exact ⟨_, exec_of_phrased hphrase, rfl, rfl⟩

theorem findRange_of_finds (hiso : isoPair.exec question.toList 0 = none)
    (hclock : clockPair.exec question.toList 0 = none)
    (hexec : relativePhrase.exec question.toList 0 = some m)
    (h : Finds question.toList m part count letters) :
    findRange dates question now = if (unitMs (String.ofList (singular letters))).isSome then
      (resolveLast (String.ofList part) now).map (RangeSearch.of (String.ofList part))
    else .ok .none := by
  obtain ⟨before, number, hne, hphrase⟩ := h.first.phrase.written
  unfold findRange
  dsimp only
  rw [hiso, hclock, hexec]
  dsimp only
  rw [h.unit_eq, group_unit hphrase, h.text_eq, do_eq_map, Option.bind_some]

/-! ### The answer to the first phrase -/

theorem answersPhrase_of_counts (h : Phrased part before number count letters) (hne : before ≠ [])
    (hmem : (unitName letters, ms) ∈ unitTable)
    (hdated : 1 ≤ count → count * ms ≤ maxRelativeDays * 86400000 →
      -8640000000000000 ≤ now.ms - (count * ms : ℕ)) :
    ∃ answer, (resolveLast (String.ofList part) now).map (RangeSearch.of (String.ofList part)) =
      .ok answer ∧ AnswersPhrase part count ms now answer := by
  rw [resolveLast_counts now (h.matched hne) hmem]
  by_cases hcount : count < 1
  · rw [if_pos hcount]
    exact ⟨_, rfl, .tooFew hcount⟩
  rw [if_neg hcount]
  by_cases hspan : maxRelativeDays * 86400000 < count * ms
  · rw [if_pos hspan]
    exact ⟨_, rfl, .tooMany (not_lt.mp hcount) hspan⟩
  rw [if_neg hspan]
  obtain ⟨lo, hlo, hclip⟩ := exists_date (hdated (not_lt.mp hcount) (not_lt.mp hspan))
  rw [hclip]
  exact ⟨_, rfl, .range (not_lt.mp hcount) (not_lt.mp hspan) (by omega)⟩

theorem dated_of_answered (h : Phrased part before number count letters) (hne : before ≠ [])
    (hmem : (unitName letters, ms) ∈ unitTable)
    (hanswer : (resolveLast (String.ofList part) now).map (RangeSearch.of (String.ofList part)) =
      .ok answer) (hcount : 1 ≤ count) (hspan : count * ms ≤ maxRelativeDays * 86400000) :
    -8640000000000000 ≤ now.ms - (count * ms : ℕ) := by
  by_contra hdate
  rw [resolveLast_counts now (h.matched hne) hmem, if_neg (not_lt.mpr hcount),
    if_neg (not_lt.mpr hspan), no_date (not_le.mp hdate)] at hanswer
  cases hanswer

theorem unreadable_inj {phrase phrase' reason : String}
    (h : unreadable phrase reason = unreadable phrase' reason) : phrase = phrase' := by
  unfold unreadable at h
  rw [String.append_left_inj, String.append_left_inj, String.append_right_inj] at h
  exact h

theorem getLast?_append_text {front back : String} {c : Char}
    (hback : back.toList.getLast? = some c) : (front ++ back).toList.getLast? = some c := by
  rw [String.toList_append, List.getLast?_append, hback, Option.some_or]

theorem tooFew_ne_tooMany (phrase phrase' : String) :
    unreadable phrase "the count must be at least 1" ≠
      unreadable phrase' ("at most " ++ toString maxRelativeDays ++ " days back") := by
  intro h
  have hfew : (unreadable phrase "the count must be at least 1").toList.getLast? = some '1' :=
    getLast?_append_text (by decide)
  have hmany : (unreadable phrase'
      ("at most " ++ toString maxRelativeDays ++ " days back")).toList.getLast? = some 'k' :=
    getLast?_append_text (getLast?_append_text (by decide))
  rw [h, hmany] at hfew
  cases hfew

theorem constructor_not_unit : ("constructor", ms) ∉ unitTable := by
  intro h
  have hall : ∀ entry ∈ unitTable, entry.1 ≠ "constructor" := by decide
  exact hall _ h rfl

theorem not_answers_inherited (h : Phrased part before number count letters) (hne : before ≠ [])
    (hname : unitName letters = "constructor")
    (hanswer : (resolveLast (String.ofList part) now).map (RangeSearch.of (String.ofList part)) =
      .ok answer) (hunit : UnitPhraseAt text start stop part' count' ms) :
    ¬ AnswersPhrase part' count' ms now answer := by
  rw [resolveLast_inherited now (h.matched hne) hname] at hanswer
  by_cases hcount : count < 1
  · rw [if_pos hcount] at hanswer
    have heq : answer = .invalid
        (unreadable (String.ofList part) "the count must be at least 1") :=
      (Except.ok.inj hanswer).symm
    intro hanswers
    cases hanswers with
    | range => cases heq
    | tooFew =>
        obtain ⟨letters', name, hat, hmem, hnames⟩ := hunit
        obtain ⟨before', number', -, hphrase'⟩ := hat.written
        obtain rfl := String.ofList_injective (unreadable_inj (RangeSearch.invalid.inj heq))
        have hword := (h.unique hphrase').2
        rw [unitName, hword, ← unitName, unitName_of_names (isSingular_of_mem hmem) hnames] at hname
        rw [hname] at hmem
        exact constructor_not_unit hmem
    | tooMany => exact tooFew_ne_tooMany _ _ (RangeSearch.invalid.inj heq).symm
  · rw [if_neg hcount] at hanswer
    cases hanswer

/-! ### Every text -/

theorem exec_of_unpaired (h : Unpaired text) :
    isoPair.exec text 0 = none ∧ clockPair.exec text 0 = none := by
  refine ⟨Option.eq_none_iff_forall_ne_some.mpr fun m hm => ?_,
    Option.eq_none_iff_forall_ne_some.mpr fun m hm => ?_⟩
  · obtain ⟨first, last, hpair, -⟩ := exec_pair shape_isoTimestamp hm
    exact (h _ _ _ _).1 hpair.pair
  · obtain ⟨first, last, hpair, -⟩ := exec_pair shape_clockTime hm
    exact (h _ _ _ _).2 hpair.pair

theorem exists_finds (h : PhraseAt text start stop part count letters) :
    ∃ m part count letters, relativePhrase.exec text 0 = some m ∧
      Finds text m part count letters := by
  obtain ⟨m, hm⟩ := Option.isSome_iff_exists.mp (exec_relative_isSome h)
  obtain ⟨part, count, letters, hfinds⟩ := exec_relative hm
  exact ⟨m, part, count, letters, hm, hfinds⟩

theorem unit_cases (letters : List Char) :
    (∃ ms, (unitName letters, ms) ∈ unitTable) ∨ unitName letters = "constructor" ∨
      unitMs (String.ofList (singular letters)) = none := by
  unfold unitMs
  rw [jsLower_singular]
  cases hlookup : unitTable.lookup (unitName letters) with
  | some ms => exact .inl ⟨ms, mem_of_lookup hlookup⟩
  | none =>
      by_cases hname : unitName letters = "constructor"
      · exact .inr (.inl hname)
      · exact .inr (.inr (if_neg hname))

theorem found_of_firstCounts (hunpaired : Unpaired question.toList)
    (h : FirstCounts question.toList now) :
    ∃ start stop part count ms answer, UnitPhraseAt question.toList start stop part count ms ∧
      findRange dates question now = .ok answer ∧ AnswersPhrase part count ms now answer := by
  obtain ⟨start, stop, part, count, letters, name, ms, hfirst, hmem, hnames, hdated⟩ := h
  obtain ⟨hiso, hclock⟩ := exec_of_unpaired hunpaired
  obtain ⟨m, part', count', letters', hexec, hfinds⟩ := exists_finds hfirst.phrase
  obtain ⟨-, -, rfl, rfl, hword⟩ := hfirst.unique hfinds.first
  obtain ⟨before, number, hne, hphrase⟩ := hfinds.first.phrase.written
  rw [← unitName_of_names (isSingular_of_mem hmem) hnames, hword] at hmem
  have hunit : unitMs (String.ofList (singular letters')) = some (.ms ms) := by
    rw [unitMs, jsLower_singular, lookup_of_mem hmem]
  obtain ⟨answer, hanswer, hanswers⟩ := answersPhrase_of_counts hphrase hne hmem hdated
  refine ⟨_, _, part, count, ms, answer,
    ⟨letters', _, hfinds.first.phrase, hmem, names_unitName letters'⟩, ?_, hanswers⟩
  rw [findRange_of_finds hiso hclock hexec hfinds, hunit, Option.isSome_some, if_pos rfl, hanswer]

/-- Where a phrase is answered, the first one counts a unit. -/
theorem firstCounts_of_found (hunpaired : Unpaired question.toList)
    (hunit : UnitPhraseAt question.toList start stop part count ms)
    (hfind : findRange dates question now = .ok answer)
    (hanswers : AnswersPhrase part count ms now answer) : FirstCounts question.toList now := by
  obtain ⟨m, part', count', letters', hexec, hfinds⟩ : ∃ m part count letters,
      relativePhrase.exec question.toList 0 = some m ∧
        Finds question.toList m part count letters := by
    obtain ⟨letters, name, hat, -⟩ := hunit
    exact exists_finds hat
  obtain ⟨hiso, hclock⟩ := exec_of_unpaired hunpaired
  obtain ⟨before, number, hne, hphrase⟩ := hfinds.first.phrase.written
  rw [findRange_of_finds hiso hclock hexec hfinds] at hfind
  by_cases hsome : (unitMs (String.ofList (singular letters'))).isSome
  · rw [if_pos hsome] at hfind
    rcases unit_cases letters' with ⟨ms', hmem⟩ | hname | hnone
    · exact ⟨_, _, part', count', letters', _, ms', hfinds.first, hmem, names_unitName letters',
        dated_of_answered hphrase hne hmem hfind⟩
    · exact absurd hanswers (not_answers_inherited hphrase hne hname hfind hunit)
    · rw [hnone] at hsome
      cases hsome
  · rw [if_neg hsome] at hfind
    obtain rfl := Except.ok.inj hfind
    cases hanswers

/-- **A relative phrase is found just if the phrase that stands first counts a unit and starts at a
date, and what is found is what is resolved.** -/
theorem finds_phrases_iff (dates : Dates) (question : String) (now : Instant) :
    FindsPhrases dates question now ↔
      (Unpaired question.toList → WritesPhrase question.toList →
        FirstCounts question.toList now) := by
  constructor
  · intro h hunpaired hwrites
    obtain ⟨start, stop, part, count, ms, answer, hunit, hfind, hanswers⟩ :=
      h.found hunpaired hwrites
    exact firstCounts_of_found hunpaired hunit hfind hanswers
  · intro h
    refine ⟨fun hunpaired hwrites => found_of_firstCounts hunpaired (h hunpaired hwrites), ?_⟩
    intro m _ _ hexec _
    obtain ⟨part, count, letters, hfinds⟩ := exec_relative hexec
    exact hfinds.splitAlike

/-- A phrase that counts no unit hides the phrase after it. -/
theorem past_hour_not_found :
    findRange .clockOnly "p95 since the last deploy, past hour" ⟨1760184000000, by decide⟩ =
      .ok .none ∧
      ¬ FindsPhrases .clockOnly "p95 since the last deploy, past hour"
        ⟨1760184000000, by decide⟩ := by
  have hfind : findRange .clockOnly "p95 since the last deploy, past hour"
      ⟨1760184000000, by decide⟩ = .ok .none := by decide +kernel
  refine ⟨hfind, ?_⟩
  intro h
  have hunpaired : Unpaired "p95 since the last deploy, past hour".toList := by
    intro start stop first last
    refine ⟨fun hpair => ?_, fun hpair => ?_⟩
    · have hsome := exec_pair_isSome shape_isoTimestamp hpair
      revert hsome
      decide +kernel
    · have hsome := exec_pair_isSome shape_clockTime hpair
      revert hsome
      decide +kernel
  have hblank : ∀ c ∈ [' '], isJsSpace c = true := List.forall_mem_singleton.mpr (by decide)
  have hletters : "hour".toList.all isLetter = true := by decide
  have hphrase : Phrased "past hour".toList "past ".toList [] 1 "hour".toList :=
    ⟨by decide, .inr ⟨"past", by decide, "past".toList, [' '], by decide, by decide, by decide,
      hblank⟩, .inl ⟨rfl, rfl⟩, by decide, List.all_eq_true.mp hletters⟩
  have hwrites : WritesPhrase "p95 since the last deploy, past hour".toList :=
    ⟨27, 36, "past hour".toList, 1, 3600000, "hour".toList, "hour",
      ⟨by decide, by decide, by decide, by decide, "past ".toList, [], by decide, hphrase⟩,
      by decide, "hour".toList, [], by decide, by decide, .inl rfl⟩
  obtain ⟨start, stop, part, count, ms, answer, -, hanswer, hanswers⟩ := h.found hunpaired hwrites
  rw [hfind] at hanswer
  obtain rfl := Except.ok.inj hanswer
  cases hanswers

end WhyRouted
