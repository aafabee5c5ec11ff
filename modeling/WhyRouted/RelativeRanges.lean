import WhyRouted.RelativePhrases

/-! # The range of a relative phrase

What a phrase asks for, in the terms of its grammar, against the range `resolveLast` returns.  Two
kinds of phrase throw instead: those that count `constructor`, a property that `UNIT_MS` inherits
and that is no number, and those whose start lies before the earliest date. -/

namespace WhyRouted

open IsoTime (Instant timeClip toISOString)
open TextPattern

variable {text before number letters : List Char} {count ms : ℕ} {phrase : String} {now : Instant}

/-! ### What a phrase asks for -/

/-- The phrase asks for so many of a unit of so many milliseconds. -/
def Asks (phrase : String) (count ms : ℕ) : Prop :=
  ∃ name, (name, ms) ∈ unitTable ∧ AsksFor (jsTrim phrase).toList count name

/-- The result is the range the phrase asks for, and a refusal where it asks for none. -/
structure Exact (phrase : String) (now : Instant) (out : Throws RangeResult) : Prop where
  returns : ∃ result, out = .ok result
  ok_iff : (∃ range, out = .ok (.ok range)) ↔
    ∃ count ms, Asks phrase count ms ∧ 1 ≤ count ∧ count * ms ≤ maxRelativeDays * 86400000
  window : ∀ range count ms, out = .ok (.ok range) → Asks phrase count ms →
    ∃ lo : Instant, now.ms - lo.ms = (count * ms : ℕ) ∧
      range = ⟨toISOString lo.ms, toISOString now.ms⟩

/-- The phrase counts no `constructor`, and its start is a date. -/
structure Answerable (phrase : String) (now : Instant) : Prop where
  known : ∀ count, AsksFor (jsTrim phrase).toList count "constructor" → count < 1
  dated : ∀ count ms, Asks phrase count ms → 1 ≤ count →
    count * ms ≤ maxRelativeDays * 86400000 → -8640000000000000 ≤ now.ms - (count * ms : ℕ)

/-- Letters of lower case that are no plural. -/
def IsSingular (name : String) : Prop :=
  name.toList ≠ [] ∧ name.toList.getLast? ≠ some 's' ∧
    name.toList.all (fun c => 'a' ≤ c ∧ c ≤ 'z') = true

instance (name : String) : Decidable (IsSingular name) := inferInstanceAs (Decidable (_ ∧ _ ∧ _))

theorem singular_append {unit plural : List Char} (hne : unit ≠ [])
    (hlast : unit.getLast?.map asciiLower ≠ some 's')
    (hplural : plural = [] ∨ plural.map asciiLower = ['s']) : singular (unit ++ plural) = unit := by
  rcases hplural with rfl | hplural
  · rw [List.append_nil, singular, if_neg (fun h => hlast h.2)]
  · obtain ⟨c, rfl⟩ : ∃ c, plural = [c] :=
      List.length_eq_one_iff.mp (by simpa using congrArg List.length hplural)
    have hc : asciiLower c = 's' := List.singleton_inj.mp hplural
    have hlength := List.length_pos_iff.mpr hne
    rw [singular, if_pos, List.dropLast_concat]
    refine ⟨?_, ?_⟩
    · rw [List.length_append, List.length_singleton]
      omega
    · rw [List.getLast?_concat, Option.map_some, hc]

/-- The word is the name, or the name and a plural `s`. -/
def Names (letters : List Char) (name : String) : Prop :=
  ∃ unit plural, letters = unit ++ plural ∧ unit.map asciiLower = name.toList ∧
    (plural = [] ∨ plural.map asciiLower = ['s'])

theorem unitName_of_names {name : String} (hname : IsSingular name) (h : Names letters name) :
    unitName letters = name := by
  obtain ⟨unit, plural, rfl, hunit, hplural⟩ := h
  obtain ⟨hne, hlast, -⟩ := hname
  have hunitNe : unit ≠ [] := by
    rintro rfl
    exact hne hunit.symm
  have hunitLast : unit.getLast?.map asciiLower ≠ some 's' := by
    rwa [← List.getLast?_map, hunit]
  rw [unitName, singular_append hunitNe hunitLast hplural, hunit, String.ofList_toList]

theorem names_unitName (letters : List Char) : Names letters (unitName letters) := by
  refine ⟨singular letters, pluralOf letters, (singular_append_plural letters).symm, ?_,
    plural_cases letters⟩
  rw [unitName, String.toList_ofList]

theorem Names.word {name : String} (hname : IsSingular name) (h : Names letters name) :
    letters ≠ [] ∧ ∀ c ∈ letters, isLetter c = true := by
  obtain ⟨unit, plural, rfl, hunit, hplural⟩ := h
  obtain ⟨hne, -, hlower⟩ := hname
  refine ⟨?_, ?_⟩
  · intro hnil
    rw [(List.append_eq_nil_iff.mp hnil).1] at hunit
    exact hne hunit.symm
  · intro c hc
    rcases List.mem_append.mp hc with hc | hc
    · have hmem := List.mem_map_of_mem (f := asciiLower) hc
      rw [hunit] at hmem
      exact List.all_eq_true.mp hlower _ hmem
    · rcases hplural with rfl | hplural
      · cases hc
      · have hmem := List.mem_map_of_mem (f := asciiLower) hc
        rw [hplural, List.mem_singleton] at hmem
        exact isLetter_of_lower hmem

theorem asksFor_iff {name : String} (hname : IsSingular name) : AsksFor text count name ↔
    ∃ before number letters, Phrased text before number count letters ∧
      unitName letters = name := by
  constructor
  · rintro ⟨before, number, unit, plural, htext, hbefore, hnumber, hunit, hplural⟩
    have hnames : Names (unit ++ plural) name := ⟨unit, plural, rfl, hunit, hplural⟩
    obtain ⟨hne, hletters⟩ := hnames.word hname
    exact ⟨before, number, unit ++ plural, ⟨htext, hbefore, hnumber, hne, hletters⟩,
      unitName_of_names hname hnames⟩
  · rintro ⟨before, number, letters, h, rfl⟩
    obtain ⟨unit, plural, rfl, hunit, hplural⟩ := names_unitName letters
    exact ⟨before, number, unit, plural, h.text_eq, h.introduces, h.counts, hunit, hplural⟩

theorem isSingular_of_mem {name : String} (h : (name, ms) ∈ unitTable) : IsSingular name := by
  have hall : ∀ entry ∈ unitTable, IsSingular entry.1 := by decide
  exact hall _ h

theorem isSingular_constructor : IsSingular "constructor" := by decide

theorem lookup_of_mem {name : String} (h : (name, ms) ∈ unitTable) :
    unitTable.lookup name = some ms := by
  have hall : ∀ entry ∈ unitTable, unitTable.lookup entry.1 = some entry.2 := by decide
  exact hall _ h

theorem mem_of_lookup {name : String} (h : unitTable.lookup name = some ms) :
    (name, ms) ∈ unitTable := by
  obtain ⟨before, after, heq, -⟩ := List.lookup_eq_some_iff.mp h
  rw [heq]
  simp

/-! ### The range against the phrase -/

theorem exists_date {span : ℕ} (hspan : -8640000000000000 ≤ now.ms - (span : ℕ)) :
    ∃ lo : Instant, lo.ms = now.ms - (span : ℕ) ∧ timeClip (now.ms - (span : ℕ)) = some lo := by
  have hrange := now.inRange
  refine ⟨⟨now.ms - (span : ℕ), hspan, by omega⟩, rfl, ?_⟩
  exact dif_pos _

theorem no_date {span : ℕ} (hspan : now.ms - (span : ℕ) < -8640000000000000) :
    timeClip (now.ms - (span : ℕ)) = none :=
  dif_neg fun h => absurd h.1 (not_le.mpr hspan)

theorem resolveLast_counts (now : Instant)
    (h : Phrased (jsTrim phrase).toList before number count letters)
    (hmem : (unitName letters, ms) ∈ unitTable) :
    resolveLast phrase now =
      if count < 1 then .ok (.error (unreadable phrase "the count must be at least 1"))
      else if maxRelativeDays * 86400000 < count * ms then
        .ok (.error (unreadable phrase ("at most " ++ toString maxRelativeDays ++ " days back")))
      else do
        let lo ← TimeValue.isoString (timeClip (now.ms - (count * ms : ℕ)))
        return .ok ⟨lo, toISOString now.ms⟩ := by
  have hunit : unitMs (String.ofList (singular letters)) = some (.ms ms) := by
    rw [unitMs, jsLower_singular, lookup_of_mem hmem]
  rw [resolveLast_unit now h hunit, UnitValue.times, Option.any_some, Option.bind_some]
  simp only [decide_eq_true_eq]
  rfl

theorem resolveLast_inherited (now : Instant)
    (h : Phrased (jsTrim phrase).toList before number count letters)
    (hname : unitName letters = "constructor") :
    resolveLast phrase now =
      if count < 1 then .ok (.error (unreadable phrase "the count must be at least 1"))
      else .error "Invalid time value" := by
  have hunit : unitMs (String.ofList (singular letters)) = some .inherited := by
    rw [unitMs, jsLower_singular, hname]
    rfl
  rw [resolveLast_unit now h hunit]
  rfl

theorem resolveLast_of_asks (now : Instant) (h : Asks phrase count ms) :
    (count < 1 ∨ maxRelativeDays * 86400000 < count * ms) ∧
        (∃ reason, resolveLast phrase now = .ok (.error reason)) ∨
      (1 ≤ count ∧ count * ms ≤ maxRelativeDays * 86400000) ∧
        resolveLast phrase now = do
          let lo ← TimeValue.isoString (timeClip (now.ms - (count * ms : ℕ)))
          return .ok ⟨lo, toISOString now.ms⟩ := by
  obtain ⟨name, hmem, hasks⟩ := h
  obtain ⟨before, number, letters, hphrase, rfl⟩ := (asksFor_iff (isSingular_of_mem hmem)).mp hasks
  rw [resolveLast_counts now hphrase hmem]
  by_cases hcount : count < 1
  · rw [if_pos hcount]
    exact .inl ⟨.inl hcount, _, rfl⟩
  · rw [if_neg hcount]
    by_cases hspan : maxRelativeDays * 86400000 < count * ms
    · rw [if_pos hspan]
      exact .inl ⟨.inr hspan, _, rfl⟩
    · rw [if_neg hspan]
      exact .inr ⟨⟨not_lt.mp hcount, not_lt.mp hspan⟩, rfl⟩

theorem resolveLast_of_constructor (now : Instant)
    (h : AsksFor (jsTrim phrase).toList count "constructor") :
    count < 1 ∧ (∃ reason, resolveLast phrase now = .ok (.error reason)) ∨
      1 ≤ count ∧ resolveLast phrase now = .error "Invalid time value" := by
  obtain ⟨before, number, letters, hphrase, hname⟩ := (asksFor_iff isSingular_constructor).mp h
  rw [resolveLast_inherited now hphrase hname]
  by_cases hcount : count < 1
  · rw [if_pos hcount]
    exact .inl ⟨hcount, _, rfl⟩
  · rw [if_neg hcount]
    exact .inr ⟨not_lt.mp hcount, rfl⟩

/-- A phrase asks for a count of a unit, or counts `constructor`, or is refused. -/
theorem phrase_cases (phrase : String) (now : Instant) :
    (∃ count ms, Asks phrase count ms) ∨
      (∃ count, AsksFor (jsTrim phrase).toList count "constructor") ∨
      ∃ reason, resolveLast phrase now = .ok (.error reason) := by
  by_cases hphrase : ∃ before number count letters,
      Phrased (jsTrim phrase).toList before number count letters
  · obtain ⟨before, number, count, letters, h⟩ := hphrase
    cases hlookup : unitTable.lookup (unitName letters) with
    | some ms =>
        have hmem := mem_of_lookup hlookup
        have hasks := (asksFor_iff (isSingular_of_mem hmem)).mpr ⟨before, number, letters, h, rfl⟩
        exact .inl ⟨count, ms, unitName letters, hmem, hasks⟩
    | none =>
        by_cases hname : unitName letters = "constructor"
        · exact .inr (.inl ⟨count,
            (asksFor_iff isSingular_constructor).mpr ⟨before, number, letters, h, hname⟩⟩)
        · exact .inr (.inr (resolveLast_unknown now h hlookup hname))
  · exact .inr (.inr (resolveLast_not_phrased now hphrase))

theorem resolveLast_ok {range : ResolvedRange} (h : resolveLast phrase now = .ok (.ok range)) :
    ∃ count ms, Asks phrase count ms ∧ 1 ≤ count ∧ count * ms ≤ maxRelativeDays * 86400000 := by
  rcases phrase_cases phrase now with ⟨count, ms, hasks⟩ | ⟨count, hother⟩ | ⟨reason, hrefused⟩
  · rcases resolveLast_of_asks now hasks with ⟨-, reason, hrefused⟩ | ⟨hbounds, -⟩
    · rw [hrefused] at h
      cases h
    · exact ⟨count, ms, hasks, hbounds⟩
  · rcases resolveLast_of_constructor now hother with
      ⟨-, reason, hrefused⟩ | ⟨-, hthrown⟩
    · rw [hrefused] at h
      cases h
    · rw [hthrown] at h
      cases h
  · rw [hrefused] at h
    cases h

theorem Asks.not_throws (h : Asks phrase count ms) (hdated : 1 ≤ count →
      count * ms ≤ maxRelativeDays * 86400000 → -8640000000000000 ≤ now.ms - (count * ms : ℕ)) :
    (count < 1 ∨ maxRelativeDays * 86400000 < count * ms) ∧
        (∃ reason, resolveLast phrase now = .ok (.error reason)) ∨
      (1 ≤ count ∧ count * ms ≤ maxRelativeDays * 86400000) ∧
        ∃ lo : Instant, lo.ms = now.ms - (count * ms : ℕ) ∧
          resolveLast phrase now = .ok (.ok ⟨toISOString lo.ms, toISOString now.ms⟩) := by
  rcases resolveLast_of_asks now h with hrefused | ⟨hbounds, hresult⟩
  · exact .inl hrefused
  · obtain ⟨lo, hlo, hclip⟩ := exists_date (hdated hbounds.1 hbounds.2)
    refine .inr ⟨hbounds, lo, hlo, ?_⟩
    rw [hresult, hclip]
    rfl

theorem returns_iff : (∃ result, resolveLast phrase now = .ok result) ↔ Answerable phrase now := by
  constructor
  · rintro ⟨result, hresult⟩
    refine ⟨?_, ?_⟩
    · intro count hother
      rcases resolveLast_of_constructor now hother with ⟨hcount, -⟩ | ⟨-, hthrown⟩
      · exact hcount
      · rw [hthrown] at hresult
        cases hresult
    · intro count ms hasks hcount hspan
      by_contra hdate
      rcases resolveLast_of_asks now hasks with ⟨hbounds, -⟩ | ⟨-, hthrown⟩
      · omega
      · rw [hthrown, no_date (not_le.mp hdate)] at hresult
        cases hresult
  · intro h
    rcases phrase_cases phrase now with ⟨count, ms, hasks⟩ | ⟨count, hother⟩ | ⟨reason, hrefused⟩
    · rcases hasks.not_throws (h.dated count ms hasks) with ⟨-, reason, hrefused⟩ | ⟨-, lo, -, hok⟩
      · exact ⟨_, hrefused⟩
      · exact ⟨_, hok⟩
    · rcases resolveLast_of_constructor now hother with ⟨-, reason, hrefused⟩ | ⟨hcount, -⟩
      · exact ⟨_, hrefused⟩
      · exact absurd (h.known count hother) (not_lt.mpr hcount)
    · exact ⟨_, hrefused⟩

theorem exact_of_answerable (h : Answerable phrase now) :
    Exact phrase now (resolveLast phrase now) where
  returns := returns_iff.mpr h
  ok_iff := by
    constructor
    · rintro ⟨range, hok⟩
      exact resolveLast_ok hok
    · rintro ⟨count, ms, hasks, hcount, hspan⟩
      rcases hasks.not_throws (h.dated count ms hasks) with ⟨hbounds, -⟩ | ⟨-, lo, -, hok⟩
      · omega
      · exact ⟨_, hok⟩
  window := by
    intro range count ms hok hasks
    rcases hasks.not_throws (h.dated count ms hasks) with ⟨-, reason, hrefused⟩ | ⟨-, lo, hlo, hok'⟩
    · rw [hrefused] at hok
      cases hok
    · rw [hok'] at hok
      obtain rfl := Except.ok.inj (Except.ok.inj hok)
      exact ⟨lo, by omega, rfl⟩

/-! ### The tools that read a phrase -/

/-- The tool answers `internal_error`. -/
def ToolResult.internalError {T : Type} : ToolResult T → Prop
  | .ok _ _ => False
  | .failed code _ => code = .internalError

theorem internalError_iff {T : Type} {queriedAt : String} {out : Except String (ToolOutput T)} :
    (dispatch queriedAt out).internalError ↔ ¬ ∃ result, out = .ok result := by
  cases out with
  | error message => simp [dispatch, ToolResult.internalError]
  | ok output =>
      cases output with
      | data value source recordIds =>
          by_cases hnone : recordIds.length = 0 <;>
            simp [dispatch, hnone, ToolResult.internalError]
      | noData reason => simp [dispatch, ToolResult.internalError]
      | invalidInput reason => simp [dispatch, ToolResult.internalError]

theorem exists_ok_map {α β : Type} (f : α → β) (out : Throws α) :
    (∃ result, out.map f = .ok result) ↔ ∃ result, out = .ok result := by
  cases out with
  | error message => simp [Except.map]
  | ok value => simp [Except.map]

variable {ν : Type} [JsNumber ν] (dates : Dates)

/-- The range in a question can be read: the times of a pair, if they are times at all, are dates,
and a relative phrase is answered. -/
def Readable (question : String) (now : Instant) : Prop :=
  let text := question.toList
  isoPair.exec text 0 = none →
    match clockPair.exec text 0 with
    | some m => ∀ lo hi, clockMs dates ((m.group? 1 text).getD "") now false = some lo →
        clockMs dates ((m.group? 2 text).getD "") now true = some hi → lo ≠ none ∧ hi ≠ none
    | none => ∀ m, relativePhrase.exec text 0 = some m →
        ((m.group? 2 text).bind unitMs).isSome = true → Answerable (m.text text) now

theorem ordered_returns_iff {lo hi : Option TimeValue} {label : String} :
    (∃ result, ordered lo hi label = .ok result) ↔
      ∀ a b, lo = some a → hi = some b → a ≠ none ∧ b ≠ none := by
  rcases lo with _ | _ | a <;> rcases hi with _ | _ | b
  · simp [ordered]
  · simp [ordered]
  · simp [ordered]
  · simp [ordered]
  · simp [ordered, TimeValue.later, TimeValue.isoString, bind, Except.bind]
  · simp [ordered, TimeValue.later, TimeValue.isoString, bind, Except.bind]
  · simp [ordered]
  · simp [ordered, TimeValue.later, TimeValue.isoString, bind, Except.bind]
  · by_cases hlater : TimeValue.later (some a) (some b) = true <;>
      simp [ordered, hlater, TimeValue.isoString, bind, Except.bind, pure, Except.pure]

theorem findRange_returns_iff {question : String} :
    (∃ result, findRange dates question now = .ok result) ↔ Readable dates question now := by
  unfold findRange Readable
  dsimp only
  cases hiso : isoPair.exec question.toList 0 with
  | some m =>
      dsimp only
      rw [do_eq_map, exists_ok_map, ordered_returns_iff]
      constructor
      · intro _ hnone
        cases hnone
      · intro _ a b ha hb
        obtain ⟨lo, -, rfl⟩ := Option.map_eq_some_iff.mp ha
        obtain ⟨hi, -, rfl⟩ := Option.map_eq_some_iff.mp hb
        exact ⟨Option.some_ne_none lo, Option.some_ne_none hi⟩
  | none =>
      cases hclock : clockPair.exec question.toList 0 with
      | some m =>
          dsimp only
          rw [do_eq_map, exists_ok_map, ordered_returns_iff]
          simp
      | none =>
          cases hrelative : relativePhrase.exec question.toList 0 with
          | none => simp
          | some m =>
              dsimp only
              by_cases hunit : ((m.group? 2 question.toList).bind unitMs).isSome = true
              · rw [if_pos hunit, do_eq_map, exists_ok_map, returns_iff]
                simp [hunit]
              · rw [if_neg hunit]
                simp [hunit]

theorem getFailoverHistory_returns_iff {log : FailoverEvents}
    {fromTime toTime last : Option String} :
    (∃ result, getFailoverHistory dates log fromTime toTime last now = .ok result) ↔
      (fromTime = none → toTime = none → ∀ phrase ∈ last, Answerable phrase now) := by
  unfold getFailoverHistory historyBounds
  rw [exists_ok_map]
  cases last with
  | none => simp
  | some phrase =>
      dsimp only
      split_ifs with hboth
      · simp only [Option.mem_some_iff, forall_eq', Except.ok.injEq, exists_eq', true_iff]
        intro hfrom hto
        exact absurd hboth (by simp [hfrom, hto])
      · rw [not_or, not_not, not_not] at hboth
        rw [do_eq_map, exists_ok_map, returns_iff]
        simp [hboth]

theorem queryDecisions_returns_iff {log : DecisionLog ν} {question : Option String} :
    (∃ result, queryDecisions dates log question now = .ok result) ↔
      ∀ text ∈ question, jsTrim text ≠ "" → Readable dates text now := by
  unfold queryDecisions readQuestion
  rw [exists_ok_map]
  cases question with
  | none => simp
  | some text =>
      dsimp only
      split_ifs with hblank
      · simp [hblank]
      · rw [do_eq_map, exists_ok_map, findRange_returns_iff]
        simp [hblank]

/-! ### Every phrase -/

/-- **`resolveLast` is exact on the phrases that count no `constructor` and start at a date, and on
no others; the tools answer `internal_error` on the others.** -/
theorem relative_phrases_exact :
    (∀ phrase now, Exact phrase now (resolveLast phrase now) ↔ Answerable phrase now) ∧
    (∀ (log : FailoverEvents) fromTime toTime last now queriedAt,
      ¬ (dispatch queriedAt
          (getFailoverHistory dates log fromTime toTime last now)).internalError ↔
        (fromTime = none → toTime = none → ∀ phrase ∈ last, Answerable phrase now)) ∧
    (∀ (log : DecisionLog ν) question now queriedAt,
      ¬ (dispatch queriedAt (queryDecisions dates log question now)).internalError ↔
        ∀ text ∈ question, jsTrim text ≠ "" → Readable dates text now) := by
  refine ⟨?_, ?_, ?_⟩
  · intro phrase now
    exact ⟨fun h => returns_iff.mp h.returns, exact_of_answerable⟩
  · intro log fromTime toTime last now queriedAt
    rw [internalError_iff, not_not]
    exact getFailoverHistory_returns_iff dates
  · intro log question now queriedAt
    rw [internalError_iff, not_not]
    exact queryDecisions_returns_iff dates

/-- A word that is a property of every object. -/
theorem constructor_not_exact :
    resolveLast "last constructor" ⟨1760184000000, by decide⟩ = .error "Invalid time value" ∧
      ¬ Exact "last constructor" ⟨1760184000000, by decide⟩
        (resolveLast "last constructor" ⟨1760184000000, by decide⟩) := by
  have hthrown : resolveLast "last constructor" ⟨1760184000000, by decide⟩ =
      .error "Invalid time value" := by decide +kernel
  refine ⟨hthrown, ?_⟩
  intro hexact
  obtain ⟨result, hresult⟩ := hexact.returns
  rw [hthrown] at hresult
  cases hresult

end WhyRouted
