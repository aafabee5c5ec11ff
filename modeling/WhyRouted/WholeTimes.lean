import WhyRouted.TimePairs

/-! # Times that are read whole

The two patterns for a pair of times are not anchored on the right, so that a pair is found where a
time goes on after what its grammar takes. -/

namespace WhyRouted

open IsoTime (Instant toISOString)
open TextPattern

/-! ### The two grammars of a time -/

theorem lower_of_digit {c : Char} (h : c.isDigit = true) : asciiLower c = c := by
  have hrange := toNat_of_isDigit h
  refine if_neg fun hupper => ?_
  have hle : 65 ≤ c.toNat := hupper.1
  omega

theorem not_space_of_lower {c : Char} (hlow : 0x20 < (asciiLower c).toNat)
    (hhigh : (asciiLower c).toNat < 0x7F) : isJsSpace c = false := by
  by_cases hupper : 'A' ≤ c ∧ c ≤ 'Z'
  · have hle : 65 ≤ c.toNat ∧ c.toNat ≤ 90 := hupper
    exact not_space_of_toNat (by omega) (by omega)
  · rw [asciiLower, if_neg hupper] at hlow hhigh
    exact not_space_of_toNat hlow hhigh

theorem within_caseless {word : String} (hword : (word.toList.map asciiLower).all
      (fun d => 0x20 < d.toNat && d.toNat < 0x7F) = true) :
    (caseless word).Within fun c => !isJsSpace c := by
  refine within_literal fun c hc => ?_
  have hprints := List.all_eq_true.mp hword _ hc
  rw [Bool.and_eq_true, decide_eq_true_eq, decide_eq_true_eq] at hprints
  rw [not_space_of_lower hprints.1 hprints.2]
  rfl

/-- A digit, or what stands between the digits of a time of day. -/
def isClockChar (c : Char) : Bool := c.isDigit || asciiLower c == ':' || asciiLower c == '.'

theorem isClockChar_of_digit (c : Char) (h : c.isDigit = true) : isClockChar c = true := by
  rw [isClockChar, h]
  rfl

theorem not_clockChar {c : Char} (hdigit : c.isDigit = false) (hcolon : asciiLower c ≠ ':')
    (hpoint : asciiLower c ≠ '.') : (!isClockChar c) = true := by
  simp [isClockChar, hdigit, hcolon, hpoint]

theorem letter_not_clockChar {c : Char} (h : isLetter c = true) : (!isClockChar c) = true := by
  have hlower := of_decide_eq_true h
  refine not_clockChar (isLetter_not_digit h) ?_ ?_
  all_goals
    intro heq
    rw [heq] at hlower
    exact absurd hlower (by decide)

theorem space_not_clockChar {c : Char} (h : isJsSpace c = true) : (!isClockChar c) = true := by
  refine not_clockChar (space_not_digit h) ?_ ?_
  all_goals
    intro heq
    rw [not_space_of_lower (by rw [heq]; decide) (by rw [heq]; decide)] at h
    cases h

/-- `:` and two digits. -/
def colonDigits : Pattern := .all [caseless ":", digits 2]

def fraction : Pattern := .all [caseless ".", .many1 Char.isDigit]

def seconds : Pattern := .all [caseless ":", digits 2, fraction.optional]

/-- A zone: `Z`, or an offset. -/
def offset : Pattern :=
  .all [.char fun c => c == '+' || c == '-', digits 2, .optional (caseless ":"), digits 2]

def zone : Pattern := .oneOf [caseless "Z", offset]

def meridiem : Pattern := .all [spaces, .oneOf [caseless "a", caseless "p"], caseless "m"]

theorem isoTimestamp_eq : isoTimestamp = [digits 4, caseless "-", digits 2, caseless "-", digits 2,
    caseless "T", digits 2, caseless ":", digits 2].foldr .seq
      (seconds.optional.seq (zone.optional.seq .empty)) := rfl

theorem clockTime_eq : clockTime = oneOrTwoDigits.seq ([caseless ":", digits 2].foldr .seq
    (colonDigits.optional.seq (meridiem.optional.seq .empty))) := rfl

theorem colon_not_digit (c : Char) (h : asciiLower c = ':') : (!c.isDigit) = true := by
  rw [Bool.not_eq_true', ← Bool.not_eq_true]
  intro hdigit
  rw [← lower_of_digit hdigit, h] at hdigit
  cases hdigit

theorem greedy_offset (text : List Char) (pos : ℕ) : offset.Greedy text pos := by
  refine greedy_seq_of_size (n := 1) rfl (fun stop => ?_)
  refine greedy_seq_of_size (n := 2) rfl (fun stop => ?_)
  refine greedy_seq_of_begins (p := fun c => !c.isDigit) ?_ ?_ fun stop =>
    greedy_of_size (n := 2) rfl
  · exact ⟨within_literal (fun c hc => colon_not_digit c (List.mem_singleton.mp hc)), trivial⟩
  · exact .inl (.inl fun c hc => by simpa using hc)

theorem begins_offset {p : Char → Bool} (hplus : p '+' = true) (hminus : p '-' = true) :
    offset.Begins p := by
  refine .inl fun c hc => ?_
  rw [Bool.or_eq_true, beq_iff_eq, beq_iff_eq] at hc
  rcases hc with rfl | rfl
  · exact hplus
  · exact hminus

theorem greedy_zone (text : List Char) (pos : ℕ) : zone.Greedy text pos := by
  refine greedy_alt (p := fun c => asciiLower c = 'z') ?_ ?_ (greedy_of_size (n := 1) rfl)
    (greedy_alt (p := fun _ => true) ?_ ?_ (greedy_offset text pos) (greedy_of_size (n := 1) rfl))
  · exact .inl fun c hc => hc
  · exact ⟨begins_offset (by decide) (by decide), fun c hc => nomatch hc⟩
  · exact begins_offset rfl rfl
  · exact fun c hc => nomatch hc

theorem begins_zone : zone.Begins fun c => !isClockChar c := by
  refine ⟨.inl fun c hc => letter_not_clockChar ?_, begins_offset (by decide) (by decide),
    fun c hc => nomatch hc⟩
  have hz : asciiLower c = 'z' := of_decide_eq_true hc
  simp [isLetter, hz]

def meridiemLetters : Pattern :=
  .all [.oneOf [caseless "a", caseless "p"], caseless "m"]

theorem begins_aOrP : (Pattern.oneOf [caseless "a", caseless "p"]).Begins isLetter := by
  refine ⟨.inl fun c hc => ?_, .inl fun c hc => ?_, fun c hc => nomatch hc⟩
  · have ha : asciiLower c = 'a' := of_decide_eq_true hc
    simp [isLetter, ha]
  · have hp : asciiLower c = 'p' := of_decide_eq_true hc
    simp [isLetter, hp]

theorem begins_meridiemLetters : meridiemLetters.Begins isLetter := .inl begins_aOrP

theorem begins_meridiem : meridiem.Begins fun c => !isClockChar c :=
  .inr ⟨fun _ hc => space_not_clockChar hc,
    begins_meridiemLetters.mono fun _ hc => letter_not_clockChar hc⟩

theorem greedy_meridiem (text : List Char) (pos : ℕ) : meridiem.Greedy text pos := by
  have hbegins : meridiemLetters.Begins fun c => !isJsSpace c :=
    begins_meridiemLetters.mono fun c hc => by rw [isLetter_not_space hc]; rfl
  have hspaces : spaces.Within isJsSpace := fun c hc => hc
  exact greedy_seq_of_begins hspaces hbegins fun stop => greedy_of_size (n := 2) rfl

theorem within_digits {p : Char → Bool} (hp : ∀ c, c.isDigit = true → p c = true) (n : ℕ) :
    (digits n).Within p := within_times hp

theorem within_colon {p : Char → Bool} (hp : ∀ c, asciiLower c = ':' → p c = true) :
    (caseless ":").Within p := within_literal fun c hc => hp c (List.mem_singleton.mp hc)

theorem within_colonDigits : colonDigits.Within isClockChar := by
  refine ⟨within_colon fun c hc => ?_, within_digits isClockChar_of_digit 2, trivial⟩
  simp [isClockChar, hc]

theorem within_seconds : seconds.Within isClockChar := by
  refine ⟨within_colon fun c hc => ?_, within_digits isClockChar_of_digit 2,
    ⟨⟨within_literal fun c hc => ?_, ⟨isClockChar_of_digit, isClockChar_of_digit⟩, trivial⟩,
      trivial⟩, trivial⟩
  · simp [isClockChar, hc]
  · have hpoint : asciiLower c = '.' := List.mem_singleton.mp hc
    simp [isClockChar, hpoint]

theorem greedy_seconds (text : List Char) (pos : ℕ) : seconds.Greedy text pos := by
  refine greedy_seq_of_size (n := 1) rfl fun stop => greedy_seq_of_size (n := 2) rfl fun stop =>
    greedy_seq_empty (greedy_optional ?_)
  exact greedy_seq_of_size (n := 1) rfl fun stop => greedy_seq_empty (greedy_many1 _ text stop)

theorem greedy_isoTimestamp (text : List Char) (pos : ℕ) : isoTimestamp.Greedy text pos := by
  rw [isoTimestamp_eq]
  refine greedy_foldr_of_size (by decide) (fun stop => ?_) pos
  exact greedy_seq_optional ⟨within_seconds, trivial⟩ (greedy_optional (greedy_seconds text stop))
    begins_zone (greedy_zone text)

theorem greedy_clockTime (text : List Char) (pos : ℕ) : clockTime.Greedy text pos := by
  rw [clockTime_eq]
  refine greedy_seq_of_begins (p := Char.isDigit) ?_ ?_ fun stop =>
    greedy_foldr_of_size (by decide) (fun stop => ?_) stop
  · exact ⟨within_digits (fun c hc => hc) 1, within_digits (fun c hc => hc) 1, trivial⟩
  · exact .inl (.inl fun c hc => colon_not_digit c (of_decide_eq_true hc))
  · exact greedy_seq_optional ⟨within_colonDigits, trivial⟩
      (greedy_optional (greedy_of_size (n := 3) rfl)) begins_meridiem (greedy_meridiem text)

theorem clockChar_not_space (c : Char) (h : isClockChar c = true) : (!isJsSpace c) = true := by
  cases hspace : isJsSpace c with
  | false => rfl
  | true =>
      have hnot := space_not_clockChar hspace
      rw [h] at hnot
      cases hnot

theorem digit_not_space (c : Char) (h : c.isDigit = true) : (!isJsSpace c) = true :=
  clockChar_not_space c (isClockChar_of_digit c h)

theorem within_isoTimestamp : isoTimestamp.Within fun c => !isJsSpace c := by
  have hdigits := within_digits digit_not_space
  have hcolon : (caseless ":").Within fun c => !isJsSpace c := within_caseless (by decide)
  have hdash : (caseless "-").Within fun c => !isJsSpace c := within_caseless (by decide)
  have hoffset : offset.Within fun c => !isJsSpace c := by
    refine ⟨fun c hc => ?_, hdigits 2, ⟨hcolon, trivial⟩, hdigits 2, trivial⟩
    rw [Bool.or_eq_true, beq_iff_eq, beq_iff_eq] at hc
    rcases hc with rfl | rfl <;> decide
  exact ⟨hdigits 4, hdash, hdigits 2, hdash, hdigits 2, within_caseless (by decide), hdigits 2,
    hcolon, hdigits 2, ⟨within_seconds.mono clockChar_not_space, trivial⟩,
    ⟨⟨within_caseless (by decide), hoffset, fun c hc => nomatch hc⟩, trivial⟩, trivial⟩

theorem shape_isoTimestamp : TimeShape isoTimestamp where
  plain := by repeat' (first | exact trivial | refine ⟨?_, ?_⟩)
  ungrouped := by repeat' (first | exact trivial | refine ⟨?_, ?_⟩)
  begins := .inl (.inl fun _ hc => hc)
  greedy := greedy_isoTimestamp
  tail := by
    intro t x u h hx
    have hnot := within_isoTimestamp.all_of_accepts h x (by simp)
    rw [hx] at hnot
    cases hnot

theorem clockTime_parts {part : List Char} (h : clockTime.Accepts part) :
    ∃ core mark, part = core ++ mark ∧ (∀ c ∈ core, isJsSpace c = false) ∧
      (mark = [] ∨ ∃ blanks y z, mark = blanks ++ [y, z] ∧
        (∀ c ∈ blanks, isJsSpace c = true) ∧ isLetter y = true ∧ asciiLower z = 'm') := by
  obtain ⟨hour, _, rfl, hhour, colon, _, rfl, hcolon, minute, _, rfl, hminute, second, _, rfl,
    hsecond, mark, _, rfl, hmark, rfl⟩ := h
  refine ⟨hour ++ (colon ++ (minute ++ second)), mark, by simp, ?_, ?_⟩
  · have hdigits := within_digits digit_not_space
    have hwithin : (Pattern.all [oneOrTwoDigits, caseless ":", digits 2,
        colonDigits.optional]).Within fun c => !isJsSpace c :=
      ⟨⟨hdigits 1, hdigits 1, trivial⟩, within_caseless (by decide), hdigits 2,
        ⟨within_colonDigits.mono clockChar_not_space, trivial⟩, trivial⟩
    intro c hc
    have hnot := hwithin.all_of_accepts ⟨hour, _, rfl, hhour, colon, _, rfl, hcolon, minute, _, rfl,
      hminute, second, [], (List.append_nil second).symm, hsecond, rfl⟩ c hc
    simpa using hnot
  · rcases accepts_optional.mp hmark with hnil | hmark
    · exact .inl hnil
    · obtain ⟨blanks, _, rfl, hblanks, u, _, rfl, hu, v, _, rfl, hv, rfl⟩ := hmark
      obtain ⟨y, ys, rfl, hy⟩ := begins_aOrP.head_of_accepts hu
      have hlength : (y :: ys).length = 1 := length_of_size? rfl hu
      obtain rfl : ys = [] := List.length_eq_zero_iff.mp (Nat.succ.inj hlength)
      obtain ⟨z, rfl, hz⟩ := List.map_eq_singleton_iff.mp (accepts_caseless.mp hv)
      exact .inr ⟨blanks, y, z, rfl, hblanks, hy, hz⟩

theorem shape_clockTime : TimeShape clockTime where
  plain := by repeat' (first | exact trivial | refine ⟨?_, ?_⟩)
  ungrouped := by repeat' (first | exact trivial | refine ⟨?_, ?_⟩)
  begins := .inl (.inl (.inl fun _ hc => hc))
  greedy := greedy_clockTime
  tail := by
    intro t x u h hx
    obtain ⟨core, mark, heq, hcore, hmark⟩ := clockTime_parts h
    obtain ⟨before, rfl⟩ : ∃ before, mark = before ++ x :: u := by
      rcases List.append_eq_append_iff.mp heq with ⟨a, rfl, ha⟩ | ⟨a, -, ha⟩
      · cases a with
        | nil => exact ⟨[], ha.symm⟩
        | cons c cs =>
            obtain rfl : x = c := (List.cons.inj ha).1
            rw [hcore x (by simp)] at hx
            cases hx
      · exact ⟨a, ha⟩
    rcases hmark with hnil | ⟨blanks, y, z, heq', hblanks, hy, hz⟩
    · simp at hnil
    · rcases List.append_eq_append_iff.mp heq' with ⟨a, rfl, ha⟩ | ⟨a, rfl, ha⟩
      · exact ⟨a, y, z, ha, fun c hc => hblanks c (List.mem_append_right _ hc), hy, hz⟩
      · have hmem : x ∈ [y, z] := by
          rw [ha]
          simp
        rcases List.mem_pair.mp hmem with rfl | rfl
        · rw [isLetter_not_space hy] at hx
          cases hx
        · rw [not_space_of_lower (by rw [hz]; decide) (by rw [hz]; decide)] at hx
          cases hx

/-! ### Reading a pair to its end -/

/-- How a time goes on: with a digit, with a sign and a digit, or with `a.m.` or `p.m.`, with or
without the points. -/
def continuation : Pattern :=
  .oneOf [.char Char.isDigit,
    .all [.char fun c => c == ':' || c == '.' || c == '+' || c == '-', .char Char.isDigit],
    .all [spaces, .oneOf [caseless "a", caseless "p"], .optional (caseless "."), caseless "m",
      .boundary]]

/-- The time that ends here goes on. -/
def goesOn (text : List Char) (pos : ℕ) : Bool := (continuation.matchAt text pos).isSome

/-- The pair of times in a text: of timestamps, or else of clock times. -/
def pairMatch (text : List Char) : Option Match := (isoPair.exec text 0).or (clockPair.exec text 0)

/-- The match ends where its last time does, and the range is that of two instants in order. -/
structure ReadWhole (text : List Char) (m : Match) (range : ResolvedRange) (matched : String) :
    Prop where
  matched_eq : matched = m.text text
  whole : goesOn text m.span.stop = false
  inOrder : ∃ lo hi : Instant, lo.ms ≤ hi.ms ∧ range = ⟨toISOString lo.ms, toISOString hi.ms⟩

variable (dates : Dates)

/-- No range is that of a prefix of what was written. -/
def NeverPrefix (question : String) (now : Instant) : Prop :=
  ∀ m range matched, pairMatch question.toList = some m →
    findRange dates question now = .ok (.range range matched) →
      ReadWhole question.toList m range matched

/-- Two times that are instants in order. -/
def InOrder (lo hi : Option TimeValue) : Prop :=
  ∃ a b : Instant, lo = some (some a) ∧ hi = some (some b) ∧ a.ms ≤ b.ms

/-- Where the first pair of timestamps, or without one the first pair of clock times, is two
instants in order, its last time does not go on after the longest time of the grammar there. -/
structure EndsWritten (question : String) (now : Instant) : Prop where
  iso : ∀ start stop first last,
    FirstPair isoTimestamp question.toList start stop first last →
    InOrder ((isoMs dates (String.ofList first)).map some)
      ((isoMs dates (String.ofList last)).map some) →
    goesOn question.toList stop = false
  clock : (∀ start stop first last,
      ¬ PairAt isoTimestamp question.toList start stop first last) →
    ∀ start stop first last, FirstPair clockTime question.toList start stop first last →
    InOrder (clockMs dates (String.ofList first) now false)
      (clockMs dates (String.ofList last) now true) →
    goesOn question.toList stop = false

theorem ordered_ok_iff {lo hi : Option TimeValue} {label : String} {range : ResolvedRange} :
    ordered lo hi label = .ok (.ok range) ↔ ∃ a b : Instant, lo = some (some a) ∧
      hi = some (some b) ∧ a.ms ≤ b.ms ∧ range = ⟨toISOString a.ms, toISOString b.ms⟩ := by
  constructor
  · intro h
    rcases lo with _ | _ | a <;> rcases hi with _ | _ | b
    any_goals cases h
    by_cases hle : a.ms ≤ b.ms
    · rw [ordered_of_le hle] at h
      exact ⟨a, b, rfl, rfl, hle, (Except.ok.inj (Except.ok.inj h)).symm⟩
    · have hlater : TimeValue.later (some a) (some b) = true := decide_eq_true (not_le.mp hle)
      simp only [ordered, hlater] at h
      cases h
  · rintro ⟨a, b, rfl, rfl, hle, rfl⟩
    exact ordered_of_le hle label

variable {dates} {question : String} {now : Instant}

theorem neverPrefix_iff_of_pair {m : Match} {lo hi : Option TimeValue}
    (hm : pairMatch question.toList = some m)
    (hfind : findRange dates question now = (ordered lo hi (m.text question.toList)).map
      (RangeSearch.of (m.text question.toList))) :
    NeverPrefix dates question now ↔
      (InOrder lo hi → goesOn question.toList m.span.stop = false) := by
  constructor
  · rintro h ⟨a, b, rfl, rfl, hle⟩
    rw [ordered_of_le hle] at hfind
    exact (h m _ _ hm hfind).whole
  · intro h m' range matched hm' hrange
    obtain rfl := Option.some.inj (hm.symm.trans hm')
    rw [hfind] at hrange
    cases hordered : ordered lo hi (m.text question.toList) with
    | error message =>
        rw [hordered] at hrange
        cases hrange
    | ok result =>
        rw [hordered] at hrange
        cases result with
        | error reason => cases hrange
        | ok range' =>
            cases hrange
            obtain ⟨a, b, hlo, hhi, hle, hrange'⟩ := ordered_ok_iff.mp hordered
            exact ⟨rfl, h ⟨a, b, hlo, hhi, hle⟩, a, b, hle, hrange'⟩

theorem neverPrefix_iso {m : Match} (h : isoPair.exec question.toList 0 = some m) :
    NeverPrefix dates question now ↔ EndsWritten dates question now := by
  obtain ⟨first, last, hpair, hfirst, hlast⟩ := exec_pair shape_isoTimestamp h
  have hm : pairMatch question.toList = some m := by
    rw [pairMatch, h, Option.some_or]
  have hfind : findRange dates question now =
      (ordered ((isoMs dates (String.ofList first)).map some)
        ((isoMs dates (String.ofList last)).map some) (m.text question.toList)).map
      (RangeSearch.of (m.text question.toList)) := by
    unfold findRange
    dsimp only
    rw [h]
    dsimp only
    rw [hfirst, hlast, Option.getD_some, Option.getD_some, do_eq_map]
  rw [neverPrefix_iff_of_pair hm hfind]
  constructor
  · intro hends
    refine ⟨?_, ?_⟩
    · intro start stop first' last' hpair' horder
      obtain ⟨-, rfl, rfl, rfl⟩ := hpair.unique shape_isoTimestamp hpair'
      exact hends horder
    · intro hnone
      exact absurd hpair.pair (hnone _ _ _ _)
  · intro hends horder
    exact hends.iso _ _ _ _ hpair horder

theorem neverPrefix_clock {m : Match} (hiso : isoPair.exec question.toList 0 = none)
    (h : clockPair.exec question.toList 0 = some m) :
    NeverPrefix dates question now ↔ EndsWritten dates question now := by
  obtain ⟨first, last, hpair, hfirst, hlast⟩ := exec_pair shape_clockTime h
  have hm : pairMatch question.toList = some m := by
    rw [pairMatch, hiso, h, Option.none_or]
  have hfind : findRange dates question now =
      (ordered (clockMs dates (String.ofList first) now false)
        (clockMs dates (String.ofList last) now true) (m.text question.toList)).map
      (RangeSearch.of (m.text question.toList)) := by
    unfold findRange
    dsimp only
    rw [hiso, h]
    dsimp only
    rw [hfirst, hlast, Option.getD_some, Option.getD_some, do_eq_map]
  have hnone : ∀ start stop first last,
      ¬ PairAt isoTimestamp question.toList start stop first last := by
    intro start stop first' last' hpair'
    have hsome := exec_pair_isSome shape_isoTimestamp hpair'
    rw [show (pairOf isoTimestamp).exec question.toList 0 = none from hiso] at hsome
    cases hsome
  rw [neverPrefix_iff_of_pair hm hfind]
  constructor
  · intro hends
    refine ⟨?_, ?_⟩
    · intro start stop first' last' hpair'
      exact absurd hpair'.pair (hnone _ _ _ _)
    · intro _ start stop first' last' hpair' horder
      obtain ⟨-, rfl, rfl, rfl⟩ := hpair.unique shape_clockTime hpair'
      exact hends horder
  · intro hends horder
    exact hends.clock hnone _ _ _ _ hpair horder

/-- **A range is that of the whole of what was written just if the last time of the pair does not
go on.** -/
theorem never_prefix_iff (dates : Dates) (question : String) (now : Instant) :
    NeverPrefix dates question now ↔ EndsWritten dates question now := by
  cases hiso : isoPair.exec question.toList 0 with
  | some m => exact neverPrefix_iso hiso
  | none =>
      cases hclock : clockPair.exec question.toList 0 with
      | some m => exact neverPrefix_clock hiso hclock
      | none =>
          have hno : ∀ {time : Pattern}, TimeShape time →
              (pairOf time).exec question.toList 0 = none → ∀ {start stop first last},
              ¬ PairAt time question.toList start stop first last := by
            intro time ht hnone start stop first last hpair
            have hsome := exec_pair_isSome ht hpair
            rw [hnone] at hsome
            cases hsome
          constructor
          · intro _
            exact ⟨fun _ _ _ _ hpair _ => absurd hpair.pair (hno shape_isoTimestamp hiso),
              fun _ _ _ _ _ hpair _ => absurd hpair.pair (hno shape_clockTime hclock)⟩
          · intro _ m range matched hm
            rw [pairMatch, hiso, hclock] at hm
            cases hm

/-- Dates of a machine on UTC, without a parser. -/
def Dates.clockOnly : Dates where
  parse _ := none
  setHours date hour minute second ms := IsoTime.timeClip (date.ms / 86400000 * 86400000 +
    (hour * 3600000 + minute * 60000 + second * 1000 + ms : ℕ))

/-- A third digit of the minutes is left out. -/
theorem third_digit_left_out :
    findRange .clockOnly "p95 between 3:00 and 3:105" ⟨1760184000000, by decide⟩ =
      .ok (.range ⟨"2025-10-11T03:00:00.000Z", "2025-10-11T03:10:59.999Z"⟩
        "between 3:00 and 3:10") ∧
      ¬ NeverPrefix .clockOnly "p95 between 3:00 and 3:105" ⟨1760184000000, by decide⟩ := by
  have hfind : findRange .clockOnly "p95 between 3:00 and 3:105" ⟨1760184000000, by decide⟩ =
      .ok (.range ⟨"2025-10-11T03:00:00.000Z", "2025-10-11T03:10:59.999Z"⟩
        "between 3:00 and 3:10") := by decide +kernel
  refine ⟨hfind, ?_⟩
  intro h
  have hmatch : (pairMatch "p95 between 3:00 and 3:105".toList).map (·.span) =
      some ⟨4, 25⟩ := by decide +kernel
  obtain ⟨m, hm, hspan⟩ := Option.map_eq_some_iff.mp hmatch
  have hwhole := (h m _ _ hm hfind).whole
  rw [hspan] at hwhole
  revert hwhole
  decide +kernel

end WhyRouted
