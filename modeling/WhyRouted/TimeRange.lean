import WhyRouted.IsoTime
import WhyRouted.JsText
import WhyRouted.TextPattern

/-! # Phrases that stand for a time range

`src/mcp/time-range.ts`: the relative phrases, the pairs of timestamps and the pairs of clock times
that the tools find in a client's text, and the ranges of UTC stamps they stand for.

How `Date` reads a timestamp and where the local day starts depend on the machine: they are
parameters, `Dates`.  A date that is no instant has no stamp, and `toISOString` throws on it. -/

namespace WhyRouted

open IsoTime (Instant timeClip toISOString)
open TextPattern

/-- `{ from, to }`, normalized. -/
structure ResolvedRange where
  fromTime : String
  toTime : String
deriving DecidableEq, Repr

/-- `RangeResult`: a range, or the reason there is none. -/
abbrev RangeResult := Except String ResolvedRange

/-- What `findRange` saw in a piece of free text. -/
inductive RangeSearch where
  | none
  | range (range : ResolvedRange) (matched : String)
  | invalid (reason : String)
deriving DecidableEq, Repr

/-- A result, or the message of the error that was thrown on the way. -/
abbrev Throws (α : Type) := Except String α

theorem do_eq_map {α β : Type} (f : α → β) (out : Throws α) :
    (do let value ← out; return f value) = out.map f := by
  cases out <;> rfl

/-! ### Dates -/

/-- The value of a date, `none` for `NaN`. -/
abbrev TimeValue := Option Instant

/-- `toISOString()`. -/
def TimeValue.isoString : TimeValue → Throws String
  | some t => .ok (toISOString t.ms)
  | none => .error "Invalid time value"

/-- `a > b`, false of `NaN`. -/
def TimeValue.later : TimeValue → TimeValue → Bool
  | some a, some b => decide (b.ms < a.ms)
  | some _, none => false
  | none, some _ => false
  | none, none => false

/-- What a date does that depends on the machine. -/
structure Dates where
  /-- `Date.parse`. -/
  parse : String → TimeValue
  /-- The value of a date after `setHours(hour, minute, second, ms)`. -/
  setHours : (date : Instant) → (hour minute second ms : ℕ) → TimeValue

/-! ### Patterns -/

def digits (n : ℕ) : Pattern := .times n Char.isDigit

/-- Text, in either case. -/
def caseless (text : String) : Pattern := .literal asciiLower (text.toList.map asciiLower)

/-- `[a-z]`, in either case. -/
def isLetter (c : Char) : Bool := decide ('a' ≤ asciiLower c ∧ asciiLower c ≤ 'z')

/-- `\d{1,2}` -/
def oneOrTwoDigits : Pattern := .seq (digits 1) (.optional (digits 1))

/-- `\s*` and `\s+`. -/
def spaces : Pattern := .many isJsSpace

def someSpaces : Pattern := .many1 isJsSpace

/-- `ISO_TS`. -/
def isoTimestamp : Pattern :=
  .all [digits 4, caseless "-", digits 2, caseless "-", digits 2, caseless "T",
    digits 2, caseless ":", digits 2,
    .optional (.all [caseless ":", digits 2,
      .optional (.all [caseless ".", .many1 Char.isDigit])]),
    .optional (.oneOf [caseless "Z",
      .all [.char fun c => c == '+' || c == '-', digits 2, .optional (caseless ":"), digits 2]])]

/-- `CLOCK`. -/
def clockTime : Pattern :=
  .all [oneOrTwoDigits, caseless ":", digits 2, .optional (.all [caseless ":", digits 2]),
    .optional (.all [spaces, .oneOf [caseless "a", caseless "p"], caseless "m"])]

/-- `last`, `past` or `previous`, and a space. -/
def backwards : Pattern :=
  .all [.oneOf [caseless "last", caseless "past", caseless "previous"], someSpaces]

/-- `(\d+\s*)?([a-z]+?)s?`: the count and the unit. -/
def countAndUnit : Pattern :=
  .all [.optional (.group 1 (.all [.many1 Char.isDigit, spaces])), .group 2 (.few1 isLetter),
    .optional (caseless "s")]

/-- `RELATIVE_RE`. -/
def relativePhrase : Pattern := .all [.boundary, backwards, countAndUnit, .boundary]

/-- Two times between `between` or `from` and `and` or `to`. -/
def pairOf (time : Pattern) : Pattern :=
  .all [.boundary, .oneOf [caseless "between", caseless "from"], someSpaces, .group 1 time,
    someSpaces, .oneOf [caseless "and", caseless "to"], someSpaces, .group 2 time]

/-- `ISO_PAIR_RE`. -/
def isoPair : Pattern := pairOf isoTimestamp

/-- `CLOCK_PAIR_RE`. -/
def clockPair : Pattern := pairOf clockTime

/-- The pattern of `resolveLast`. -/
def lastPhrase : Pattern := .all [.start, .optional backwards, countAndUnit, .finish]

/-- The pattern of `clockMs`. -/
def clockPattern : Pattern :=
  .all [.start, .group 1 oneOrTwoDigits, caseless ":", .group 2 (digits 2),
    .optional (.all [caseless ":", .group 3 (digits 2)]),
    .optional (.all [spaces, .group 4 (.oneOf [caseless "a", caseless "p"]), caseless "m"]),
    .finish]

/-! ### Relative phrases -/

/-- `UNIT_MS`: the milliseconds of a unit. -/
def unitTable : List (String × ℕ) :=
  [("second", 1000), ("sec", 1000), ("minute", 60000), ("min", 60000), ("hour", 3600000),
    ("hr", 3600000), ("day", 86400000)]

/-- A property of `UNIT_MS`: one of its own, or one that every object has. -/
inductive UnitValue where
  | ms (n : ℕ)
  | inherited
deriving DecidableEq, Repr

/-- A number of units, `none` for `NaN`. -/
def UnitValue.times : UnitValue → ℕ → Option ℕ
  | ms n, count => some (count * n)
  | inherited, _ => none

/-- `unitMs(raw)`.  `constructor` is the one inherited name of letters of one case only. -/
def unitMs (raw : String) : Option UnitValue :=
  match unitTable.lookup (jsLower raw) with
  | some n => some (.ms n)
  | none => if jsLower raw = "constructor" then some .inherited else none

def maxRelativeDays : ℕ := 30

/-- `Number` of a row of decimal digits.  A double rounds a count past `2^53`, and none of those is
near either bound it is compared with. -/
def digitsValue (text : String) : ℕ := Nat.ofDigitChars 10 text.toList 0

/-- A range that could not be read. -/
def unreadable (phrase reason : String) : String :=
  "could not read a time range from \"" ++ phrase ++ "\": " ++ reason

/-- Resolve a relative phrase against `now`. -/
def resolveLast (phrase : String) (now : Instant) : Throws RangeResult :=
  let text := (jsTrim phrase).toList
  let m := lastPhrase.exec text 0
  match (m.bind (·.group? 2 text)).bind unitMs with
  | none => .ok (.error (unreadable phrase "expected something like \"10 minutes\" or \"1 hour\""))
  | some unit =>
      let count := match m.bind (·.group? 1 text) with
        | none => 1
        | some raw => digitsValue (jsTrim raw)
      let span := unit.times count
      if count < 1 then .ok (.error (unreadable phrase "the count must be at least 1"))
      else if span.any fun span => maxRelativeDays * 86400000 < span then
        .ok (.error (unreadable phrase ("at most " ++ toString maxRelativeDays ++ " days back")))
      else do
        let lo ← TimeValue.isoString (span.bind fun span => timeClip (now.ms - span))
        let hi ← TimeValue.isoString (some now)
        return .ok ⟨lo, hi⟩

/-! ### Timestamps and clock times -/

variable (dates : Dates)

/-- Parse one timestamp, `none` if it is not a real instant. -/
def isoMs (text : String) : Option Instant := dates.parse text

/-- The hour of a clock time on the 24-hour clock, `none` if there is no such hour. -/
def hourOf (hour : ℕ) (meridiem : Option String) : Option ℕ :=
  match meridiem with
  | some meridiem =>
      if hour < 1 ∨ 12 < hour then none
      else some (hour % 12 + if meridiem = "p" then 12 else 0)
  | none => if 23 < hour then none else some hour

/-- One clock time on `now`'s local date. -/
def clockMs (text : String) (now : Instant) (endOfMinute : Bool) : Option TimeValue :=
  let text := (jsTrim text).toList
  match clockPattern.exec text 0 with
  | none => none
  | some m =>
      let hour := digitsValue ((m.group? 1 text).getD "")
      let minute := digitsValue ((m.group? 2 text).getD "")
      let second := (m.group? 3 text).map digitsValue
      if 59 < minute ∨ second.any fun second => 59 < second then none
      else match hourOf hour ((m.group? 4 text).map jsLower) with
        | none => none
        | some hour => some (dates.setHours now hour minute
            (second.getD (if endOfMinute then 59 else 0))
            (if second = none ∧ endOfMinute then 999 else 0))

/-- The range between two times, unless one is missing or they are the wrong way round. -/
def ordered (fromMs toMs : Option TimeValue) (label : String) : Throws RangeResult :=
  match fromMs, toMs with
  | some lo, some hi =>
      if lo.later hi then .ok (.error (unreadable label "the start is after the end"))
      else do
        let lo ← lo.isoString
        let hi ← hi.isoString
        return .ok ⟨lo, hi⟩
  | some _, none => .ok (.error (unreadable label "not a valid time"))
  | none, some _ => .ok (.error (unreadable label "not a valid time"))
  | none, none => .ok (.error (unreadable label "not a valid time"))

theorem ordered_of_le {lo hi : Instant} (h : lo.ms ≤ hi.ms) (label : String) :
    ordered (some (some lo)) (some (some hi)) label =
      .ok (.ok ⟨toISOString lo.ms, toISOString hi.ms⟩) := by
  have hlater : TimeValue.later (some lo) (some hi) = false := decide_eq_false (not_lt.mpr h)
  simp only [ordered, hlater]
  rfl

/-! ### Free text -/

/-- What a matched phrase was read as. -/
def RangeSearch.of (matched : String) : RangeResult → RangeSearch
  | .ok found => .range found matched
  | .error reason => .invalid reason

/-- Look for a range phrase inside free text: a pair of timestamps, else a pair of clock times,
else a relative phrase. -/
def findRange (question : String) (now : Instant) : Throws RangeSearch :=
  let text := question.toList
  match isoPair.exec text 0 with
  | some m => do
      let r ← ordered ((isoMs dates ((m.group? 1 text).getD "")).map some)
        ((isoMs dates ((m.group? 2 text).getD "")).map some) (m.text text)
      return .of (m.text text) r
  | none =>
      match clockPair.exec text 0 with
      | some m => do
          let r ← ordered (clockMs dates ((m.group? 1 text).getD "") now false)
            (clockMs dates ((m.group? 2 text).getD "") now true) (m.text text)
          return .of (m.text text) r
      | none =>
          match relativePhrase.exec text 0 with
          | some m =>
              if ((m.group? 2 text).bind unitMs).isSome then do
                let r ← resolveLast (m.text text) now
                return .of (m.text text) r
              else .ok .none
          | none => .ok .none

/-- Normalize one bound to the form the logs compare. -/
def normalizeIso (text : String) : Option String :=
  (isoMs dates (jsTrim text)).map fun t => toISOString t.ms

end WhyRouted
