import Mathlib.Data.List.Lex
import Mathlib.Tactic.Ring.RingNF

/-! # Calendar time stamps

An instant is a number of milliseconds since 1970-01-01T00:00:00.000Z.  `IsoTime.toISOString` is
its time stamp in the proleptic Gregorian calendar: seven fields of fixed width, the year of
four digits from 0 to 9999 and signed and of six digits outside.

Stamps with a four-digit year are ordered as strings the way their instants are ordered in time
(`toISOString_lt_iff`); the others begin with a sign, and stand before all of these
(`signed_lt_unsigned`).  The argument has two halves.  Fields of fixed width compare as the list
of their numbers does (`layout_lt_iff`), and the list of the fields of an instant grows with
the instant (`dateParts_lt`), since a year, a month of a year and a day of a month are each
found by counting the starts that have passed. -/

namespace IsoTime

/-! ### Fixed-width numerals -/

/-- The digit of a number below ten. -/
def digit (n : ℕ) : Char := Char.ofNat (48 + n)

/-- The last `w` decimal digits of a number. -/
def decimal : ℕ → ℕ → List Char
  | 0, _ => []
  | w + 1, n => decimal w (n / 10) ++ [digit (n % 10)]

@[simp] theorem length_decimal (w n : ℕ) : (decimal w n).length = w := by
  induction w generalizing n with
  | zero => rfl
  | succ w ih => simp [decimal, ih]

theorem append_lt_append_iff {α : Type} [LT α] {a a' b b' : List α} (h : a.length = a'.length) :
    a ++ b < a' ++ b' ↔ a < a' ∨ (a = a' ∧ b < b') := by
  induction a generalizing a' with
  | nil =>
      obtain rfl := List.length_eq_zero_iff.mp h.symm
      simp
  | cons x a ih =>
      cases a' with
      | nil => simp at h
      | cons x' a' =>
          rw [List.cons_append, List.cons_append, List.cons_lt_cons_iff, List.cons_lt_cons_iff,
            ih (Nat.succ.inj h), List.cons.injEq]
          tauto

theorem digit_lt_iff {m n : ℕ} (hm : m < 10) (hn : n < 10) : digit m < digit n ↔ m < n := by
  have h : ∀ m < 10, ∀ n < 10, (digit m < digit n ↔ m < n) := by decide
  exact h m hm n hn

theorem digit_inj {m n : ℕ} (hm : m < 10) (hn : n < 10) : digit m = digit n ↔ m = n := by
  have h : ∀ m < 10, ∀ n < 10, (digit m = digit n ↔ m = n) := by decide
  exact h m hm n hn

theorem decimal_inj {w m n : ℕ} (hm : m < 10 ^ w) (hn : n < 10 ^ w) :
    decimal w m = decimal w n ↔ m = n := by
  induction w generalizing m n with
  | zero =>
      rw [Nat.pow_zero] at hm hn
      have hmn : m = n := by omega
      simp [hmn]
  | succ w ih =>
      rw [Nat.pow_succ] at hm hn
      unfold decimal
      constructor
      · intro h
        obtain ⟨hhigh, hlow⟩ := List.append_inj h (by simp)
        have hdiv : m / 10 = n / 10 := (ih (by omega) (by omega)).mp hhigh
        have hmod : m % 10 = n % 10 :=
          (digit_inj (by omega) (by omega)).mp (List.singleton_inj.mp hlow)
        omega
      · rintro rfl
        rfl

theorem decimal_lt_iff {w m n : ℕ} (hm : m < 10 ^ w) (hn : n < 10 ^ w) :
    decimal w m < decimal w n ↔ m < n := by
  induction w generalizing m n with
  | zero =>
      rw [Nat.pow_zero] at hm hn
      have hmn : m = n := by omega
      simp [hmn, decimal]
  | succ w ih =>
      rw [Nat.pow_succ] at hm hn
      unfold decimal
      have hlt := ih (m := m / 10) (n := n / 10) (by omega) (by omega)
      have heq := decimal_inj (w := w) (m := m / 10) (n := n / 10) (by omega) (by omega)
      rw [append_lt_append_iff (by simp), hlt, heq]
      have hdigit : [digit (m % 10)] < [digit (n % 10)] ↔ m % 10 < n % 10 := by
        rw [List.cons_lt_cons_iff, digit_lt_iff (by omega) (by omega)]
        simp
      rw [hdigit]
      omega

/-! ### A layout of fields -/

/-- Numbers in fields of given widths, each followed by its separator. -/
def layout : List (ℕ × Char) → List ℕ → List Char
  | [], _ => []
  | _ :: _, [] => []
  | (w, c) :: ws, n :: ns => decimal w n ++ c :: layout ws ns

/-- Each number fits its field. -/
def Fits : List (ℕ × Char) → List ℕ → Prop
  | [], [] => True
  | [], _ :: _ => False
  | _ :: _, [] => False
  | (w, _) :: ws, n :: ns => n < 10 ^ w ∧ Fits ws ns

theorem layout_lt_iff {ws : List (ℕ × Char)} {ms ns : List ℕ} (hm : Fits ws ms) (hn : Fits ws ns) :
    layout ws ms < layout ws ns ↔ ms < ns := by
  induction ws generalizing ms ns with
  | nil => cases ms <;> cases ns <;> simp_all [Fits, layout]
  | cons field ws ih =>
      obtain ⟨w, c⟩ := field
      cases ms with
      | nil => cases hm
      | cons m ms =>
          cases ns with
          | nil => cases hn
          | cons n ns =>
              obtain ⟨hm, hms⟩ := hm
              obtain ⟨hn, hns⟩ := hn
              unfold layout
              rw [append_lt_append_iff (by simp), List.cons_lt_cons_iff, List.cons_lt_cons_iff,
                decimal_lt_iff hm hn, decimal_inj hm hn, ih hms hns]
              have hc : ¬ c < c := Char.lt_irrefl c
              tauto

theorem mem_decimal {w n : ℕ} {c : Char} (h : c ∈ decimal w n) : ∃ d < 10, c = digit d := by
  induction w generalizing n with
  | zero => cases h
  | succ w ih =>
      rcases List.mem_append.mp h with hhigh | hlow
      · exact ih hhigh
      · refine ⟨n % 10, ?_, List.mem_singleton.mp hlow⟩
        omega

theorem mem_layout {ws : List (ℕ × Char)} {ns : List ℕ} {c : Char} (h : c ∈ layout ws ns) :
    (∃ d < 10, c = digit d) ∨ c ∈ ws.map (·.2) := by
  induction ws generalizing ns with
  | nil => cases ns <;> cases h
  | cons field ws ih =>
      cases ns with
      | nil => cases h
      | cons n ns =>
          rcases List.mem_append.mp h with hdigit | hrest
          · exact Or.inl (mem_decimal hdigit)
          · rcases List.mem_cons.mp hrest with rfl | hrest
            · exact Or.inr List.mem_cons_self
            · exact (ih hrest).imp_right (List.mem_cons_of_mem _)

/-! ### Years -/

/-- The day the year `y` starts, counted from 0000-01-01: one more for each leap year before. -/
def yearStart (y : ℤ) : ℤ := 365 * y + (y + 3) / 4 - (y + 99) / 100 + (y + 399) / 400

/-- The year of a day: the average length gives it up to one. -/
def yearOf (day : ℤ) : ℤ :=
  let y := 400 * day / 146097
  if yearStart (y + 1) ≤ day then y + 1 else if day < yearStart y then y - 1 else y

/-- Four hundred years have 146097 days, give or take the leap years not yet met. -/
theorem yearStart_bounds (y : ℤ) :
    146097 * y - 396 ≤ 400 * yearStart y ∧ 400 * yearStart y ≤ 146097 * y + 699 := by
  unfold yearStart
  constructor <;> omega

theorem yearOf_spec (day : ℤ) :
    yearStart (yearOf day) ≤ day ∧ day < yearStart (yearOf day + 1) := by
  unfold yearOf
  generalize hy : 400 * day / 146097 = y
  have hbefore := yearStart_bounds (y - 1)
  have hafter := yearStart_bounds (y + 1)
  have hnext := yearStart_bounds (y + 1 + 1)
  dsimp only
  split_ifs with hlate hearly
  · refine ⟨hlate, ?_⟩
    omega
  · rw [sub_add_cancel]
    refine ⟨?_, hearly⟩
    omega
  · omega

theorem yearStart_mono {y y' : ℤ} (h : y ≤ y') : yearStart y ≤ yearStart y' := by
  unfold yearStart
  omega

theorem yearOf_mono {day day' : ℤ} (h : day ≤ day') : yearOf day ≤ yearOf day' := by
  by_contra hlt
  have hstart : yearStart (yearOf day' + 1) ≤ yearStart (yearOf day) := by
    apply yearStart_mono
    omega
  have hday := (yearOf_spec day).1
  have hday' := (yearOf_spec day').2
  omega

/-- Whether the year has 366 days. -/
def isLeap (y : ℤ) : Bool := yearStart (y + 1) - yearStart y = 366

/-- The day of the year a day is, from 0. -/
def dayOfYear (day : ℤ) : ℕ := (day - yearStart (yearOf day)).toNat

theorem dayOfYear_lt (day : ℤ) : dayOfYear day < 366 := by
  have h := yearOf_spec day
  unfold dayOfYear
  generalize yearOf day = y at h ⊢
  unfold yearStart at h ⊢
  omega

/-! ### Months and days -/

/-- The days of the year its months start on. -/
def monthStarts (leap : Bool) : List ℕ :=
  if leap then [0, 31, 60, 91, 121, 152, 182, 213, 244, 274, 305, 335]
  else [0, 31, 59, 90, 120, 151, 181, 212, 243, 273, 304, 334]

/-- The month of a day of the year: how many have started. -/
def monthOf (leap : Bool) (k : ℕ) : ℕ := (monthStarts leap).countP (· ≤ k)

/-- The day of the month. -/
def dateOf (leap : Bool) (k : ℕ) : ℕ := k - (monthStarts leap).getD (monthOf leap k - 1) 0 + 1

theorem monthOf_mono (leap : Bool) {k k' : ℕ} (h : k ≤ k') : monthOf leap k ≤ monthOf leap k' := by
  apply List.countP_mono_left
  intro start _ hstart
  have hk : start ≤ k := of_decide_eq_true hstart
  exact decide_eq_true (le_trans hk h)

theorem month_bounds (leap : Bool) {k : ℕ} (h : k < 366) :
    (monthStarts leap).getD (monthOf leap k - 1) 0 ≤ k ∧ monthOf leap k < 100 ∧
      dateOf leap k < 100 := by
  have hall : ∀ leap, ∀ k < 366, (monthStarts leap).getD (monthOf leap k - 1) 0 ≤ k ∧
      monthOf leap k < 100 ∧ dateOf leap k < 100 := by decide +kernel
  exact hall leap k h

theorem month_lt (leap : Bool) {k k' : ℕ} (h : k < k') (hk' : k' < 366) :
    monthOf leap k < monthOf leap k' ∨
      (monthOf leap k = monthOf leap k' ∧ dateOf leap k < dateOf leap k') := by
  rcases lt_or_eq_of_le (monthOf_mono leap h.le) with hlt | heq
  · exact Or.inl hlt
  · refine Or.inr ⟨heq, ?_⟩
    have hstarted := (month_bounds leap (h.trans hk')).1
    unfold dateOf
    rw [heq] at hstarted ⊢
    omega

/-! ### Instants -/

/-- The day of an instant, from 0000-01-01. -/
def dayOf (t : ℤ) : ℤ := t / 86400000 + 719528

/-- The time of day of an instant, in milliseconds. -/
def timeOf (t : ℤ) : ℕ := (t % 86400000).toNat

/-- The numbers of a time of day. -/
def clockParts (r : ℕ) : List ℕ := [r / 3600000, r / 60000 % 60, r / 1000 % 60, r % 1000]

/-- The numbers of a day of the year, and of a time of day. -/
def dateParts (t : ℤ) : List ℕ :=
  let day := dayOf t
  let leap := isLeap (yearOf day)
  monthOf leap (dayOfYear day) :: dateOf leap (dayOfYear day) :: clockParts (timeOf t)

/-- The fields after the year. -/
def dateFields : List (ℕ × Char) := [(2, '-'), (2, 'T'), (2, ':'), (2, ':'), (2, '.'), (3, 'Z')]

/-- `new Date(t).toISOString()`. -/
def toISOString (t : ℤ) : String :=
  let y := yearOf (dayOf t)
  let year := if 0 ≤ y ∧ y ≤ 9999 then decimal 4 y.toNat
    else (if y < 0 then '-' else '+') :: decimal 6 y.natAbs
  String.ofList (year ++ '-' :: layout dateFields (dateParts t))

/-- The instant's year is written with four digits. -/
def FourDigitYear (t : ℤ) : Prop := 0 ≤ yearOf (dayOf t) ∧ yearOf (dayOf t) ≤ 9999

instance (t : ℤ) : Decidable (FourDigitYear t) := inferInstanceAs (Decidable (_ ∧ _))

example : toISOString 1760184000000 = "2025-10-11T12:00:00.000Z" := by decide +kernel

/-- An instant that a date can hold: a hundred million days each way. -/
structure Instant where
  ms : ℤ
  inRange : -8640000000000000 ≤ ms ∧ ms ≤ 8640000000000000
deriving DecidableEq, Repr

/-- The instant of a number of milliseconds, if a date can hold it. -/
def timeClip (t : ℤ) : Option Instant :=
  if h : -8640000000000000 ≤ t ∧ t ≤ 8640000000000000 then some ⟨t, h⟩ else none

variable {s t : ℤ}

theorem clockParts_lt {r r' : ℕ} (h : r < r') : clockParts r < clockParts r' := by
  simp only [clockParts, List.cons_lt_cons_iff, List.not_lt_nil, and_false, or_false]
  omega

theorem fits_clockParts {r : ℕ} (h : r < 86400000) :
    Fits [(2, ':'), (2, ':'), (2, '.'), (3, 'Z')] (clockParts r) := by
  simp only [clockParts, Fits, and_true]
  omega

theorem fits_dateParts (t : ℤ) : Fits dateFields (dateParts t) := by
  obtain ⟨-, hmonth, hdate⟩ := month_bounds (isLeap (yearOf (dayOf t))) (dayOfYear_lt (dayOf t))
  refine ⟨hmonth, hdate, fits_clockParts ?_⟩
  unfold timeOf
  omega

theorem dateParts_lt (h : s < t) (hyear : yearOf (dayOf s) = yearOf (dayOf t)) :
    dateParts s < dateParts t := by
  simp only [dateParts, List.cons_lt_cons_iff]
  rw [hyear]
  have hday : dayOf s ≤ dayOf t := by
    unfold dayOf
    omega
  rcases lt_or_eq_of_le hday with hlt | heq
  · have hk : dayOfYear (dayOf s) < dayOfYear (dayOf t) := by
      have hstart := (yearOf_spec (dayOf s)).1
      unfold dayOfYear
      rw [hyear] at hstart ⊢
      omega
    rcases month_lt (isLeap (yearOf (dayOf t))) hk (dayOfYear_lt _) with hm | ⟨hm, hd⟩
    · exact Or.inl hm
    · exact Or.inr ⟨hm, Or.inl hd⟩
  · have htime : timeOf s < timeOf t := by
      unfold dayOf at heq
      unfold timeOf
      omega
    rw [heq]
    exact Or.inr ⟨rfl, Or.inr ⟨rfl, clockParts_lt htime⟩⟩

/-- Within a year these numbers are in the order of the instants. -/
theorem dateParts_lt_iff (hyear : yearOf (dayOf s) = yearOf (dayOf t)) :
    dateParts s < dateParts t ↔ s < t := by
  constructor
  · intro h
    rcases lt_trichotomy s t with hst | rfl | hts
    · exact hst
    · exact absurd h (lt_irrefl _)
    · exact absurd (h.trans (dateParts_lt hts hyear.symm)) (lt_irrefl _)
  · exact fun h => dateParts_lt h hyear

theorem FourDigitYear.inRange (h : FourDigitYear t) :
    -8640000000000000 ≤ t ∧ t ≤ 8640000000000000 := by
  obtain ⟨hlow, hhigh⟩ := h
  obtain ⟨hstart, hend⟩ := yearOf_spec (dayOf t)
  have hfirst : yearStart 0 ≤ yearStart (yearOf (dayOf t)) := yearStart_mono hlow
  have hlast : yearStart (yearOf (dayOf t) + 1) ≤ yearStart 10000 := by
    apply yearStart_mono
    omega
  have h0 : yearStart 0 = 0 := by decide
  have h10000 : yearStart 10000 = 3652425 := by decide
  rw [h0] at hfirst
  rw [h10000] at hlast
  unfold dayOf at hstart hend hfirst hlast
  omega

theorem toList_toISOString (h : FourDigitYear t) : (toISOString t).toList =
    layout ((4, '-') :: dateFields) ((yearOf (dayOf t)).toNat :: dateParts t) := by
  have hyear : 0 ≤ yearOf (dayOf t) ∧ yearOf (dayOf t) ≤ 9999 := h
  simp only [toISOString]
  rw [if_pos hyear, String.toList_ofList]
  rfl

theorem fits_stamp (h : FourDigitYear t) :
    Fits ((4, '-') :: dateFields) ((yearOf (dayOf t)).toNat :: dateParts t) := by
  obtain ⟨hlow, hhigh⟩ := h
  refine ⟨?_, fits_dateParts t⟩
  omega

theorem ascii_layout {w : ℕ} {ns : List ℕ} {c : Char}
    (hc : c ∈ layout ((w, '-') :: dateFields) ns) : c.toNat < 128 := by
  have hdigits : ∀ d < 10, (digit d).toNat < 128 := by decide
  have hseparators : ∀ c ∈ ((w, '-') :: dateFields).map (·.2), c.toNat < 128 := by
    simp [dateFields]
  rcases mem_layout hc with ⟨d, hd, rfl⟩ | hsep
  · exact hdigits d hd
  · exact hseparators c hsep

theorem ascii_toISOString (h : FourDigitYear t) {c : Char} (hc : c ∈ (toISOString t).toList) :
    c.toNat < 128 := by
  rw [toList_toISOString h] at hc
  exact ascii_layout hc

/-- The numbers of a stamp grow with the instant, from year 0 on. -/
theorem stampParts_lt_iff (hs : 0 ≤ yearOf (dayOf s)) (ht : 0 ≤ yearOf (dayOf t)) :
    (yearOf (dayOf s)).natAbs :: dateParts s < (yearOf (dayOf t)).natAbs :: dateParts t ↔
      s < t := by
  -- a later instant has the greater list of numbers
  have hlt : ∀ {s t}, 0 ≤ yearOf (dayOf s) → s < t →
      (yearOf (dayOf s)).natAbs :: dateParts s < (yearOf (dayOf t)).natAbs :: dateParts t := by
    intro s t hs h
    have hmono : yearOf (dayOf s) ≤ yearOf (dayOf t) := by
      apply yearOf_mono
      unfold dayOf
      omega
    rw [List.cons_lt_cons_iff]
    rcases lt_or_eq_of_le hmono with hyear | hyear
    · left
      omega
    · right
      exact ⟨by rw [hyear], dateParts_lt h hyear⟩
  constructor
  · intro h
    rcases lt_trichotomy s t with hst | rfl | hts
    · exact hst
    · exact absurd h (lt_irrefl _)
    · exact absurd (h.trans (hlt ht hts)) (lt_irrefl _)
  · exact hlt hs

/-- **Stamps are ordered as instants**, from year 0 to year 9999. -/
theorem toISOString_lt_iff (hs : FourDigitYear s) (ht : FourDigitYear t) :
    (toISOString s).toList < (toISOString t).toList ↔ s < t := by
  have hnat : ∀ {t}, FourDigitYear t → (yearOf (dayOf t)).toNat = (yearOf (dayOf t)).natAbs := by
    intro t ht
    have hpos := ht.1
    omega
  rw [toList_toISOString hs, toList_toISOString ht, layout_lt_iff (fits_stamp hs) (fits_stamp ht),
    hnat hs, hnat ht, stampParts_lt_iff hs.1 ht.1]

/-! ### Years of six digits -/

/-- The year is after 9999, or before 0. -/
def FarYear (t : ℤ) : Prop := 9999 < yearOf (dayOf t)

def NegativeYear (t : ℤ) : Prop := yearOf (dayOf t) < 0

instance (t : ℤ) : Decidable (FarYear t) := inferInstanceAs (Decidable (_ < _))

instance (t : ℤ) : Decidable (NegativeYear t) := inferInstanceAs (Decidable (_ < _))

theorem year_cases (t : ℤ) :
    (FourDigitYear t ∧ ¬ FarYear t ∧ ¬ NegativeYear t) ∨
      (¬ FourDigitYear t ∧ FarYear t ∧ ¬ NegativeYear t) ∨
      (¬ FourDigitYear t ∧ ¬ FarYear t ∧ NegativeYear t) := by
  unfold FourDigitYear FarYear NegativeYear
  omega

/-- The sign of a year that is not of four digits. -/
def yearSign (t : ℤ) : Char := if NegativeYear t then '-' else '+'

theorem toList_signed (h : ¬ FourDigitYear t) : (toISOString t).toList =
    yearSign t :: layout ((6, '-') :: dateFields) ((yearOf (dayOf t)).natAbs :: dateParts t) := by
  have hyear : ¬ (0 ≤ yearOf (dayOf t) ∧ yearOf (dayOf t) ≤ 9999) := h
  simp only [toISOString]
  rw [if_neg hyear, String.toList_ofList]
  rfl

theorem ascii_stamp {c : Char} (hc : c ∈ (toISOString t).toList) : c.toNat < 128 := by
  by_cases h : FourDigitYear t
  · exact ascii_toISOString h hc
  · rw [toList_signed h] at hc
    rcases List.mem_cons.mp hc with rfl | hc
    · unfold yearSign
      split_ifs <;> decide
    · exact ascii_layout hc

theorem natAbs_year_lt (t : Instant) : (yearOf (dayOf t.ms)).natAbs < 10 ^ 6 := by
  obtain ⟨hlow, hhigh⟩ := t.inRange
  obtain ⟨hstart, hend⟩ := yearOf_spec (dayOf t.ms)
  have hfirst := yearStart_bounds (yearOf (dayOf t.ms))
  have hlast := yearStart_bounds (yearOf (dayOf t.ms) + 1)
  have hday : -99280472 ≤ dayOf t.ms ∧ dayOf t.ms ≤ 100719528 := by
    unfold dayOf
    omega
  omega

theorem head_toISOString (h : FourDigitYear t) :
    ∃ c rest, (toISOString t).toList = c :: rest ∧ '/' < c := by
  have hdigits : ∀ d < 10, '/' < digit d := by decide
  rw [toList_toISOString h]
  refine ⟨digit ((yearOf (dayOf t)).toNat / 10 / 10 / 10 % 10), _, rfl, hdigits _ ?_⟩
  omega

/-- **A stamp with a sign stands before every four-digit one**, whatever their instants. -/
theorem signed_lt_unsigned (hs : ¬ FourDigitYear s) (ht : FourDigitYear t) :
    (toISOString s).toList < (toISOString t).toList := by
  obtain ⟨c, rest, hhead, hdigit⟩ := head_toISOString ht
  have hsign : yearSign s < '/' := by
    unfold yearSign
    split_ifs <;> decide
  rw [toList_signed hs, hhead, List.cons_lt_cons_iff]
  exact .inl (Char.lt_trans hsign hdigit)

/-- Two stamps with a sign: `+` stands before `-`, and then the numbers decide. -/
theorem signed_lt_iff {s t : Instant} (hs : ¬ FourDigitYear s.ms) (ht : ¬ FourDigitYear t.ms) :
    (toISOString s.ms).toList < (toISOString t.ms).toList ↔
      (FarYear s.ms ∧ NegativeYear t.ms) ∨
      (FarYear s.ms ∧ FarYear t.ms ∧ s.ms < t.ms) ∨
      (NegativeYear s.ms ∧ NegativeYear t.ms ∧
        (yearOf (dayOf t.ms) < yearOf (dayOf s.ms) ∨
          (yearOf (dayOf s.ms) = yearOf (dayOf t.ms) ∧ s.ms < t.ms))) := by
  have hfits : ∀ t : Instant, Fits ((6, '-') :: dateFields)
      ((yearOf (dayOf t.ms)).natAbs :: dateParts t.ms) :=
    fun t => ⟨natAbs_year_lt t, fits_dateParts t.ms⟩
  rw [toList_signed hs, toList_signed ht, List.cons_lt_cons_iff, layout_lt_iff (hfits s) (hfits t)]
  rcases year_cases s.ms with ⟨hs', -⟩ | ⟨-, hfar, hnot⟩ | ⟨-, hnot, hneg⟩
  · exact absurd hs' hs
  · have hsign : yearSign s.ms = '+' := if_neg hnot
    rcases year_cases t.ms with ⟨ht', -⟩ | ⟨-, hfar', hnot'⟩ | ⟨-, hnot', hneg'⟩
    · exact absurd ht' ht
    · have hsign' : yearSign t.ms = '+' := if_neg hnot'
      rw [hsign, hsign', stampParts_lt_iff (by unfold FarYear at hfar; omega)
        (by unfold FarYear at hfar'; omega)]
      simp [hfar, hfar', hnot, hnot']
    · have hsign' : yearSign t.ms = '-' := if_pos hneg'
      rw [hsign, hsign']
      simp [hfar, hneg']
  · have hsign : yearSign s.ms = '-' := if_pos hneg
    rcases year_cases t.ms with ⟨ht', -⟩ | ⟨-, hfar', hnot'⟩ | ⟨-, hnot', hneg'⟩
    · exact absurd ht' ht
    · have hsign' : yearSign t.ms = '+' := if_neg hnot'
      have hbefore : ¬ '-' < '+' := by decide
      rw [hsign, hsign']
      simp [hnot, hnot', hbefore]
    · have hsign' : yearSign t.ms = '-' := if_pos hneg'
      have hirrefl : ¬ '-' < '-' := by decide
      rw [hsign, hsign', List.cons_lt_cons_iff]
      simp only [hirrefl, true_and, false_or, hnot, false_and, hneg, hneg']
      unfold NegativeYear at hneg hneg'
      have habs : (yearOf (dayOf s.ms)).natAbs < (yearOf (dayOf t.ms)).natAbs ↔
          yearOf (dayOf t.ms) < yearOf (dayOf s.ms) := by omega
      have hsame : (yearOf (dayOf s.ms)).natAbs = (yearOf (dayOf t.ms)).natAbs ↔
          yearOf (dayOf s.ms) = yearOf (dayOf t.ms) := by omega
      rw [habs, hsame]
      exact or_congr_right (and_congr_right fun hyear => dateParts_lt_iff hyear)

end IsoTime
