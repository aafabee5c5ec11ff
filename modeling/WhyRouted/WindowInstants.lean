import Mathlib.Algebra.Order.Ring.Nat
import WhyRouted.ReadTools

/-! # A window selects by instant

The two tools that query a log by a window read its bounds as instants, write them as stamps and
compare these with the stamps of the records, as strings.  The records are stamped in the years 0 to
9999.  A bound outside them is written with a sign, and a sign stands before every digit: so a bound
before year 0 cuts as its instant does, and one after year 9999 cuts on the wrong side.

`windows_select_iff` says for each tool exactly when it selects, and refuses, by instant. -/

namespace WhyRouted

open IsoTime TextPattern

/-! ### Stamps as strings -/

section stamps

variable {t : ℤ} {lo hi : Instant}

theorem codeUnitLt_stamp (s t : ℤ) : codeUnitLt (toISOString s) (toISOString t) = true ↔
    (toISOString s).toList < (toISOString t).toList := by
  have hbasic : ∀ t, ∀ c ∈ (toISOString t).toList, c.toNat < 0x10000 :=
    fun t c hc => (ascii_stamp hc).trans (by omega)
  exact codeUnitLt_iff_of_basic (hbasic s) (hbasic t)

theorem stamp_lt_bound (ht : FourDigitYear t) :
    codeUnitLt (toISOString t) (toISOString lo.ms) = true ↔ FourDigitYear lo.ms ∧ t < lo.ms := by
  rw [codeUnitLt_stamp]
  by_cases hlo : FourDigitYear lo.ms
  · rw [toISOString_lt_iff ht hlo]
    simp [hlo]
  · simp only [hlo, false_and, iff_false]
    exact not_lt_of_gt (signed_lt_unsigned hlo ht)

theorem bound_lt_stamp (ht : FourDigitYear t) :
    codeUnitLt (toISOString hi.ms) (toISOString t) = true ↔ ¬ FourDigitYear hi.ms ∨ hi.ms < t := by
  rw [codeUnitLt_stamp]
  by_cases hhi : FourDigitYear hi.ms
  · rw [toISOString_lt_iff hhi ht]
    simp [hhi]
  · simp only [hhi, not_false_eq_true, true_or, iff_true]
    exact signed_lt_unsigned hhi ht

theorem year_mono {s t : ℤ} (h : s ≤ t) : yearOf (dayOf s) ≤ yearOf (dayOf t) := by
  apply yearOf_mono
  unfold dayOf
  omega

theorem lt_of_year_lt {s t : ℤ} (h : yearOf (dayOf s) < yearOf (dayOf t)) : s < t :=
  lt_of_not_ge fun hle => not_lt_of_ge (year_mono hle) h

end stamps

/-! ### Windows of instants -/

section windows

variable {α : Type} {stamp : α → String} {instant : α → ℤ} {log : List α}
  {lo hi : Option Instant}

/-- Between two optional bounds, both inclusive. -/
def Within (lo hi : Option Instant) (t : ℤ) : Prop :=
  (∀ l ∈ lo, l.ms ≤ t) ∧ ∀ h ∈ hi, t ≤ h.ms

instance (lo hi : Option Instant) (t : ℤ) : Decidable (Within lo hi t) :=
  inferInstanceAs (Decidable (_ ∧ _))

/-- The bounds are the wrong way round. -/
def Inverted (lo hi : Option Instant) : Prop := ∃ l ∈ lo, ∃ h ∈ hi, h.ms < l.ms

/-- The records whose instants lie in a window, oldest first, and in order of recording where
these are the same. -/
def recordsWithin (instant : α → ℤ) (log : List α) (lo hi : Option Instant) : List α :=
  (log.filter fun a => decide (Within lo hi (instant a))).insertionSort
    fun a b => instant a ≤ instant b

/-- The records are stamped with their instants, in the years 0 to 9999. -/
def Stamped (stamp : α → String) (instant : α → ℤ) (log : List α) : Prop :=
  ∀ a ∈ log, FourDigitYear (instant a) ∧ stamp a = toISOString (instant a)

/-- The bounds as the logs compare them. -/
def boundsOf (lo hi : Option Instant) : Bounds :=
  ⟨lo.map fun t => toISOString t.ms, hi.map fun t => toISOString t.ms⟩

theorem insertionSort_congr {r r' : α → α → Prop} [DecidableRel r] [DecidableRel r'] {l : List α}
    (h : ∀ a ∈ l, ∀ b ∈ l, (r a b ↔ r' a b)) : l.insertionSort r = l.insertionSort r' := by
  have hinsert : ∀ (a : α) (l : List α), (∀ b ∈ l, (r a b ↔ r' a b)) →
      l.orderedInsert r a = l.orderedInsert r' a := by
    intro a l h
    induction l with
    | nil => rfl
    | cons b l ih =>
        rw [List.orderedInsert_cons, List.orderedInsert_cons, ih fun c hc => h c (.tail b hc)]
        simp only [h b List.mem_cons_self]
  induction l with
  | nil => rfl
  | cons a l ih =>
      rw [List.insertionSort_cons, List.insertionSort_cons,
        ih fun b hb c hc => h b (.tail a hb) c (.tail a hc)]
      apply hinsert
      intro b hb
      exact h a List.mem_cons_self b (.tail a ((List.mem_insertionSort r').mp hb))

theorem lt_of_farYear {t : ℤ} {b : Instant} (ht : FourDigitYear t) (hb : FarYear b.ms) :
    t < b.ms :=
  lt_of_year_lt (lt_of_le_of_lt ht.2 hb)

theorem lt_of_negativeYear {t : ℤ} {b : Instant} (ht : FourDigitYear t) (hb : NegativeYear b.ms) :
    b.ms < t :=
  lt_of_year_lt (lt_of_lt_of_le hb ht.1)

/-- What the strings say of a record: a bound after year 9999 lets every record pass below it and
none above. -/
theorem contains_boundsOf {t : ℤ} (ht : FourDigitYear t) :
    (boundsOf lo hi).contains (toISOString t) = true ↔
      (∀ l ∈ lo, FarYear l.ms ∨ l.ms ≤ t) ∧ ∀ h ∈ hi, ¬ FarYear h.ms ∧ t ≤ h.ms := by
  have hlower : ∀ l : Instant, codeUnitLt (toISOString t) (toISOString l.ms) = false ↔
      FarYear l.ms ∨ l.ms ≤ t := by
    intro l
    rw [← Bool.not_eq_true, stamp_lt_bound ht, not_and, not_lt]
    rcases year_cases l.ms with ⟨hl, hfar, -⟩ | ⟨hl, hfar, -⟩ | ⟨hl, hfar, hneg⟩
    · simp [hl, hfar]
    · simp [hl, hfar]
    · simp [hl, (lt_of_negativeYear ht hneg).le]
  have hupper : ∀ h : Instant, codeUnitLt (toISOString h.ms) (toISOString t) = false ↔
      ¬ FarYear h.ms ∧ t ≤ h.ms := by
    intro h
    rw [← Bool.not_eq_true, bound_lt_stamp ht, not_or, not_not, not_lt]
    rcases year_cases h.ms with ⟨hh, hfar, -⟩ | ⟨hh, hfar, -⟩ | ⟨hh, hfar, hneg⟩
    · simp [hh, hfar]
    · simp [hh, hfar]
    · simp [hh, not_le.mpr (lt_of_negativeYear ht hneg)]
  unfold Bounds.contains boundsOf
  rw [Bool.and_eq_true]
  refine and_congr ?_ ?_
  · cases lo <;> simp [hlower]
  · cases hi <;> simp [hupper]

/-- **A query selects by instant** when the strings and the instants agree on each record. -/
theorem query_eq_iff (hlog : Stamped stamp instant log) :
    queryRange stamp log (boundsOf lo hi) = recordsWithin instant log lo hi ↔
      ∀ a ∈ log, ((boundsOf lo hi).contains (toISOString (instant a)) = true ↔
        Within lo hi (instant a)) := by
  constructor
  · intro h a ha
    have hmem : a ∈ queryRange stamp log (boundsOf lo hi) ↔
        a ∈ recordsWithin instant log lo hi := by
      rw [h]
    rw [mem_queryRange_iff, recordsWithin, List.mem_insertionSort, List.mem_filter,
      (hlog a ha).2, decide_eq_true_eq] at hmem
    simpa [ha] using hmem
  · intro h
    have hfilter : (log.filter fun a => (boundsOf lo hi).contains (stamp a)) =
        log.filter fun a => decide (Within lo hi (instant a)) := by
      apply List.filter_congr
      intro a ha
      rw [(hlog a ha).2, Bool.eq_iff_iff, h a ha, decide_eq_true_eq]
    unfold queryRange recordsWithin
    rw [hfilter]
    apply insertionSort_congr
    intro a ha b hb
    obtain ⟨hyear, hstamp⟩ := hlog a (List.mem_of_mem_filter ha)
    obtain ⟨hyear', hstamp'⟩ := hlog b (List.mem_of_mem_filter hb)
    unfold NotLater
    rw [hstamp, hstamp', ← Bool.not_eq_true, codeUnitLt_stamp, toISOString_lt_iff hyear' hyear,
      not_lt]

/-- With its lower bound alone a window selects by instant unless the bound is after year 9999 and
there is a record, which it then lets pass. -/
theorem query_from_iff (hlog : Stamped stamp instant log) (lo : Instant) :
    queryRange stamp log (boundsOf (some lo) none) = recordsWithin instant log (some lo) none ↔
      ¬ FarYear lo.ms ∨ log = [] := by
  have hat : ∀ a ∈ log, ((boundsOf (some lo) none).contains (toISOString (instant a)) = true ↔
      Within (some lo) none (instant a)) ↔ ¬ FarYear lo.ms := by
    intro a ha
    rw [contains_boundsOf (hlog a ha).1]
    by_cases hfar : FarYear lo.ms
    · simp [Within, hfar, lt_of_farYear (hlog a ha).1 hfar]
    · simp [Within, hfar]
  rw [query_eq_iff hlog, forall₂_congr hat, or_comm, or_iff_not_imp_left]
  exact ⟨fun h hne => (List.exists_mem_of_ne_nil _ hne).elim fun a ha => h a ha,
    fun h a ha => h (List.ne_nil_of_mem ha)⟩

/-- With its upper bound alone it does so unless the bound is after year 9999 and there is a record,
which it then keeps out. -/
theorem query_to_iff (hlog : Stamped stamp instant log) (hi : Instant) :
    queryRange stamp log (boundsOf none (some hi)) = recordsWithin instant log none (some hi) ↔
      ¬ FarYear hi.ms ∨ log = [] := by
  have hat : ∀ a ∈ log, ((boundsOf none (some hi)).contains (toISOString (instant a)) = true ↔
      Within none (some hi) (instant a)) ↔ ¬ FarYear hi.ms := by
    intro a ha
    rw [contains_boundsOf (hlog a ha).1]
    by_cases hfar : FarYear hi.ms
    · simp [Within, hfar, (lt_of_farYear (hlog a ha).1 hfar).le]
    · simp [Within, hfar]
  rw [query_eq_iff hlog, forall₂_congr hat, or_comm, or_iff_not_imp_left]
  exact ⟨fun h hne => (List.exists_mem_of_ne_nil _ hne).elim fun a ha => h a ha,
    fun h a ha => h (List.ne_nil_of_mem ha)⟩

/-- With two bounds in order, unless the upper one is after year 9999 and there is a record from the
lower one on. -/
theorem query_between_iff (hlog : Stamped stamp instant log) {lo hi : Instant}
    (hle : lo.ms ≤ hi.ms) :
    queryRange stamp log (boundsOf (some lo) (some hi)) =
        recordsWithin instant log (some lo) (some hi) ↔
      ¬ FarYear hi.ms ∨ ∀ a ∈ log, instant a < lo.ms := by
  have hat : ∀ a ∈ log,
      ((boundsOf (some lo) (some hi)).contains (toISOString (instant a)) = true ↔
        Within (some lo) (some hi) (instant a)) ↔ ¬ FarYear hi.ms ∨ instant a < lo.ms := by
    intro a ha
    have hyear := (hlog a ha).1
    rw [contains_boundsOf hyear]
    by_cases hfar : FarYear hi.ms
    · simp [Within, hfar, (lt_of_farYear hyear hfar).le]
    · have hlow : ¬ FarYear lo.ms := fun hlow => hfar (lt_of_lt_of_le hlow (year_mono hle))
      simp [Within, hfar, hlow]
  rw [query_eq_iff hlog, forall₂_congr hat]
  by_cases hfar : FarYear hi.ms <;> simp [hfar]

theorem query_all (hlog : Stamped stamp instant log) :
    queryRange stamp log (boundsOf none none) = recordsWithin instant log none none := by
  rw [query_eq_iff hlog]
  intro a ha
  rw [contains_boundsOf (hlog a ha).1]
  simp [Within]

end windows

/-! ### Which bound is the later -/

/-- Bounds compare as strings the way their instants do exactly when both or neither are after year
9999, and they are of one year if both are before year 0. -/
theorem bounds_compare_iff (lo hi : Instant) :
    (codeUnitLt (toISOString hi.ms) (toISOString lo.ms) = true ↔ hi.ms < lo.ms) ↔
      (FarYear lo.ms ↔ FarYear hi.ms) ∧
        (NegativeYear lo.ms → NegativeYear hi.ms →
          yearOf (dayOf lo.ms) = yearOf (dayOf hi.ms)) := by
  rw [codeUnitLt_stamp]
  rcases year_cases lo.ms with ⟨hlo, hfar, hneg⟩ | ⟨hlo, hfar, hneg⟩ | ⟨hlo, hfar, hneg⟩
  · rcases year_cases hi.ms with ⟨hhi, hfar', hneg'⟩ | ⟨hhi, hfar', hneg'⟩ | ⟨hhi, hfar', hneg'⟩
    · simp [toISOString_lt_iff hhi hlo, hfar, hfar', hneg]
    · simp [signed_lt_unsigned hhi hlo, hfar, hfar', (lt_of_farYear hlo hfar').le]
    · simp [signed_lt_unsigned hhi hlo, hfar, hfar', hneg, lt_of_negativeYear hlo hneg']
  · rcases year_cases hi.ms with ⟨hhi, hfar', hneg'⟩ | ⟨hhi, hfar', hneg'⟩ | ⟨hhi, hfar', hneg'⟩
    · simp [(signed_lt_unsigned hlo hhi).le, hfar, hfar', lt_of_farYear hhi hfar]
    · simp [signed_lt_iff hhi hlo, hfar, hfar', hneg, hneg']
    · have hlt : hi.ms < lo.ms := by
        apply lt_of_year_lt
        unfold NegativeYear at hneg'
        unfold FarYear at hfar
        omega
      simp [signed_lt_iff hhi hlo, hfar, hfar', hneg, hlt]
  · rcases year_cases hi.ms with ⟨hhi, hfar', hneg'⟩ | ⟨hhi, hfar', hneg'⟩ | ⟨hhi, hfar', hneg'⟩
    · have hbefore : ¬ (toISOString hi.ms).toList < (toISOString lo.ms).toList :=
        not_lt_of_gt (signed_lt_unsigned hlo hhi)
      simp [hbefore, hfar, hfar', hneg', (lt_of_negativeYear hhi hneg).le]
    · have hlt : lo.ms < hi.ms := by
        apply lt_of_year_lt
        unfold NegativeYear at hneg
        unfold FarYear at hfar'
        omega
      simp [signed_lt_iff hhi hlo, hfar, hfar', hneg, hlt.le]
    · simp only [signed_lt_iff hhi hlo, hfar, hfar', hneg, hneg', and_self, false_and, true_and,
        false_or, forall_const]
      rcases lt_trichotomy (yearOf (dayOf lo.ms)) (yearOf (dayOf hi.ms)) with hlt | heq | hgt
      · simp [hlt, hlt.ne, (lt_of_year_lt hlt).le]
      · simp [heq]
      · simp [hgt.ne, hgt.ne', not_lt_of_gt hgt, lt_of_year_lt hgt]

/-! ### `get_failover_history` -/

section history

variable {dates : Dates} {events : FailoverEvents} {instant : FailoverEvent → ℤ}
  {fromTime toTime : Option String} {lo hi : Option Instant}

/-- A bound of the arguments is not given, or read as an instant. -/
def ReadAs (dates : Dates) : Option String → Option Instant → Prop
  | none, bound => bound = none
  | some text, bound => bound ≠ none ∧ dates.parse (jsTrim text) = bound

/-- The events a history shows, none when its bounds are refused. -/
def shownEvents : ToolOutput FailoverHistoryData → Option (List FailoverEvent)
  | .data data _ _ => some data.events
  | .noData _ => some []
  | .invalidInput _ => none

/-- The bounds are refused as inverted exactly when their instants are, and otherwise the events
between them are shown. -/
structure HistoryByInstant (instant : FailoverEvent → ℤ) (events : FailoverEvents)
    (lo hi : Option Instant) (out : ToolOutput FailoverHistoryData) : Prop where
  inverted : out = .invalidInput "from is after to" ↔ Inverted lo hi
  shown : ¬ Inverted lo hi → shownEvents out = some (recordsWithin instant events lo hi)

/-- The bounds cut the log as strings the way they do as instants. -/
def HistoryAgrees (events : FailoverEvents) : Option Instant → Option Instant → Prop
  | none, none => True
  | some lo, none => ¬ FarYear lo.ms ∨ events = []
  | none, some hi => ¬ FarYear hi.ms ∨ events = []
  | some lo, some hi => (FarYear lo.ms ↔ FarYear hi.ms) ∧
      (NegativeYear lo.ms → NegativeYear hi.ms → yearOf (dayOf lo.ms) = yearOf (dayOf hi.ms))

theorem readBound_of_readAs {key : String} {text : Option String} {bound : Option Instant}
    (h : ReadAs dates text bound) :
    readBound dates key text = .ok (bound.map fun t => toISOString t.ms) := by
  cases text with
  | none =>
      obtain rfl : bound = none := h
      rfl
  | some text =>
      obtain ⟨hsome, hparse⟩ := h
      obtain ⟨t, rfl⟩ := Option.ne_none_iff_exists'.mp hsome
      simp [readBound, normalizeIso, isoMs, hparse]

theorem getFailoverHistory_of_readAs (hfrom : ReadAs dates fromTime lo)
    (hto : ReadAs dates toTime hi) (now : Instant) (events : FailoverEvents) :
    getFailoverHistory dates events fromTime toTime none now = .ok (
      if lo.any (fun lo => hi.any fun hi => codeUnitLt (toISOString hi.ms) (toISOString lo.ms))
      then .invalidInput "from is after to"
      else events.history (.ok (boundsOf lo hi))) := by
  have hbounds : explicitBounds dates fromTime toTime =
      if lo.any (fun lo => hi.any fun hi => codeUnitLt (toISOString hi.ms) (toISOString lo.ms))
      then .error "from is after to" else .ok (boundsOf lo hi) := by
    simp only [explicitBounds, readBound_of_readAs hfrom, readBound_of_readAs hto, bind,
      Except.bind, Option.any_map]
    rfl
  simp only [getFailoverHistory, historyBounds, hbounds, Except.map]
  split_ifs <;> rfl

theorem history_ok (events : FailoverEvents) (range : Bounds) :
    shownEvents (events.history (.ok range)) = some (events.query range) ∧
      ∀ reason, events.history (.ok range) ≠ .invalidInput reason := by
  simp only [FailoverEvents.history]
  split_ifs with hnil
  · rw [List.length_eq_zero_iff.mp hnil]
    exact ⟨rfl, fun _ => by simp⟩
  · exact ⟨rfl, fun _ => by simp⟩

/-- Where neither the strings nor the instants are inverted, all depends on what is selected. -/
theorem historyByInstant_of_ordered (hnot : ¬ Inverted lo hi) :
    HistoryByInstant instant events lo hi (events.history (.ok (boundsOf lo hi))) ↔
      queryRange (·.atTime) events (boundsOf lo hi) = recordsWithin instant events lo hi := by
  obtain ⟨hshown, hvalid⟩ := history_ok events (boundsOf lo hi)
  constructor
  · intro h
    exact Option.some.inj (hshown.symm.trans (h.shown hnot))
  · intro h
    exact ⟨⟨fun hrefused => absurd hrefused (hvalid _), fun hinverted => absurd hinverted hnot⟩,
      fun _ => hshown.trans (congrArg some h)⟩

theorem historyByInstant_between_iff (hevents : Stamped (·.atTime) instant events)
    (lo hi : Instant) :
    HistoryByInstant instant events (some lo) (some hi)
        (if codeUnitLt (toISOString hi.ms) (toISOString lo.ms) then .invalidInput "from is after to"
        else events.history (.ok (boundsOf (some lo) (some hi)))) ↔
      (codeUnitLt (toISOString hi.ms) (toISOString lo.ms) = true ↔ hi.ms < lo.ms) := by
  have hinverted : Inverted (some lo) (some hi) ↔ hi.ms < lo.ms := by simp [Inverted]
  obtain ⟨-, hvalid⟩ := history_ok events (boundsOf (some lo) (some hi))
  constructor
  · intro h
    have hrefused := h.inverted
    rw [hinverted] at hrefused
    split_ifs at hrefused with hstrings
    · exact ⟨fun _ => hrefused.mp rfl, fun _ => hstrings⟩
    · exact ⟨fun h => absurd h hstrings, fun h => absurd (hrefused.mpr h) (hvalid _)⟩
  · intro h
    by_cases hlt : hi.ms < lo.ms
    · rw [if_pos (h.mpr hlt)]
      exact ⟨⟨fun _ => hinverted.mpr hlt, fun _ => rfl⟩,
        fun hnot => absurd (hinverted.mpr hlt) hnot⟩
    · rw [if_neg (h.not.mpr hlt), historyByInstant_of_ordered (hinverted.not.mpr hlt),
        query_between_iff hevents (not_lt.mp hlt), or_iff_not_imp_left, not_not]
      intro hfar a ha
      have hboth := ((bounds_compare_iff lo hi).mp h).1
      exact lt_of_farYear (hevents a ha).1 (hboth.mpr hfar)

/-- A history is by instant exactly where its bounds cut the log as their instants do. -/
theorem history_by_instant_iff (hevents : Stamped (·.atTime) instant events)
    (hfrom : ReadAs dates fromTime lo) (hto : ReadAs dates toTime hi) (now : Instant) :
    ∃ out, getFailoverHistory dates events fromTime toTime none now = .ok out ∧
      (HistoryByInstant instant events lo hi out ↔ HistoryAgrees events lo hi) := by
  refine ⟨_, getFailoverHistory_of_readAs hfrom hto now events, ?_⟩
  cases lo with
  | none =>
      have hnot : ¬ Inverted none hi := by simp [Inverted]
      refine (historyByInstant_of_ordered hnot).trans ?_
      cases hi with
      | none => simp [HistoryAgrees, query_all hevents]
      | some hi => exact query_to_iff hevents hi
  | some lo =>
      cases hi with
      | none =>
          have hnot : ¬ Inverted (some lo) none := by simp [Inverted]
          exact (historyByInstant_of_ordered hnot).trans (query_from_iff hevents lo)
      | some hi =>
          rw [Option.any_some, Option.any_some]
          exact (historyByInstant_between_iff hevents lo hi).trans (bounds_compare_iff lo hi)

end history

/-! ### `query_decisions` -/

section question

variable {ν : Type} [JsNumber ν] {dates : Dates} {decisions : DecisionLog ν}
  {instant : Decision ν → ℤ} {question : String} {m : Match} {lo hi : Instant}

/-- A question for an aggregate in which the pattern of a pair of timestamps matches two that are
read as instants. -/
structure IsoQuestion (dates : Dates) (question : String) (m : Match) (lo hi : Instant) : Prop where
  nonblank : jsTrim question ≠ ""
  aggregates : asksAggregate question = true
  noRequest : requestIds question = []
  found : isoPair.exec question.toList 0 = some m
  lower : isoMs dates ((m.group? 1 question.toList).getD "") = some lo
  upper : isoMs dates ((m.group? 2 question.toList).getD "") = some hi

/-- The reason an inverted range is refused for. -/
def invertedReason (question : String) (m : Match) : String :=
  "could not read a time range: " ++
    unreadable (m.text question.toList) "the start is after the end"

/-- The answer an aggregate over some decisions is. -/
def answerOver (decisions : List (Decision ν)) (range : ResolvedRange) :
    ToolOutput (QueryDecisionsData ν) :=
  if decisions.length = 0 then
    .noData ("no decisions recorded between " ++ range.fromTime ++ " and " ++ range.toTime)
  else .data (.aggregate (aggregate decisions range)) .decisionLog (decisions.map (·.id))

/-- The range is refused as inverted exactly when its instants are, and otherwise the decisions
between them are answered over. -/
structure AnswersByInstant (instant : Decision ν → ℤ) (decisions : DecisionLog ν)
    (question : String) (m : Match) (lo hi : Instant) (out : ToolOutput (QueryDecisionsData ν)) :
    Prop where
  inverted : out = .invalidInput (invertedReason question m) ↔ hi.ms < lo.ms
  answered : lo.ms ≤ hi.ms → out = answerOver (recordsWithin instant decisions (some lo) (some hi))
    ⟨toISOString lo.ms, toISOString hi.ms⟩

/-- The answer to such a question: the instants decide whether it is refused, the strings what it
is over. -/
theorem queryDecisions_of_isoQuestion (h : IsoQuestion dates question m lo hi) (now : Instant) :
    queryDecisions dates decisions (some question) now = .ok (
      if hi.ms < lo.ms then .invalidInput (invertedReason question m)
      else answerOver (decisions.query (boundsOf (some lo) (some hi)))
        ⟨toISOString lo.ms, toISOString hi.ms⟩) := by
  have hfind : findRange dates question now = .ok (
      if hi.ms < lo.ms then
        .invalid (unreadable (m.text question.toList) "the start is after the end")
      else .range ⟨toISOString lo.ms, toISOString hi.ms⟩ (m.text question.toList)) := by
    simp only [findRange, h.found, h.lower, h.upper, Option.map_some]
    split_ifs with hlt
    · have hlater : TimeValue.later (some lo) (some hi) = true := decide_eq_true hlt
      simp only [ordered, hlater]
      rfl
    · simp only [ordered_of_le (not_lt.mp hlt)]
      rfl
  simp only [queryDecisions, readQuestion, if_neg h.nonblank, hfind, h.noRequest, h.aggregates]
  split_ifs with hlt
  · rfl
  · simp only [bind, Except.bind, pure, Except.pure, Except.map, questionOf, if_true,
      DecisionLog.answer, DecisionLog.window, answerOver]
    congr 1
    have hbounds : (⟨some (toISOString lo.ms), some (toISOString hi.ms)⟩ : Bounds) =
        boundsOf (some lo) (some hi) := rfl
    rw [hbounds]
    split_ifs <;> rfl

/-- An answer is by instant exactly where the upper bound is not after year 9999, or there is no
decision from the lower one on. -/
theorem answers_by_instant_iff (hdecisions : Stamped (·.atTime) instant decisions)
    (h : IsoQuestion dates question m lo hi) (now : Instant) :
    ∃ out, queryDecisions dates decisions (some question) now = .ok out ∧
      (AnswersByInstant instant decisions question m lo hi out ↔
        ¬ FarYear hi.ms ∨ ∀ d ∈ decisions, instant d < lo.ms) := by
  refine ⟨_, queryDecisions_of_isoQuestion h now, ?_⟩
  by_cases hlt : hi.ms < lo.ms
  · rw [if_pos hlt]
    constructor
    · intro _
      rw [or_iff_not_imp_left, not_not]
      intro hfar a ha
      exact (lt_of_farYear (hdecisions a ha).1 hfar).trans hlt
    · exact fun _ => ⟨⟨fun _ => hlt, fun _ => rfl⟩, fun hle => absurd hlt (not_lt.mpr hle)⟩
  · have hle : lo.ms ≤ hi.ms := not_lt.mp hlt
    have hvalid : ∀ (l : List (Decision ν)) (range : ResolvedRange) (reason : String),
        answerOver l range ≠ .invalidInput reason := by
      intro l range reason
      unfold answerOver
      split_ifs <;> simp
    rw [if_neg hlt, ← query_between_iff hdecisions hle]
    constructor
    · intro hanswers
      by_contra hne
      have hfar : FarYear hi.ms := by
        by_contra hnear
        exact hne ((query_between_iff hdecisions hle).mpr (.inl hnear))
      -- the strings select nothing, the instants something
      have hnil : queryRange (·.atTime) decisions (boundsOf (some lo) (some hi)) = [] := by
        rw [queryRange_eq_nil_iff]
        intro d hd
        have hyear : FourDigitYear (instant d) := (hdecisions d hd).1
        have hstamp : d.atTime = toISOString (instant d) := (hdecisions d hd).2
        rw [← Bool.not_eq_true]
        show ¬ (boundsOf (some lo) (some hi)).contains d.atTime = true
        rw [hstamp, contains_boundsOf hyear]
        simp [hfar]
      have hsome : recordsWithin instant decisions (some lo) (some hi) ≠ [] :=
        fun heq => hne (hnil.trans heq.symm)
      have hout := hanswers.answered hle
      have hquery : decisions.query (boundsOf (some lo) (some hi)) = [] := hnil
      have hpos : ¬ (recordsWithin instant decisions (some lo) (some hi)).length = 0 :=
        fun hzero => hsome (List.length_eq_zero_iff.mp hzero)
      simp [hquery, answerOver, hpos] at hout
    · intro hquery
      have hquery' : decisions.query (boundsOf (some lo) (some hi)) = _ := hquery
      rw [hquery']
      exact ⟨⟨fun hrefused => absurd hrefused (hvalid _ _ _), fun hinv => absurd hinv hlt⟩,
        fun _ => rfl⟩

end question

/-! ### Both tools -/

/-- **When a window selects by instant.**  Over records stamped in the years 0 to 9999, and bounds
that are read as instants: a history does exactly where its bounds cut the log as strings the way
they do as instants, and a question exactly where its upper bound is not after year 9999 or there is
nothing from its lower one on. -/
theorem windows_by_instant_iff {ν : Type} [JsNumber ν] {events : FailoverEvents}
    {eventInstant : FailoverEvent → ℤ} (hevents : Stamped (·.atTime) eventInstant events)
    {decisions : DecisionLog ν} {decisionInstant : Decision ν → ℤ}
    (hdecisions : Stamped (·.atTime) decisionInstant decisions) (dates : Dates) (now : Instant) :
    (∀ fromTime toTime lo hi, ReadAs dates fromTime lo → ReadAs dates toTime hi →
      ∃ out, getFailoverHistory dates events fromTime toTime none now = .ok out ∧
        (HistoryByInstant eventInstant events lo hi out ↔ HistoryAgrees events lo hi)) ∧
    ∀ question m lo hi, IsoQuestion dates question m lo hi →
      ∃ out, queryDecisions dates decisions (some question) now = .ok out ∧
        (AnswersByInstant decisionInstant decisions question m lo hi out ↔
          ¬ FarYear hi.ms ∨ ∀ d ∈ decisions, decisionInstant d < lo.ms) :=
  ⟨fun _ _ _ _ hfrom hto => history_by_instant_iff hevents hfrom hto now,
    fun _ _ _ _ hquestion => answers_by_instant_iff hdecisions hquestion now⟩

/-! ### One ejection, and a bound in year 10000 -/

/-- The start of year 10000. -/
def yearTenThousand : Instant := ⟨253402300800000, by decide⟩

/-- Dates of a machine on UTC, which read the stamp of that instant and of two on one day. -/
def Dates.tenThousand : Dates where
  parse s :=
    if s = "+010000-01-01T00:00:00.000Z" then some yearTenThousand
    else if s = "2025-10-11T11:00:00.000Z" then some ⟨1760180400000, by decide⟩
    else if s = "2025-10-11T13:00:00.000Z" then some ⟨1760187600000, by decide⟩
    else none
  setHours date hour minute second ms := timeClip (date.ms / 86400000 * 86400000 +
    (hour * 3600000 + minute * 60000 + second * 1000 + ms : ℕ))

/-- An ejection at noon of 2025-10-11. -/
def ejectionAtNoon : FailoverEvent where
  id := "event-1"
  replicaId := "replica-1"
  kind := .ejected
  atTime := "2025-10-11T12:00:00.000Z"
  trigger := .requestFailure
  reason := "request failed: timeout"
  requestId := some "request-1"

theorem stamped_ejectionAtNoon :
    Stamped (·.atTime) (fun _ => 1760184000000) [ejectionAtNoon] := by
  intro event hevent
  obtain rfl := List.mem_singleton.mp hevent
  exact ⟨by decide +kernel, by decide +kernel⟩

/-- Asked for everything up to year 10000, the tool finds nothing. -/
theorem bound_in_year_ten_thousand :
    Stamped (·.atTime) (fun _ => 1760184000000) [ejectionAtNoon] ∧
    ReadAs .tenThousand none none ∧
    ReadAs .tenThousand (some "+010000-01-01T00:00:00.000Z") (some yearTenThousand) ∧
    Within none (some yearTenThousand) 1760184000000 ∧
    getFailoverHistory .tenThousand [ejectionAtNoon] none (some "+010000-01-01T00:00:00.000Z") none
      yearTenThousand =
        .ok (.noData "no failover events recorded up to +010000-01-01T00:00:00.000Z") := by
  have hto : ReadAs .tenThousand (some "+010000-01-01T00:00:00.000Z") (some yearTenThousand) :=
    ⟨by simp, by decide⟩
  have hfrom : ReadAs .tenThousand none none := rfl
  have hhistory := getFailoverHistory_of_readAs hfrom hto yearTenThousand
  refine ⟨stamped_ejectionAtNoon, hfrom, hto, by decide, (hhistory [ejectionAtNoon]).trans ?_⟩
  have hbound : toISOString yearTenThousand.ms = "+010000-01-01T00:00:00.000Z" := by decide +kernel
  have hquery : FailoverEvents.query [ejectionAtNoon]
      ⟨none, some "+010000-01-01T00:00:00.000Z"⟩ = [] := by decide +kernel
  simp [FailoverEvents.history, boundsOf, hbound, hquery, Bounds.describe]

/-- A request decided at the same time. -/
def decisionAtNoon : Decision ℕ where
  id := "decision-1"
  requestId := "request-1"
  atTime := "2025-10-11T12:00:00.000Z"
  rounds := []
  chosenReplicaId := some "replica-1"
  latencyMs := some 7

theorem stamped_decisionAtNoon :
    Stamped (·.atTime) (fun _ => 1760184000000) [decisionAtNoon] := by
  intro decision hdecision
  obtain rfl := List.mem_singleton.mp hdecision
  exact ⟨by decide +kernel, by decide +kernel⟩

/-- Eleven and one o'clock of that day. -/
def eleven : Instant := ⟨1760180400000, by decide⟩

def thirteen : Instant := ⟨1760187600000, by decide⟩

def aroundNoon : String :=
  "p95 between 2025-10-11T11:00:00.000Z and 2025-10-11T13:00:00.000Z"

theorem isoQuestion_aroundNoon : ∃ m, IsoQuestion .tenThousand aroundNoon m eleven thirteen := by
  have hfound : (isoPair.exec aroundNoon.toList 0).any (fun m =>
      decide (isoMs .tenThousand ((m.group? 1 aroundNoon.toList).getD "") = some eleven) &&
        decide (isoMs .tenThousand ((m.group? 2 aroundNoon.toList).getD "") = some thirteen)) =
          true := by decide +kernel
  obtain ⟨m, hm, hread⟩ := (Option.any_eq_true _ _).mp hfound
  simp only [Bool.and_eq_true, decide_eq_true_eq] at hread
  exact ⟨m, by decide +kernel, by decide +kernel, by decide +kernel, hm, hread.1, hread.2⟩

/-- The window up to year 10000 is wrong, the whole log right, and so is the question. -/
theorem windows_by_instant_iff_ejectionAtNoon :
    (∃ out, getFailoverHistory .tenThousand [ejectionAtNoon] none none none yearTenThousand =
        .ok out ∧ HistoryByInstant (fun _ => 1760184000000) [ejectionAtNoon] none none out) ∧
    (∃ out, getFailoverHistory .tenThousand [ejectionAtNoon] none
        (some "+010000-01-01T00:00:00.000Z") none yearTenThousand = .ok out ∧
      ¬ HistoryByInstant (fun _ => 1760184000000) [ejectionAtNoon] none (some yearTenThousand)
        out) ∧
    ∃ out, queryDecisions .tenThousand [decisionAtNoon] (some aroundNoon) yearTenThousand =
        .ok out ∧ out = answerOver [decisionAtNoon] ⟨"2025-10-11T11:00:00.000Z",
          "2025-10-11T13:00:00.000Z"⟩ := by
  obtain ⟨hhistory, hquestion⟩ := windows_by_instant_iff stamped_ejectionAtNoon
    stamped_decisionAtNoon .tenThousand yearTenThousand
  obtain ⟨out, hout, hiff⟩ := hhistory none none none none rfl rfl
  obtain ⟨out', hout', hiff'⟩ := hhistory none (some "+010000-01-01T00:00:00.000Z") none
    (some yearTenThousand) rfl ⟨by simp, by decide⟩
  obtain ⟨m, hm⟩ := isoQuestion_aroundNoon
  obtain ⟨answer, hanswer, hanswers⟩ := hquestion aroundNoon m eleven thirteen hm
  refine ⟨⟨out, hout, hiff.mpr trivial⟩, ⟨out', hout', ?_⟩, answer, hanswer, ?_⟩
  · rw [hiff']
    rintro (hnear | hnil)
    · exact hnear (by decide +kernel)
    · cases hnil
  · have hselected : recordsWithin (fun _ => 1760184000000) [decisionAtNoon] (some eleven)
        (some thirteen) = [decisionAtNoon] := by rfl
    have hstamps : toISOString eleven.ms = "2025-10-11T11:00:00.000Z" ∧
        toISOString thirteen.ms = "2025-10-11T13:00:00.000Z" := by decide +kernel
    rw [(hanswers.mpr (.inl (by decide +kernel))).answered (by decide), hselected, hstamps.1,
      hstamps.2]

end WhyRouted
