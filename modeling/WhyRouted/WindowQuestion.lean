import WhyRouted.ReadTools

/-! # A question for every window

Two stamps of four-digit years, the first not later, are the window of a question: the one that
asks how many requests failed between them.

The patterns do not tell one digit from another, so they match in the question where they match
when all its digits are zeros, which is one text (`toList_failedBetween_zero`). -/

namespace WhyRouted

open IsoTime TextPattern

/-! ### Digits as zeros -/

/-- Every digit becomes a zero. -/
def zeroDigit (c : Char) : Char := if c.isDigit then '0' else c

theorem blind_zeroDigit {a : Pattern} (h : ∀ p ∈ a.tests, ∀ n < 10, p (digit n) = p '0') :
    Blind zeroDigit a := by
  intro p hp c
  unfold zeroDigit
  split_ifs with hc
  · have hbounds : 48 ≤ c.toNat ∧ c.toNat ≤ 57 := by
      simpa [Char.isDigit, UInt32.le_iff_toNat_le] using hc
    have hdigit : c = digit (c.toNat - 48) := by
      unfold digit
      rw [Nat.add_sub_cancel' hbounds.1, Char.ofNat_toNat]
    rw [hdigit, h p hp _ (by omega)]
  · rfl

theorem map_zeroDigit_decimal (w n : ℕ) :
    (decimal w n).map zeroDigit = List.replicate w '0' := by
  have hdigit : ∀ n < 10, zeroDigit (digit n) = '0' := by decide
  induction w generalizing n with
  | zero => rfl
  | succ w ih =>
      rw [decimal, List.map_append, ih, List.map_singleton, hdigit _ (by omega),
        List.replicate_succ']

theorem map_zeroDigit_layout {ws : List (ℕ × Char)} {ns : List ℕ} (h : Fits ws ns) :
    (layout ws ns).map zeroDigit =
      ws.flatMap fun field => List.replicate field.1 '0' ++ [zeroDigit field.2] := by
  induction ws generalizing ns with
  | nil => cases ns <;> rfl
  | cons field ws ih =>
      obtain ⟨w, c⟩ := field
      cases ns with
      | nil => cases h
      | cons n ns =>
          rw [layout, List.map_append, map_zeroDigit_decimal, List.map_cons, ih h.2,
            List.flatMap_cons, List.append_assoc]
          rfl

/-- A four-digit stamp without its digits. -/
def zeroStamp : String := "0000-00-00T00:00:00.000Z"

theorem map_zeroDigit_toISOString {t : ℤ} (h : FourDigitYear t) :
    (toISOString t).toList.map zeroDigit = zeroStamp.toList := by
  rw [toList_toISOString h, map_zeroDigit_layout (fits_stamp h)]
  rfl

/-! ### The question -/

/-- A question about the time between two instants. -/
def failedBetween (lo hi : ℤ) : String :=
  "how many requests failed between " ++ toISOString lo ++ " and " ++ toISOString hi

theorem toList_failedBetween (lo hi : ℤ) : (failedBetween lo hi).toList =
    "how many requests failed between ".toList ++ ((toISOString lo).toList ++
      (" and ".toList ++ (toISOString hi).toList)) := by
  unfold failedBetween
  rw [String.toList_append, String.toList_append, String.toList_append, List.append_assoc,
    List.append_assoc]

/-- The question without its digits. -/
def zeroQuestion : List Char :=
  ("how many requests failed between " ++ zeroStamp ++ " and " ++ zeroStamp).toList

variable {lo hi : ℤ}

theorem toList_failedBetween_zero (hlo : FourDigitYear lo) (hhi : FourDigitYear hi) :
    (failedBetween lo hi).toList.map zeroDigit = zeroQuestion := by
  simp only [toList_failedBetween, List.map_append, map_zeroDigit_toISOString hlo,
    map_zeroDigit_toISOString hhi]
  rfl

theorem length_toISOString {t : ℤ} (h : FourDigitYear t) : (toISOString t).toList.length = 24 := by
  have hlength := congrArg List.length (map_zeroDigit_toISOString h)
  rw [List.length_map] at hlength
  exact hlength.trans (by decide)

/-- Where the two stamps are. -/
def stampsMatch : Match := ⟨⟨25, 86⟩, [(2, ⟨62, 86⟩), (1, ⟨33, 57⟩)]⟩

theorem exec_isoPair_failedBetween (hlo : FourDigitYear lo) (hhi : FourDigitYear hi) :
    isoPair.exec (failedBetween lo hi).toList 0 = some stampsMatch := by
  have hblind : Blind zeroDigit isoPair := blind_zeroDigit (by decide +kernel)
  rw [← exec_map hblind, toList_failedBetween_zero hlo hhi]
  decide +kernel

theorem requestIds_failedBetween (hlo : FourDigitYear lo) (hhi : FourDigitYear hi) :
    requestIds (failedBetween lo hi) = [] := by
  have hblind : Blind zeroDigit uuid := blind_zeroDigit (by decide +kernel)
  have hnone : uuid.matchAll zeroQuestion = [] := by decide +kernel
  rw [requestIds, ← matchAll_map hblind, toList_failedBetween_zero hlo hhi, hnone]
  rfl

theorem asksAggregate_failedBetween (lo hi : ℤ) : asksAggregate (failedBetween lo hi) = true := by
  rw [asksAggregate, toList_failedBetween]
  generalize (toISOString lo).toList ++ (" and ".toList ++ (toISOString hi).toList) = rest
  have hstart : atBoundary ("how many requests failed between ".toList ++ rest) 0 = true := by
    simp [atBoundary, isWord]
  have hend : atBoundary ("how many requests failed between ".toList ++ rest) 8 = true := by
    simp [atBoundary, isWord]
  have hword : ⟨8, []⟩ ∈ (caseless "how many").results
      ("how many requests failed between ".toList ++ rest) ⟨0, []⟩ :=
    mem_results_literal (by rfl) []
  have hmem : ⟨8, []⟩ ∈ aggregateWord.results
      ("how many requests failed between ".toList ++ rest) ⟨0, []⟩ := by
    refine mem_results_seq.mpr ⟨_, mem_results_boundary hstart, ?_⟩
    refine mem_results_seq.mpr ⟨_, mem_results_oneOf.mpr ⟨_, ?_, hword⟩, ?_⟩
    · apply List.mem_map_of_mem
      simp
    · exact mem_results_seq.mpr ⟨_, mem_results_boundary hend, List.mem_singleton.mpr rfl⟩
  exact exec_isSome (Nat.le_refl 0) (Nat.zero_le _) hmem

theorem firstStamp_failedBetween (hlo : FourDigitYear lo) :
    stampsMatch.group? 1 (failedBetween lo hi).toList = some (toISOString lo) := by
  have hstop : 57 = 33 + (toISOString lo).toList.length := by rw [length_toISOString hlo]
  have hpart : Span.of ⟨33, 57⟩ (failedBetween lo hi).toList = toISOString lo := by
    rw [toList_failedBetween, of_append rfl hstop, String.ofList_toList]
  exact congrArg some hpart

theorem secondStamp_failedBetween (hlo : FourDigitYear lo) (hhi : FourDigitYear hi) :
    stampsMatch.group? 2 (failedBetween lo hi).toList = some (toISOString hi) := by
  have hstart : 62 = ("how many requests failed between ".toList ++
      ((toISOString lo).toList ++ " and ".toList)).length := by
    rw [List.length_append, List.length_append, length_toISOString hlo]
    rfl
  have hstop : 86 = 62 + (toISOString hi).toList.length := by rw [length_toISOString hhi]
  have hpart : Span.of ⟨62, 86⟩ (("how many requests failed between ".toList ++
      ((toISOString lo).toList ++ " and ".toList)) ++ ((toISOString hi).toList ++ [])) =
        String.ofList (toISOString hi).toList := of_append hstart (hstart ▸ hstop)
  rw [List.append_nil, List.append_assoc, List.append_assoc, String.ofList_toList,
    ← toList_failedBetween] at hpart
  exact congrArg some hpart

theorem findRange_failedBetween {dates : Dates} (hlo : FourDigitYear lo) (hhi : FourDigitYear hi)
    (hle : lo ≤ hi) (hparse : dates.parse (toISOString lo) = some ⟨lo, hlo.inRange⟩)
    (hparse' : dates.parse (toISOString hi) = some ⟨hi, hhi.inRange⟩) (now : Instant) :
    findRange dates (failedBetween lo hi) now = .ok (.range ⟨toISOString lo, toISOString hi⟩
      (stampsMatch.text (failedBetween lo hi).toList)) := by
  have hordered := @ordered_of_le ⟨lo, hlo.inRange⟩ ⟨hi, hhi.inRange⟩ hle
  simp only [findRange, exec_isoPair_failedBetween hlo hhi, firstStamp_failedBetween hlo,
    secondStamp_failedBetween hlo hhi, Option.getD_some, isoMs, hparse, hparse', Option.map_some,
    hordered]
  rfl

/-- **The question asks for the window**, if its stamps are read as the instants they are of. -/
theorem readQuestion_failedBetween {dates : Dates} (hlo : FourDigitYear lo)
    (hhi : FourDigitYear hi) (hle : lo ≤ hi)
    (hparse : dates.parse (toISOString lo) = some ⟨lo, hlo.inRange⟩)
    (hparse' : dates.parse (toISOString hi) = some ⟨hi, hhi.inRange⟩) (now : Instant) :
    readQuestion dates (some (failedBetween lo hi)) now =
      .ok (.ok (.window ⟨toISOString lo, toISOString hi⟩)) := by
  have htrim : jsTrim (failedBetween lo hi) ≠ "" := by
    have hmem : 'h' ∈ (failedBetween lo hi).toList := by
      rw [toList_failedBetween]
      exact List.mem_append_left _ (by simp)
    exact jsTrim_ne_empty hmem (by decide)
  simp only [readQuestion, if_neg htrim, findRange_failedBetween hlo hhi hle hparse hparse',
    requestIds_failedBetween hlo hhi, asksAggregate_failedBetween]
  rfl

end WhyRouted
