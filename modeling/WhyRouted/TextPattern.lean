import Mathlib.Data.List.Basic

/-! # Patterns of a backtracking matcher

Regular expressions as ECMAScript matches them: alternatives are tried in order, a greedy run takes
as many characters as it can and a lazy one as few, and the first way to match the whole pattern
wins.  A pattern denotes the list of the ways it can match from a place, in the order in which they
are tried, so the match is the head of that list.

Places are positions in a fixed text, and a group captures a span of it.  A pattern that does not
tell some characters apart matches at the same places when they are replaced by each other
(`results_map`), which reduces texts with unknown characters to one text. -/

namespace TextPattern

/-! ### Patterns -/

/-- A part of a text. -/
structure Span where
  start : ℕ
  stop : ℕ
deriving DecidableEq, Repr

/-- How far a match has come, and the groups it has captured, the latest first. -/
structure Cursor where
  pos : ℕ
  groups : List (ℕ × Span)
deriving DecidableEq, Repr

inductive Pattern where
  | empty
  | char (p : Char → Bool)
  /-- `p*` -/
  | many (p : Char → Bool)
  /-- `p*?` -/
  | few (p : Char → Bool)
  | seq (a b : Pattern)
  | alt (a b : Pattern)
  | group (i : ℕ) (a : Pattern)
  /-- `\b` -/
  | boundary
  /-- `^` -/
  | start
  /-- `$` -/
  | finish

namespace Pattern

/-- `(?:a)?` -/
def optional (a : Pattern) : Pattern := alt a empty

/-- `p+` -/
def many1 (p : Char → Bool) : Pattern := seq (char p) (many p)

/-- `p+?` -/
def few1 (p : Char → Bool) : Pattern := seq (char p) (few p)

/-- One pattern after another. -/
def all : List Pattern → Pattern
  | [] => empty
  | a :: as => seq a (all as)

/-- The first pattern, or else the next. -/
def oneOf : List Pattern → Pattern
  | [] => char fun _ => false
  | a :: as => alt a (oneOf as)

/-- `p{n}` -/
def times (n : ℕ) (p : Char → Bool) : Pattern := all (List.replicate n (char p))

/-- Text, up to `fold`. -/
def literal (fold : Char → Char) (text : List Char) : Pattern :=
  all (text.map fun c => char fun d => fold d = c)

end Pattern

/-! ### Matching -/

/-- The characters of `\w`. -/
def isWord (c : Char) : Bool :=
  decide ('a' ≤ c ∧ c ≤ 'z') || decide ('A' ≤ c ∧ c ≤ 'Z') || decide ('0' ≤ c ∧ c ≤ '9') || c == '_'

/-- A word starts or ends at the position. -/
def atBoundary (text : List Char) (pos : ℕ) : Bool :=
  let before := if pos = 0 then false else text[pos - 1]?.any isWord
  before != text[pos]?.any isWord

/-- How many characters in a row satisfy `p`. -/
def runLength (p : Char → Bool) (text : List Char) (pos : ℕ) : ℕ :=
  ((text.drop pos).takeWhile p).length

/-- The ways a pattern matches from a place, in the order they are tried. -/
def Pattern.results (text : List Char) : Pattern → Cursor → List Cursor
  | empty, c => [c]
  | char p, c => if text[c.pos]?.any p then [{ c with pos := c.pos + 1 }] else []
  | many p, c =>
      (List.range (runLength p text c.pos + 1)).reverse.map fun n => { c with pos := c.pos + n }
  | few p, c => (List.range (runLength p text c.pos + 1)).map fun n => { c with pos := c.pos + n }
  | seq a b, c => (a.results text c).flatMap (b.results text)
  | alt a b, c => a.results text c ++ b.results text c
  | group i a, c =>
      (a.results text c).map fun c' => { c' with groups := (i, ⟨c.pos, c'.pos⟩) :: c'.groups }
  | boundary, c => if atBoundary text c.pos then [c] else []
  | start, c => if c.pos = 0 then [c] else []
  | finish, c => if c.pos = text.length then [c] else []

-- the ways of each pattern, for `simp` in what follows
attribute [local simp] Pattern.results

/-- A match: where it is, and its groups. -/
structure Match where
  span : Span
  groups : List (ℕ × Span)
deriving DecidableEq, Repr

/-- The match that starts at a position. -/
def Pattern.matchAt (a : Pattern) (text : List Char) (pos : ℕ) : Option Match :=
  (a.results text ⟨pos, []⟩).head?.map fun c => ⟨⟨pos, c.pos⟩, c.groups⟩

/-- `exec` with `lastIndex`: the match that starts first. -/
def Pattern.exec (a : Pattern) (text : List Char) (lastIndex : ℕ) : Option Match :=
  (List.range' lastIndex (text.length + 1 - lastIndex)).findSome? (a.matchAt text)

/-- `matchAll` from a position on, at most `fuel` matches. -/
def Pattern.execAll (a : Pattern) (text : List Char) : (fuel lastIndex : ℕ) → List Match
  | 0, _ => []
  | fuel + 1, lastIndex =>
      match a.exec text lastIndex with
      | none => []
      | some m =>
          let next := if m.span.stop = m.span.start then m.span.stop + 1 else m.span.stop
          m :: a.execAll text fuel next

/-- `[...text.matchAll(a)]`: a match is followed by one that starts later, so there are not more of
them than places. -/
def Pattern.matchAll (a : Pattern) (text : List Char) : List Match :=
  a.execAll text (text.length + 1) 0

def Span.of (span : Span) (text : List Char) : String :=
  String.ofList ((text.drop span.start).take (span.stop - span.start))

def Match.text (m : Match) (text : List Char) : String := m.span.of text

def Match.group? (m : Match) (i : ℕ) (text : List Char) : Option String :=
  (m.groups.lookup i).map (·.of text)

/-! ### Characters a pattern does not tell apart -/

/-- The tests a pattern makes of a character. -/
def Pattern.tests : Pattern → List (Char → Bool)
  | empty => []
  | char p => [p]
  | many p => [p]
  | few p => [p]
  | seq a b => a.tests ++ b.tests
  | alt a b => a.tests ++ b.tests
  | group _ a => a.tests
  | boundary => [isWord]
  | start => []
  | finish => []

/-- The pattern takes `f c` wherever it takes `c`. -/
def Blind (f : Char → Char) (a : Pattern) : Prop := ∀ p ∈ a.tests, ∀ c, p (f c) = p c

variable {f : Char → Char} {p : Char → Bool} {text : List Char} {a : Pattern}

theorem any_map (h : ∀ c, p (f c) = p c) (pos : ℕ) :
    (text.map f)[pos]?.any p = text[pos]?.any p := by
  rw [List.getElem?_map]
  cases text[pos]? with
  | none => rfl
  | some c => exact h c

theorem runLength_map (h : ∀ c, p (f c) = p c) (pos : ℕ) :
    runLength p (text.map f) pos = runLength p text pos := by
  have hp : p ∘ f = p := funext h
  unfold runLength
  rw [← List.map_drop, List.takeWhile_map, List.length_map, hp]

theorem atBoundary_map (h : ∀ c, isWord (f c) = isWord c) (pos : ℕ) :
    atBoundary (text.map f) pos = atBoundary text pos := by
  unfold atBoundary
  rw [any_map h, any_map h]

/-- **What a pattern does not tell apart does not matter to it.** -/
theorem results_map (h : Blind f a) (c : Cursor) :
    a.results (text.map f) c = a.results text c := by
  induction a generalizing c with
  | empty => rfl
  | char p =>
      unfold Pattern.results
      rw [any_map (h p List.mem_cons_self)]
  | many p =>
      unfold Pattern.results
      rw [runLength_map (h p List.mem_cons_self)]
  | few p =>
      unfold Pattern.results
      rw [runLength_map (h p List.mem_cons_self)]
  | seq a b iha ihb =>
      have ha : Blind f a := fun p hp => h p (List.mem_append_left _ hp)
      have hb : Blind f b := fun p hp => h p (List.mem_append_right _ hp)
      unfold Pattern.results
      rw [iha ha, funext (ihb hb)]
  | alt a b iha ihb =>
      have ha : Blind f a := fun p hp => h p (List.mem_append_left _ hp)
      have hb : Blind f b := fun p hp => h p (List.mem_append_right _ hp)
      unfold Pattern.results
      rw [iha ha, ihb hb]
  | group i a ih =>
      unfold Pattern.results
      rw [ih h]
  | boundary =>
      unfold Pattern.results
      rw [atBoundary_map (h isWord List.mem_cons_self)]
  | start => rfl
  | finish =>
      unfold Pattern.results
      rw [List.length_map]

theorem exec_map (h : Blind f a) (lastIndex : ℕ) :
    a.exec (text.map f) lastIndex = a.exec text lastIndex := by
  unfold Pattern.exec Pattern.matchAt
  simp only [List.length_map, results_map h]

theorem matchAll_map (h : Blind f a) : a.matchAll (text.map f) = a.matchAll text := by
  have hall : ∀ fuel lastIndex,
      a.execAll (text.map f) fuel lastIndex = a.execAll text fuel lastIndex := by
    intro fuel
    induction fuel with
    | zero => exact fun _ => rfl
    | succ fuel ih =>
        intro lastIndex
        unfold Pattern.execAll
        rw [exec_map h]
        cases a.exec text lastIndex with
        | none => rfl
        | some m => simp only [ih]
  unfold Pattern.matchAll
  rw [List.length_map, hall]

/-! ### Finding a match -/

theorem mem_results_seq {a b : Pattern} {c c' : Cursor} :
    c' ∈ (a.seq b).results text c ↔ ∃ d ∈ a.results text c, c' ∈ b.results text d :=
  List.mem_flatMap

theorem mem_results_alt {a b : Pattern} {c c' : Cursor} :
    c' ∈ (a.alt b).results text c ↔ c' ∈ a.results text c ∨ c' ∈ b.results text c :=
  List.mem_append

theorem mem_results_oneOf {as : List Pattern} {c c' : Cursor} :
    c' ∈ (Pattern.oneOf as).results text c ↔ ∃ a ∈ as, c' ∈ a.results text c := by
  induction as with
  | nil =>
      have hnone : ∀ o : Option Char, o.any (fun _ => false) = false := by
        intro o
        cases o <;> rfl
      simp [Pattern.oneOf, hnone]
  | cons a as ih => rw [Pattern.oneOf, mem_results_alt, ih, List.exists_mem_cons_iff]

theorem mem_char_iff {c c' : Cursor} : c' ∈ (Pattern.char p).results text c ↔
    text[c.pos]?.any p = true ∧ c' = { c with pos := c.pos + 1 } := by
  unfold Pattern.results
  split_ifs with h <;> simp [h]

theorem mem_boundary_iff {c c' : Cursor} :
    c' ∈ Pattern.boundary.results text c ↔ atBoundary text c.pos = true ∧ c' = c := by
  unfold Pattern.results
  split_ifs with h <;> simp [h]

theorem mem_start_iff {c c' : Cursor} :
    c' ∈ Pattern.start.results text c ↔ c.pos = 0 ∧ c' = c := by
  unfold Pattern.results
  split_ifs with h <;> simp [h]

theorem mem_finish_iff {c c' : Cursor} :
    c' ∈ Pattern.finish.results text c ↔ c.pos = text.length ∧ c' = c := by
  unfold Pattern.results
  split_ifs with h <;> simp [h]

theorem mem_results_boundary {c : Cursor} (h : atBoundary text c.pos = true) :
    c ∈ Pattern.boundary.results text c := by
  simp [h]

theorem mem_results_literal {fold : Char → Char} {word : List Char} {pos : ℕ}
    (h : ((text.drop pos).take word.length).map fold = word) (groups : List (ℕ × Span)) :
    ⟨pos + word.length, groups⟩ ∈ (Pattern.literal fold word).results text ⟨pos, groups⟩ := by
  induction word generalizing pos with
  | nil => exact List.mem_singleton.mpr rfl
  | cons c word ih =>
      cases hrest : text.drop pos with
      | nil => simp [hrest] at h
      | cons d rest =>
          rw [hrest, List.length_cons, List.take_succ_cons, List.map_cons, List.cons.injEq] at h
          obtain ⟨hd, hword⟩ := h
          have hat : text[pos]? = some d := by
            rw [← List.head?_drop, hrest]
            rfl
          have hnext : text.drop (pos + 1) = rest := by
            rw [← List.drop_drop, hrest]
            rfl
          rw [← hnext] at hword
          unfold Pattern.literal Pattern.all
          rw [List.map_cons]
          refine mem_results_seq.mpr ⟨⟨pos + 1, groups⟩, ?_, ?_⟩
          · simp [hat, hd]
          · have hmem := ih hword
            rw [List.length_cons, Nat.add_comm word.length, ← Nat.add_assoc]
            exact hmem

/-- A way to match from some place is enough for `exec`. -/
theorem exec_isSome {pos lastIndex : ℕ} {c : Cursor} (hfrom : lastIndex ≤ pos)
    (hpos : pos ≤ text.length) (h : c ∈ a.results text ⟨pos, []⟩) :
    (a.exec text lastIndex).isSome := by
  unfold Pattern.exec
  rw [List.findSome?_isSome_iff]
  refine ⟨pos, ?_, ?_⟩
  · rw [List.mem_range'_1]
    omega
  · rw [Pattern.matchAt, Option.isSome_map, List.isSome_head?]
    exact List.ne_nil_of_mem h

theorem of_append {before part after : List Char} {span : Span}
    (hstart : span.start = before.length) (hstop : span.stop = before.length + part.length) :
    span.of (before ++ (part ++ after)) = String.ofList part := by
  unfold Span.of
  rw [hstart, hstop, List.drop_left, Nat.add_sub_cancel_left, List.take_left]

theorem of_drop {pos stop : ℕ} {part rest : List Char} (h : text.drop pos = part ++ rest)
    (hstop : stop = pos + part.length) : Span.of ⟨pos, stop⟩ text = String.ofList part := by
  unfold Span.of
  dsimp only
  rw [hstop, h, Nat.add_sub_cancel_left, List.take_left]

/-! ### The first way to match -/

/-- The first way a pattern matches from a place. -/
def Pattern.first (a : Pattern) (text : List Char) (c : Cursor) : Option Cursor :=
  (a.results text c).head?

theorem drop_of_cons {pos : ℕ} {d : Char} {rest : List Char} (h : text.drop pos = d :: rest) :
    text.drop (pos + 1) = rest := by
  rw [← List.drop_drop, h]
  rfl

theorem drop_of_append {pos : ℕ} {part rest : List Char} (h : text.drop pos = part ++ rest) :
    text.drop (pos + part.length) = rest := by
  rw [← List.drop_drop, h, List.drop_left]

theorem getElem?_of_drop {pos : ℕ} {d : Char} {rest : List Char} (h : text.drop pos = d :: rest) :
    text[pos]? = some d := by
  rw [← List.head?_drop, h]
  rfl

theorem runLength_of_drop {pos : ℕ} {part rest : List Char} (h : text.drop pos = part ++ rest)
    (hpart : ∀ d ∈ part, p d = true) (hrest : ∀ d ∈ rest.head?, p d = false) :
    runLength p text pos = part.length := by
  unfold runLength
  rw [h, List.takeWhile_append_of_pos hpart]
  cases rest with
  | nil => simp
  | cons d rest => simp [hrest d rfl]

theorem first_empty (c : Cursor) : Pattern.empty.first text c = some c := rfl

theorem first_char {pos : ℕ} {d : Char} {rest : List Char} (h : text.drop pos = d :: rest)
    (hd : p d = true) (groups : List (ℕ × Span)) :
    (Pattern.char p).first text ⟨pos, groups⟩ = some ⟨pos + 1, groups⟩ := by
  simp [Pattern.first, getElem?_of_drop h, hd]

/-- A greedy run takes all it can. -/
theorem first_many (text : List Char) (p : Char → Bool) (c : Cursor) :
    (Pattern.many p).first text c = some { c with pos := c.pos + runLength p text c.pos } := by
  simp [Pattern.first, List.range_succ]

theorem first_seq {a b : Pattern} {c d e : Cursor} (ha : a.first text c = some d)
    (hb : b.first text d = some e) : (a.seq b).first text c = some e := by
  unfold Pattern.first Pattern.results
  obtain ⟨ds, hds⟩ := List.head?_eq_some_iff.mp ha
  obtain ⟨es, hes⟩ := List.head?_eq_some_iff.mp hb
  rw [hds, List.flatMap_cons, hes]
  rfl

theorem first_many1 {pos : ℕ} {part rest : List Char} (h : text.drop pos = part ++ rest)
    (hne : part ≠ []) (hpart : ∀ d ∈ part, p d = true) (hrest : ∀ d ∈ rest.head?, p d = false)
    (groups : List (ℕ × Span)) :
    (Pattern.many1 p).first text ⟨pos, groups⟩ = some ⟨pos + part.length, groups⟩ := by
  cases part with
  | nil => exact absurd rfl hne
  | cons d ds =>
      have hrun : runLength p text (pos + 1) = ds.length :=
        runLength_of_drop (drop_of_cons h) (fun e he => hpart e (.tail d he)) hrest
      have hmany := first_many text p ⟨pos + 1, groups⟩
      rw [hrun] at hmany
      rw [Pattern.many1, first_seq (first_char h (hpart d List.mem_cons_self) groups) hmany,
        List.length_cons, Nat.add_assoc, Nat.add_comm 1]

/-- The ways that come first may lead nowhere. -/
theorem first_seq_of_skip {a b : Pattern} {c d e : Cursor} {before after : List Cursor}
    (ha : a.results text c = before ++ d :: after) (hskip : ∀ d' ∈ before, b.results text d' = [])
    (hb : b.first text d = some e) : (a.seq b).first text c = some e := by
  have hnil : before.flatMap (b.results text) = [] := List.flatMap_eq_nil_iff.mpr hskip
  obtain ⟨es, hes⟩ := List.head?_eq_some_iff.mp hb
  unfold Pattern.first Pattern.results
  rw [ha, List.flatMap_append, hnil, List.flatMap_cons, hes]
  rfl

theorem first_alt_left {a b : Pattern} {c d : Cursor} (ha : a.first text c = some d) :
    (a.alt b).first text c = some d := by
  unfold Pattern.first Pattern.results
  obtain ⟨ds, hds⟩ := List.head?_eq_some_iff.mp ha
  rw [hds]
  rfl

theorem first_alt_right {a b : Pattern} {c : Cursor} (ha : a.results text c = []) :
    (a.alt b).first text c = b.first text c := by
  unfold Pattern.first
  rw [Pattern.results, ha, List.nil_append]

theorem first_optional {c d : Cursor} (ha : a.first text c = some d) :
    a.optional.first text c = some d :=
  first_alt_left ha

theorem first_optional_of_nil {c : Cursor} (ha : a.results text c = []) :
    a.optional.first text c = some c :=
  first_alt_right ha

theorem first_group {i : ℕ} {c d : Cursor} (ha : a.first text c = some d) :
    (a.group i).first text c = some { d with groups := (i, ⟨c.pos, d.pos⟩) :: d.groups } := by
  unfold Pattern.first Pattern.results
  rw [List.head?_map]
  exact congrArg _ ha

theorem results_literal (fold : Char → Char) (word : List Char) (pos : ℕ)
    (groups : List (ℕ × Span)) : (Pattern.literal fold word).results text ⟨pos, groups⟩ =
      if ((text.drop pos).take word.length).map fold = word then [⟨pos + word.length, groups⟩]
      else [] := by
  induction word generalizing pos with
  | nil => rfl
  | cons w word ih =>
      unfold Pattern.literal Pattern.all
      rw [List.map_cons, Pattern.results]
      cases hrest : text.drop pos with
      | nil =>
          have hnone : text[pos]? = none := by
            rw [← List.head?_drop, hrest]
            rfl
          simp [hnone]
      | cons d rest =>
          have hnext := ih (pos + 1)
          rw [drop_of_cons hrest] at hnext
          by_cases hd : fold d = w
          · have hchar : (Pattern.char fun d => fold d = w).results text ⟨pos, groups⟩ =
                [⟨pos + 1, groups⟩] := by
              simp [getElem?_of_drop hrest, hd]
            rw [hchar, List.flatMap_singleton]
            refine hnext.trans ?_
            have hplace : pos + (word.length + 1) = pos + 1 + word.length := by omega
            rw [List.length_cons, List.take_succ_cons, List.map_cons, hd, hplace]
            simp
          · simp [getElem?_of_drop hrest, hd]

theorem first_literal {fold : Char → Char} {word part rest : List Char} {pos : ℕ}
    (h : text.drop pos = part ++ rest) (hpart : part.map fold = word) (groups : List (ℕ × Span)) :
    (Pattern.literal fold word).first text ⟨pos, groups⟩ = some ⟨pos + part.length, groups⟩ := by
  have hlength : word.length = part.length := by rw [← hpart, List.length_map]
  unfold Pattern.first
  rw [results_literal, h, hlength, List.take_left, if_pos hpart]
  rfl

theorem results_all_seq (as : List Pattern) (b : Pattern) (c : Cursor) :
    ((Pattern.all as).seq b).results text c = (as.foldr Pattern.seq b).results text c := by
  induction as generalizing c with
  | nil => exact List.flatMap_singleton _ _
  | cons a as ih =>
      have hassoc : (((a.seq (Pattern.all as)).seq b).results text c) =
          (a.seq ((Pattern.all as).seq b)).results text c := List.flatMap_assoc
      rw [Pattern.all, hassoc, List.foldr_cons, Pattern.results, Pattern.results, funext ih]

theorem first_start (groups : List (ℕ × Span)) :
    Pattern.start.first text ⟨0, groups⟩ = some ⟨0, groups⟩ := rfl

theorem first_finish {pos : ℕ} (h : pos = text.length) (groups : List (ℕ × Span)) :
    Pattern.finish.first text ⟨pos, groups⟩ = some ⟨pos, groups⟩ := by
  simp [Pattern.first, h]

theorem first_boundary {pos : ℕ} (h : atBoundary text pos = true) (groups : List (ℕ × Span)) :
    Pattern.boundary.first text ⟨pos, groups⟩ = some ⟨pos, groups⟩ := by
  simp [Pattern.first, h]

/-- A match at the start of the text is the first one. -/
theorem exec_of_first {c : Cursor} (h : a.first text ⟨0, []⟩ = some c) :
    a.exec text 0 = some ⟨⟨0, c.pos⟩, c.groups⟩ := by
  have hrange : List.range' 0 (text.length + 1 - 0) = 0 :: List.range' 1 text.length := rfl
  have hat : a.matchAt text 0 = some ⟨⟨0, c.pos⟩, c.groups⟩ := by
    unfold Pattern.matchAt
    rw [show (a.results text ⟨0, []⟩).head? = some c from h]
    rfl
  unfold Pattern.exec
  rw [hrange, List.findSome?_cons, hat]

/-- `exec` finds the first place from which the pattern matches. -/
theorem exec_eq_some {lastIndex : ℕ} {m : Match} (h : a.exec text lastIndex = some m) :
    ∃ pos c, lastIndex ≤ pos ∧ pos ≤ text.length ∧ a.first text ⟨pos, []⟩ = some c ∧
      m = ⟨⟨pos, c.pos⟩, c.groups⟩ ∧
      ∀ k, lastIndex ≤ k → k < pos → a.results text ⟨k, []⟩ = [] := by
  unfold Pattern.exec at h
  obtain ⟨before, pos, after, hrange, hat, hbefore⟩ := List.findSome?_eq_some_iff.mp h
  unfold Pattern.matchAt at hat
  rw [Option.map_eq_some_iff] at hat
  obtain ⟨c, hc, rfl⟩ := hat
  have hpos : pos ∈ List.range' lastIndex (text.length + 1 - lastIndex) := by
    rw [hrange]
    simp
  rw [List.mem_range'_1] at hpos
  refine ⟨pos, c, hpos.1, by omega, hc, rfl, ?_⟩
  intro k hk hlt
  have hk' : k ∈ List.range' lastIndex (text.length + 1 - lastIndex) := by
    rw [List.mem_range'_1]
    omega
  have hsorted := List.pairwise_lt_range' (s := lastIndex) (n := text.length + 1 - lastIndex)
  rw [hrange] at hk' hsorted
  have hafter := (List.pairwise_cons.mp (List.pairwise_append.mp hsorted).2.1).1
  rcases List.mem_append.mp hk' with hin | hin
  · have hnone := hbefore k hin
    rw [Pattern.matchAt, Option.map_eq_none_iff, List.head?_eq_none_iff] at hnone
    exact hnone
  · rcases List.mem_cons.mp hin with heq | hin
    · omega
    · exact absurd (hafter k hin) (by omega)

end TextPattern
