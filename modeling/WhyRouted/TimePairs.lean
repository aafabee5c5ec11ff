import WhyRouted.GreedyPatterns
import WhyRouted.RelativePhrases

/-! # Pairs of times in a text

The pairs of times a text writes, in the terms of their grammar, and the one that `pairOf` finds:
the pair that stands first, with the longest last time there (`exec_pair`).  Its parts are
unambiguous.  White space ends where a word or a digit begins, and a time has white space only
before the `am` or `pm` at its end, which neither `and` nor `to` begins with. -/

namespace WhyRouted

open TextPattern

/-! ### The grammar of a pair -/

/-- Some white space. -/
def Blank (blanks : List Char) : Prop := blanks ≠ [] ∧ ∀ c ∈ blanks, isJsSpace c = true

/-- What a pair has before its last time. -/
def Leads (time : Pattern) (first lead : List Char) : Prop :=
  ∃ w blanks blanks' v blanks'',
    lead = w ++ (blanks ++ (first ++ (blanks' ++ (v ++ blanks'')))) ∧
      Says ["between", "from"] w ∧ Says ["and", "to"] v ∧ Blank blanks ∧ Blank blanks' ∧
      Blank blanks'' ∧ time.Accepts first

/-- A pair of times stands in the text from one place to another. -/
structure PairAt (time : Pattern) (text : List Char) (start stop : ℕ) (first last : List Char) :
    Prop where
  starts : atBoundary text start = true
  written : ∃ lead, Leads time first lead ∧
    text.drop start = lead ++ (last ++ text.drop stop) ∧
    stop = start + (lead.length + last.length)
  lastTime : time.Accepts last

/-- The pair that stands first, with the longest last time there. -/
structure FirstPair (time : Pattern) (text : List Char) (start stop : ℕ)
    (first last : List Char) : Prop where
  pair : PairAt time text start stop first last
  leftmost : ∀ start' stop' first' last', PairAt time text start' stop' first' last' →
    start ≤ start'
  longest : ∀ stop' first' last', PairAt time text start stop' first' last' → stop' ≤ stop

/-- What the times of both grammars have in common. -/
structure TimeShape (time : Pattern) : Prop where
  plain : time.Plain
  ungrouped : time.Ungrouped
  begins : time.Begins Char.isDigit
  greedy : ∀ text pos, time.Greedy text pos
  tail : ∀ t x u, time.Accepts (t ++ x :: u) → isJsSpace x = true → ∃ blanks y z,
    x :: u = blanks ++ [y, z] ∧ (∀ c ∈ blanks, isJsSpace c = true) ∧ isLetter y = true ∧
      asciiLower z = 'm'

variable {time : Pattern} {text first last first' last' lead lead' rest rest' : List Char}
  {start stop stop' : ℕ}

/-! ### One way to read a pair -/

theorem blanks_inj {blanks blanks' : List Char} (hblanks : ∀ c ∈ blanks, isJsSpace c = true)
    (hblanks' : ∀ c ∈ blanks', isJsSpace c = true)
    (hrest : ∀ c ∈ rest.head?, isJsSpace c = false)
    (hrest' : ∀ c ∈ rest'.head?, isJsSpace c = false) (h : blanks ++ rest = blanks' ++ rest') :
    blanks = blanks' ∧ rest = rest' := by
  have hrun : ∀ {blanks rest : List Char}, (∀ c ∈ blanks, isJsSpace c = true) →
      (∀ c ∈ rest.head?, isJsSpace c = false) →
      (blanks ++ rest).takeWhile isJsSpace = blanks := by
    intro blanks rest hblanks hrest
    rw [List.takeWhile_append_of_pos hblanks]
    cases rest with
    | nil => simp
    | cons c cs => simp [hrest c rfl]
  have heq : blanks = blanks' := by
    rw [← hrun hblanks hrest, h, hrun hblanks' hrest']
  subst heq
  exact ⟨rfl, List.append_cancel_left h⟩

theorem says_inj {k : ℕ} {words : List String} (hwords : ToldApart k words) {w w' : List Char}
    (hw : Says words w) (hw' : Says words w') (h : w ++ rest = w' ++ rest') :
    w = w' ∧ rest = rest' := by
  obtain ⟨word, hmem, hw⟩ := hw
  obtain ⟨word', hmem', hw'⟩ := hw'
  have hlength : w.length = word.toList.length := by simpa using congrArg List.length hw
  have hlength' : w'.length = word'.toList.length := by simpa using congrArg List.length hw'
  by_cases hsame : word' = word
  · exact List.append_inj h (by rw [hlength, hlength', hsame])
  · obtain ⟨hk, hk', hdiff⟩ := hwords word hmem word' hmem' hsame
    refine absurd ?_ hdiff
    rw [← hw, ← hw', ← List.map_take, ← List.map_take]
    have htake := congrArg (List.take k) h
    rw [List.take_append_of_le_length (by omega), List.take_append_of_le_length (by omega)] at htake
    rw [htake]

theorem head_of_append {blanks : List Char} (h : Blank blanks) (rest : List Char) :
    ∃ x u, blanks ++ rest = x :: u ∧ isJsSpace x = true := by
  obtain ⟨hne, hall⟩ := h
  obtain ⟨x, xs, rfl⟩ := List.exists_cons_of_ne_nil hne
  exact ⟨x, xs ++ rest, rfl, hall x List.mem_cons_self⟩

theorem second_of_says {v : List Char} (h : Says ["and", "to"] v) :
    ∃ c d ds, v = c :: d :: ds ∧ asciiLower d ≠ 'm' := by
  obtain ⟨word, hmem, hv⟩ := h
  simp only [List.mem_cons, List.not_mem_nil, or_false] at hmem
  rcases hmem with rfl | rfl
  all_goals
    obtain ⟨c, v', rfl, -, hv'⟩ := List.map_eq_cons_iff.mp hv
    obtain ⟨d, ds, rfl, hd, -⟩ := List.map_eq_cons_iff.mp hv'
    refine ⟨c, d, ds, rfl, ?_⟩
    rw [hd]
    decide

theorem says_not_blank {words : List String}
    (hwords : words.all (fun word => word.toList.head?.any isLetter) = true) {w : List Char}
    (h : Says words w) (rest : List Char) : ∀ c ∈ (w ++ rest).head?, isJsSpace c = false := by
  obtain ⟨c, cs, rfl, hc⟩ := head_of_says hwords h
  intro d hd
  obtain rfl := Option.some.inj hd
  exact isLetter_not_space hc

theorem TimeShape.not_blank (ht : TimeShape time) (h : time.Accepts first) (rest : List Char) :
    ∀ c ∈ (first ++ rest).head?, isJsSpace c = false := by
  obtain ⟨c, cs, rfl, hc⟩ := ht.begins.head_of_accepts h
  intro d hd
  obtain rfl := Option.some.inj hd
  exact isDigit_not_space hc

theorem TimeShape.nil_of_append (ht : TimeShape time) {u : List Char}
    (h : time.Accepts (first ++ u)) {blanks v rest rest' : List Char} (hblanks : Blank blanks)
    (hv : Says ["and", "to"] v) (heq : blanks ++ (v ++ rest) = u ++ rest') : u = [] := by
  cases u with
  | nil => rfl
  | cons x u =>
      obtain ⟨x', u', hcons, hx⟩ := head_of_append hblanks (v ++ rest)
      have hxx : x' = x := by
        rw [hcons] at heq
        exact (List.cons.inj heq).1
      rw [hxx] at hx
      obtain ⟨blanks', y, z, hu, hblanks', hy, hz⟩ := ht.tail first x u h hx
      rw [hu, List.append_assoc] at heq
      have hafter : v ++ rest = [y, z] ++ rest' := by
        refine (blanks_inj hblanks.2 hblanks' (says_not_blank (by decide) hv rest) ?_ heq).2
        intro c hc
        obtain rfl := Option.some.inj hc
        exact isLetter_not_space hy
      obtain ⟨c, d, ds, rfl, hd⟩ := second_of_says hv
      have hdz : d = z := (List.cons.inj (List.cons.inj hafter).2).1
      exact absurd (hdz ▸ hz) hd

theorem TimeShape.first_inj (ht : TimeShape time) (hfirst : time.Accepts first)
    (hfirst' : time.Accepts first') {blanks blanks' v v' : List Char} (hblanks : Blank blanks)
    (hblanks' : Blank blanks') (hv : Says ["and", "to"] v) (hv' : Says ["and", "to"] v')
    (h : first ++ (blanks ++ (v ++ rest)) = first' ++ (blanks' ++ (v' ++ rest'))) :
    first = first' ∧ blanks ++ (v ++ rest) = blanks' ++ (v' ++ rest') := by
  rcases List.append_eq_append_iff.mp h with ⟨u, rfl, hu⟩ | ⟨u, rfl, hu⟩
  · obtain rfl := ht.nil_of_append hfirst' hblanks hv hu
    exact ⟨(List.append_nil first).symm, hu⟩
  · obtain rfl := ht.nil_of_append hfirst hblanks' hv' hu
    exact ⟨List.append_nil first', hu.symm⟩

theorem toldApart_pair : ToldApart 1 ["between", "from"] ∧ ToldApart 1 ["and", "to"] := by
  decide

theorem TimeShape.lead_inj (ht : TimeShape time) (hlead : Leads time first lead)
    (hlead' : Leads time first' lead') (hrest : ∀ c ∈ rest.head?, c.isDigit = true)
    (hrest' : ∀ c ∈ rest'.head?, c.isDigit = true) (h : lead ++ rest = lead' ++ rest') :
    lead = lead' ∧ first = first' ∧ rest = rest' := by
  obtain ⟨w, b₁, b₂, v, b₃, rfl, hw, hv, hb₁, hb₂, hb₃, hfirst⟩ := hlead
  obtain ⟨w', b₁', b₂', v', b₃', rfl, hw', hv', hb₁', hb₂', hb₃', hfirst'⟩ := hlead'
  simp only [List.append_assoc] at h
  obtain ⟨rfl, h₁⟩ := says_inj toldApart_pair.1 hw hw' h
  obtain ⟨rfl, h₂⟩ := blanks_inj hb₁.2 hb₁'.2 (ht.not_blank hfirst _) (ht.not_blank hfirst' _) h₁
  obtain ⟨rfl, h₃⟩ := ht.first_inj hfirst hfirst' hb₂ hb₂' hv hv' h₂
  obtain ⟨rfl, h₄⟩ := blanks_inj hb₂.2 hb₂'.2 (says_not_blank (by decide) hv _)
    (says_not_blank (by decide) hv' _) h₃
  obtain ⟨rfl, h₅⟩ := says_inj toldApart_pair.2 hv hv' h₄
  obtain ⟨rfl, h₆⟩ := blanks_inj hb₃.2 hb₃'.2 (fun c hc => isDigit_not_space (hrest c hc))
    (fun c hc => isDigit_not_space (hrest' c hc)) h₅
  exact ⟨rfl, rfl, h₆⟩

theorem PairAt.first_eq (ht : TimeShape time) (h : PairAt time text start stop first last)
    (h' : PairAt time text start stop' first' last') :
    first = first' ∧ (stop = stop' → last = last') := by
  obtain ⟨lead, hlead, htext, hstop⟩ := h.written
  obtain ⟨lead', hlead', htext', hstop'⟩ := h'.written
  have hdigit : ∀ {last : List Char} {stop : ℕ}, time.Accepts last →
      ∀ c ∈ (last ++ text.drop stop).head?, c.isDigit = true := by
    intro last stop hlast c hc
    obtain ⟨d, ds, rfl, hd⟩ := ht.begins.head_of_accepts hlast
    obtain rfl := Option.some.inj hc
    exact hd
  obtain ⟨rfl, rfl, hlast⟩ := ht.lead_inj hlead hlead' (hdigit h.lastTime) (hdigit h'.lastTime)
    (htext.symm.trans htext')
  refine ⟨rfl, ?_⟩
  rintro rfl
  exact List.append_cancel_right hlast

theorem FirstPair.unique (ht : TimeShape time) (h : FirstPair time text start stop first last)
    {start' : ℕ} (h' : FirstPair time text start' stop' first' last') :
    start = start' ∧ stop = stop' ∧ first = first' ∧ last = last' := by
  obtain rfl : start = start' :=
    Nat.le_antisymm (h.leftmost _ _ _ _ h'.pair) (h'.leftmost _ _ _ _ h.pair)
  obtain rfl : stop = stop' :=
    Nat.le_antisymm (h'.longest _ _ _ h.pair) (h.longest _ _ _ h'.pair)
  obtain ⟨hfirst, hlast⟩ := h.pair.first_eq ht h'.pair
  exact ⟨rfl, rfl, hfirst, hlast rfl⟩

/-! ### The pair that is found -/

theorem plain_words (words : List String) : (Pattern.oneOf (words.map caseless)).Plain ∧
    (Pattern.oneOf (words.map caseless)).Ungrouped := by
  induction words with
  | nil => exact ⟨trivial, trivial⟩
  | cons word words ih =>
      have hword : (caseless word).Plain ∧ (caseless word).Ungrouped := plain_literal _ _
      exact ⟨⟨hword.1, ih.1⟩, hword.2, ih.2⟩

theorem of_takes {part : List Char} {c d : Cursor} (h : Takes text part c d) :
    Span.of ⟨c.pos, d.pos⟩ text = String.ofList part := of_drop h.text_eq h.pos_eq

/-- A way to match is a pair of times, and captures them. -/
theorem pairAt_of_mem_results (ht : TimeShape time) {c : Cursor}
    (h : c ∈ (pairOf time).results text ⟨start, []⟩) :
    ∃ first last, PairAt time text start c.pos first last ∧
      (c.groups.lookup 1).map (·.of text) = some (String.ofList first) ∧
      (c.groups.lookup 2).map (·.of text) = some (String.ofList last) := by
  obtain ⟨d₀, hboundary, h⟩ := mem_results_seq.mp h
  obtain ⟨d₁, hw, h⟩ := mem_results_seq.mp h
  obtain ⟨d₂, hb₁, h⟩ := mem_results_seq.mp h
  obtain ⟨d₃, hfirst, h⟩ := mem_results_seq.mp h
  obtain ⟨d₄, hb₂, h⟩ := mem_results_seq.mp h
  obtain ⟨d₅, hv, h⟩ := mem_results_seq.mp h
  obtain ⟨d₆, hb₃, h⟩ := mem_results_seq.mp h
  obtain ⟨d₇, hlast, h⟩ := mem_results_seq.mp h
  obtain rfl := List.mem_singleton.mp h
  obtain ⟨e, he, rfl⟩ := List.mem_map.mp hfirst
  obtain ⟨e', he', rfl⟩ := List.mem_map.mp hlast
  obtain ⟨hat, rfl⟩ := mem_boundary_iff.mp hboundary
  have hspaces : someSpaces.Ungrouped := ⟨trivial, trivial⟩
  have hgroups : e'.groups = (1, ⟨d₂.pos, e.pos⟩) :: e.groups := by
    rw [ht.ungrouped.groups_eq he', hspaces.groups_eq hb₃,
      (plain_words ["and", "to"]).2.groups_eq hv, hspaces.groups_eq hb₂]
  obtain ⟨w, htw, hw⟩ := accepts_of_mem_results hw
  obtain ⟨b₁, ht₁, hb₁⟩ := accepts_of_mem_results hb₁
  obtain ⟨first, htf, hfirst⟩ := accepts_of_mem_results he
  obtain ⟨b₂, ht₂, hb₂⟩ := accepts_of_mem_results hb₂
  obtain ⟨v, htv, hv⟩ := accepts_of_mem_results hv
  obtain ⟨b₃, ht₃, hb₃⟩ := accepts_of_mem_results hb₃
  obtain ⟨last, htl, hlast⟩ := accepts_of_mem_results he'
  refine ⟨first, last, ⟨hat, ⟨_, ⟨w, b₁, b₂, v, b₃, rfl, accepts_words.mp hw, accepts_words.mp hv,
    accepts_many1.mp hb₁, accepts_many1.mp hb₂, accepts_many1.mp hb₃, hfirst⟩, ?_, ?_⟩, hlast⟩,
    ?_, ?_⟩
  · have hall := htw.text_eq
    rw [ht₁.text_eq, htf.text_eq, ht₂.text_eq, htv.text_eq, ht₃.text_eq, htl.text_eq] at hall
    simpa using hall
  · have hpos := htl.pos_eq
    rw [ht₃.pos_eq, htv.pos_eq, ht₂.pos_eq, htf.pos_eq, ht₁.pos_eq, htw.pos_eq] at hpos
    simp only [List.length_append]
    dsimp only at hpos ⊢
    omega
  · rw [hgroups, ← of_takes htf]
    rfl
  · rw [← of_takes htl]
    rfl

/-- The patterns of a pair before its last time. -/
def leadOf (time : Pattern) : List Pattern :=
  [.oneOf (["between", "from"].map caseless), someSpaces, .group 1 time, someSpaces,
    .oneOf (["and", "to"].map caseless), someSpaces]

theorem accepts_lead : (Pattern.all (leadOf time)).Accepts lead ↔
    ∃ first, Leads time first lead := by
  constructor
  · rintro ⟨w, _, rfl, hw, b₁, _, rfl, hb₁, first, _, rfl, hfirst, b₂, _, rfl, hb₂, v, _, rfl, hv,
      b₃, _, rfl, hb₃, rfl⟩
    exact ⟨first, w, b₁, b₂, v, b₃, by simp, accepts_words.mp hw, accepts_words.mp hv,
      accepts_many1.mp hb₁, accepts_many1.mp hb₂, accepts_many1.mp hb₃, hfirst⟩
  · rintro ⟨first, w, b₁, b₂, v, b₃, rfl, hw, hv, hb₁, hb₂, hb₃, hfirst⟩
    exact ⟨w, _, rfl, accepts_words.mpr hw, b₁, _, rfl, accepts_many1.mpr hb₁, first, _, rfl,
      hfirst, b₂, _, rfl, accepts_many1.mpr hb₂, v, _, rfl, accepts_words.mpr hv, b₃, [],
      (List.append_nil b₃).symm, accepts_many1.mpr hb₃, rfl⟩

theorem plain_lead (ht : TimeShape time) : (Pattern.all (leadOf time)).Plain :=
  ⟨(plain_words _).1, ⟨trivial, trivial⟩, ht.plain, ⟨trivial, trivial⟩, (plain_words _).1,
    ⟨trivial, trivial⟩, trivial⟩

theorem reach_pair (time : Pattern) (text : List Char) (start : ℕ) :
    (pairOf time).reach text start = if atBoundary text start then
      ((Pattern.all (leadOf time)).reach text start).flatMap (time.reach text) else [] := by
  have hassoc : ((Pattern.all (leadOf time)).seq ((time.group 2).seq .empty)).reach text start =
      ((leadOf time).foldr Pattern.seq ((time.group 2).seq .empty)).reach text start :=
    reach_all_seq _ _ _ _
  have hlast : (((time.group 2).seq .empty).reach text) = time.reach text := by
    funext pos
    rw [reach_seq_empty, reach_group]
  rw [reach_seq, hlast] at hassoc
  have hboundary : Pattern.boundary.reach text start =
      if atBoundary text start then [start] else [] := by
    unfold Pattern.reach Pattern.results
    split_ifs <;> rfl
  have hpair : (pairOf time).reach text start = (Pattern.boundary.reach text start).flatMap
      (((leadOf time).foldr Pattern.seq ((time.group 2).seq .empty)).reach text) :=
    reach_seq _ _ _ _
  rw [hpair, hboundary]
  split_ifs
  · rw [List.flatMap_singleton, hassoc]
  · rfl

theorem mem_reach_pair (ht : TimeShape time) :
    stop ∈ (pairOf time).reach text start ↔
      ∃ first last, PairAt time text start stop first last := by
  constructor
  · intro h
    obtain ⟨c, hc, rfl⟩ := List.mem_map.mp h
    obtain ⟨first, last, hpair, -⟩ := pairAt_of_mem_results ht hc
    exact ⟨first, last, hpair⟩
  · rintro ⟨first, last, hat, ⟨lead, hlead, htext, rfl⟩, hlast⟩
    rw [reach_pair, if_pos hat, List.mem_flatMap]
    have hmid := mem_reach_of_accepts (plain_lead ht) (accepts_lead.mpr ⟨first, hlead⟩) htext
    refine ⟨_, hmid, ?_⟩
    have hstop := mem_reach_of_accepts ht.plain hlast (drop_of_append htext)
    rwa [Nat.add_assoc] at hstop

/-- The longest last time is tried first. -/
theorem greedy_pair (ht : TimeShape time) (text : List Char) (start : ℕ) :
    (pairOf time).Greedy text start := by
  have hseq : ((Pattern.all (leadOf time)).seq time).Greedy text start := by
    by_cases h : ∃ mid ∈ (Pattern.all (leadOf time)).reach text start, time.reach text mid ≠ []
    · obtain ⟨mid, hmid, hon⟩ := h
      refine greedy_seq_of_unique (fun mid' hmid' hon' => ?_) (ht.greedy text mid)
      obtain ⟨lead, htext, rfl, hlead⟩ := accepts_of_mem_reach hmid
      obtain ⟨lead', htext', rfl, hlead'⟩ := accepts_of_mem_reach hmid'
      obtain ⟨first, hlead⟩ := accepts_lead.mp hlead
      obtain ⟨first', hlead'⟩ := accepts_lead.mp hlead'
      have hdigit : ∀ pos, time.reach text pos ≠ [] →
          ∀ c ∈ (text.drop pos).head?, c.isDigit = true := by
        intro pos hpos c hc
        obtain ⟨next, hnext⟩ := List.exists_mem_of_ne_nil _ hpos
        obtain ⟨cs, hcons⟩ := List.head?_eq_some_iff.mp hc
        exact ht.begins.head_of_reach hnext hcons
      obtain ⟨rfl, -, -⟩ := ht.lead_inj hlead hlead' (hdigit _ hon) (hdigit _ hon')
        (htext.symm.trans htext')
      rfl
    · refine greedy_seq_of_unique (fun mid hmid hon => ?_) (ht.greedy text start)
      exact absurd ⟨mid, hmid, hon⟩ h
  unfold Pattern.Greedy at hseq ⊢
  rw [reach_seq] at hseq
  rw [reach_pair]
  split_ifs
  · exact hseq
  · simp

/-- **The pair that is found stands first in the text, with the longest last time there.** -/
theorem exec_pair (ht : TimeShape time) {m : Match} (h : (pairOf time).exec text 0 = some m) :
    ∃ first last, FirstPair time text m.span.start m.span.stop first last ∧
      m.group? 1 text = some (String.ofList first) ∧
      m.group? 2 text = some (String.ofList last) := by
  obtain ⟨start, c, -, -, hfirst, rfl, hbefore⟩ := exec_eq_some h
  have hmem : c ∈ (pairOf time).results text ⟨start, []⟩ := List.mem_of_mem_head? hfirst
  obtain ⟨first, last, hpair, hgroup₁, hgroup₂⟩ := pairAt_of_mem_results ht hmem
  refine ⟨first, last, ⟨hpair, ?_, ?_⟩, hgroup₁, hgroup₂⟩
  · intro start' stop' first' last' hpair'
    by_contra hlt
    have hreach := (mem_reach_pair ht).mpr ⟨first', last', hpair'⟩
    rw [Pattern.reach, hbefore start' (Nat.zero_le start') (not_le.mp hlt)] at hreach
    cases hreach
  · intro stop' first' last' hpair'
    have hreach := (mem_reach_pair ht).mpr ⟨first', last', hpair'⟩
    refine greedy_pair ht text start c.pos ?_ stop' hreach
    rw [Pattern.reach, List.head?_map]
    exact congrArg (Option.map (·.pos)) hfirst

theorem exec_pair_isSome (ht : TimeShape time) (h : PairAt time text start stop first last) :
    ((pairOf time).exec text 0).isSome := by
  obtain ⟨c, hc, -⟩ := List.mem_map.mp ((mem_reach_pair ht).mpr ⟨first, last, h⟩)
  refine exec_isSome (Nat.zero_le start) ?_ hc
  by_contra hlong
  obtain ⟨lead, ⟨w, b₁, b₂, v, b₃, rfl, hw, -⟩, htext, -⟩ := h.written
  obtain ⟨c, cs, rfl, -⟩ := head_of_says (by decide) hw
  rw [List.drop_of_length_le (by omega)] at htext
  cases htext

end WhyRouted
