import WhyRouted.PatternLanguage

/-! # Patterns that take the longest part first

The first way to match need not take the longest part of a pattern's language that stands in the
text.  It does (`Greedy`) where a run or an optional part ends at a character that cannot begin what
follows it.  The rules ask for the characters a pattern takes (`Within`) and begins with (`Begins`)
and for the length of what it takes (`size?`), which are read off the pattern. -/

namespace TextPattern

variable {a b : Pattern} {p : Char → Bool} {text part : List Char}

/-! ### What is read off a pattern -/

/-- It takes only characters that satisfy `p`. -/
def Pattern.Within (p : Char → Bool) : Pattern → Prop
  | empty => True
  | char q => ∀ c, q c = true → p c = true
  | many q => ∀ c, q c = true → p c = true
  | few q => ∀ c, q c = true → p c = true
  | seq a b => a.Within p ∧ b.Within p
  | alt a b => a.Within p ∧ b.Within p
  | group _ a => a.Within p
  | boundary => True
  | start => True
  | finish => True

/-- It begins with a character that satisfies `p`. -/
def Pattern.Begins (p : Char → Bool) : Pattern → Prop
  | empty => False
  | char q => ∀ c, q c = true → p c = true
  | many _ => False
  | few _ => False
  | seq a b => a.Begins p ∨ (a.Within p ∧ b.Begins p)
  | alt a b => a.Begins p ∧ b.Begins p
  | group _ a => a.Begins p
  | boundary => False
  | start => False
  | finish => False

/-- How many characters it takes, if that is one number. -/
def Pattern.size? : Pattern → Option ℕ
  | empty => some 0
  | char _ => some 1
  | many _ => none
  | few _ => none
  | seq a b => a.size?.bind fun m => b.size?.map fun n => m + n
  | alt a b => if a.size? = b.size? then a.size? else none
  | group _ a => a.size?
  | boundary => some 0
  | start => some 0
  | finish => some 0

/-- It captures nothing. -/
def Pattern.Ungrouped : Pattern → Prop
  | empty => True
  | char _ => True
  | many _ => True
  | few _ => True
  | seq a b => a.Ungrouped ∧ b.Ungrouped
  | alt a b => a.Ungrouped ∧ b.Ungrouped
  | group _ _ => False
  | boundary => True
  | start => True
  | finish => True

theorem Pattern.Within.all_of_accepts (ha : a.Within p) (h : a.Accepts part) :
    ∀ c ∈ part, p c = true := by
  induction a generalizing part with
  | empty =>
      obtain rfl := h
      simp
  | char q =>
      obtain ⟨c, rfl, hc⟩ := h
      simpa using ha c hc
  | many q => exact fun c hc => ha c (h c hc)
  | few q => exact fun c hc => ha c (h c hc)
  | seq a b iha ihb =>
      obtain ⟨u, v, rfl, hu, hv⟩ := h
      intro c hc
      exact (List.mem_append.mp hc).elim (iha ha.1 hu c) (ihb ha.2 hv c)
  | alt a b iha ihb => exact h.elim (iha ha.1) (ihb ha.2)
  | group i a ih => exact ih ha h
  | boundary =>
      obtain rfl := h
      simp
  | start =>
      obtain rfl := h
      simp
  | finish =>
      obtain rfl := h
      simp

theorem Pattern.Begins.head_of_accepts (ha : a.Begins p) (h : a.Accepts part) :
    ∃ c cs, part = c :: cs ∧ p c = true := by
  induction a generalizing part with
  | empty => exact ha.elim
  | char q =>
      obtain ⟨c, rfl, hc⟩ := h
      exact ⟨c, [], rfl, ha c hc⟩
  | many q => exact ha.elim
  | few q => exact ha.elim
  | seq a b iha ihb =>
      obtain ⟨u, v, rfl, hu, hv⟩ := h
      rcases ha with ha | ⟨hwithin, hb⟩
      · obtain ⟨c, cs, rfl, hc⟩ := iha ha hu
        exact ⟨c, cs ++ v, rfl, hc⟩
      · cases u with
        | nil => exact ihb hb hv
        | cons c cs => exact ⟨c, cs ++ v, rfl, hwithin.all_of_accepts hu c List.mem_cons_self⟩
  | alt a b iha ihb => exact h.elim (iha ha.1) (ihb ha.2)
  | group i a ih => exact ih ha h
  | boundary => exact ha.elim
  | start => exact ha.elim
  | finish => exact ha.elim

theorem Pattern.Within.mono {q : Char → Bool} (ha : a.Within p)
    (hpq : ∀ c, p c = true → q c = true) : a.Within q := by
  induction a with
  | empty => trivial
  | char r => exact fun c hc => hpq c (ha c hc)
  | many r => exact fun c hc => hpq c (ha c hc)
  | few r => exact fun c hc => hpq c (ha c hc)
  | seq a b iha ihb => exact ⟨iha ha.1, ihb ha.2⟩
  | alt a b iha ihb => exact ⟨iha ha.1, ihb ha.2⟩
  | group i a ih => exact ih ha
  | boundary => trivial
  | start => trivial
  | finish => trivial

theorem Pattern.Begins.mono {q : Char → Bool} (ha : a.Begins p)
    (hpq : ∀ c, p c = true → q c = true) : a.Begins q := by
  induction a with
  | empty => exact ha.elim
  | char r => exact fun c hc => hpq c (ha c hc)
  | many r => exact ha.elim
  | few r => exact ha.elim
  | seq a b iha ihb => exact ha.imp iha fun ⟨hwithin, hb⟩ => ⟨hwithin.mono hpq, ihb hb⟩
  | alt a b iha ihb => exact ⟨iha ha.1, ihb ha.2⟩
  | group i a ih => exact ih ha
  | boundary => exact ha.elim
  | start => exact ha.elim
  | finish => exact ha.elim

theorem length_of_size? {n : ℕ} (ha : a.size? = some n) (h : a.Accepts part) :
    part.length = n := by
  induction a generalizing part n with
  | empty =>
      obtain rfl := h
      exact Option.some.inj ha
  | char q =>
      obtain ⟨c, rfl, -⟩ := h
      exact Option.some.inj ha
  | many q => cases ha
  | few q => cases ha
  | seq a b iha ihb =>
      obtain ⟨u, v, rfl, hu, hv⟩ := h
      obtain ⟨m, hm, hn⟩ := Option.bind_eq_some_iff.mp ha
      obtain ⟨k, hk, rfl⟩ := Option.map_eq_some_iff.mp hn
      rw [List.length_append, iha hm hu, ihb hk hv]
  | alt a b iha ihb =>
      unfold Pattern.size? at ha
      split_ifs at ha with hsame
      exact h.elim (iha ha) (ihb (hsame ▸ ha))
  | group i a ih => exact ih ha h
  | boundary =>
      obtain rfl := h
      exact Option.some.inj ha
  | start =>
      obtain rfl := h
      exact Option.some.inj ha
  | finish =>
      obtain rfl := h
      exact Option.some.inj ha

theorem Pattern.Ungrouped.groups_eq (ha : a.Ungrouped) {c c' : Cursor}
    (h : c' ∈ a.results text c) : c'.groups = c.groups := by
  induction a generalizing c c' with
  | empty => rw [List.mem_singleton.mp h]
  | char q => rw [(mem_char_iff.mp h).2]
  | many q =>
      obtain ⟨n, -, rfl⟩ := List.mem_map.mp h
      rfl
  | few q =>
      obtain ⟨n, -, rfl⟩ := List.mem_map.mp h
      rfl
  | seq a b iha ihb =>
      obtain ⟨d, hd, hc'⟩ := mem_results_seq.mp h
      rw [ihb ha.2 hc', iha ha.1 hd]
  | alt a b iha ihb => exact (mem_results_alt.mp h).elim (iha ha.1) (ihb ha.2)
  | group i a _ => exact ha.elim
  | boundary => rw [(mem_boundary_iff.mp h).2]
  | start => rw [(mem_start_iff.mp h).2]
  | finish => rw [(mem_finish_iff.mp h).2]

theorem within_all {as : List Pattern} (h : ∀ a ∈ as, a.Within p) :
    (Pattern.all as).Within p := by
  induction as with
  | nil => trivial
  | cons a as ih =>
      exact ⟨h a List.mem_cons_self, ih fun b hb => h b (.tail a hb)⟩

theorem within_times {n : ℕ} {q : Char → Bool} (h : ∀ c, q c = true → p c = true) :
    (Pattern.times n q).Within p :=
  within_all fun _ ha => (List.eq_of_mem_replicate ha).symm ▸ h

theorem within_literal {fold : Char → Char} {word : List Char}
    (h : ∀ c, fold c ∈ word → p c = true) : (Pattern.literal fold word).Within p := by
  refine within_all fun a ha => ?_
  obtain ⟨d, hd, rfl⟩ := List.mem_map.mp ha
  intro c hc
  exact h c (of_decide_eq_true hc ▸ hd)

theorem plain_all {as : List Pattern} (h : ∀ a ∈ as, a.Plain ∧ a.Ungrouped) :
    (Pattern.all as).Plain ∧ (Pattern.all as).Ungrouped := by
  induction as with
  | nil => exact ⟨trivial, trivial⟩
  | cons a as ih =>
      have ha := h a List.mem_cons_self
      have has := ih fun b hb => h b (.tail a hb)
      exact ⟨⟨ha.1, has.1⟩, ha.2, has.2⟩

theorem plain_literal (fold : Char → Char) (word : List Char) :
    (Pattern.literal fold word).Plain ∧ (Pattern.literal fold word).Ungrouped := by
  refine plain_all fun a ha => ?_
  obtain ⟨d, -, rfl⟩ := List.mem_map.mp ha
  exact ⟨trivial, trivial⟩

/-! ### Where a pattern comes to -/

/-- The places a pattern comes to, in the order in which it tries them. -/
def Pattern.reach (a : Pattern) (text : List Char) (pos : ℕ) : List ℕ :=
  (a.results text ⟨pos, []⟩).map (·.pos)

/-- The groups captured before do not matter. -/
theorem map_pos_results (a : Pattern) (text : List Char) (c : Cursor) :
    (a.results text c).map (·.pos) = a.reach text c.pos := by
  unfold Pattern.reach
  induction a generalizing c with
  | empty => rfl
  | char p => simp only [Pattern.results]; split_ifs <;> rfl
  | many p => simp [Pattern.results, Function.comp_def]
  | few p => simp [Pattern.results, Function.comp_def]
  | seq a b iha ihb =>
      have hstep : ∀ c, ((a.seq b).results text c).map (·.pos) =
          ((a.results text c).map (·.pos)).flatMap fun pos =>
            (b.results text ⟨pos, []⟩).map (·.pos) := by
        intro c
        rw [Pattern.results, List.map_flatMap, List.flatMap_map]
        exact List.flatMap_congr fun d _ => ihb d
      rw [hstep c, hstep ⟨c.pos, []⟩, iha c]
  | alt a b iha ihb =>
      simp only [Pattern.results, List.map_append]
      rw [iha c, ihb c]
  | group i a ih =>
      simp only [Pattern.results, List.map_map, Function.comp_def]
      exact ih c
  | boundary => simp only [Pattern.results]; split_ifs <;> rfl
  | start => simp only [Pattern.results]; split_ifs <;> rfl
  | finish => simp only [Pattern.results]; split_ifs <;> rfl

theorem reach_seq (a b : Pattern) (text : List Char) (pos : ℕ) :
    (a.seq b).reach text pos = (a.reach text pos).flatMap (b.reach text) := by
  unfold Pattern.reach
  rw [Pattern.results, List.map_flatMap, List.flatMap_map]
  exact List.flatMap_congr fun d _ => map_pos_results b text d

theorem reach_alt (a b : Pattern) (text : List Char) (pos : ℕ) :
    (a.alt b).reach text pos = a.reach text pos ++ b.reach text pos :=
  List.map_append

theorem reach_all_seq (as : List Pattern) (b : Pattern) (text : List Char) (pos : ℕ) :
    ((Pattern.all as).seq b).reach text pos = (as.foldr Pattern.seq b).reach text pos := by
  unfold Pattern.reach
  rw [results_all_seq]

theorem reach_group (i : ℕ) (a : Pattern) (text : List Char) (pos : ℕ) :
    (a.group i).reach text pos = a.reach text pos := by
  simp [Pattern.reach, Pattern.results, Function.comp_def]

/-- A pattern comes to where a part of its language ends. -/
theorem accepts_of_mem_reach {pos stop : ℕ} (h : stop ∈ a.reach text pos) :
    ∃ part, text.drop pos = part ++ text.drop stop ∧ stop = pos + part.length ∧
      a.Accepts part := by
  obtain ⟨c, hc, rfl⟩ := List.mem_map.mp h
  obtain ⟨part, htakes, hpart⟩ := accepts_of_mem_results hc
  exact ⟨part, htakes.text_eq, htakes.pos_eq, hpart⟩

theorem le_of_mem_reach {pos stop : ℕ} (h : stop ∈ a.reach text pos) : pos ≤ stop := by
  obtain ⟨part, -, hstop, -⟩ := accepts_of_mem_reach h
  omega

theorem mem_reach_of_accepts (ha : a.Plain) (h : a.Accepts part) {pos : ℕ} {rest : List Char}
    (htext : text.drop pos = part ++ rest) : pos + part.length ∈ a.reach text pos := by
  obtain ⟨groups, hmem⟩ := exists_mem_results ha h htext []
  exact List.mem_map.mpr ⟨_, hmem, rfl⟩

/-! ### The longest way first -/

/-- Of all the places a pattern comes to, the first is the farthest. -/
def Pattern.Greedy (a : Pattern) (text : List Char) (pos : ℕ) : Prop :=
  ∀ first ∈ (a.reach text pos).head?, ∀ stop ∈ a.reach text pos, stop ≤ first

theorem eq_of_mem_reach {n pos stop : ℕ} (ha : a.size? = some n) (h : stop ∈ a.reach text pos) :
    stop = pos + n := by
  obtain ⟨part, -, hstop, hpart⟩ := accepts_of_mem_reach h
  rw [hstop, length_of_size? ha hpart]

theorem greedy_of_size {n pos : ℕ} (ha : a.size? = some n) : a.Greedy text pos := by
  intro first hfirst stop hstop
  rw [eq_of_mem_reach ha hstop, eq_of_mem_reach ha (List.mem_of_mem_head? hfirst)]

theorem greedy_many (p : Char → Bool) (text : List Char) (pos : ℕ) :
    (Pattern.many p).Greedy text pos := by
  intro first hfirst stop hstop
  have hlast : first = pos + runLength p text pos := by
    have hhead := first_many text p ⟨pos, []⟩
    rw [Pattern.reach, List.head?_map] at hfirst
    rw [Pattern.first] at hhead
    rw [hhead] at hfirst
    exact (Option.some.inj hfirst).symm
  simp only [Pattern.reach, Pattern.results, List.mem_map, List.mem_reverse, List.mem_range,
    exists_exists_and_eq_and] at hstop
  obtain ⟨n, hn, rfl⟩ := hstop
  omega

theorem greedy_seq_of_unique {pos mid : ℕ}
    (h : ∀ stop ∈ a.reach text pos, b.reach text stop ≠ [] → stop = mid)
    (hb : b.Greedy text mid) : (a.seq b).Greedy text pos := by
  intro first hfirst stop hstop
  rw [reach_seq] at hfirst hstop
  have hmid : ∀ stop ∈ (a.reach text pos).flatMap (b.reach text), stop ∈ b.reach text mid := by
    intro stop hstop
    obtain ⟨d, hd, hmem⟩ := List.mem_flatMap.mp hstop
    rwa [← h d hd (List.ne_nil_of_mem hmem)]
  have hhead : first ∈ (b.reach text mid).head? := by
    generalize a.reach text pos = stops at h hfirst
    induction stops with
    | nil => cases hfirst
    | cons d stops ih =>
        rw [List.flatMap_cons] at hfirst
        by_cases hd : b.reach text d = []
        · rw [hd, List.nil_append] at hfirst
          exact ih (fun stop hstop => h stop (.tail d hstop)) hfirst
        · have hdmid := h d List.mem_cons_self hd
          rw [hdmid] at hd hfirst
          rwa [List.head?_append_of_ne_nil _ hd] at hfirst
  exact hb first hhead stop (hmid stop hstop)

theorem greedy_seq_of_size {n pos : ℕ} (ha : a.size? = some n)
    (hb : ∀ stop, b.Greedy text stop) : (a.seq b).Greedy text pos :=
  greedy_seq_of_unique (fun _ hstop _ => eq_of_mem_reach ha hstop) (hb (pos + n))

theorem greedy_foldr_of_size {as : List Pattern} (has : ∀ a ∈ as, a.size?.isSome)
    (hb : ∀ stop, b.Greedy text stop) (pos : ℕ) : (as.foldr Pattern.seq b).Greedy text pos := by
  induction as generalizing pos with
  | nil => exact hb pos
  | cons a as ih =>
      obtain ⟨n, hn⟩ := Option.isSome_iff_exists.mp (has a List.mem_cons_self)
      exact greedy_seq_of_size hn (ih fun b hb => has b (.tail a hb))

theorem reach_seq_empty (a : Pattern) (text : List Char) (pos : ℕ) :
    (a.seq .empty).reach text pos = a.reach text pos := by
  rw [reach_seq]
  exact List.flatMap_singleton' _

theorem greedy_seq_empty {pos : ℕ} (ha : a.Greedy text pos) : (a.seq .empty).Greedy text pos := by
  unfold Pattern.Greedy
  rw [reach_seq_empty]
  exact ha

theorem greedy_many1 (p : Char → Bool) (text : List Char) (pos : ℕ) :
    (Pattern.many1 p).Greedy text pos :=
  greedy_seq_of_size rfl (greedy_many p text)

theorem exists_between {pos first stop : ℕ} (ha : a.Within p) (hfirst : first ∈ a.reach text pos)
    (hstop : stop ∈ a.reach text pos) (hlt : stop < first) :
    ∃ c rest, text.drop stop = c :: rest ∧ p c = true := by
  obtain ⟨part, htext, hlength, hpart⟩ := accepts_of_mem_reach hfirst
  have hle := le_of_mem_reach hstop
  have hdrop : text.drop stop = part.drop (stop - pos) ++ text.drop first := by
    rw [← List.drop_append_of_le_length (by omega), ← htext, List.drop_drop]
    congr 1
    omega
  have hne : part.drop (stop - pos) ≠ [] := by
    rw [Ne, List.drop_eq_nil_iff]
    omega
  obtain ⟨c, cs, hcons⟩ := List.exists_cons_of_ne_nil hne
  refine ⟨c, cs ++ text.drop first, by rw [hdrop, hcons]; rfl, ?_⟩
  apply ha.all_of_accepts hpart
  apply List.mem_of_mem_drop
  rw [hcons]
  exact List.mem_cons_self

theorem Pattern.Begins.head_of_reach {pos stop : ℕ} {c : Char} {rest : List Char}
    (hb : b.Begins p) (h : stop ∈ b.reach text pos) (htext : text.drop pos = c :: rest) :
    p c = true := by
  obtain ⟨part, hdrop, -, hpart⟩ := accepts_of_mem_reach h
  obtain ⟨d, ds, rfl, hd⟩ := hb.head_of_accepts hpart
  rw [htext] at hdrop
  rwa [(List.cons.inj hdrop).1]

/-- What follows begins with a character that the first pattern does not take. -/
theorem greedy_seq_of_begins {pos : ℕ} (ha : a.Within p) (hb : b.Begins fun c => !p c)
    (hgreedy : ∀ stop, b.Greedy text stop) : (a.seq b).Greedy text pos := by
  by_cases h : ∃ mid ∈ a.reach text pos, b.reach text mid ≠ []
  · obtain ⟨mid, hmid, hon⟩ := h
    have hno : ∀ first ∈ a.reach text pos, ∀ stop ∈ a.reach text pos, b.reach text stop ≠ [] →
        ¬ stop < first := by
      intro first hfirst stop hstop hnext hlt
      obtain ⟨next, hnext⟩ := List.exists_mem_of_ne_nil _ hnext
      obtain ⟨c, rest, htext, hc⟩ := exists_between ha hfirst hstop hlt
      have hnot := hb.head_of_reach hnext htext
      rw [hc] at hnot
      cases hnot
    refine greedy_seq_of_unique (fun stop hstop hnext => ?_) (hgreedy mid)
    have hle := hno stop hstop mid hmid hon
    have hge := hno mid hmid stop hstop hnext
    omega
  · refine greedy_seq_of_unique (fun stop hstop hnext => ?_) (hgreedy pos)
    exact absurd ⟨stop, hstop, hnext⟩ h

theorem greedy_seq_of_stays {pos : ℕ} (ha : a.Greedy text pos)
    (hsome : ∀ stop, b.reach text stop ≠ [])
    (hstays : ∀ first ∈ a.reach text pos, ∀ stop ∈ a.reach text pos, stop < first →
      ∀ next ∈ b.reach text stop, next = stop)
    (hb : ∀ stop, b.Greedy text stop) : (a.seq b).Greedy text pos := by
  intro first hfirst stop hstop
  rw [reach_seq] at hfirst hstop
  cases hreach : a.reach text pos with
  | nil =>
      rw [hreach] at hfirst
      cases hfirst
  | cons d stops =>
      have hd : d ∈ a.reach text pos := by
        rw [hreach]
        exact List.mem_cons_self
      have hdhead : d ∈ (a.reach text pos).head? := by
        rw [hreach]
        rfl
      rw [hreach, List.flatMap_cons, List.head?_append_of_ne_nil _ (hsome d)] at hfirst
      have hdle : d ≤ first := le_of_mem_reach (List.mem_of_mem_head? hfirst)
      obtain ⟨e, he, hmem⟩ := List.mem_flatMap.mp hstop
      have hele : e ≤ d := ha d hdhead e he
      rcases Nat.lt_or_ge e d with hlt | hge
      · rw [hstays d hd e he hlt stop hmem]
        omega
      · rw [Nat.le_antisymm hele hge] at hmem
        exact hb d first hfirst stop hmem

theorem reach_optional_ne_nil (a : Pattern) (text : List Char) (pos : ℕ) :
    a.optional.reach text pos ≠ [] := by
  rw [Pattern.optional, reach_alt]
  exact List.append_ne_nil_of_right_ne_nil _ (List.cons_ne_nil pos [])

theorem greedy_optional {pos : ℕ} (ha : a.Greedy text pos) : a.optional.Greedy text pos := by
  intro first hfirst stop hstop
  rw [Pattern.optional, reach_alt] at hfirst hstop
  cases hreach : a.reach text pos with
  | nil =>
      rw [hreach, List.nil_append] at hfirst hstop
      obtain rfl := Option.some.inj hfirst
      exact (List.mem_singleton.mp hstop).le
  | cons d stops =>
      have hhead : first ∈ (a.reach text pos).head? := by
        rw [hreach]
        rw [hreach] at hfirst
        exact hfirst
      rcases List.mem_append.mp hstop with hmem | hmem
      · exact ha first hhead stop hmem
      · rw [List.mem_singleton.mp hmem]
        exact le_of_mem_reach (List.mem_of_mem_head? hhead)

theorem greedy_seq_optional {pos : ℕ} (ha : a.Within p) (hagreedy : a.Greedy text pos)
    (hb : b.Begins fun c => !p c) (hbgreedy : ∀ stop, b.Greedy text stop) :
    (a.seq (b.optional.seq .empty)).Greedy text pos := by
  refine greedy_seq_of_stays hagreedy ?_ ?_ fun stop =>
    greedy_seq_empty (greedy_optional (hbgreedy stop))
  · intro stop
    rw [reach_seq_empty]
    exact reach_optional_ne_nil b text stop
  · intro first hfirst stop hstop hlt next hnext
    obtain ⟨c, rest, htext, hc⟩ := exists_between ha hfirst hstop hlt
    rw [reach_seq_empty, Pattern.optional, reach_alt] at hnext
    rcases List.mem_append.mp hnext with hmem | hmem
    · have hnot := hb.head_of_reach hmem htext
      rw [hc] at hnot
      cases hnot
    · exact List.mem_singleton.mp hmem

theorem greedy_alt {pos : ℕ} (ha : a.Begins p) (hb : b.Begins fun c => !p c)
    (hagreedy : a.Greedy text pos) (hbgreedy : b.Greedy text pos) :
    (a.alt b).Greedy text pos := by
  unfold Pattern.Greedy
  rw [reach_alt]
  cases hreach : a.reach text pos with
  | nil =>
      rw [List.nil_append]
      exact hbgreedy
  | cons stop stops =>
      have hstop : stop ∈ a.reach text pos := by
        rw [hreach]
        exact List.mem_cons_self
      have hnone : b.reach text pos = [] := by
        rw [List.eq_nil_iff_forall_not_mem]
        intro next hnext
        obtain ⟨part, htext, -, hpart⟩ := accepts_of_mem_reach hstop
        obtain ⟨c, cs, rfl, hc⟩ := ha.head_of_accepts hpart
        have hnot := hb.head_of_reach hnext htext
        rw [hc] at hnot
        cases hnot
      rw [hnone, List.append_nil, ← hreach]
      exact hagreedy

end TextPattern
