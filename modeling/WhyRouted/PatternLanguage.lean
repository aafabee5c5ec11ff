import Mathlib.Data.List.TakeWhile
import WhyRouted.TextPattern

/-! # The language of a pattern

The parts of a text a pattern can take, whatever way it finds them.  Every way to match takes a part
of the language (`accepts_of_mem_results`), and a pattern without assertions has a way to match
every such part (`exists_mem_results`). -/

namespace TextPattern

/-- The parts a pattern takes. -/
def Pattern.Accepts : Pattern → List Char → Prop
  | empty, part => part = []
  | char p, part => ∃ c, part = [c] ∧ p c = true
  | many p, part => ∀ c ∈ part, p c = true
  | few p, part => ∀ c ∈ part, p c = true
  | seq a b, part => ∃ u v, part = u ++ v ∧ a.Accepts u ∧ b.Accepts v
  | alt a b, part => a.Accepts part ∨ b.Accepts part
  | group _ a, part => a.Accepts part
  | boundary, part => part = []
  | start, part => part = []
  | finish, part => part = []

/-- No assertion stands in the pattern. -/
def Pattern.Plain : Pattern → Prop
  | empty => True
  | char _ => True
  | many _ => True
  | few _ => True
  | seq a b => a.Plain ∧ b.Plain
  | alt a b => a.Plain ∧ b.Plain
  | group _ a => a.Plain
  | boundary => False
  | start => False
  | finish => False

variable {a b : Pattern} {p : Char → Bool} {text part : List Char} {c c' : Cursor}

/-! ### Ways to match and the language -/

/-- What lies between two places. -/
structure Takes (text part : List Char) (c c' : Cursor) : Prop where
  text_eq : text.drop c.pos = part ++ text.drop c'.pos
  pos_eq : c'.pos = c.pos + part.length

theorem Takes.nil (c : Cursor) (groups : List (ℕ × Span)) :
    Takes text [] c { c with groups := groups } := ⟨rfl, rfl⟩

theorem Takes.append {u v : List Char} {d : Cursor} (hu : Takes text u c d)
    (hv : Takes text v d c') : Takes text (u ++ v) c c' := by
  refine ⟨?_, ?_⟩
  · rw [hu.text_eq, hv.text_eq, List.append_assoc]
  · rw [hv.pos_eq, hu.pos_eq, List.length_append]
    omega

theorem takes_run {n : ℕ} (hn : n ≤ runLength p text c.pos) :
    Takes text ((text.drop c.pos).take n) c { c with pos := c.pos + n } ∧
      ∀ d ∈ (text.drop c.pos).take n, p d = true := by
  unfold runLength at hn
  have htaken : (text.drop c.pos).take n <+: (text.drop c.pos).takeWhile p :=
    List.prefix_of_prefix_length_le (List.take_prefix n _) (List.takeWhile_prefix p)
      (by rw [List.length_take]; omega)
  have hle : n ≤ (text.drop c.pos).length := Nat.le_trans hn (List.takeWhile_prefix p).length_le
  refine ⟨⟨?_, ?_⟩, fun d hd => List.mem_takeWhile_imp (htaken.subset hd)⟩
  · rw [← List.drop_drop, List.take_append_drop]
  · rw [List.length_take, Nat.min_eq_left hle]

/-- **Every way to match takes a part of the language.** -/
theorem accepts_of_mem_results (h : c' ∈ a.results text c) :
    ∃ part, Takes text part c c' ∧ a.Accepts part := by
  induction a generalizing c c' with
  | empty =>
      obtain rfl := List.mem_singleton.mp h
      exact ⟨[], .nil c' _, rfl⟩
  | char p =>
      obtain ⟨hp, rfl⟩ := mem_char_iff.mp h
      obtain ⟨d, hd, hpd⟩ := (Option.any_eq_true _ _).mp hp
      refine ⟨[d], ⟨?_, rfl⟩, d, rfl, hpd⟩
      obtain ⟨hlt, rfl⟩ := List.getElem?_eq_some_iff.mp hd
      exact List.drop_eq_getElem_cons hlt
  | many p =>
      simp only [Pattern.results, List.mem_map, List.mem_reverse, List.mem_range] at h
      obtain ⟨n, hn, rfl⟩ := h
      exact ⟨_, takes_run (by omega)⟩
  | few p =>
      simp only [Pattern.results, List.mem_map, List.mem_range] at h
      obtain ⟨n, hn, rfl⟩ := h
      exact ⟨_, takes_run (by omega)⟩
  | seq a b iha ihb =>
      obtain ⟨d, hd, hc'⟩ := mem_results_seq.mp h
      obtain ⟨u, hu, hau⟩ := iha hd
      obtain ⟨v, hv, hbv⟩ := ihb hc'
      exact ⟨u ++ v, hu.append hv, u, v, rfl, hau, hbv⟩
  | alt a b iha ihb =>
      rcases mem_results_alt.mp h with ha | hb
      · obtain ⟨part, ht, hp⟩ := iha ha
        exact ⟨part, ht, .inl hp⟩
      · obtain ⟨part, ht, hp⟩ := ihb hb
        exact ⟨part, ht, .inr hp⟩
  | group i a ih =>
      obtain ⟨d, hd, rfl⟩ := List.mem_map.mp h
      obtain ⟨part, ht, hp⟩ := ih hd
      exact ⟨part, ⟨ht.text_eq, ht.pos_eq⟩, hp⟩
  | boundary =>
      obtain ⟨-, rfl⟩ := mem_boundary_iff.mp h
      exact ⟨[], .nil c' _, rfl⟩
  | start =>
      obtain ⟨-, rfl⟩ := mem_start_iff.mp h
      exact ⟨[], .nil c' _, rfl⟩
  | finish =>
      obtain ⟨-, rfl⟩ := mem_finish_iff.mp h
      exact ⟨[], .nil c' _, rfl⟩

theorem length_le_runLength {pos : ℕ} {rest : List Char} (h : text.drop pos = part ++ rest)
    (hpart : ∀ d ∈ part, p d = true) : part.length ≤ runLength p text pos := by
  unfold runLength
  rw [h, List.takeWhile_append_of_pos hpart, List.length_append]
  omega

/-- **A pattern without assertions takes every part of its language.** -/
theorem exists_mem_results (ha : a.Plain) (h : a.Accepts part) {pos : ℕ} {rest : List Char}
    (htext : text.drop pos = part ++ rest) (groups : List (ℕ × Span)) :
    ∃ groups', ⟨pos + part.length, groups'⟩ ∈ a.results text ⟨pos, groups⟩ := by
  induction a generalizing part pos rest groups with
  | empty =>
      obtain rfl := h
      exact ⟨groups, List.mem_singleton.mpr rfl⟩
  | char p =>
      obtain ⟨d, rfl, hd⟩ := h
      exact ⟨groups, by simp [Pattern.results, getElem?_of_drop htext, hd]⟩
  | many p =>
      have hle := length_le_runLength htext h
      refine ⟨groups, ?_⟩
      simp only [Pattern.results, List.mem_map, List.mem_reverse, List.mem_range]
      exact ⟨part.length, by omega, rfl⟩
  | few p =>
      have hle := length_le_runLength htext h
      refine ⟨groups, ?_⟩
      simp only [Pattern.results, List.mem_map, List.mem_range]
      exact ⟨part.length, by omega, rfl⟩
  | seq a b iha ihb =>
      obtain ⟨u, v, rfl, hu, hv⟩ := h
      rw [List.append_assoc] at htext
      obtain ⟨groups', hmem⟩ := iha ha.1 hu htext groups
      obtain ⟨groups'', hmem'⟩ := ihb ha.2 hv (drop_of_append htext) groups'
      refine ⟨groups'', mem_results_seq.mpr ⟨_, hmem, ?_⟩⟩
      rw [List.length_append, ← Nat.add_assoc]
      exact hmem'
  | alt a b iha ihb =>
      rcases h with h | h
      · obtain ⟨groups', hmem⟩ := iha ha.1 h htext groups
        exact ⟨groups', mem_results_alt.mpr (.inl hmem)⟩
      · obtain ⟨groups', hmem⟩ := ihb ha.2 h htext groups
        exact ⟨groups', mem_results_alt.mpr (.inr hmem)⟩
  | group i a ih =>
      obtain ⟨groups', hmem⟩ := ih ha h htext groups
      exact ⟨_, List.mem_map_of_mem hmem⟩
  | boundary => exact ha.elim
  | start => exact ha.elim
  | finish => exact ha.elim

/-! ### The languages of the combinations -/

theorem accepts_optional : a.optional.Accepts part ↔ part = [] ∨ a.Accepts part := or_comm

theorem accepts_many1 :
    (Pattern.many1 p).Accepts part ↔ part ≠ [] ∧ ∀ c ∈ part, p c = true := by
  constructor
  · rintro ⟨_, v, rfl, ⟨c, rfl, hc⟩, hv⟩
    exact ⟨by simp, fun d hd => (List.mem_cons.mp hd).elim (fun h => h ▸ hc) (hv d)⟩
  · rintro ⟨hne, hpart⟩
    cases part with
    | nil => exact absurd rfl hne
    | cons c cs =>
        exact ⟨[c], cs, rfl, ⟨c, rfl, hpart c List.mem_cons_self⟩,
          fun d hd => hpart d (.tail c hd)⟩

theorem accepts_few1 :
    (Pattern.few1 p).Accepts part ↔ part ≠ [] ∧ ∀ c ∈ part, p c = true := accepts_many1

theorem accepts_oneOf {as : List Pattern} :
    (Pattern.oneOf as).Accepts part ↔ ∃ a ∈ as, a.Accepts part := by
  induction as with
  | nil => simp [Pattern.oneOf, Pattern.Accepts]
  | cons a as ih =>
      rw [Pattern.oneOf, List.exists_mem_cons_iff, ← ih]
      rfl

theorem accepts_literal {fold : Char → Char} {word : List Char} :
    (Pattern.literal fold word).Accepts part ↔ part.map fold = word := by
  unfold Pattern.literal
  induction word generalizing part with
  | nil => simp [Pattern.all, Pattern.Accepts]
  | cons w word ih =>
      rw [List.map_cons, Pattern.all]
      constructor
      · rintro ⟨_, v, rfl, ⟨c, rfl, hc⟩, hv⟩
        rw [List.singleton_append, List.map_cons, ih.mp hv, of_decide_eq_true hc]
      · intro h
        cases part with
        | nil => cases h
        | cons c cs =>
            obtain ⟨hc, hcs⟩ := List.cons.inj h
            exact ⟨[c], cs, rfl, ⟨c, rfl, decide_eq_true hc⟩, ih.mpr hcs⟩

end TextPattern
