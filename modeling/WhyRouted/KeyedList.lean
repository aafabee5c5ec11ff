import Mathlib.Data.List.Nodup

/-! # Insertion-ordered keyed collections

A list of records read through a key projection, with no key occurring twice: the value of a
map that iterates in insertion order and whose entries carry their own key.  `get?` is the
lookup, `push` appends an entry under a fresh key, and `modify` rewrites the entry under one
key in place, by a function that keeps the key.  The lemmas say what each operation does to
a lookup, to the keys and to the membership of an entry. -/

/-- A list without repeated keys. -/
structure KeyedList {κ α : Type} (key : α → κ) where
  items : List α
  nodup : (items.map key).Nodup

namespace KeyedList

variable {κ α β : Type} {key : α → κ}

def empty : KeyedList key := ⟨[], List.nodup_nil⟩

def keys (m : KeyedList key) : List κ := m.items.map key

theorem eq_of_mem_of_key_eq (m : KeyedList key) {a b : α} (ha : a ∈ m.items) (hb : b ∈ m.items)
    (h : key a = key b) : a = b :=
  List.inj_on_of_nodup_map m.nodup ha hb h

theorem map_key_eq {f : α → α} (hf : ∀ a, key (f a) = key a) (l : List α) :
    (l.map f).map key = l.map key := by
  simp [List.map_map, Function.comp_def, hf]

variable [DecidableEq κ]

def get? (m : KeyedList key) (k : κ) : Option α := m.items.find? (fun a => key a = k)

theorem get?_eq_some_iff (m : KeyedList key) {k : κ} {a : α} :
    m.get? k = some a ↔ a ∈ m.items ∧ key a = k := by
  constructor
  · intro h
    exact ⟨List.mem_of_find?_eq_some h, by simpa using List.find?_some h⟩
  · rintro ⟨ha, hk⟩
    cases hf : m.get? k with
    | none =>
        have := List.find?_eq_none.mp hf a ha
        simp [hk] at this
    | some b =>
        have hb := List.mem_of_find?_eq_some hf
        have hkb : key b = k := by simpa using List.find?_some hf
        rw [m.eq_of_mem_of_key_eq ha hb (hk.trans hkb.symm)]

theorem get?_eq_none_iff (m : KeyedList key) {k : κ} : m.get? k = none ↔ k ∉ m.keys := by
  unfold get? keys
  rw [List.find?_eq_none]
  constructor
  · intro h hk
    obtain ⟨a, ha, rfl⟩ := List.mem_map.mp hk
    simpa using h a ha
  · intro h a ha hk
    exact h (List.mem_map.mpr ⟨a, ha, by simpa using hk⟩)

/-- Two collections with the same keys, one of which shows `f` of what the other does, list the
same entries in the same order, up to `f`. -/
theorem items_eq_map {m m' : KeyedList key} (f : α → α) (hkeys : m'.keys = m.keys)
    (hget : ∀ k, m'.get? k = (m.get? k).map f) :
    m'.items = m.items.map f := by
  have hlength : m'.items.length = m.items.length := by
    simpa [keys] using congrArg List.length hkeys
  apply List.ext_getElem
  · rw [hlength, List.length_map]
  · intro i hi' hi
    have hi₀ : i < m.items.length := hlength ▸ hi'
    have hkey : key m'.items[i] = key m.items[i] := by
      have hat := congrArg (·[i]?) hkeys
      simpa [keys, hi', hi₀] using hat
    have hold : m.get? (key m.items[i]) = some m.items[i] :=
      m.get?_eq_some_iff.mpr ⟨List.getElem_mem hi₀, rfl⟩
    have hnew : m'.get? (key m'.items[i]) = some m'.items[i] :=
      m'.get?_eq_some_iff.mpr ⟨List.getElem_mem hi', rfl⟩
    rw [hkey, hget, hold, Option.map_some, Option.some.injEq] at hnew
    rw [List.getElem_map, hnew]

def has (m : KeyedList key) (k : κ) : Bool := (m.get? k).isSome

def push (m : KeyedList key) (a : α) (h : m.get? (key a) = none) : KeyedList key where
  items := m.items ++ [a]
  nodup := by
    have hk := m.get?_eq_none_iff.mp h
    rw [List.map_append, List.nodup_append]
    refine ⟨m.nodup, by simp, ?_⟩
    intro x hx y hy hxy
    simp only [List.map_cons, List.map_nil, List.mem_singleton] at hy
    exact hk (by rw [← hy, ← hxy]; exact hx)

theorem get?_push (m : KeyedList key) (a : α) (h : m.get? (key a) = none) (k : κ) :
    (m.push a h).get? k = if k = key a then some a else m.get? k := by
  have hfind : (m.push a h).get? k = (m.get? k).or (if key a = k then some a else none) := by
    unfold get? push
    rw [List.find?_append]
    by_cases hk : key a = k <;> simp [hk]
  rw [hfind]
  split_ifs with h₁ h₂ h₃
  · rw [h₂, h]; rfl
  · exact absurd h₁.symm h₂
  · exact absurd h₃.symm h₁
  · exact Option.or_none

def modify (m : KeyedList key) (k : κ) (f : α → α) (hf : ∀ a, key (f a) = key a) :
    KeyedList key where
  items := m.items.map (fun a => if key a = k then f a else a)
  nodup := by
    rw [map_key_eq (fun a => by split_ifs <;> simp [hf])]
    exact m.nodup

variable (m : KeyedList key) (k : κ) (f : α → α) (hf : ∀ a, key (f a) = key a)

@[simp] theorem keys_modify : (m.modify k f hf).keys = m.keys :=
  map_key_eq (fun a => by split_ifs <;> simp [hf]) m.items

theorem mem_modify {b : α} : b ∈ (m.modify k f hf).items ↔
    (b ∈ m.items ∧ key b ≠ k) ∨ (∃ a ∈ m.items, key a = k ∧ b = f a) := by
  simp only [modify, List.mem_map]
  constructor
  · rintro ⟨a, ha, rfl⟩
    by_cases hk : key a = k
    · exact Or.inr ⟨a, ha, hk, by simp [hk]⟩
    · exact Or.inl ⟨by simpa [hk] using ha, by simp [hk]⟩
  · rintro (⟨hb, hk⟩ | ⟨a, ha, hk, rfl⟩)
    · exact ⟨b, hb, by simp [hk]⟩
    · exact ⟨a, ha, by simp [hk]⟩

@[simp] theorem get?_modify_self : (m.modify k f hf).get? k = (m.get? k).map f := by
  cases h : m.get? k with
  | none =>
      rw [Option.map_none, get?_eq_none_iff, keys_modify]
      exact m.get?_eq_none_iff.mp h
  | some a =>
      obtain ⟨ha, hk⟩ := m.get?_eq_some_iff.mp h
      rw [Option.map_some, get?_eq_some_iff, mem_modify]
      exact ⟨Or.inr ⟨a, ha, hk, rfl⟩, by rw [hf, hk]⟩

theorem modify_eq_self (h : ∀ a ∈ m.items, key a = k → f a = a) : m.modify k f hf = m := by
  have hitems : m.items.map (fun a => if key a = k then f a else a) = m.items := by
    calc
      m.items.map (fun a => if key a = k then f a else a) = m.items.map id := by
        apply List.map_congr_left
        intro a ha
        split_ifs with hk
        · exact h a ha hk
        · rfl
      _ = m.items := List.map_id _
  obtain ⟨items, nodup⟩ := m
  simpa only [modify, KeyedList.mk.injEq] using hitems

theorem get?_modify_ne {j : κ} (hj : j ≠ k) : (m.modify k f hf).get? j = m.get? j := by
  cases h : m.get? j with
  | none =>
      rw [get?_eq_none_iff, keys_modify]
      exact m.get?_eq_none_iff.mp h
  | some a =>
      obtain ⟨ha, hk⟩ := m.get?_eq_some_iff.mp h
      rw [get?_eq_some_iff, mem_modify]
      exact ⟨Or.inl ⟨ha, by rw [hk]; exact hj⟩, hk⟩

end KeyedList
