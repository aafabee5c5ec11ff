import Mathlib.Data.List.Basic
import Mathlib.Data.List.Induction

/-! # Executions of a labelled transition system

`Exec step s₀ tr s` says that the system whose steps are `step` can go from `s₀` to `s`, and
`tr` lists the transitions taken, in order, each with the state before it, its label and the
state after it.  Executions grow at the end, so an induction over one sees the last step and
the whole history before it.

The rules are: an execution splits at every point of its transition list
(`exec_append`, `Exec.split`), every transition in it is a step of the system
(`Exec.step_of_mem`), an invariant holds in every state reached (`Exec.invariant`,
`Exec.invariant_of_mem`), one system simulates another when each of its steps is matched by an
execution of the other (`Exec.simulate`), and an execution of a system is one of each of its
components (`Exec.project`).  A goal is reached in at most so many steps when every state short of
it has a step to one that is closer (`exists_exec_of_rank`). -/

structure Transition (σ α : Type) where
  pre : σ
  label : α
  post : σ

/-- `Exec step s₀ tr s`: taking the transitions `tr` from `s₀` ends in `s`. -/
inductive Exec {σ α : Type} (step : σ → α → σ → Prop) (s₀ : σ) :
    List (Transition σ α) → σ → Prop
  | nil : Exec step s₀ [] s₀
  | snoc {tr : List (Transition σ α)} {s t : σ} {a : α} :
      Exec step s₀ tr s → step s a t → Exec step s₀ (tr ++ [⟨s, a, t⟩]) t

section rules

variable {σ α : Type} {step : σ → α → σ → Prop} {s₀ s t u : σ}
  {tr tr₁ tr₂ : List (Transition σ α)}

theorem Exec.single {a : α} (h : step s a t) : Exec step s [⟨s, a, t⟩] t :=
  Exec.nil.snoc h

theorem exec_nil_iff : Exec step s₀ [] s ↔ s = s₀ := by
  constructor
  · intro h
    generalize hl : ([] : List (Transition σ α)) = l at h
    cases h with
    | nil => rfl
    | snoc h₁ h₂ => simp at hl
  · rintro rfl
    exact Exec.nil

theorem exec_snoc_iff {x : Transition σ α} :
    Exec step s₀ (tr ++ [x]) s ↔
      Exec step s₀ tr x.pre ∧ step x.pre x.label x.post ∧ s = x.post := by
  constructor
  · intro h
    generalize hl : tr ++ [x] = l at h
    cases h with
    | nil => simp at hl
    | snoc h₁ h₂ =>
        obtain ⟨rfl, rfl⟩ := List.append_inj' hl rfl |>.imp id (fun h => by simpa using h)
        exact ⟨h₁, h₂, rfl⟩
  · rintro ⟨h₁, h₂, rfl⟩
    exact h₁.snoc h₂

theorem exec_append : Exec step s₀ (tr₁ ++ tr₂) t ↔
    ∃ s, Exec step s₀ tr₁ s ∧ Exec step s tr₂ t := by
  induction tr₂ using List.reverseRecOn generalizing t with
  | nil => simp [exec_nil_iff]
  | append_singleton l x ih =>
      rw [← List.append_assoc, exec_snoc_iff, ih]
      constructor
      · rintro ⟨⟨s, h₁, h₂⟩, hx, rfl⟩
        exact ⟨s, h₁, exec_snoc_iff.mpr ⟨h₂, hx, rfl⟩⟩
      · rintro ⟨s, h₁, h₂⟩
        obtain ⟨h₃, hx, rfl⟩ := exec_snoc_iff.mp h₂
        exact ⟨⟨s, h₁, h₃⟩, hx, rfl⟩

theorem Exec.trans (h₁ : Exec step s₀ tr₁ s) (h₂ : Exec step s tr₂ t) :
    Exec step s₀ (tr₁ ++ tr₂) t :=
  exec_append.mpr ⟨s, h₁, h₂⟩

/-- At a transition of an execution: what came before it, the step itself, what came after. -/
theorem Exec.split {x : Transition σ α} (h : Exec step s₀ (tr₁ ++ x :: tr₂) t) :
    Exec step s₀ tr₁ x.pre ∧ step x.pre x.label x.post ∧ Exec step x.post tr₂ t := by
  rw [List.append_cons, exec_append] at h
  obtain ⟨s, h₁, h₂⟩ := h
  obtain ⟨h₃, hx, rfl⟩ := exec_snoc_iff.mp h₁
  exact ⟨h₃, hx, h₂⟩

/-- At a transition in the second part of an execution: the execution up to it, and with it. -/
theorem Exec.split_of_mem {x : Transition σ α} (h : Exec step s₀ (tr₁ ++ tr₂) t) (hx : x ∈ tr₂) :
    ∃ u v, tr₂ = u ++ x :: v ∧ Exec step s₀ (tr₁ ++ u) x.pre ∧ step x.pre x.label x.post ∧
      Exec step s₀ (tr₁ ++ (u ++ [x])) x.post := by
  obtain ⟨u, v, rfl⟩ := List.append_of_mem hx
  rw [← List.append_assoc] at h
  obtain ⟨hbefore, hstep, -⟩ := h.split
  refine ⟨u, v, rfl, hbefore, hstep, ?_⟩
  rw [← List.append_assoc]
  exact hbefore.snoc hstep

theorem Exec.step_of_mem (h : Exec step s₀ tr t) {x : Transition σ α} (hx : x ∈ tr) :
    step x.pre x.label x.post := by
  obtain ⟨tr₁, tr₂, rfl⟩ := List.append_of_mem hx
  exact h.split.2.1

/-- Every transition of an execution starts in a state that execution reaches. -/
theorem Exec.pre_of_mem (h : Exec step s₀ tr t) {x : Transition σ α} (hx : x ∈ tr) :
    ∃ tr₁, Exec step s₀ tr₁ x.pre := by
  obtain ⟨tr₁, tr₂, rfl⟩ := List.append_of_mem hx
  exact ⟨tr₁, h.split.1⟩

/-- **The invariant rule**: what holds at the start and is preserved by every step holds at
the end. -/
theorem Exec.invariant {P : σ → Prop} (hstep : ∀ s a t, step s a t → P s → P t)
    (h : Exec step s₀ tr t) (h₀ : P s₀) : P t := by
  induction h with
  | nil => exact h₀
  | snoc _ hs ih => exact hstep _ _ _ hs ih

/-- The invariant rule inside a window: only the steps of the execution must preserve `P`. -/
theorem Exec.invariant_of_mem {P : σ → Prop} (h : Exec step s₀ tr t)
    (hstep : ∀ x ∈ tr, P x.pre → P x.post) (h₀ : P s₀) :
    P t ∧ ∀ x ∈ tr, P x.pre ∧ P x.post := by
  induction h with
  | nil => simpa using h₀
  | @snoc tr s t a h hs ih =>
      obtain ⟨hP, hall⟩ := ih (fun x hx => hstep x (List.mem_append_left _ hx))
      have hPt : P t := hstep ⟨s, a, t⟩ (by simp) hP
      refine ⟨hPt, ?_⟩
      intro x hx
      rcases List.mem_append.mp hx with hx | hx
      · exact hall x hx
      · obtain rfl := List.mem_singleton.mp hx
        exact ⟨hP, hPt⟩

/-- **The progress rule**: when every state of rank `n` that is not there yet has an allowed step to
one of a lower rank, the goal is at most `n` allowed steps away. -/
theorem exists_exec_of_rank {P : σ → Prop} {A : Transition σ α → Prop} {R : ℕ → σ → Prop}
    (hnext : ∀ n s, R n s → ¬ P s → ∃ m < n, ∃ a t, step s a t ∧ A ⟨s, a, t⟩ ∧ R m t) {n : ℕ}
    (hs : R n s) : ∃ tr t, Exec step s tr t ∧ P t ∧ (∀ x ∈ tr, A x) ∧ tr.length ≤ n := by
  induction n using Nat.strongRecOn generalizing s with
  | ind n ih =>
      by_cases hP : P s
      · exact ⟨[], s, Exec.nil, hP, by simp, Nat.zero_le n⟩
      · obtain ⟨m, hm, a, u, hstep, hA, hu⟩ := hnext n s hs hP
        obtain ⟨tr, t, hexec, ht, hall, hlen⟩ := ih m hm hu
        refine ⟨⟨s, a, u⟩ :: tr, t, (Exec.single hstep).trans hexec, ht, ?_, ?_⟩
        · simpa using ⟨hA, hall⟩
        · rw [List.length_cons]
          omega

/-- **The simulation rule**: when every step of one system is matched by an execution of
another between related states, so is every execution. -/
theorem Exec.simulate {σ' α' : Type} {step' : σ' → α' → σ' → Prop} (abs : σ → σ')
    (hstep : ∀ s a t, step s a t → ∃ tr', Exec step' (abs s) tr' (abs t))
    (h : Exec step s₀ tr t) : ∃ tr', Exec step' (abs s₀) tr' (abs t) := by
  induction h with
  | nil => exact ⟨[], Exec.nil⟩
  | snoc _ hs ih =>
      obtain ⟨tr₁, h₁⟩ := ih
      obtain ⟨tr₂, h₂⟩ := hstep _ _ _ hs
      exact ⟨tr₁ ++ tr₂, h₁.trans h₂⟩

/-- **The projection rule**: when every step of a system does `parts` to a component, so does an
execution, one step after the other. -/
theorem Exec.project {σ' α' : Type} {step' : σ' → α' → σ' → Prop} (component : σ → σ')
    (parts : Transition σ α → List (Transition σ' α'))
    (hstep : ∀ s a t, step s a t → Exec step' (component s) (parts ⟨s, a, t⟩) (component t))
    (h : Exec step s₀ tr t) : Exec step' (component s₀) (tr.flatMap parts) (component t) := by
  induction h with
  | nil => exact Exec.nil
  | snoc _ hs ih =>
      rw [List.flatMap_append, List.flatMap_singleton]
      exact ih.trans (hstep _ _ _ hs)

end rules

/-! ### Computed steps -/

section computed

variable {σ α β ε : Type} (f : σ → α → Except ε (σ × β))

/-- The steps of an operation that computes its next state and a result, labelled with its
argument and its result. -/
def Computes (s : σ) (label : α × β) (t : σ) : Prop := f s label.1 = .ok (t, label.2)

/-- Perform a list of operations one after the other. -/
def replay (s : σ) : List α → Except ε (List (Transition σ (α × β)) × σ)
  | [] => .ok ([], s)
  | a :: as => do
      let (t, b) ← f s a
      let (tr, u) ← replay t as
      return (⟨s, (a, b), t⟩ :: tr, u)

variable {f} {s t : σ} {as : List α} {tr : List (Transition σ (α × β))}

/-- A `do` block that returned: what its first line returned, and the rest from there. -/
theorem ok_of_bind {x : Except ε α} {g : α → Except ε β} {b : β} (h : x >>= g = .ok b) :
    ∃ a, x = .ok a ∧ g a = .ok b := by
  cases x with
  | error e => cases h
  | ok a => exact ⟨a, rfl, h⟩

theorem Exec.computed {a : α} {b : β} (h : f s a = .ok (t, b)) :
    Exec (Computes f) s [⟨s, (a, b), t⟩] t :=
  Exec.single h

/-- A computation that passes a check: what it returned, and that it passes. -/
theorem exists_of_check (x : Except ε α) (p : α → Bool) (h : x.toOption.any p = true) :
    ∃ a, x = .ok a ∧ p a = true := by
  cases x with
  | error e => simp [Except.toOption] at h
  | ok a => exact ⟨a, rfl, by simpa [Except.toOption] using h⟩

/-- A replayed list is an execution, and its labels are the list. -/
theorem exec_of_replay (h : replay f s as = .ok (tr, t)) :
    Exec (Computes f) s tr t ∧ tr.map (fun x => x.label.1) = as := by
  induction as generalizing s tr with
  | nil =>
      obtain ⟨rfl, rfl⟩ := Prod.mk.inj (Except.ok.inj h)
      exact ⟨Exec.nil, rfl⟩
  | cons a as ih =>
      obtain ⟨⟨u, b⟩, hf, h⟩ := ok_of_bind h
      obtain ⟨⟨tr', t'⟩, hr, h⟩ := ok_of_bind h
      obtain ⟨rfl, rfl⟩ := Prod.mk.inj (Except.ok.inj h)
      obtain ⟨hexec, hlabels⟩ := ih hr
      exact ⟨Exec.trans (Exec.single hf) hexec, by rw [List.map_cons, hlabels]⟩

end computed
