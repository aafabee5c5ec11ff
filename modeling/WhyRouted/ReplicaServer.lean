import Mathlib.Data.Int.Order.Basic
import WhyRouted.Actions
import WhyRouted.Histories

/-! # A simulated replica

`createReplicaApp` of `src/replica/server.ts`.  An app keeps a counter of the `/infer` calls in
progress and two fault flags.  Every handler but one runs in one stretch; `/infer` sleeps between
its two, so any number of calls sleep at a time and anything may happen before one wakes.

`express.json()` runs before the handlers and may answer a call by itself: that is the library's
doing, and the status it answers with is a parameter of the call.  So are the synthetic load, the
clock and the measured latency, which the app reads and never looks at.

What the app answers is a function of what it was sent (`replies_iff`): the flags are the faults
that still stand, and the counter is the calls accepted less the calls answered. -/

namespace WhyRouted

variable {ν : Type}

/-- What a replica answers. -/
inductive ReplicaReply (ν : Type) where
  /-- `GET /health`. -/
  | load (inFlight : ℤ)
  /-- An admin endpoint. -/
  | faults (state : FaultState)
  /-- `POST /infer`. -/
  | inference (replicaId servedAt : String) (latencyMs : ν)
  | refused (error : String)
  /-- `express.json()` could not take the body. -/
  | unparsed (status : ℕ)
deriving DecidableEq, Repr

def ReplicaReply.status : ReplicaReply ν → ℕ
  | load _ => 200
  | faults _ => 200
  | inference _ _ _ => 200
  | refused _ => 503
  | unparsed status => status

/-- The app of one replica. -/
structure ReplicaApp where
  id : String
  inFlight : ℤ := 0
  killed : Bool := false
  inferFailing : Bool := false
  /-- The `/infer` calls that sleep. -/
  sleeping : List ℕ := []
  /-- The `/infer` calls accepted so far; the next one's number. -/
  accepted : ℕ := 0
deriving DecidableEq, Repr

/-- What can happen to a replica. -/
inductive ReplicaInput (ν : Type) where
  | health (baselineLoad : ℕ)
  | admin (mode : FaultMode)
  /-- A call of `/infer`, with what `express.json()` answers if it does. -/
  | infer (unparsed : Option ℕ)
  /-- The sleep of a call ends. -/
  | wakes (call : ℕ) (servedAt : String) (latencyMs : ν)

/-- What it does at once: an answer, or an `/infer` call put to sleep. -/
inductive ReplicaOutput (ν : Type) where
  | replied (reply : ReplicaReply ν)
  | sleeps (call : ℕ)
deriving DecidableEq, Repr

namespace ReplicaApp

def fresh (id : String) : ReplicaApp := { id }

/-- The body of the three admin endpoints. -/
def faults (s : ReplicaApp) : FaultState := ⟨s.killed, s.inferFailing⟩

/-- `GET /health`. -/
def health (s : ReplicaApp) (baselineLoad : ℕ) : ReplicaReply ν :=
  if s.killed then .refused "killed" else .load (s.inFlight + baselineLoad)

/-- `POST /admin/kill`, `/admin/fail-infer` and `/admin/revive`. -/
def admin (s : ReplicaApp) : FaultMode → ReplicaApp
  | .kill => { s with killed := true }
  | .failInfer => { s with inferFailing := true }
  | .revive => { s with killed := false, inferFailing := false }

/-- `POST /infer` up to its sleep. -/
def infer (s : ReplicaApp) : ReplicaApp × ReplicaOutput ν :=
  if s.killed || s.inferFailing then
    (s, .replied (.refused (if s.killed then "killed" else "infer_failing")))
  else
    ({ s with
        inFlight := s.inFlight + 1
        sleeping := s.sleeping ++ [s.accepted]
        accepted := s.accepted + 1 },
      .sleeps s.accepted)

/-- `POST /infer` after its sleep, the `finally` included. -/
def wake (s : ReplicaApp) (call : ℕ) (servedAt : String) (latencyMs : ν) :
    ReplicaApp × ReplicaOutput ν :=
  ({ s with inFlight := s.inFlight - 1, sleeping := s.sleeping.erase call },
    .replied (.inference s.id servedAt latencyMs))

def step (s : ReplicaApp) : ReplicaInput ν → Except String (ReplicaApp × ReplicaOutput ν)
  | .health baselineLoad => .ok (s, .replied (s.health baselineLoad))
  | .admin mode => .ok (s.admin mode, .replied (.faults (s.admin mode).faults))
  | .infer (some status) => .ok (s, .replied (.unparsed status))
  | .infer none => .ok s.infer
  | .wakes call servedAt latencyMs =>
      if call ∈ s.sleeping then .ok (s.wake call servedAt latencyMs)
      else .error "no such call sleeps"

abbrev Step : ReplicaApp → ReplicaInput ν × ReplicaOutput ν → ReplicaApp → Prop := Computes step

abbrev Trace (ν : Type) := List (Transition ReplicaApp (ReplicaInput ν × ReplicaOutput ν))

/-! ### Reading a run -/

def adminsIn (tr : Trace ν) : List FaultMode :=
  tr.filterMap fun x => match x.label.1 with
    | .admin mode => some mode
    | _ => none

def acceptedIn (tr : Trace ν) : List ℕ :=
  tr.filterMap fun x => match x.label.2 with
    | .sleeps call => some call
    | .replied _ => none

def answeredIn (tr : Trace ν) : List ℕ :=
  tr.filterMap fun x => match x.label.1 with
    | .wakes call _ _ => some call
    | _ => none

/-- A fault was injected, and none has been cleared since. -/
def Stands (fault : FaultMode) (modes : List FaultMode) : Prop :=
  Standing (· = fault) (· = .revive) modes

/-- What a replica does with an input after the run `tr`. -/
def Replies (id : String) (tr : Trace ν) (out : ReplicaOutput ν) : ReplicaInput ν → Prop
  | .health baselineLoad =>
      (Stands .kill (adminsIn tr) ∧ out = .replied (.refused "killed")) ∨
      (¬ Stands .kill (adminsIn tr) ∧ out = .replied
        (.load ((acceptedIn tr).length - (answeredIn tr).length + baselineLoad)))
  | .admin mode => ∃ state : FaultState, out = .replied (.faults state) ∧
      (state.killed = true ↔ Stands .kill (adminsIn tr ++ [mode])) ∧
      (state.inferFailing = true ↔ Stands .failInfer (adminsIn tr ++ [mode]))
  | .infer (some status) => out = .replied (.unparsed status)
  | .infer none =>
      (Stands .kill (adminsIn tr) ∧ out = .replied (.refused "killed")) ∨
      (¬ Stands .kill (adminsIn tr) ∧ Stands .failInfer (adminsIn tr) ∧
        out = .replied (.refused "infer_failing")) ∨
      (¬ Stands .kill (adminsIn tr) ∧ ¬ Stands .failInfer (adminsIn tr) ∧
        out = .sleeps (acceptedIn tr).length)
  | .wakes call servedAt latencyMs => call ∈ acceptedIn tr ∧ call ∉ answeredIn tr ∧
      out = .replied (.inference id servedAt latencyMs)

section concat

variable (tr : Trace ν) (x : Transition ReplicaApp (ReplicaInput ν × ReplicaOutput ν))

theorem adminsIn_concat : adminsIn (tr ++ [x]) = adminsIn tr ++ match x.label.1 with
    | .admin mode => [mode]
    | _ => [] := by
  unfold adminsIn
  rw [List.filterMap_append]
  cases h : x.label.1 <;> simp [h]

theorem acceptedIn_concat : acceptedIn (tr ++ [x]) = acceptedIn tr ++ match x.label.2 with
    | .sleeps call => [call]
    | .replied _ => [] := by
  unfold acceptedIn
  rw [List.filterMap_append]
  cases h : x.label.2 <;> simp [h]

theorem answeredIn_concat : answeredIn (tr ++ [x]) = answeredIn tr ++ match x.label.1 with
    | .wakes call _ _ => [call]
    | _ => [] := by
  unfold answeredIn
  rw [List.filterMap_append]
  cases h : x.label.1 <;> simp [h]

end concat

/-! ### The account of a run -/

variable {id : String} {s s' : ReplicaApp} {tr : Trace ν} {out : ReplicaOutput ν}

/-- Each flag follows its own mode, and `revive` clears both. -/
theorem flags_admin (s : ReplicaApp) {modes : List FaultMode} (mode : FaultMode)
    (hkilled : s.killed = true ↔ Stands .kill modes)
    (hfailing : s.inferFailing = true ↔ Stands .failInfer modes) :
    ((s.admin mode).killed = true ↔ Stands .kill (modes ++ [mode])) ∧
      ((s.admin mode).inferFailing = true ↔ Stands .failInfer (modes ++ [mode])) := by
  unfold Stands at *
  rw [standing_concat_iff, standing_concat_iff, ← hkilled, ← hfailing]
  cases mode <;> simp [admin]

/-- The state after the run `tr`. -/
structure Accounts (id : String) (tr : Trace ν) (s : ReplicaApp) : Prop where
  id : s.id = id
  killed : s.killed = true ↔ Stands .kill (adminsIn tr)
  inferFailing : s.inferFailing = true ↔ Stands .failInfer (adminsIn tr)
  inFlight : s.inFlight = s.sleeping.length
  accepted : acceptedIn tr = List.range s.accepted
  /-- An accepted call was answered once or sleeps. -/
  calls : (acceptedIn tr).Perm (answeredIn tr ++ s.sleeping)

namespace Accounts

theorem length_accepted (ha : Accounts id tr s) : (acceptedIn tr).length = s.accepted := by
  rw [ha.accepted, List.length_range]

/-- The counter is the calls accepted less the calls answered. -/
theorem inFlight_eq (ha : Accounts id tr s) :
    s.inFlight = (acceptedIn tr).length - (answeredIn tr).length := by
  have hlen := ha.calls.length_eq
  rw [List.length_append] at hlen
  rw [ha.inFlight, hlen]
  omega

/-- A call sleeps while it is accepted and not answered. -/
theorem mem_sleeping_iff (ha : Accounts id tr s) (call : ℕ) :
    call ∈ s.sleeping ↔ call ∈ acceptedIn tr ∧ call ∉ answeredIn tr := by
  have hnodup : (answeredIn tr ++ s.sleeping).Nodup := by
    rw [← ha.calls.nodup_iff, ha.accepted]
    exact List.nodup_range
  rw [ha.calls.mem_iff, List.mem_append]
  constructor
  · intro hmem
    exact ⟨Or.inr hmem, fun hans => (List.disjoint_of_nodup_append hnodup) hans hmem⟩
  · rintro ⟨hans | hmem, hnot⟩
    · exact absurd hans hnot
    · exact hmem

theorem fresh (id : String) : Accounts id ([] : Trace ν) (fresh id) where
  id := rfl
  killed := iff_of_false (by simp [ReplicaApp.fresh]) not_standing_nil
  inferFailing := iff_of_false (by simp [ReplicaApp.fresh]) not_standing_nil
  inFlight := rfl
  accepted := rfl
  calls := List.Perm.refl _

theorem of_same {a : ReplicaInput ν} {reply : ReplicaReply ν} (ha : Accounts id tr s)
    (hadmin : ∀ mode, a ≠ .admin mode) (hwakes : ∀ call t l, a ≠ .wakes call t l) :
    Accounts id (tr ++ [⟨s, (a, .replied reply), s⟩]) s := by
  have hadmins : adminsIn (tr ++ [⟨s, (a, .replied reply), s⟩]) = adminsIn tr := by
    rw [adminsIn_concat]
    cases a <;> simp at hadmin ⊢
  have haccepted : acceptedIn (tr ++ [⟨s, (a, .replied reply), s⟩]) = acceptedIn tr := by
    rw [acceptedIn_concat, List.append_nil]
  have hanswered : answeredIn (tr ++ [⟨s, (a, .replied reply), s⟩]) = answeredIn tr := by
    rw [answeredIn_concat]
    cases a <;> simp at hwakes ⊢
  refine ⟨ha.id, ?_, ?_, ha.inFlight, ?_, ?_⟩
  · rw [hadmins]; exact ha.killed
  · rw [hadmins]; exact ha.inferFailing
  · rw [haccepted]; exact ha.accepted
  · rw [haccepted, hanswered]; exact ha.calls

/-- **What one step preserves.** -/
theorem step {a : ReplicaInput ν} (ha : Accounts id tr s) (h : s.step a = .ok (s', out)) :
    Accounts id (tr ++ [⟨s, (a, out), s'⟩]) s' := by
  cases a with
  | health baselineLoad =>
      obtain ⟨rfl, rfl⟩ := Prod.mk.inj (Except.ok.inj h)
      exact ha.of_same (by simp) (by simp)
  | admin mode =>
      obtain ⟨rfl, rfl⟩ := Prod.mk.inj (Except.ok.inj h)
      obtain ⟨hkilled, hfailing⟩ := flags_admin s mode ha.killed ha.inferFailing
      refine ⟨?_, ?_, ?_, ?_, ?_, ?_⟩
      · cases mode <;> exact ha.id
      · rw [adminsIn_concat]; exact hkilled
      · rw [adminsIn_concat]; exact hfailing
      · cases mode <;> exact ha.inFlight
      · rw [acceptedIn_concat, List.append_nil, ha.accepted]
        cases mode <;> rfl
      · rw [acceptedIn_concat, answeredIn_concat, List.append_nil, List.append_nil]
        cases mode <;> exact ha.calls
  | infer unparsed =>
      cases unparsed with
      | some status =>
          obtain ⟨rfl, rfl⟩ := Prod.mk.inj (Except.ok.inj h)
          exact ha.of_same (by simp) (by simp)
      | none =>
          have h : s.infer = (s', out) := Except.ok.inj h
          unfold infer at h
          by_cases hfault : (s.killed || s.inferFailing) = true
          · rw [if_pos hfault] at h
            obtain ⟨rfl, rfl⟩ := Prod.mk.inj h
            exact ha.of_same (by simp) (by simp)
          · rw [if_neg hfault] at h
            obtain ⟨rfl, rfl⟩ := Prod.mk.inj h
            refine ⟨ha.id, ?_, ?_, ?_, ?_, ?_⟩
            · rw [adminsIn_concat, List.append_nil]; exact ha.killed
            · rw [adminsIn_concat, List.append_nil]; exact ha.inferFailing
            · simp [ha.inFlight]
            · rw [acceptedIn_concat, ha.accepted, List.range_succ]
            · rw [acceptedIn_concat, answeredIn_concat, List.append_nil, ← List.append_assoc]
              exact ha.calls.append_right _
  | wakes call servedAt latencyMs =>
      simp only [ReplicaApp.step] at h
      split_ifs at h with hmem
      obtain ⟨rfl, rfl⟩ := Prod.mk.inj (Except.ok.inj h)
      refine ⟨ha.id, ?_, ?_, ?_, ?_, ?_⟩
      · rw [adminsIn_concat, List.append_nil]; exact ha.killed
      · rw [adminsIn_concat, List.append_nil]; exact ha.inferFailing
      · have hpos := List.length_pos_of_mem hmem
        have hlen := List.length_erase_of_mem hmem
        have hcount := ha.inFlight
        show s.inFlight - 1 = ((s.sleeping.erase call).length : ℤ)
        omega
      · rw [acceptedIn_concat, List.append_nil]; exact ha.accepted
      · rw [acceptedIn_concat, answeredIn_concat, List.append_nil, List.append_assoc]
        exact ha.calls.trans ((List.perm_cons_erase hmem).append_left _)

end Accounts

/-- **What a run preserves.** -/
theorem accounts_of_exec (h : Exec Step (fresh id) tr s) : Accounts id tr s := by
  induction h with
  | nil => exact Accounts.fresh id
  | snoc _ hs ih => exact ih.step hs

/-! ### What it answers -/

/-- **A replica answers by its history.**  After every run, it takes an input and answers `out`
exactly when the history of the run says so: `/health` is refused while a kill stands and otherwise
tells the calls accepted and not answered; `/infer` is refused while either fault stands; a call
once accepted is answered 200 whatever faults came after; the flags reported are those that stand
after the request. -/
theorem replies_iff (h : Exec Step (fresh id) tr s) (a : ReplicaInput ν) (out : ReplicaOutput ν) :
    (∃ s', s.step a = .ok (s', out)) ↔ Replies id tr out a := by
  have ha := accounts_of_exec h
  have hreply : ∀ (t : ReplicaApp) (out' : ReplicaOutput ν),
      (∃ s', (Except.ok (t, out') : Except String _) = .ok (s', out)) ↔ out = out' := by
    intro t out'
    constructor
    · rintro ⟨s', hs⟩
      exact (Prod.mk.inj (Except.ok.inj hs)).2.symm
    · rintro rfl
      exact ⟨t, rfl⟩
  cases a with
  | health baselineLoad =>
      simp only [step, hreply, Replies, ← ha.killed, ← ha.inFlight_eq, health]
      cases s.killed <;> simp
  | admin mode =>
      obtain ⟨hkilled, hfailing⟩ := flags_admin s mode ha.killed ha.inferFailing
      simp only [step, hreply, Replies, ← hkilled, ← hfailing]
      constructor
      · rintro rfl
        exact ⟨_, rfl, Iff.rfl, Iff.rfl⟩
      · rintro ⟨⟨killed, inferFailing⟩, rfl, hk, hf⟩
        obtain rfl : killed = (s.admin mode).killed := Bool.eq_iff_iff.mpr hk
        obtain rfl : inferFailing = (s.admin mode).inferFailing := Bool.eq_iff_iff.mpr hf
        rfl
  | infer unparsed =>
      cases unparsed with
      | some status => exact hreply s _
      | none =>
          simp only [step, Replies, ← ha.killed, ← ha.inferFailing, ha.length_accepted]
          rw [show s.infer (ν := ν) = (s.infer.1, s.infer.2) from rfl, hreply]
          unfold infer
          cases s.killed <;> cases s.inferFailing <;> simp
  | wakes call servedAt latencyMs =>
      simp only [step, Replies, ← and_assoc, ← ha.mem_sleeping_iff call]
      split_ifs with hmem
      · rw [wake, hreply, ha.id]
        simp [hmem]
      · simp [hmem]

/-- A replica is killed while a call sleeps, and is sent another. -/
def killedWhileServing : Except String (Trace ℕ × ReplicaApp) :=
  replay step (fresh "replica-1") [.infer none, .admin .kill, .infer none]

/-- The call it had accepted is still answered, and `/health` is refused. -/
theorem replies_iff_killedWhileServing : ∃ (tr : Trace ℕ) (s : ReplicaApp),
    Exec Step (fresh "replica-1") tr s ∧ s.inFlight = 1 ∧ Stands .kill (adminsIn tr) ∧
    (0 ∈ acceptedIn tr ∧ 0 ∉ answeredIn tr) ∧
    ∃ s', s.step (.wakes 0 "t" 7) = .ok (s', .replied (.inference "replica-1" "t" 7)) := by
  obtain ⟨⟨tr, s⟩, h, hc⟩ := exists_of_check killedWhileServing (fun run =>
    decide (run.2.inFlight = 1) && decide (acceptedIn run.1 = [0]) &&
      decide (answeredIn run.1 = []) && decide (adminsIn run.1 = [.kill])) (by decide)
  simp only [Bool.and_eq_true, decide_eq_true_eq] at hc
  obtain ⟨⟨⟨hinFlight, haccepted⟩, hanswered⟩, hadmins⟩ := hc
  have hexec := (exec_of_replay h).1
  have hmem : 0 ∈ acceptedIn tr ∧ 0 ∉ answeredIn tr := by simp [haccepted, hanswered]
  refine ⟨tr, s, hexec, hinFlight, ?_, hmem, ?_⟩
  · rw [hadmins]
    exact ⟨[], .kill, [], rfl, rfl, by simp⟩
  · exact (replies_iff hexec _ _).mpr ⟨hmem.1, hmem.2, rfl⟩

end ReplicaApp

end WhyRouted
