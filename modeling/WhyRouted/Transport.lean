import Mathlib.Algebra.Order.Ring.Nat
import WhyRouted.Execution
import WhyRouted.HttpAdapter

/-! # Calls in flight and the polling latch

The probes of the sweep under way and the requests in flight, over any number of replicas, with
the latch `pollAll` joins the probes behind.  The transport delivers events to the calls in any
order; a body that stalls for ever is one whose next event never comes.

A timer watches over a call from its start to the arrival of the headers.  So every pending call
is watched over in every state of a run exactly when no successful response ever begins
(`guarded_iff`), and a probe whose body stalls holds the latch for ever (`wedged_of_stalled`). -/

namespace WhyRouted

open HttpReplicaAdapter (ProbeBody)

variable {ν β ρ : Type}

/-- The calls the process is waiting for. -/
structure Transport (ν β : Type) where
  /-- The scheduler's `polling` latch. -/
  polling : Bool
  /-- The probes of the current sweep, in the order of the fleet. -/
  probes : List (String × Exchange ν (HealthResult ν))
  /-- The requests sent, in order. -/
  sends : List (String × Exchange ν (Settled ν β))

/-- What can happen next. -/
inductive TransportEvent (ν β : Type) where
  /-- The interval fires, or the scheduler starts. -/
  | pollAll
  | sendRequest (replicaId : String)
  | probe (k : ℕ) (event : NetEvent ν (ProbeBody ν))
  | send (i : ℕ) (event : NetEvent ν β)

/-- The headers of a successful response reach one of the calls. -/
def TransportEvent.answers : TransportEvent ν β → Bool
  | .probe _ event => event.answers
  | .send _ event => event.answers
  | _ => false

/-- A settled call, as its caller sees it. -/
inductive Delivery (ν β : Type) where
  | probed (replicaId : String) (result : HealthResult ν)
  | settled (i : ℕ) (settled : Settled ν β)

namespace Transport

def idle : Transport ν β := ⟨false, [], []⟩

/-- `Promise.all` settles with the last of its probes, and the `finally` releases the latch. -/
def release (s : Transport ν β) : Transport ν β :=
  { s with polling := s.polling && s.probes.any (·.2.pending) }

variable [JsNumber ν] (adapter : HttpReplicaAdapter ν)

/-- `pollAll`, for a scheduler that polls the adapter's fleet. -/
def pollAll (s : Transport ν β) : Transport ν β :=
  if s.polling then s
  else release { s with
    polling := true, probes := adapter.replicas.map fun replica => (replica.id, .start) }

/-- A call of `sendRequest`; an unknown replica rejects it before anything is fetched. -/
def sendRequest (s : Transport ν β) (replicaId : String) :
    Transport ν β × Option (Delivery ν β) :=
  match adapter.resolve replicaId with
  | .ok _ => ({ s with sends := s.sends ++ [(replicaId, .start)] }, none)
  | .error message =>
      let rejected : Settled ν β := .error (.other message)
      ({ s with sends := s.sends ++ [(replicaId, ⟨.cleared, false, .settled rejected⟩)] },
        some (.settled s.sends.length rejected))

/-- One event.  An exception stands for an event that cannot happen. -/
def step (s : Transport ν β) :
    TransportEvent ν β → Except String (Transport ν β × Option (Delivery ν β))
  | .pollAll => .ok (s.pollAll adapter, none)
  | .sendRequest replicaId => .ok (s.sendRequest adapter replicaId)
  | .probe k event =>
      match s.probes[k]? with
      | none => .error "no such probe"
      | some (id, x) =>
          match adapter.checkHealth.advance x event with
          | none => .error "no such event"
          | some y => .ok (release { s with probes := s.probes.set k (id, y) },
              y.result.map (.probed id))
  | .send i event =>
      match s.sends[i]? with
      | none => .error "no such request"
      | some (id, x) =>
          match (adapter.sendRequest id).advance x event with
          | none => .error "no such event"
          | some y => .ok ({ s with sends := s.sends.set i (id, y) }, y.result.map (.settled i))

abbrev Step : Transport ν β → TransportEvent ν β × Option (Delivery ν β) → Transport ν β → Prop :=
  Computes (step adapter)

abbrev Trace (ν β : Type) :=
  List (Transition (Transport ν β) (TransportEvent ν β × Option (Delivery ν β)))

variable {adapter} {s t : Transport ν β} {tr : Trace ν β} {a : TransportEvent ν β}
  {out : Option (Delivery ν β)}

/-! ### What a step can do -/

/-- Everything a step can do to the calls and the latch. -/
inductive StepCase (adapter : HttpReplicaAdapter ν) (s : Transport ν β) :
    TransportEvent ν β → Transport ν β → Prop where
  | skipped (hpolling : s.polling = true) : StepCase adapter s .pollAll s
  | swept (hpolling : s.polling = false) : StepCase adapter s .pollAll (release { s with
      polling := true, probes := adapter.replicas.map fun replica => (replica.id, .start) })
  | sent {id : String} {x : Exchange ν (Settled ν β)} (hguarded : x.Guarded) :
      StepCase adapter s (.sendRequest id) { s with sends := s.sends ++ [(id, x)] }
  | probe {k : ℕ} {event : NetEvent ν (ProbeBody ν)} {id : String}
      {x y : Exchange ν (HealthResult ν)} (hget : s.probes[k]? = some (id, x))
      (hadvance : adapter.checkHealth.advance x event = some y) :
      StepCase adapter s (.probe k event) (release { s with probes := s.probes.set k (id, y) })
  | send {i : ℕ} {event : NetEvent ν β} {id : String} {x y : Exchange ν (Settled ν β)}
      (hget : s.sends[i]? = some (id, x))
      (hadvance : (adapter.sendRequest id).advance x event = some y) :
      StepCase adapter s (.send i event) { s with sends := s.sends.set i (id, y) }

/-- **Every step is one of the five.** -/
theorem step_cases (h : s.step adapter a = .ok (t, out)) : StepCase adapter s a t := by
  cases a with
  | pollAll =>
      obtain ⟨rfl, -⟩ := Prod.mk.inj (Except.ok.inj h)
      unfold pollAll
      split_ifs with hpolling
      · exact .skipped hpolling
      · exact .swept (by simpa using hpolling)
  | sendRequest replicaId =>
      have ht : t = (s.sendRequest adapter replicaId).1 := congrArg Prod.fst (Except.ok.inj h).symm
      rw [ht, Transport.sendRequest]
      cases adapter.resolve replicaId with
      | ok url => exact .sent guarded_start
      | error message => exact .sent (guarded_of_settled rfl)
  | probe k event =>
      simp only [step] at h
      split at h
      · cases h
      next id x hget =>
        split at h
        · cases h
        next y hadvance =>
          obtain ⟨rfl, -⟩ := Prod.mk.inj (Except.ok.inj h)
          exact .probe hget hadvance
  | send i event =>
      simp only [step] at h
      split at h
      · cases h
      next id x hget =>
        split at h
        · cases h
        next y hadvance =>
          obtain ⟨rfl, -⟩ := Prod.mk.inj (Except.ok.inj h)
          exact .send hget hadvance

/-! ### The latch -/

/-- The latch is held exactly while a probe of the sweep is pending. -/
def LatchExact (s : Transport ν β) : Prop := s.polling = s.probes.any (·.2.pending)

omit [JsNumber ν] in
theorem latchExact_release (h : s.polling = true) : s.release.LatchExact := by
  simp [LatchExact, release, h]

theorem latchExact_step (hl : s.LatchExact) (h : s.step adapter a = .ok (t, out)) :
    t.LatchExact := by
  cases step_cases h with
  | skipped _ => exact hl
  | swept _ => exact latchExact_release rfl
  | sent _ => exact hl
  | probe hget hadvance =>
      refine latchExact_release (hl.trans ?_)
      exact List.any_eq_true.mpr ⟨_, List.mem_of_getElem? hget, pending_of_advance hadvance⟩
  | send _ _ => exact hl

theorem latchExact_of_exec (h : Exec (Step adapter) idle tr s) : s.LatchExact :=
  h.invariant (fun _ _ _ hs hl => latchExact_step hl hs) rfl

/-! ### Watched over -/

/-- Every pending call has a timer armed or an abort signalled, and the latch is held only while
one that will release it is. -/
structure Guarded (s : Transport ν β) : Prop where
  probes : ∀ p ∈ s.probes, p.2.Guarded
  sends : ∀ p ∈ s.sends, p.2.Guarded
  latch : s.polling = true →
    ∃ p ∈ s.probes, p.2.pending = true ∧ (p.2.timer = .armed ∨ p.2.aborted = true)

omit [JsNumber ν] in
theorem Guarded.of_calls (hl : s.LatchExact) (hprobes : ∀ p ∈ s.probes, p.2.Guarded)
    (hsends : ∀ p ∈ s.sends, p.2.Guarded) : s.Guarded := by
  refine ⟨hprobes, hsends, fun hpolling => ?_⟩
  obtain ⟨p, hmem, hp⟩ := List.any_eq_true.mp (hl.symm.trans hpolling)
  exact ⟨p, hmem, hp, hprobes p hmem hp⟩

omit [JsNumber ν] in
theorem guarded_set {calls : List (String × Exchange ν ρ)} (hg : ∀ p ∈ calls, p.2.Guarded)
    {id : String} {y : Exchange ν ρ} (hy : y.Guarded) (k : ℕ) :
    ∀ p ∈ calls.set k (id, y), p.2.Guarded := by
  intro p hp
  rcases List.mem_or_eq_of_mem_set hp with hp | rfl
  · exact hg p hp
  · exact hy

/-- An event other than the headers of a successful response keeps every call guarded. -/
theorem guarded_step (hl : s.LatchExact) (hg : s.Guarded) (h : s.step adapter a = .ok (t, out))
    (hanswers : a.answers = false) : t.Guarded := by
  have hl' := latchExact_step hl h
  cases step_cases h with
  | skipped _ => exact hg
  | swept _ =>
      refine .of_calls hl' ?_ hg.sends
      intro p hp
      obtain ⟨replica, -, rfl⟩ := List.mem_map.mp hp
      exact guarded_start
  | sent hguarded =>
      refine .of_calls hl' hg.probes ?_
      intro p hp
      rcases List.mem_append.mp hp with hp | hp
      · exact hg.sends p hp
      · rw [List.mem_singleton.mp hp]
        exact hguarded
  | probe hget hadvance =>
      have hx := hg.probes _ (List.mem_of_getElem? hget)
      exact .of_calls hl'
        (guarded_set hg.probes (guarded_of_advance hx hanswers hadvance) _) hg.sends
  | send hget hadvance =>
      have hx := hg.sends _ (List.mem_of_getElem? hget)
      exact .of_calls hl' hg.probes
        (guarded_set hg.sends (guarded_of_advance hx hanswers hadvance) _)

theorem not_guarded_step (h : s.step adapter a = .ok (t, out)) (hanswers : a.answers = true) :
    ¬ t.Guarded := by
  intro hg
  cases step_cases h with
  | skipped _ => cases hanswers
  | swept _ => cases hanswers
  | sent _ => cases hanswers
  | probe hget hadvance =>
      obtain ⟨hk, -⟩ := List.getElem?_eq_some_iff.mp hget
      exact not_guarded_of_answers hanswers hadvance (hg.probes _ (List.mem_set hk _))
  | send hget hadvance =>
      obtain ⟨hi, -⟩ := List.getElem?_eq_some_iff.mp hget
      exact not_guarded_of_answers hanswers hadvance (hg.sends _ (List.mem_set hi _))

/-- **When no stalled replica can wedge a call.**  In every state of a run every pending call,
and with it the latch, is watched over by a timer or an abort, exactly when no event of the run
is the headers of a successful response. -/
theorem guarded_iff (h : Exec (Step adapter) idle tr s) :
    (∀ tr₁ tr₂ t, tr = tr₁ ++ tr₂ → Exec (Step adapter) idle tr₁ t → t.Guarded) ↔
      ∀ x ∈ tr, x.label.1.answers = false := by
  constructor
  · intro hall x hx
    obtain ⟨tr₁, tr₂, rfl⟩ := List.append_of_mem hx
    obtain ⟨hpre, hstep, -⟩ := h.split
    have hpost := hall (tr₁ ++ [x]) tr₂ x.post (List.append_cons ..) (hpre.snoc hstep)
    by_contra hanswers
    exact not_guarded_step hstep (by simpa using hanswers) hpost
  · intro hall tr₁ tr₂ t htr hexec
    induction hexec generalizing tr₂ with
    | nil => exact ⟨by simp [idle], by simp [idle], by simp [idle]⟩
    | @snoc tr₁ s₁ t a hexec hs ih =>
        have htr' : tr = tr₁ ++ ⟨s₁, a, t⟩ :: tr₂ := by rw [htr, List.append_assoc]; rfl
        have hbefore := ih (⟨s₁, a, t⟩ :: tr₂) htr'
        have hanswers := hall ⟨s₁, a, t⟩ (by rw [htr']; simp)
        exact guarded_step (latchExact_of_exec hexec) hbefore hs hanswers

/-! ### A body that stalls -/

/-- Probe `k` has its headers, no timer and no end to its body, and the latch is held. -/
structure Stalled (k : ℕ) (s : Transport ν β) : Prop where
  polling : s.polling = true
  probe : ∃ id latencyMs, s.probes[k]? = some (id, ⟨.cleared, false, .body latencyMs⟩)

/-- Only the end of its body moves a stalled probe. -/
theorem stalled_step {k : ℕ} (hst : s.Stalled k) (h : s.step adapter a = .ok (t, out))
    (hbody : ∀ body, a ≠ .probe k (.bodyComplete body))
    (hfailed : ∀ err, a ≠ .probe k (.bodyFailed err)) : t.Stalled k := by
  obtain ⟨hpolling, id, latencyMs, hk⟩ := hst
  cases step_cases h with
  | skipped _ => exact ⟨hpolling, id, latencyMs, hk⟩
  | swept hidle => cases hidle.symm.trans hpolling
  | sent _ => exact ⟨hpolling, id, latencyMs, hk⟩
  | @probe j event id' x y hget hadvance =>
      have hsame : (s.probes.set j (id', y))[k]? =
          some (id, ⟨.cleared, false, .body latencyMs⟩) := by
        by_cases hj : j = k
        · subst hj
          obtain ⟨rfl, rfl⟩ := Prod.mk.inj (Option.some.inj (hk.symm.trans hget))
          have hbody' : ∀ body, event ≠ .bodyComplete body := by
            rintro body rfl
            exact hbody body rfl
          have hfailed' : ∀ err, event ≠ .bodyFailed err := by
            rintro err rfl
            exact hfailed err rfl
          have hy := stalled_of_advance hbody' hfailed' hadvance
          obtain ⟨hlt, -⟩ := List.getElem?_eq_some_iff.mp hget
          rw [List.getElem?_set_self hlt, hy]
        · rw [List.getElem?_set_ne hj, hk]
      refine ⟨?_, id, latencyMs, hsame⟩
      simp only [release, hpolling, Bool.true_and]
      exact List.any_eq_true.mpr ⟨_, List.mem_of_getElem? hsame, rfl⟩
  | send _ _ => exact ⟨hpolling, id, latencyMs, hk⟩

/-- **A stalled probe wedges health checking.**  A probe whose body never ends holds the latch
through every other event, and every sweep that comes due is dropped. -/
theorem wedged_of_stalled {k : ℕ} (hst : s.Stalled k) (h : Exec (Step adapter) s tr t)
    (hbody : ∀ x ∈ tr, ∀ body, x.label.1 ≠ .probe k (.bodyComplete body))
    (hfailed : ∀ x ∈ tr, ∀ err, x.label.1 ≠ .probe k (.bodyFailed err)) :
    t.polling = true ∧ ∀ x ∈ tr, x.label.1 = .pollAll → x.post = x.pre := by
  have hkeep : ∀ x ∈ tr, x.pre.Stalled k → x.post.Stalled k := fun x hx hinv =>
    stalled_step hinv (h.step_of_mem hx) (hbody x hx) (hfailed x hx)
  obtain ⟨hend, hall⟩ := h.invariant_of_mem (P := Stalled k) hkeep hst
  refine ⟨hend.polling, fun x hx hlabel => ?_⟩
  have hstep : x.pre.step adapter x.label.1 = .ok (x.post, x.label.2) := h.step_of_mem hx
  rw [hlabel, step, pollAll, if_pos (hall x hx).1.polling] at hstep
  exact (Prod.mk.inj (Except.ok.inj hstep)).1.symm

/-- An adapter for one replica, with a probe timeout of 200. -/
def oneReplica : HttpReplicaAdapter ℕ := .new [⟨"replica-1", ""⟩] 200 none

/-- The only replica answers its probe with a status of 200 and headers, and its body stalls. -/
def stalledBody : Except String (Trace ℕ Unit × Transport ℕ Unit) :=
  replay (step oneReplica) idle [.pollAll, .probe 0 (.headers 200 3)]

/-- No timer is left that would end the probe, and until its body ends nothing is probed. -/
theorem stalled_body_wedges : ∃ (tr : Trace ℕ Unit) (s : Transport ℕ Unit),
    Exec (Step oneReplica) idle tr s ∧ ¬ s.Guarded ∧ ∀ tr' t, Exec (Step oneReplica) s tr' t →
      (∀ x ∈ tr', ∀ body, x.label.1 ≠ .probe 0 (.bodyComplete body)) →
      (∀ x ∈ tr', ∀ err, x.label.1 ≠ .probe 0 (.bodyFailed err)) →
      t.polling = true ∧ ∀ x ∈ tr', x.label.1 = .pollAll → x.post = x.pre := by
  obtain ⟨⟨tr, s⟩, h, hc⟩ := exists_of_check stalledBody (fun run =>
    run.2.polling && decide (run.2.probes = [("replica-1", ⟨.cleared, false, .body 3⟩)]))
    (by decide)
  obtain ⟨hpolling, hprobes⟩ : s.polling = true ∧
    s.probes = [("replica-1", ⟨.cleared, false, .body 3⟩)] := by simpa using hc
  have hst : s.Stalled 0 := ⟨hpolling, "replica-1", 3, by rw [hprobes]; rfl⟩
  refine ⟨tr, s, (exec_of_replay h).1, fun hg => ?_, fun tr' t => wedged_of_stalled hst⟩
  have hprobe := hg.probes _ (by rw [hprobes]; exact List.mem_singleton_self _)
  rcases hprobe rfl with harmed | haborted
  · cases harmed
  · cases haborted

/-- A probe runs into its timeout, a send is refused with a status of 503, and another waits. -/
def threeCalls : Except String (Trace ℕ Unit × Transport ℕ Unit) :=
  replay (step oneReplica) idle [.pollAll, .sendRequest "replica-1", .sendRequest "replica-1",
    .send 0 (.headers 503 3), .probe 0 .timerFired]

/-- Two calls are pending, one on its timer and one on its abort. -/
theorem guarded_iff_threeCalls : ∃ (tr : Trace ℕ Unit) (s : Transport ℕ Unit),
    Exec (Step oneReplica) idle tr s ∧ s.polling = true ∧
      s.probes.map (fun p => (p.2.timer, p.2.aborted, p.2.result.isSome)) =
        [(.fired, true, false)] ∧
      s.sends.map (fun p => (p.2.timer, p.2.aborted, p.2.result.isSome)) =
        [(.cleared, false, true), (.armed, false, false)] ∧ s.Guarded := by
  obtain ⟨⟨tr, s⟩, h, hc⟩ := exists_of_check threeCalls (fun run =>
    decide (run.2.polling = true) &&
    decide (run.2.probes.map (fun p => (p.2.timer, p.2.aborted, p.2.result.isSome)) =
      [(.fired, true, false)]) &&
    decide (run.2.sends.map (fun p => (p.2.timer, p.2.aborted, p.2.result.isSome)) =
      [(.cleared, false, true), (.armed, false, false)]) &&
    decide (∀ x ∈ run.1, x.label.1.answers = false)) (by decide)
  simp only [Bool.and_eq_true, decide_eq_true_eq] at hc
  obtain ⟨⟨⟨hpolling, hprobes⟩, hsends⟩, hanswers⟩ := hc
  have hexec := (exec_of_replay h).1
  exact ⟨tr, s, hexec, hpolling, hprobes, hsends,
    (guarded_iff hexec).mpr hanswers tr [] s (List.append_nil tr).symm hexec⟩

end Transport

end WhyRouted
