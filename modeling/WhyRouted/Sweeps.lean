import Mathlib.Algebra.Order.Ring.Nat
import WhyRouted.Runs

/-! # The poll loop

`start`, `stop` and `pollAll` of `src/health/scheduler.ts`, beside the probes they launch.  A call
of `pollAll` that passes the latch launches one probe for each replica, in one stretch, and then
waits for all of them; each probe applies its result when it resolves, in any order; and when the
last has been applied the wait ends and the latch is cleared.  Between any two of these anything
else may happen: the timer may fire, be stopped and started again, `pollAll` be called directly, a
replica be ejected.

The latch is a boolean and the calls that wait are kept in a list, so nothing in the model keeps two
sweeps apart; that they do not overlap is what is proved (`sweeps_never_overlap`).  An exception of
the sink would end the wait early: a step is one where nothing is thrown. -/

namespace WhyRouted

variable {ν : Type}

/-- A probe: the sweep that launched it and the replica it is of. -/
structure Probe where
  sweep : ℕ
  replicaId : String
deriving DecidableEq, Repr

/-- A call of `pollAll` that waits: its number and the replicas whose `pollOne` has not returned. -/
structure Sweep where
  number : ℕ
  pending : List String
deriving DecidableEq, Repr

/-- The scheduler with its timer, its latch and the calls of `pollAll` that wait. -/
structure PollLoop (ν : Type) where
  health : HealthState ν
  timer : Bool := false
  polling : Bool := false
  sweeps : List Sweep := []
  /-- The sweeps started so far. -/
  started : ℕ := 0

/-- What can happen next. -/
inductive PollInput (ν : Type) where
  | start
  | stop
  /-- The interval fires. -/
  | tick
  /-- A direct call of `pollAll`. -/
  | pollAll
  | eject (replicaId reason now : String)
  /-- A probe of a sweep resolves, and its `pollOne` goes on. -/
  | probed (sweep : ℕ) (replicaId : String) (result : HealthResult ν) (now : String)
  /-- Every `pollOne` of a sweep has returned: the wait is over. -/
  | joined (sweep : ℕ)

/-- What a step shows: the probes launched, and the one whose result was applied. -/
structure PollReport where
  launched : List Probe := []
  applied : Option Probe := none

namespace PollLoop

/-- The probes launched whose `pollOne` has not returned. -/
def outstanding (s : PollLoop ν) : List Probe :=
  s.sweeps.flatMap fun sweep => sweep.pending.map (Probe.mk sweep.number)

variable (th : Thresholds) (replicaIds : List String)

/-- A scheduler as its constructor leaves it. -/
def fresh (sink : Registry ν) : PollLoop ν where
  health := { hysteresis := initialRecords replicaIds, sink }

/-- `pollAll` up to its `await`. -/
def pollAll (s : PollLoop ν) : PollLoop ν × PollReport :=
  if s.polling then (s, {})
  else
    ({ s with
        polling := true
        sweeps := s.sweeps ++ [⟨s.started, replicaIds⟩]
        started := s.started + 1 },
      { launched := replicaIds.map (⟨s.started, ·⟩) })

def start (s : PollLoop ν) : PollLoop ν × PollReport :=
  if s.timer then (s, {})
  else
    let (s, report) := s.pollAll replicaIds
    ({ s with timer := true }, report)

def stop (s : PollLoop ν) : PollLoop ν := if s.timer then { s with timer := false } else s

/-- One step.  An exception stands for one of the sink, or for an input that cannot occur. -/
def step [JsNumber ν] (s : PollLoop ν) : PollInput ν → Except String (PollLoop ν × PollReport)
  | .start => .ok (s.start replicaIds)
  | .stop => .ok (s.stop, {})
  | .tick => if s.timer then .ok (s.pollAll replicaIds) else .error "the timer is not running"
  | .pollAll => .ok (s.pollAll replicaIds)
  | .eject replicaId reason now =>
      match s.health.record replicaId with
      -- thrown to the caller, before anything is changed
      | none => .ok (s, {})
      | some _ => do
          let (health, _) ← s.health.eject th replicaId reason now
          return ({ s with health }, {})
  | .probed number replicaId result now =>
      if ⟨number, replicaId⟩ ∈ s.outstanding then do
        let (health, _) ← s.health.pollOne th replicaId result now
        return ({ s with
            health
            sweeps := s.sweeps.map fun sweep =>
              if sweep.number = number then { sweep with pending := sweep.pending.erase replicaId }
              else sweep },
          -- `pollOne` applies nothing to a replica without a record
          { applied := (s.health.record replicaId).map fun _ => ⟨number, replicaId⟩ })
      else .error "no such probe is outstanding"
  | .joined number =>
      if ⟨number, []⟩ ∈ s.sweeps then
        .ok ({ s with
            polling := false
            sweeps := s.sweeps.filter fun sweep => decide (sweep.number ≠ number) },
          {})
      else .error "no such sweep is over"

abbrev Step [JsNumber ν] : PollLoop ν → PollInput ν × PollReport → PollLoop ν → Prop :=
  Computes (step th replicaIds)

abbrev Trace (ν : Type) := List (Transition (PollLoop ν) (PollInput ν × PollReport))

def launchedIn (tr : Trace ν) : List Probe := tr.flatMap (·.label.2.launched)

def appliedIn (tr : Trace ν) : List Probe := tr.filterMap (·.label.2.applied)

/-! ### The records -/

section records

variable {th} {s s' : HealthState ν} {id : String} {out : Option HealthTransition}

theorem isSome_record_setRecord (s : HealthState ν) (id : String) (h : ReplicaHysteresis)
    (r : String) : ((s.setRecord id h).record r).isSome = (s.record r).isSome := by
  rw [HealthState.record_setRecord]
  split_ifs with hr
  · rw [hr, Option.isSome_map]
  · rfl

theorem record_of_transition {state : ReplicaHysteresis} {toHealth : ReplicaHealth}
    {now : String} (h : s.transition id state toHealth now = .ok (s', out)) (r : String) :
    s'.record r = (s.setRecord id { state with health := toHealth }).record r := by
  obtain ⟨_, -, h⟩ := ok_of_bind h
  obtain ⟨rfl, -⟩ := Prod.mk.inj (Except.ok.inj h)
  rfl

theorem isSome_record_of_eject {reason now : String}
    (h : s.eject th id reason now = .ok (s', out)) (r : String) :
    (s'.record r).isSome = (s.record r).isSome := by
  unfold HealthState.eject at h
  split at h
  · cases h
  · split_ifs at h
    · obtain ⟨rfl, -⟩ := Prod.mk.inj (Except.ok.inj h)
      rfl
    · obtain ⟨_, -, h⟩ := ok_of_bind h
      obtain ⟨_, -, h⟩ := ok_of_bind h
      obtain ⟨rfl, -⟩ := Prod.mk.inj (Except.ok.inj h)
      exact isSome_record_setRecord s id _ r

theorem record_of_tail {before after : ReplicaHysteresis} (hid : s.record id = some before)
    {patch : RuntimePatch ν} {guard : Prop} [Decidable guard] {target : ReplicaHealth}
    {now : String}
    (h : (do
      let sink ← s.sink.updateRuntime id patch
      let s₁ : HealthState ν := { s.setRecord id after with sink }
      if guard then s₁.transition id after target now else return (s₁, none)) = .ok (s', out))
    (r : String) :
    s'.record r =
      if r = id then some { after with health := if guard then target else after.health }
      else s.record r := by
  obtain ⟨sink, -, h⟩ := ok_of_bind h
  have hset : ∀ q, ({ s.setRecord id after with sink } : HealthState ν).record q =
      if q = id then some after else s.record q := by
    intro q
    apply (HealthState.record_setRecord s id after q).trans
    rw [hid]
    rfl
  dsimp only at h
  split_ifs at h with hguard
  · rw [record_of_transition h, HealthState.record_setRecord, hset, hset, if_pos rfl,
      if_pos hguard]
    split_ifs <;> rfl
  · obtain ⟨rfl, -⟩ := Prod.mk.inj (Except.ok.inj h)
    rw [hset, if_neg hguard]

variable [JsNumber ν] {result : HealthResult ν} {now : String}

/-- A probe of a replica with a record moves it by its event, and no other. -/
theorem record_of_pollOne {before : ReplicaHysteresis} (hid : s.record id = some before)
    (h : s.pollOne th id result now = .ok (s', out)) (r : String) :
    s'.record r = if r = id then some (before.next th result.event) else s.record r := by
  unfold HealthState.pollOne at h
  rw [hid] at h
  cases halive : result.alive with
  | true =>
      simp only [halive, if_true] at h
      rw [record_of_tail hid h]
      simp [HealthResult.event, halive, ReplicaHysteresis.next]
  | false =>
      simp only [halive, Bool.false_eq_true, if_false] at h
      rw [record_of_tail hid h]
      simp [HealthResult.event, halive, ReplicaHysteresis.next]

theorem isSome_record_of_pollOne (h : s.pollOne th id result now = .ok (s', out)) (r : String) :
    (s'.record r).isSome = (s.record r).isSome := by
  cases hid : s.record id with
  | none =>
      rw [HealthState.pollOne_of_unknown th hid] at h
      obtain ⟨rfl, -⟩ := Prod.mk.inj (Except.ok.inj h)
      rfl
  | some before =>
      rw [record_of_pollOne hid h]
      split_ifs with hr
      · rw [hr, hid]
        rfl
      · rfl

end records

/-! ### One sweep at a time -/

/-- The probes of the first `n` sweeps, in order. -/
def probesOf (replicaIds : List String) (n : ℕ) : List Probe :=
  (List.range n).flatMap fun number => replicaIds.map (Probe.mk number)

/-- The latch is clear and nothing waits, or it is held by the one sweep that waits, the last one
started. -/
inductive Latch (replicaIds : List String) (s : PollLoop ν) : Prop where
  | clear (hpolling : s.polling = false) (hsweeps : s.sweeps = [])
  | held (number : ℕ) (pending : List String) (hpolling : s.polling = true)
      (hsweeps : s.sweeps = [⟨number, pending⟩]) (hstarted : s.started = number + 1)
      (hpending : pending.Sublist replicaIds)

/-- The state after launching and applying these probes. -/
structure Orderly (replicaIds : List String) (s : PollLoop ν) (launched applied : List Probe) :
    Prop where
  records : ∀ id ∈ replicaIds, (s.health.record id).isSome
  latch : Latch replicaIds s
  started : launched = probesOf replicaIds s.started
  /-- Replica by replica, the probes are applied in the order they were launched. -/
  account : ∀ id, launched.filter (·.replicaId = id) =
    applied.filter (·.replicaId = id) ++ s.outstanding.filter (·.replicaId = id)

section invariant

variable {th : Thresholds} {replicaIds : List String} {s s' : PollLoop ν} {report : PollReport}
  {launched applied : List Probe} {number : ℕ} {id : String}

theorem outstanding_of_sweeps {pending : List String} (h : s.sweeps = [⟨number, pending⟩]) :
    s.outstanding = pending.map (Probe.mk number) := by
  simp [outstanding, h]

theorem outstanding_of_idle (h : s.sweeps = []) : s.outstanding = [] := by
  simp [outstanding, h]

theorem filter_erase {pending : List String} (hid : id ∈ pending) (r : String) :
    (pending.map (Probe.mk number)).filter (·.replicaId = r) =
      [⟨number, id⟩].filter (·.replicaId = r) ++
        ((pending.erase id).map (Probe.mk number)).filter (·.replicaId = r) := by
  have hcount : ∀ l : List String, (l.map (Probe.mk number)).filter (·.replicaId = r) =
      List.replicate (l.count r) ⟨number, r⟩ := by
    intro l
    rw [List.filter_map, ← List.map_replicate, ← List.filter_eq]
    rfl
  rw [hcount, hcount]
  by_cases hr : r = id
  · subst hr
    have hpos := List.count_pos_iff.mpr hid
    rw [List.count_erase_self, List.filter_cons_of_pos (by simp), List.filter_nil,
      List.singleton_append, ← List.replicate_succ, Nat.sub_add_cancel hpos]
  · rw [List.count_erase_of_ne hr, List.filter_cons_of_neg (by simp [Ne.symm hr]), List.filter_nil,
      List.nil_append]

theorem probesOf_succ (replicaIds : List String) (n : ℕ) :
    probesOf replicaIds (n + 1) = probesOf replicaIds n ++ replicaIds.map (Probe.mk n) := by
  simp [probesOf, List.range_succ]

theorem mem_probesOf {n : ℕ} :
    ⟨number, id⟩ ∈ probesOf replicaIds n ↔ number < n ∧ id ∈ replicaIds := by
  simp [probesOf]

theorem nodup_probesOf (hids : replicaIds.Nodup) (n : ℕ) : (probesOf replicaIds n).Nodup := by
  induction n with
  | zero => exact List.nodup_nil
  | succ n ih =>
      rw [probesOf_succ, List.nodup_append']
      refine ⟨ih, hids.map fun a b h => (Probe.mk.inj h).2, ?_⟩
      rintro ⟨number, id⟩ hold hnew
      obtain ⟨_, -, heq⟩ := List.mem_map.mp hnew
      have hlt := (mem_probesOf.mp hold).1
      have hnumber := (Probe.mk.inj heq).1
      omega

theorem Orderly.fresh (replicaIds : List String) (sink : Registry ν) :
    Orderly replicaIds (PollLoop.fresh replicaIds sink) [] [] where
  records id hid := by
    have hrecord := snd_initialRecords replicaIds id
    rw [if_pos hid] at hrecord
    show (((initialRecords replicaIds).get? id).map Prod.snd).isSome = true
    rw [hrecord]
    rfl
  latch := .clear rfl rfl
  started := rfl
  account _ := rfl

theorem pollAll_of_polling (replicaIds : List String) (h : s.polling = true) :
    s.pollAll replicaIds = (s, {}) :=
  if_pos h

theorem applied_of_pollAll (h : s.pollAll replicaIds = (s', report)) : report.applied = none := by
  unfold PollLoop.pollAll at h
  split_ifs at h <;> obtain ⟨rfl, rfl⟩ := Prod.mk.inj h <;> rfl

theorem Orderly.pollAll (ho : Orderly replicaIds s launched applied)
    (h : s.pollAll replicaIds = (s', report)) :
    Orderly replicaIds s' (launched ++ report.launched) applied := by
  unfold PollLoop.pollAll at h
  split_ifs at h with hpolling
  · obtain ⟨rfl, rfl⟩ := Prod.mk.inj h
    simpa using ho
  · obtain ⟨rfl, rfl⟩ := Prod.mk.inj h
    have hidle : s.sweeps = [] := by
      cases ho.latch with
      | clear _ hsweeps => exact hsweeps
      | held _ _ hheld => exact absurd hheld hpolling
    refine ⟨ho.records, .held s.started replicaIds rfl (by simp [hidle]) rfl
      (List.Sublist.refl _), ?_, fun id => ?_⟩
    · rw [probesOf_succ, ho.started]
    · have hbefore := ho.account id
      rw [outstanding_of_idle hidle, List.filter_nil, List.append_nil] at hbefore
      have hsweeps : s.sweeps ++ [⟨s.started, replicaIds⟩] = [⟨s.started, replicaIds⟩] := by
        simp [hidle]
      rw [List.filter_append, hbefore, outstanding_of_sweeps hsweeps]

theorem Orderly.of_same (ho : Orderly replicaIds s launched applied)
    (hrecords : ∀ r, (s'.health.record r).isSome = (s.health.record r).isSome)
    (hpolling : s'.polling = s.polling) (hsweeps : s'.sweeps = s.sweeps)
    (hstarted : s'.started = s.started) : Orderly replicaIds s' launched applied where
  records id hid := (hrecords id).trans (ho.records id hid)
  latch := by
    cases ho.latch with
    | clear hp hs => exact .clear (hpolling.trans hp) (hsweeps.trans hs)
    | held number pending hp hs hst hsub =>
        exact .held number pending (hpolling.trans hp) (hsweeps.trans hs) (hstarted.trans hst) hsub
  started := by rw [hstarted]; exact ho.started
  account id := by
    have hsame : s'.outstanding = s.outstanding := by rw [outstanding, outstanding, hsweeps]
    rw [hsame]
    exact ho.account id

theorem Orderly.probed [JsNumber ν] (ho : Orderly replicaIds s launched applied)
    (hids : replicaIds.Nodup) {result : HealthResult ν} {now : String}
    (h : s.step th replicaIds (.probed number id result now) = .ok (s', report)) :
    Orderly replicaIds s' launched (applied ++ [⟨number, id⟩]) ∧ report.launched = [] ∧
      report.applied = some ⟨number, id⟩ := by
  simp only [step] at h
  split_ifs at h with hmem
  obtain ⟨⟨health, transition⟩, hpoll, h⟩ := ok_of_bind h
  obtain ⟨rfl, rfl⟩ := Prod.mk.inj (Except.ok.inj h)
  cases ho.latch with
  | clear _ hsweeps =>
      rw [outstanding_of_idle hsweeps] at hmem
      cases hmem
  | held number' pending hpolling hsweeps hstarted hsub =>
      rw [outstanding_of_sweeps hsweeps] at hmem
      obtain ⟨id', hid, heq⟩ := List.mem_map.mp hmem
      obtain ⟨rfl, rfl⟩ := Probe.mk.inj heq
      have hnodup : pending.Nodup := hids.sublist hsub
      have hrecord := ho.records id' (hsub.subset hid)
      refine ⟨⟨fun r hr => ?_, .held number' (pending.erase id') hpolling (by simp [hsweeps])
        hstarted (List.erase_sublist.trans hsub), ho.started, fun r => ?_⟩, rfl, ?_⟩
      · exact (isSome_record_of_pollOne hpoll r).trans (ho.records r hr)
      · have hafter : outstanding { s with
            health
            sweeps := s.sweeps.map fun sweep => if sweep.number = number' then
              { sweep with pending := sweep.pending.erase id' } else sweep } =
            (pending.erase id').map (Probe.mk number') :=
          outstanding_of_sweeps (by simp [hsweeps])
        have hbefore := ho.account r
        rw [outstanding_of_sweeps hsweeps] at hbefore
        rw [hbefore, hafter, List.filter_append, List.append_assoc]
        rw [filter_erase hid r]
      · obtain ⟨record, hsome⟩ := Option.isSome_iff_exists.mp hrecord
        simp [hsome]

/-- When the last probe of a sweep has been applied, each replica has been, once. -/
theorem Orderly.joined [JsNumber ν] (ho : Orderly replicaIds s launched applied)
    (hids : replicaIds.Nodup) (h : s.step th replicaIds (.joined number) = .ok (s', report)) :
    Orderly replicaIds s' launched applied ∧ report = {} ∧ s'.polling = false ∧
      ∀ id ∈ replicaIds, applied.count ⟨number, id⟩ = 1 := by
  simp only [step] at h
  split_ifs at h with hover
  obtain ⟨rfl, rfl⟩ := Prod.mk.inj (Except.ok.inj h)
  cases ho.latch with
  | clear _ hsweeps =>
      rw [hsweeps] at hover
      cases hover
  | held number' pending hpolling hsweeps hstarted hsub =>
      rw [hsweeps, List.mem_singleton] at hover
      obtain ⟨rfl, rfl⟩ := Sweep.mk.inj hover
      have hnone : s.outstanding = [] := by rw [outstanding_of_sweeps hsweeps]; rfl
      refine ⟨⟨ho.records, .clear rfl (by simp [hsweeps]), ho.started, fun r => ?_⟩, rfl, rfl,
        fun id hid => ?_⟩
      · have hafter : outstanding { s with
            polling := false
            sweeps := s.sweeps.filter fun sweep => decide (sweep.number ≠ number) } = [] :=
          outstanding_of_idle (by simp [hsweeps])
        rw [hafter, ← hnone]
        exact ho.account r
      · have haccount := ho.account id
        rw [hnone, List.filter_nil, List.append_nil] at haccount
        have hcount : ∀ l : List Probe, (l.filter (·.replicaId = id)).count ⟨number, id⟩ =
            l.count ⟨number, id⟩ := fun l => List.count_filter (by simp)
        rw [← hcount, ← haccount, hcount, ho.started]
        exact List.count_eq_one_of_mem (nodup_probesOf hids _)
          (mem_probesOf.mpr ⟨by omega, hid⟩)

/-- **What one step preserves.** -/
theorem Orderly.step [JsNumber ν] (ho : Orderly replicaIds s launched applied)
    (hids : replicaIds.Nodup) {a : PollInput ν}
    (h : s.step th replicaIds a = .ok (s', report)) :
    Orderly replicaIds s' (launched ++ report.launched) (applied ++ report.applied.toList) := by
  have hquiet : ∀ {t : PollLoop ν}, Orderly replicaIds t launched applied →
      Orderly replicaIds t (launched ++ []) (applied ++ []) := by simp
  cases a with
  | start =>
      obtain h := Except.ok.inj h
      unfold PollLoop.start at h
      split_ifs at h
      · obtain ⟨rfl, rfl⟩ := Prod.mk.inj h
        exact hquiet ho
      · generalize hpoll : s.pollAll replicaIds = polled at h
        obtain ⟨t, report'⟩ := polled
        obtain ⟨rfl, rfl⟩ := Prod.mk.inj h
        rw [applied_of_pollAll hpoll, Option.toList_none, List.append_nil]
        exact (ho.pollAll hpoll).of_same (fun _ => rfl) rfl rfl rfl
  | stop =>
      obtain ⟨rfl, rfl⟩ := Prod.mk.inj (Except.ok.inj h)
      apply hquiet
      unfold PollLoop.stop
      split_ifs
      · exact ho.of_same (fun _ => rfl) rfl rfl rfl
      · exact ho
  | tick =>
      simp only [PollLoop.step] at h
      split_ifs at h
      rw [applied_of_pollAll (Except.ok.inj h)]
      simpa using ho.pollAll (Except.ok.inj h)
  | pollAll =>
      rw [applied_of_pollAll (Except.ok.inj h)]
      simpa using ho.pollAll (Except.ok.inj h)
  | eject id reason now =>
      simp only [PollLoop.step] at h
      split at h
      · obtain ⟨rfl, rfl⟩ := Prod.mk.inj (Except.ok.inj h)
        exact hquiet ho
      · obtain ⟨⟨health, transition⟩, heject, h⟩ := ok_of_bind h
        obtain ⟨rfl, rfl⟩ := Prod.mk.inj (Except.ok.inj h)
        exact hquiet (ho.of_same (isSome_record_of_eject heject) rfl rfl rfl)
  | probed number id result now =>
      obtain ⟨hnext, hlaunched, happlied⟩ := ho.probed hids h
      rw [hlaunched, happlied, List.append_nil]
      exact hnext
  | joined number =>
      obtain ⟨hnext, rfl, -⟩ := ho.joined hids h
      exact hquiet hnext

/-- **What a run preserves.** -/
theorem orderly_of_exec [JsNumber ν] (hids : replicaIds.Nodup) {sink : Registry ν} {tr : Trace ν}
    (h : Exec (Step th replicaIds) (fresh replicaIds sink) tr s) :
    Orderly replicaIds s (launchedIn tr) (appliedIn tr) := by
  induction h with
  | nil => exact Orderly.fresh replicaIds sink
  | @snoc tr s t a _ hs ih =>
      have happlied : appliedIn (tr ++ [⟨s, a, t⟩]) = appliedIn tr ++ a.2.applied.toList := by
        unfold appliedIn
        rw [List.filterMap_append]
        cases ha : a.2.applied <;> simp [ha]
      have hlaunched : launchedIn (tr ++ [⟨s, a, t⟩]) = launchedIn tr ++ a.2.launched := by
        simp [launchedIn]
      rw [happlied, hlaunched]
      exact ih.step hids hs

theorem Orderly.nodup_applied (ho : Orderly replicaIds s launched applied)
    (hids : replicaIds.Nodup) : applied.Nodup := by
  rw [List.nodup_iff_count_le_one]
  intro probe
  have hcount : ∀ l : List Probe, (l.filter (·.replicaId = probe.replicaId)).count probe =
      l.count probe := fun l => List.count_filter (by simp)
  have hlaunched := List.nodup_iff_count_le_one.mp (nodup_probesOf hids s.started) probe
  rw [← ho.started, ← hcount, ho.account, List.count_append, hcount] at hlaunched
  omega

/-- A step that applies a probe moves the record of its replica by what the probe saw, and no
other. -/
def Applies [JsNumber ν] (th : Thresholds) (s s' : PollLoop ν) (a : PollInput ν) (probe : Probe) :
    Prop :=
  ∃ result now before, a = .probed probe.sweep probe.replicaId result now ∧
    s.health.record probe.replicaId = some before ∧
    ∀ r, s'.health.record r =
      if r = probe.replicaId then some (before.next th result.event) else s.health.record r

theorem applies_of_step [JsNumber ν] {a : PollInput ν} {probe : Probe}
    (h : s.step th replicaIds a = .ok (s', report)) (happlied : report.applied = some probe) :
    Applies th s s' a probe := by
  cases a with
  | start =>
      obtain h := Except.ok.inj h
      unfold PollLoop.start at h
      split_ifs at h
      · obtain ⟨rfl, rfl⟩ := Prod.mk.inj h
        cases happlied
      · obtain ⟨rfl, rfl⟩ := Prod.mk.inj h
        exact absurd ((applied_of_pollAll rfl).symm.trans happlied) (by simp)
  | stop =>
      obtain ⟨rfl, rfl⟩ := Prod.mk.inj (Except.ok.inj h)
      cases happlied
  | tick =>
      simp only [PollLoop.step] at h
      split_ifs at h
      rw [applied_of_pollAll (Except.ok.inj h)] at happlied
      cases happlied
  | pollAll =>
      rw [applied_of_pollAll (Except.ok.inj h)] at happlied
      cases happlied
  | eject id reason now =>
      simp only [PollLoop.step] at h
      split at h
      · obtain ⟨rfl, rfl⟩ := Prod.mk.inj (Except.ok.inj h)
        cases happlied
      · obtain ⟨_, -, h⟩ := ok_of_bind h
        obtain ⟨rfl, rfl⟩ := Prod.mk.inj (Except.ok.inj h)
        cases happlied
  | probed number id result now =>
      simp only [PollLoop.step] at h
      split_ifs at h
      obtain ⟨⟨health, transition⟩, hpoll, h⟩ := ok_of_bind h
      obtain ⟨rfl, rfl⟩ := Prod.mk.inj (Except.ok.inj h)
      obtain ⟨before, hbefore, rfl⟩ := Option.map_eq_some_iff.mp happlied
      exact ⟨result, now, before, rfl, hbefore, record_of_pollOne hbefore hpoll⟩
  | joined number =>
      simp only [PollLoop.step] at h
      split_ifs at h
      obtain ⟨rfl, rfl⟩ := Prod.mk.inj (Except.ok.inj h)
      cases happlied

def CallsPollAll : PollInput ν → Prop
  | .start => True
  | .tick => True
  | .pollAll => True
  | _ => False

/-- While a sweep runs, a call of `pollAll` changes nothing but the timer that `start` sets. -/
theorem launches_nothing [JsNumber ν] (hpolling : s.polling = true) {a : PollInput ν}
    (ha : CallsPollAll a) (h : s.step th replicaIds a = .ok (s', report)) :
    report = {} ∧ s'.sweeps = s.sweeps ∧ s'.health = s.health := by
  have hcall := pollAll_of_polling replicaIds hpolling
  cases a with
  | start =>
      simp only [PollLoop.step, PollLoop.start, hcall] at h
      split_ifs at h <;> obtain ⟨rfl, rfl⟩ := Prod.mk.inj (Except.ok.inj h) <;>
        exact ⟨rfl, rfl, rfl⟩
  | tick =>
      simp only [PollLoop.step, hcall] at h
      split_ifs at h
      obtain ⟨rfl, rfl⟩ := Prod.mk.inj (Except.ok.inj h)
      exact ⟨rfl, rfl, rfl⟩
  | pollAll =>
      simp only [PollLoop.step, hcall] at h
      obtain ⟨rfl, rfl⟩ := Prod.mk.inj (Except.ok.inj h)
      exact ⟨rfl, rfl, rfl⟩
  | stop => cases ha
  | eject id reason now => cases ha
  | probed number id result now => cases ha
  | joined number => cases ha

/-- **Sweeps never overlap and never skip a replica.**  After every run of the poll loop: each
replica has at most one probe outstanding, and its results were applied in the order its probes were
launched, each by moving its record; the latch is held exactly while a sweep runs, and then a call
of `pollAll` launches nothing; a sweep that is over has applied one result to each replica and
clears the latch, and one with no probe outstanding can end. -/
theorem sweeps_never_overlap [JsNumber ν] (hids : replicaIds.Nodup) {sink : Registry ν}
    {tr : Trace ν} (h : Exec (Step th replicaIds) (fresh replicaIds sink) tr s) :
    (s.outstanding.map (·.replicaId)).Nodup ∧ (appliedIn tr).Nodup ∧
    (∀ id, (launchedIn tr).filter (·.replicaId = id) =
      (appliedIn tr).filter (·.replicaId = id) ++ s.outstanding.filter (·.replicaId = id)) ∧
    (∀ x ∈ tr, ∀ probe, x.label.2.applied = some probe →
      Applies th x.pre x.post x.label.1 probe) ∧
    (s.polling = true ↔ s.sweeps ≠ []) ∧
    (s.outstanding ≠ [] → s.polling = true) ∧
    (s.sweeps ≠ [] → ∀ a s' report, CallsPollAll a →
      s.step th replicaIds a = .ok (s', report) → report = {} ∧ s'.sweeps = s.sweeps) ∧
    (∀ number s' report, s.step th replicaIds (.joined number) = .ok (s', report) →
      s'.polling = false ∧ ∀ id ∈ replicaIds, (appliedIn tr).count ⟨number, id⟩ = 1) ∧
    (s.polling = true → s.outstanding = [] →
      ∃ number s' report, s.step th replicaIds (.joined number) = .ok (s', report)) := by
  have ho := orderly_of_exec hids h
  have hlatch : s.polling = true ↔ s.sweeps ≠ [] := by
    cases ho.latch with
    | clear hpolling hsweeps => simp [hpolling, hsweeps]
    | held number pending hpolling hsweeps => simp [hpolling, hsweeps]
  refine ⟨?_, ho.nodup_applied hids, ho.account,
    fun x hx probe => applies_of_step (h.step_of_mem hx), hlatch, ?_, ?_, ?_, ?_⟩
  · cases ho.latch with
    | clear hpolling hsweeps =>
        rw [outstanding_of_idle hsweeps]
        exact List.nodup_nil
    | held number pending hpolling hsweeps hstarted hsub =>
        rw [outstanding_of_sweeps hsweeps, List.map_map]
        exact (hids.sublist hsub).map fun _ _ h => h
  · intro hsome
    rw [hlatch]
    exact fun hidle => hsome (outstanding_of_idle hidle)
  · intro hsweeps a s' report ha hs
    obtain ⟨hreport, hsame, -⟩ := launches_nothing (hlatch.mpr hsweeps) ha hs
    exact ⟨hreport, hsame⟩
  · intro number s' report hs
    obtain ⟨-, -, hcleared, hcount⟩ := ho.joined hids hs
    exact ⟨hcleared, hcount⟩
  · intro hpolling hnone
    cases ho.latch with
    | clear hfree => exact absurd (hpolling.symm.trans hfree) (by decide)
    | held number pending _ hsweeps =>
        rw [outstanding_of_sweeps hsweeps, List.map_eq_nil_iff] at hnone
        subst hnone
        exact ⟨number, _, _, if_pos (by simp [hsweeps])⟩

end invariant

/-! ### A slow probe -/

/-- A sweep of two replicas that a tick and a direct call meet, with an ejection between its
results; then the timer is stopped and started again, and a second sweep runs. -/
def slowProbe : Except String (Registry ℕ × Trace ℕ × PollLoop ℕ) := do
  let sink ← [⟨"replica-1", ""⟩, ⟨"replica-2", ""⟩].foldlM Registry.register KeyedList.empty
  let run ← replay (step .twoOne ["replica-1", "replica-2"])
    (fresh ["replica-1", "replica-2"] sink) [
      .start, .tick, .probed 0 "replica-2" ⟨true, 5, 0⟩ "t0", .eject "replica-2" "timeout" "t1",
      .pollAll, .stop, .probed 0 "replica-1" ⟨true, 900, 0⟩ "t2", .joined 0, .start,
      .probed 1 "replica-2" ⟨true, 5, 0⟩ "t3"]
  return (sink, run)

theorem sweeps_never_overlap_slowProbe : ∃ (sink : Registry ℕ) (tr : Trace ℕ) (s : PollLoop ℕ),
    Exec (Step .twoOne ["replica-1", "replica-2"]) (fresh ["replica-1", "replica-2"] sink) tr s ∧
    launchedIn tr = [⟨0, "replica-1"⟩, ⟨0, "replica-2"⟩, ⟨1, "replica-1"⟩, ⟨1, "replica-2"⟩] ∧
    s.outstanding = [⟨1, "replica-1"⟩] ∧ s.polling = true := by
  obtain ⟨⟨sink, tr, s⟩, h, hc⟩ := exists_of_check slowProbe (fun run =>
    decide (launchedIn run.2.1 =
      [⟨0, "replica-1"⟩, ⟨0, "replica-2"⟩, ⟨1, "replica-1"⟩, ⟨1, "replica-2"⟩]) &&
    decide (run.2.2.outstanding = [⟨1, "replica-1"⟩])) (by decide)
  obtain ⟨_, -, h⟩ := ok_of_bind h
  obtain ⟨_, h₁, h⟩ := ok_of_bind h
  cases Except.ok.inj h
  simp only [Bool.and_eq_true, decide_eq_true_eq] at hc
  have hexec := (exec_of_replay h₁).1
  obtain ⟨-, -, -, -, -, hheld, -⟩ := sweeps_never_overlap (by decide) hexec
  exact ⟨sink, tr, s, hexec, hc.1, hc.2, hheld (by simp [hc.2])⟩

end PollLoop

end WhyRouted
