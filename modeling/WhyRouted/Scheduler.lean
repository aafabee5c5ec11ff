import WhyRouted.Adapter
import WhyRouted.Hysteresis
import WhyRouted.Registry

/-! # The health scheduler

`src/health/scheduler.ts`: `eject`, the continuation of `pollOne` once its probe has resolved,
and `transition`.  The scheduler keeps its own record per replica and writes the same facts
into the sink (the registry) by separate calls, each of which throws on an unknown id;
`Mirrors` says that the two agree.

`eject_spec` and `pollOne_spec` say everything the two operations do: from mirrored state they
do not throw, they apply one event of the hysteresis automaton to the addressed record, they
keep the mirror, and in the registry they touch the addressed runtime only. -/

namespace WhyRouted

variable {ν : Type}

/-- A health-state change, as handed to `onTransition`. -/
structure HealthTransition where
  replicaId : String
  fromHealth : ReplicaHealth
  toHealth : ReplicaHealth
  atTime : String
  /-- Set by `eject`, absent for a transition the poll loop made. -/
  reason : Option String
deriving DecidableEq, Repr

/-- The scheduler's `hysteresis` map. -/
abbrev HysteresisMap := KeyedList (fun entry : String × ReplicaHysteresis => entry.1)

/-- Write the record of an id the map has. -/
def HysteresisMap.overwrite (m : HysteresisMap) (id : String) (h : ReplicaHysteresis) :
    HysteresisMap :=
  m.modify id (fun entry => (entry.1, h)) (fun _ => rfl)

theorem HysteresisMap.snd_overwrite (m : HysteresisMap) (id : String) (h : ReplicaHysteresis)
    (r : String) : ((m.overwrite id h).get? r).map Prod.snd =
      if r = id then (m.get? id).map (fun _ => h) else (m.get? r).map Prod.snd := by
  unfold overwrite
  split_ifs with hr
  · rw [hr, KeyedList.get?_modify_self, Option.map_map]; rfl
  · rw [KeyedList.get?_modify_ne _ _ _ _ hr]

/-- The scheduler's records and the registry it writes into. -/
structure HealthState (ν : Type) where
  hysteresis : HysteresisMap
  sink : Registry ν

/-- The hysteresis fields of a runtime. -/
def ReplicaRuntime.hysteresis (runtime : ReplicaRuntime ν) : ReplicaHysteresis :=
  ⟨runtime.health, runtime.consecFailures, runtime.consecSuccesses⟩

/-- A runtime with its hysteresis fields replaced. -/
def ReplicaRuntime.setHysteresis (runtime : ReplicaRuntime ν) (h : ReplicaHysteresis) :
    ReplicaRuntime ν :=
  { runtime with
    health := h.health, consecFailures := h.consecFailures, consecSuccesses := h.consecSuccesses }

/-- The measurements a probe writes: what it saw when it succeeded, no latency and no load when
it failed. -/
def ReplicaRuntime.measure [JsNumber ν] (runtime : ReplicaRuntime ν) (result : HealthResult ν)
    (now : String) : ReplicaRuntime ν :=
  { runtime with
    inFlight := if result.alive then result.inFlight else JsNumber.ofNat 0
    latencyMs := if result.alive then some result.latencyMs else none
    lastCheckedAt := some now }

/-- The event a resolved probe is. -/
def HealthResult.event (result : HealthResult ν) : HealthEvent :=
  if result.alive then .succeeded else .failed

namespace HealthState

def record (s : HealthState ν) (id : String) : Option ReplicaHysteresis :=
  (s.hysteresis.get? id).map Prod.snd

def setRecord (s : HealthState ν) (id : String) (h : ReplicaHysteresis) : HealthState ν :=
  { s with hysteresis := s.hysteresis.overwrite id h }

variable (th : Thresholds)

/-- Take a replica out of rotation at once; a no-op if it is already unhealthy. -/
def eject (s : HealthState ν) (replicaId reason now : String) :
    Except String (HealthState ν × Option HealthTransition) :=
  match s.record replicaId with
  | none => .error ("cannot eject unknown replica \"" ++ replicaId ++ "\"")
  | some state =>
      if state.health = .unhealthy then .ok (s, none)
      else do
        let s := s.setRecord replicaId ⟨.unhealthy, th.unhealthyThreshold, 0⟩
        -- `inFlight` and `latencyMs` are left alone: an eject is not a probe
        let sink ← s.sink.updateRuntime replicaId
          { consecFailures := some th.unhealthyThreshold, consecSuccesses := some 0 }
        let sink ← sink.setHealth replicaId .unhealthy
        return ({ s with sink }, some
          { replicaId, fromHealth := state.health, toHealth := .unhealthy, atTime := now
            reason := some reason })

/-- Enter `toHealth`: the record, the sink, and the transition to announce. -/
def transition (s : HealthState ν) (id : String) (state : ReplicaHysteresis)
    (toHealth : ReplicaHealth) (now : String) :
    Except String (HealthState ν × Option HealthTransition) := do
  let s := s.setRecord id { state with health := toHealth }
  let sink ← s.sink.setHealth id toHealth
  return ({ s with sink }, some
    { replicaId := id, fromHealth := state.health, toHealth, atTime := now, reason := none })

/-- `pollOne` after its probe has resolved to `result`. -/
def pollOne [JsNumber ν] (s : HealthState ν) (id : String) (result : HealthResult ν)
    (now : String) : Except String (HealthState ν × Option HealthTransition) :=
  match s.record id with
  | none => .ok (s, none)
  | some state =>
      if result.alive then do
        let state :=
          { state with consecSuccesses := state.consecSuccesses + 1, consecFailures := 0 }
        let s := s.setRecord id state
        let sink ← s.sink.updateRuntime id
          { inFlight := some result.inFlight
            latencyMs := some (some result.latencyMs)
            consecFailures := some 0
            consecSuccesses := some state.consecSuccesses
            lastCheckedAt := some (some now) }
        let s := { s with sink }
        if state.health ≠ .healthy ∧ th.healthyThreshold ≤ state.consecSuccesses then
          s.transition id state .healthy now
        else return (s, none)
      else do
        let state := { state with consecFailures := state.consecFailures + 1, consecSuccesses := 0 }
        let s := s.setRecord id state
        let sink ← s.sink.updateRuntime id
          { inFlight := some (JsNumber.ofNat 0)
            latencyMs := some none
            consecFailures := some state.consecFailures
            consecSuccesses := some 0
            lastCheckedAt := some (some now) }
        let s := { s with sink }
        if state.health ≠ .unhealthy ∧ th.unhealthyThreshold ≤ state.consecFailures then
          s.transition id state .unhealthy now
        else return (s, none)

/-! ### The mirror -/

/-- The registry shows, for every replica, exactly what the scheduler holds. -/
def Mirrors (s : HealthState ν) : Prop :=
  ∀ r, (s.sink.get? r).map (fun state => state.runtime.hysteresis) = s.record r

@[simp] theorem sink_setRecord (s : HealthState ν) (id : String) (h : ReplicaHysteresis) :
    (s.setRecord id h).sink = s.sink := rfl

theorem record_setRecord (s : HealthState ν) (id : String) (h : ReplicaHysteresis) (r : String) :
    (s.setRecord id h).record r =
      if r = id then (s.record id).map (fun _ => h) else s.record r := by
  apply (s.hysteresis.snd_overwrite id h r).trans
  unfold record
  rw [Option.map_map]
  rfl

theorem Mirrors.registered {s : HealthState ν} (hm : s.Mirrors) {id : String}
    {h : ReplicaHysteresis} (hid : s.record id = some h) :
    ∃ state, s.sink.get? id = some state ∧ state.runtime.hysteresis = h :=
  Option.map_eq_some_iff.mp ((hm id).trans hid)

theorem Mirrors.unregistered {s : HealthState ν} (hm : s.Mirrors) {id : String}
    (hid : s.record id = none) : s.sink.get? id = none :=
  Option.map_eq_none_iff.mp ((hm id).trans hid)

theorem Mirrors.record_eq {s : HealthState ν} (hm : s.Mirrors) {id : String}
    {state : ReplicaState ν} (hget : s.sink.get? id = some state) :
    s.record id = some state.runtime.hysteresis := by
  rw [← hm, hget]; rfl

/-- `s'` is `s` with the record of `id` set to `h` and its runtime rewritten by `f`. -/
structure Rewrites (s s' : HealthState ν) (id : String) (h : ReplicaHysteresis)
    (f : ReplicaRuntime ν → ReplicaRuntime ν) : Prop where
  record : ∀ r, s'.record r = if r = id then some h else s.record r
  sink : ∀ r, s'.sink.get? r = if r = id then
    (s.sink.get? id).map (fun state => { state with runtime := f state.runtime })
    else s.sink.get? r
  keys : s'.sink.keys = s.sink.keys

theorem Rewrites.mirrors {s s' : HealthState ν} {id : String} {h : ReplicaHysteresis}
    {f : ReplicaRuntime ν → ReplicaRuntime ν} (hw : Rewrites s s' id h f) (hm : s.Mirrors)
    (hid : ∃ h₀, s.record id = some h₀) (hf : ∀ runtime, (f runtime).hysteresis = h) :
    s'.Mirrors := by
  intro r
  rw [hw.record, hw.sink]
  split_ifs with hr
  · obtain ⟨h₀, hid⟩ := hid
    obtain ⟨state, hget, _⟩ := hm.registered hid
    rw [hget]
    simp [hf]
  · exact hm r

/-- The transition to announce for a change of record, if the health changed. -/
def announcement (id : String) (before after : ReplicaHysteresis) (now : String)
    (reason : Option String) : Option HealthTransition :=
  if before.health = after.health then none
  else some { replicaId := id, fromHealth := before.health, toHealth := after.health
              atTime := now, reason }

variable {s : HealthState ν} {id : String} {h : ReplicaHysteresis}

/-- **`eject` applies one `ejected` event** to the record and the registry of its replica, and
announces it if the health changed. -/
theorem eject_spec (hm : s.Mirrors) (hid : s.record id = some h) (reason now : String) :
    ∃ s', s.eject th id reason now =
        .ok (s', announcement id h (h.next th .ejected) now (some reason)) ∧
      Rewrites s s' id (h.next th .ejected) (·.setHysteresis (h.next th .ejected)) := by
  obtain ⟨state, hget, hst⟩ := hm.registered hid
  by_cases hu : h.health = .unhealthy
  · rw [ReplicaHysteresis.next_ejected_of_unhealthy th hu]
    refine ⟨s, by simp [eject, hid, hu, announcement], ?_, ?_, rfl⟩
    · intro r; split_ifs with hr
      · rw [hr, hid]
      · rfl
    · intro r; split_ifs with hr
      · rw [hr, hget, ← hst]; rfl
      · rfl
  · have hnext : h.next th .ejected = ⟨.unhealthy, th.unhealthyThreshold, 0⟩ := if_neg hu
    obtain ⟨sink₁, h₁, hget₁, hkeys₁⟩ := Registry.updateRuntime_spec ⟨state, hget⟩
      { consecFailures := some th.unhealthyThreshold, consecSuccesses := some 0 }
    have hget' := (hget₁ id).trans (if_pos rfl)
    rw [hget] at hget'
    obtain ⟨sink₂, h₂, hget₂, hkeys₂⟩ := Registry.setHealth_spec ⟨_, hget'⟩ .unhealthy
    refine ⟨{ s.setRecord id (h.next th .ejected) with sink := sink₂ }, ?_, ?_, ?_, ?_⟩
    · simp [eject, hid, hu, h₁, h₂, announcement, hnext, bind, Except.bind]
      rfl
    · intro r
      exact (record_setRecord s id _ r).trans (by rw [hid]; rfl)
    · intro r
      rw [hget₂, hnext]
      split_ifs with hr
      · rw [hget', hget]; rfl
      · rw [hget₁, if_neg hr]
    · exact hkeys₂.trans hkeys₁

theorem rewrites_update {state : ReplicaState ν} {patch : RuntimePatch ν} {sink₁ : Registry ν}
    {f : ReplicaRuntime ν → ReplicaRuntime ν} (hid : s.record id = some h)
    (hget : s.sink.get? id = some state) (h₁ : s.sink.updateRuntime id patch = .ok sink₁)
    (h' : ReplicaHysteresis) (hf : f state.runtime = state.runtime.merge patch) :
    Rewrites s { s.setRecord id h' with sink := sink₁ } id h' f := by
  obtain ⟨_, hr, hget₁, hkeys₁⟩ := Registry.updateRuntime_spec ⟨state, hget⟩ patch
  obtain rfl := Except.ok.inj (h₁.symm.trans hr)
  refine ⟨?_, ?_, hkeys₁⟩
  · intro r
    exact (record_setRecord s id h' r).trans (by rw [hid]; rfl)
  · intro r
    rw [hget₁]
    split_ifs with hr
    · rw [hget]
      simp [hf]
    · rfl

/-- `transition` right after a runtime update: one rewrite for both. -/
theorem transition_spec {state : ReplicaState ν} {patch : RuntimePatch ν} {sink₁ : Registry ν}
    {f : ReplicaRuntime ν → ReplicaRuntime ν} (hid : s.record id = some h)
    (hget : s.sink.get? id = some state) (h₁ : s.sink.updateRuntime id patch = .ok sink₁)
    (h' : ReplicaHysteresis) (toHealth : ReplicaHealth) (now : String)
    (hf : f state.runtime = { state.runtime.merge patch with health := toHealth }) :
    ∃ s', ({ s.setRecord id h' with sink := sink₁ } : HealthState ν).transition id h' toHealth now =
        .ok (s', some { replicaId := id, fromHealth := h'.health, toHealth, atTime := now
                        reason := none }) ∧
      Rewrites s s' id { h' with health := toHealth } f := by
  obtain ⟨_, hr, hget₁, hkeys₁⟩ := Registry.updateRuntime_spec ⟨state, hget⟩ patch
  obtain rfl := Except.ok.inj (h₁.symm.trans hr)
  have hget' := (hget₁ id).trans (if_pos rfl)
  rw [hget] at hget'
  obtain ⟨sink₂, h₂, hget₂, hkeys₂⟩ := Registry.setHealth_spec ⟨_, hget'⟩ toHealth
  refine ⟨{ (s.setRecord id h').setRecord id { h' with health := toHealth } with sink := sink₂ },
    ?_, ?_, ?_, ?_⟩
  · unfold transition
    simp only [setRecord, h₂]
    rfl
  · intro r
    apply (record_setRecord (s.setRecord id h') id _ r).trans
    rw [record_setRecord, record_setRecord, if_pos rfl, hid]
    split_ifs <;> rfl
  · intro r
    rw [hget₂]
    split_ifs with hr
    · rw [hget', hget]
      simp [hf]
    · rw [hget₁, if_neg hr]
  · exact hkeys₂.trans hkeys₁

/-- What both branches of `pollOne` end with: the runtime update, then the transition if its
guard holds. -/
theorem probe_tail {state : ReplicaState ν} {patch : RuntimePatch ν} {guard : Prop}
    [Decidable guard] {target : ReplicaHealth} {f : ReplicaRuntime ν → ReplicaRuntime ν}
    (hid : s.record id = some h) (hget : s.sink.get? id = some state) (h' : ReplicaHysteresis)
    (hsame : h'.health = h.health) (hguard : guard → h.health ≠ target) (now : String)
    (hf : f state.runtime = if guard then { state.runtime.merge patch with health := target }
      else state.runtime.merge patch) :
    ∃ s', (do
        let sink ← s.sink.updateRuntime id patch
        let s₁ : HealthState ν := { s.setRecord id h' with sink }
        if guard then s₁.transition id h' target now else return (s₁, none)) =
          .ok (s', announcement id h { h' with health := if guard then target else h'.health }
            now none) ∧
      Rewrites s s' id { h' with health := if guard then target else h'.health } f := by
  obtain ⟨sink₁, h₁, -, -⟩ := Registry.updateRuntime_spec ⟨state, hget⟩ patch
  by_cases hg : guard
  · obtain ⟨s', ht, hw⟩ := transition_spec hid hget h₁ h' target now (hf.trans (if_pos hg))
    refine ⟨s', ?_, by simpa [hg] using hw⟩
    simp [h₁, hg, ht, announcement, hsame, hguard hg, bind, Except.bind]
  · refine ⟨_, ?_, by simpa [hg] using rewrites_update hid hget h₁ h' (hf.trans (if_neg hg))⟩
    simp [h₁, hg, announcement, hsame, bind, Except.bind]
    rfl

/-- **`pollOne` applies one probe event** to the record and the registry of its replica, writes
what the probe measured, and announces the transition if the health changed. -/
theorem pollOne_spec [JsNumber ν] (hm : s.Mirrors) (hid : s.record id = some h)
    (result : HealthResult ν) (now : String) :
    ∃ s', s.pollOne th id result now =
        .ok (s', announcement id h (h.next th result.event) now none) ∧
      Rewrites s s' id (h.next th result.event)
        (fun runtime => (runtime.measure result now).setHysteresis (h.next th result.event)) := by
  obtain ⟨state, hget, rfl⟩ := hm.registered hid
  unfold pollOne
  rw [hid]
  cases ha : result.alive with
  | true =>
      rw [show result.event = .succeeded by simp [HealthResult.event, ha]]
      refine probe_tail hid hget ⟨state.runtime.health, 0, state.runtime.consecSuccesses + 1⟩ rfl
        (fun hg => hg.1) now ?_
      simp only [ReplicaHysteresis.next, ReplicaRuntime.hysteresis, ReplicaRuntime.setHysteresis,
        ReplicaRuntime.measure, ReplicaRuntime.merge, ha]
      split_ifs with hc <;> simp [hc]
  | false =>
      rw [show result.event = .failed by simp [HealthResult.event, ha]]
      refine probe_tail hid hget ⟨state.runtime.health, state.runtime.consecFailures + 1, 0⟩ rfl
        (fun hg => hg.1) now ?_
      simp only [ReplicaHysteresis.next, ReplicaRuntime.hysteresis, ReplicaRuntime.setHysteresis,
        ReplicaRuntime.measure, ReplicaRuntime.merge, ha]
      split_ifs with hc <;> simp [hc]

/-- An id the scheduler does not poll changes nothing. -/
theorem pollOne_of_unknown [JsNumber ν] (hid : s.record id = none) (result : HealthResult ν)
    (now : String) : s.pollOne th id result now = .ok (s, none) := by
  simp [pollOne, hid]

end HealthState

end WhyRouted
