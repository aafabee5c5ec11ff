import WhyRouted.ControlPlane

/-! # Runs of the control plane

An execution starts from the state `wire` builds, in which every replica of the fleet is
unknown, unmeasured and active.  Along it, what the scheduler holds for a replica is the
hysteresis automaton run over that replica's own history of probes and ejections
(`record_of_exec`), whatever else happens in between, and the registry shows the same. -/

namespace WhyRouted

variable {ν : Type} [JsNumber ν]

/-! ### Where an execution starts -/

/-- What routing and hysteresis read of a replica. -/
def ReplicaState.live (state : ReplicaState ν) : ReplicaRuntime ν × ReplicaAdmin :=
  (state.runtime, state.admin)

theorem live_of_register {replicas : List Replica} {registry registry' : Registry ν}
    (h : replicas.foldlM Registry.register registry = .ok registry') (r : String) :
    (registry'.get? r).map (·.live) =
      if r ∈ replicas.map (·.id) then some (initialRuntime, .active)
      else (registry.get? r).map (·.live) := by
  induction replicas generalizing registry with
  | nil =>
      obtain rfl := Except.ok.inj h
      simp
  | cons replica replicas ih =>
      obtain ⟨registry₁, h₁, h₂⟩ := ok_of_bind h
      rw [ih h₂, Registry.get?_of_register h₁]
      by_cases hr : r = replica.id <;> simp [hr, ReplicaState.live]

theorem snd_set (m : HysteresisMap) (id : String) (h : ReplicaHysteresis) (r : String) :
    ((m.set id h).get? r).map Prod.snd = if r = id then some h else (m.get? r).map Prod.snd := by
  unfold HysteresisMap.set
  split
  · rw [KeyedList.get?_push]
    split_ifs <;> rfl
  · next entry hentry => rw [HysteresisMap.snd_overwrite, hentry]; rfl

theorem snd_initialRecords (replicaIds : List String) (r : String) :
    ((initialRecords replicaIds).get? r).map Prod.snd =
      if r ∈ replicaIds then some .initial else none := by
  have hfold : ∀ (ids : List String) (m : HysteresisMap),
      ((ids.foldl (fun m id => m.set id .initial) m).get? r).map Prod.snd =
        if r ∈ ids then some .initial else (m.get? r).map Prod.snd := by
    intro ids
    induction ids with
    | nil => simp
    | cons id ids ih =>
        intro m
        rw [List.foldl_cons, ih, snd_set]
        by_cases hr : r = id <;> simp [hr]
  exact (hfold replicaIds _).trans (by simp [KeyedList.get?, KeyedList.empty])

/-- The state `wire` builds: every replica of the fleet unknown, unmeasured and active. -/
theorem wire_spec {replicas : List Replica} {config : RoutingConfig ν} {cp : ControlPlane ν}
    (h : wire replicas config = .ok cp) :
    cp.health.Mirrors ∧ cp.failover = [] ∧
      (∀ r, cp.health.record r = if r ∈ replicas.map (·.id) then some .initial else none) ∧
      ∀ r state, cp.registry.get? r = some state → state.live = (initialRuntime, .active) := by
  obtain ⟨registry, hr, h⟩ := ok_of_bind h
  obtain rfl := Except.ok.inj h
  have hlive := live_of_register hr
  have hrecord : ∀ r, HealthState.record ⟨initialRecords (replicas.map (·.id)), registry⟩ r =
      if r ∈ replicas.map (·.id) then some .initial else none := snd_initialRecords _
  refine ⟨fun r => ?_, rfl, hrecord, fun r state hstate => ?_⟩
  · have hhyst : (registry.get? r).map (fun state => state.runtime.hysteresis) =
        ((registry.get? r).map (·.live)).map (fun live => live.1.hysteresis) := by
      rw [Option.map_map]; rfl
    apply hhyst.trans
    rw [hrecord, hlive]
    split_ifs <;> rfl
  · have := hlive r
    rw [show registry.get? r = some state from hstate] at this
    split_ifs at this
    · exact Option.some.inj this
    · cases this

/-! ### Histories -/

namespace ControlPlane

variable (th : Thresholds)

abbrev Trace (ν : Type) := List (Transition (ControlPlane ν) (Action ν × Output ν))

/-- What an operation is to the hysteresis of replica `r`. -/
def eventOf (r : String) : Action ν → Option HealthEvent
  | .probed id result _ _ => if id = r then some result.event else none
  | .eject id _ _ _ => if id = r then some .ejected else none
  | _ => none

/-- The probe completions and ejections of replica `r`, oldest first. -/
def history (r : String) (tr : Trace ν) : List HealthEvent :=
  tr.filterMap fun x => eventOf r x.label.1

omit [JsNumber ν] in
theorem history_eq_filterMap (r : String) (tr : Trace ν) :
    history r tr = (tr.map fun x => x.label.1).filterMap (eventOf r) := by
  rw [List.filterMap_map]; rfl

omit [JsNumber ν] in
theorem history_append (r : String) (tr tr' : Trace ν) :
    history r (tr ++ tr') = history r tr ++ history r tr' := List.filterMap_append

omit [JsNumber ν] in
theorem history_singleton (r : String) (x : Transition (ControlPlane ν) (Action ν × Output ν)) :
    history r [x] = (eventOf r x.label.1).toList := by
  unfold history
  cases h : eventOf r x.label.1 <;> simp [h]

theorem hysteresis_touch (r : String) (a : Action ν) (state : ReplicaState ν) :
    (touch th r a state).runtime.hysteresis =
      (eventOf r a).elim state.runtime.hysteresis (state.runtime.hysteresis.next th) := by
  cases a with
  | probed id result now eventId => simp only [touch, eventOf]; split_ifs <;> rfl
  | eject id reason now eventId => simp only [touch, eventOf]; split_ifs <;> rfl
  | route exclude => rfl
  | recordEvent event => rfl
  | recordDecision decision => rfl
  | tool call =>
      cases call with
      | drainReplica id => simp only [touch, eventOf]; split_ifs <;> rfl
      | restoreReplica id => simp only [touch, eventOf]; split_ifs <;> rfl
      | setRoutingStrategy name => rfl
      | setScoringWeights weights => rfl

variable {th} {cp cp₀ cp' : ControlPlane ν} {out : Output ν} {tr : Trace ν}

/-- An operation applies its event to the record of its replica and to no other. -/
theorem act_record (hm : cp.health.Mirrors) {a : Action ν} (h : cp.act th a = .ok (cp', out))
    (r : String) : cp'.health.record r =
      (cp.health.record r).map fun h => (eventOf r a).elim h (h.next th) := by
  obtain ⟨hm', hget⟩ := act_touches hm h
  rw [← hm', ← hm, hget, Option.map_map, Option.map_map]
  congr 1
  funext state
  exact hysteresis_touch th r a state

variable {replicas : List Replica} {config : RoutingConfig ν}

/-- **Along every execution, a replica's record is the automaton run over its history**, and
the registry shows it. -/
theorem record_of_exec (h₀ : wire replicas config = .ok cp₀) (h : Exec (Step th) cp₀ tr cp) :
    cp.health.Mirrors ∧ ∀ r, cp.health.record r =
      if r ∈ replicas.map (·.id) then some (.run th (history r tr)) else none := by
  induction h with
  | nil =>
      obtain ⟨hm, _, hrecord, _⟩ := wire_spec h₀
      exact ⟨hm, hrecord⟩
  | snoc _ hs ih =>
      obtain ⟨hm, hrecord⟩ := ih
      refine ⟨(act_touches hm hs).1, fun r => ?_⟩
      rw [act_record hm hs, hrecord, history_append, history_singleton]
      split_ifs
      · cases eventOf r _ <;> simp
      · rfl

theorem hysteresis_of_exec (h₀ : wire replicas config = .ok cp₀) (h : Exec (Step th) cp₀ tr cp)
    {r : String} {state : ReplicaState ν} (hget : cp.registry.get? r = some state) :
    state.runtime.hysteresis = .run th (history r tr) := by
  obtain ⟨hm, hrecord⟩ := record_of_exec h₀ h
  have hrun := (hm.record_eq hget).symm.trans (hrecord r)
  split_ifs at hrun
  exact Option.some.inj hrun

/-! ### Operator intent and latency -/

/-- What an operation asks for replica `r`. -/
def adminOf (r : String) : Action ν → Option ReplicaAdmin
  | .tool (.drainReplica id) => if id = r then some .drained else none
  | .tool (.restoreReplica id) => if id = r then some .active else none
  | _ => none

theorem admin_touch (r : String) (a : Action ν) (state : ReplicaState ν) :
    (touch th r a state).admin = (adminOf r a).getD state.admin := by
  cases a with
  | probed id result now eventId => simp only [touch, adminOf]; split_ifs <;> rfl
  | eject id reason now eventId => simp only [touch, adminOf]; split_ifs <;> rfl
  | route exclude => rfl
  | recordEvent event => rfl
  | recordDecision decision => rfl
  | tool call =>
      cases call with
      | drainReplica id => simp only [touch, adminOf]; split_ifs <;> rfl
      | restoreReplica id => simp only [touch, adminOf]; split_ifs <;> rfl
      | setRoutingStrategy name => rfl
      | setScoringWeights weights => rfl

/-- Why a latency can be missing, and when it can be there. -/
structure Measured (runtime : ReplicaRuntime ν) : Prop where
  of_none : runtime.latencyMs = none → runtime.consecFailures ≠ 0 ∨ runtime.health ≠ .healthy
  of_some : runtime.latencyMs ≠ none → runtime.consecFailures = 0 ∨ runtime.health = .unhealthy

omit [JsNumber ν] in
/-- For a healthy replica, exactly the failures since its last success decide. -/
theorem Measured.none_iff {runtime : ReplicaRuntime ν} (hm : Measured runtime)
    (hh : runtime.health = .healthy) : runtime.latencyMs = none ↔ runtime.consecFailures ≠ 0 := by
  constructor
  · intro hnone
    exact (hm.of_none hnone).resolve_right (fun h => h hh)
  · intro hne
    by_contra hsome
    rcases hm.of_some hsome with h | h
    · exact hne h
    · rw [hh] at h; cases h

theorem measured_touch (r : String) (a : Action ν) {state : ReplicaState ν}
    (hm : Measured state.runtime) : Measured (touch th r a state).runtime := by
  cases a with
  | probed id result now eventId =>
      simp only [touch]
      split_ifs
      · cases ha : result.alive with
        | true =>
            refine ⟨fun h => ?_, fun _ => Or.inl ?_⟩
            · simp [ReplicaRuntime.setHysteresis, ReplicaRuntime.measure, ha] at h
            · simp [ReplicaRuntime.setHysteresis, HealthResult.event, ha, ReplicaHysteresis.next]
        | false =>
            refine ⟨fun _ => Or.inl ?_, fun h => ?_⟩
            · simp [ReplicaRuntime.setHysteresis, HealthResult.event, ha, ReplicaHysteresis.next]
            · simp [ReplicaRuntime.setHysteresis, ReplicaRuntime.measure, ha] at h
      · exact hm
  | eject id reason now eventId =>
      simp only [touch]
      split_ifs
      · by_cases hu : state.runtime.health = .unhealthy
        · rw [ReplicaHysteresis.next_ejected_of_unhealthy th hu]
          exact hm
        · have hnext : state.runtime.hysteresis.next th .ejected =
              ⟨.unhealthy, th.unhealthyThreshold, 0⟩ := if_neg hu
          rw [hnext]
          exact ⟨fun _ => Or.inr (by simp [ReplicaRuntime.setHysteresis]), fun _ => Or.inr rfl⟩
      · exact hm
  | route exclude => exact hm
  | recordEvent event => exact hm
  | recordDecision decision => exact hm
  | tool call =>
      cases call with
      | drainReplica id => simp only [touch]; split_ifs <;> exact hm
      | restoreReplica id => simp only [touch]; split_ifs <;> exact hm
      | setRoutingStrategy name => exact hm
      | setScoringWeights weights => exact hm

theorem measured_of_exec (h₀ : wire replicas config = .ok cp₀) (h : Exec (Step th) cp₀ tr cp)
    {r : String} {state : ReplicaState ν} (hget : cp.registry.get? r = some state) :
    Measured state.runtime := by
  induction h generalizing state with
  | nil =>
      obtain ⟨-, -, -, hlive⟩ := wire_spec h₀
      have hruntime : state.runtime = initialRuntime := congrArg Prod.fst (hlive r state hget)
      rw [hruntime]
      exact ⟨fun _ => Or.inr (by simp [initialRuntime]), fun h => absurd rfl h⟩
  | snoc hexec hs ih =>
      rw [(act_touches (record_of_exec h₀ hexec).1 hs).2] at hget
      obtain ⟨state₀, hget₀, rfl⟩ := Option.map_eq_some_iff.mp hget
      exact measured_touch r _ (ih hget₀)

end ControlPlane

/-! ### A small setting for runs -/

/-- Two failures to go down, one success to come up. -/
def Thresholds.twoOne : Thresholds := ⟨2, 1, by decide, by decide⟩

end WhyRouted
