import WhyRouted.Execution
import WhyRouted.HandleRoute
import WhyRouted.Tools

/-! # The control plane

Everything the process shares between requests, wired as `src/main.ts` wires it: the health
scheduler writing into the registry and announcing its transitions to the failover log, the
routing engine over the registry and the live config, and the decision log.

`act` performs one atomic operation, as the poll loop, a request handler or an MCP tool calls
it; whatever the order in which they are called is an execution of it.  `act_touches` says what an
operation does, replica by replica (`touch`): nothing later looks inside one. -/

namespace WhyRouted

variable {ν : Type} [JsNumber ν]

/-! ### State and wiring -/

/-- The stores of the process. -/
structure ControlPlane (ν : Type) where
  health : HealthState ν
  failover : FailoverEvents
  config : RoutingConfig ν
  engine : Engine
  decisions : List (Decision ν)

/-- `Map.set` on the scheduler's records. -/
def HysteresisMap.set (m : HysteresisMap) (id : String) (h : ReplicaHysteresis) : HysteresisMap :=
  match hid : m.get? id with
  | none => m.push (id, h) hid
  | some _ => m.overwrite id h

/-- The records the scheduler's constructor makes. -/
def initialRecords (replicaIds : List String) : HysteresisMap :=
  replicaIds.foldl (fun m id => m.set id .initial) KeyedList.empty

/-- The start of `main`: register the fleet, then build the scheduler, the engine and the logs. -/
def wire (replicas : List Replica) (config : RoutingConfig ν) : Except String (ControlPlane ν) := do
  let registry ← replicas.foldlM Registry.register KeyedList.empty
  return {
    health := { hysteresis := initialRecords (replicas.map (·.id)), sink := registry }
    failover := []
    config
    engine := ⟨none⟩
    decisions := [] }

/-! ### Operations -/

/-- The calls of the MCP action tools that reach these stores. -/
inductive ToolCall (ν : Type) where
  | drainReplica (replicaId : String)
  | restoreReplica (replicaId : String)
  | setRoutingStrategy (strategy : String)
  | setScoringWeights (weights : ScoringWeights ν)

/-- One operation on the stores. -/
inductive Action (ν : Type) where
  /-- `pollOne` continues: its probe of the replica has resolved. -/
  | probed (replicaId : String) (result : HealthResult ν) (now eventId : String)
  | eject (replicaId reason now eventId : String)
  | route (exclude : Option (List String))
  | recordEvent (event : FailoverEvent)
  | recordDecision (decision : Decision ν)
  | tool (call : ToolCall ν)

/-- What an operation returns to its caller. -/
inductive Output (ν : Type) where
  | done
  | routed (decision : RouteResult ν)
  | admin (output : ActionOutput ReplicaAdminState)
  | strategy (output : ActionOutput StrategyName)
  | weights (output : ActionOutput (ScoringWeights ν))

namespace ControlPlane

variable (th : Thresholds)

abbrev registry (cp : ControlPlane ν) : Registry ν := cp.health.sink

/-- The scheduler as an operation leaves it, with its transition passed on to the log. -/
def onTransition (cp : ControlPlane ν) (eventId : String)
    (outcome : HealthState ν × Option HealthTransition) : ControlPlane ν :=
  { cp with
    health := outcome.1
    failover := match outcome.2 with
      | none => cp.failover
      | some transition => cp.failover.handleTransition th transition eventId }

def callTool (cp : ControlPlane ν) : ToolCall ν → Except String (ControlPlane ν × Output ν)
  | .drainReplica id => do
      let (output, registry) ← setReplicaAdmin cp.registry id .drained
      return ({ cp with health := { cp.health with sink := registry } }, .admin output)
  | .restoreReplica id => do
      let (output, registry) ← setReplicaAdmin cp.registry id .active
      return ({ cp with health := { cp.health with sink := registry } }, .admin output)
  | .setRoutingStrategy name => do
      let (output, config) ← setRoutingStrategy cp.config name
      return ({ cp with config }, .strategy output)
  | .setScoringWeights weights => do
      let (output, config) ← setScoringWeights cp.config weights
      return ({ cp with config }, .weights output)

def route (cp : ControlPlane ν) (exclude : Option (List String)) :
    RouteResult ν × ControlPlane ν :=
  let (decision, engine) := cp.engine.route cp.registry.items cp.config exclude
  (decision, { cp with engine })

/-- `failoverLog.record`. -/
def recordEvent (cp : ControlPlane ν) (event : FailoverEvent) : ControlPlane ν :=
  { cp with failover := cp.failover.record event }

def act (cp : ControlPlane ν) : Action ν → Except String (ControlPlane ν × Output ν)
  | .probed id result now eventId => do
      return (cp.onTransition th eventId (← cp.health.pollOne th id result now), .done)
  | .eject id reason now eventId => do
      return (cp.onTransition th eventId (← cp.health.eject th id reason now), .done)
  | .route exclude =>
      let (decision, cp) := cp.route exclude
      .ok (cp, .routed decision)
  | .recordEvent event => .ok (cp.recordEvent event, .done)
  | .recordDecision decision => .ok ({ cp with decisions := cp.decisions ++ [decision] }, .done)
  | .tool call => cp.callTool call

/-- The operations as a transition system, labelled with what was asked and what came back. -/
abbrev Step : ControlPlane ν → Action ν × Output ν → ControlPlane ν → Prop :=
  Computes (act th)

/-! ### What an operation does to one replica -/

/-- The state of replica `r` after an operation, from the one before it. -/
def touch (r : String) (a : Action ν) (state : ReplicaState ν) : ReplicaState ν :=
  match a with
  | .probed id result now _ =>
      let h := state.runtime.hysteresis.next th result.event
      if id = r then { state with runtime := (state.runtime.measure result now).setHysteresis h }
      else state
  | .eject id _ _ _ =>
      let h := state.runtime.hysteresis.next th .ejected
      if id = r then { state with runtime := state.runtime.setHysteresis h } else state
  | .tool (.drainReplica id) => if id = r then { state with admin := .drained } else state
  | .tool (.restoreReplica id) => if id = r then { state with admin := .active } else state
  | _ => state

variable {th : Thresholds} {cp cp' : ControlPlane ν} {out : Output ν}

omit [JsNumber ν] in
theorem get?_of_rewrites {s s' : HealthState ν} {id : String} {h : ReplicaHysteresis}
    {f : ReplicaRuntime ν → ReplicaRuntime ν} (hw : HealthState.Rewrites s s' id h f)
    (r : String) : s'.sink.get? r = (s.sink.get? r).map fun state =>
      if id = r then { state with runtime := f state.runtime } else state := by
  rw [hw.sink]
  by_cases hr : r = id
  · subst hr; simp
  · simp [hr, Ne.symm hr]

omit [JsNumber ν] in
theorem setReplicaAdmin_get? {registry registry' : Registry ν} {id : String}
    {target : ReplicaAdmin} {output : ActionOutput ReplicaAdminState}
    (h : setReplicaAdmin registry id target = .ok (output, registry')) (r : String) :
    registry'.get? r = (registry.get? r).map fun state =>
      if id = r then { state with admin := target } else state := by
  rcases setReplicaAdmin_cases registry id target with
    ⟨hnone, reason, hok⟩ | ⟨before, after, notes, registry'', hset, hok⟩
  · obtain ⟨-, rfl⟩ := Prod.mk.inj (Except.ok.inj (h.symm.trans hok))
    by_cases hr : id = r
    · rw [← hr, hnone]; rfl
    · simp [hr]
  · obtain ⟨-, rfl⟩ := Prod.mk.inj (Except.ok.inj (h.symm.trans hok))
    rw [Registry.get?_of_update hset]
    by_cases hr : r = id
    · subst hr; simp
    · simp [hr, Ne.symm hr]

omit [JsNumber ν] in
theorem mirrors_setReplicaAdmin {s : HealthState ν} {registry' : Registry ν} {id : String}
    {target : ReplicaAdmin} {output : ActionOutput ReplicaAdminState} (hm : s.Mirrors)
    (h : setReplicaAdmin s.sink id target = .ok (output, registry')) :
    HealthState.Mirrors { s with sink := registry' } := by
  intro r
  refine .trans ?_ (hm r)
  rw [setReplicaAdmin_get? h, Option.map_map]
  congr 1
  funext state
  by_cases hr : id = r <;> simp [hr]

/-- The entry the log makes when a probe changes a replica's health. -/
def probeEvent (th : Thresholds) (id : String) (before after : ReplicaHealth)
    (now eventId : String) : Option FailoverEvent :=
  if before = after then none
  else if after = .unhealthy then
    some { id := eventId, replicaId := id, kind := .ejected, atTime := now
           trigger := .healthCheck, reason := FailoverEvents.failedProbes th, requestId := none }
  else if after = .healthy ∧ before = .unhealthy then
    some { id := eventId, replicaId := id, kind := .recovered, atTime := now
           trigger := .healthCheck, reason := FailoverEvents.healthyProbes th, requestId := none }
  else none

omit [JsNumber ν] in
theorem failover_onTransition_probed (cp : ControlPlane ν) (s : HealthState ν) (id : String)
    (before after : ReplicaHysteresis) (now eventId : String) :
    (cp.onTransition th eventId
        (s, HealthState.announcement id before after now none)).failover =
      cp.failover ++ (probeEvent th id before.health after.health now eventId).toList := by
  simp only [onTransition, HealthState.announcement, probeEvent]
  split_ifs <;> simp_all [FailoverEvents.handleTransition, FailoverEvents.record]

omit [JsNumber ν] in
/-- An ejection's transition is not: it carries its reason. -/
theorem failover_onTransition_eject (cp : ControlPlane ν) (s : HealthState ν) (id : String)
    (before after : ReplicaHysteresis) (now eventId reason : String) :
    (cp.onTransition th eventId
        (s, HealthState.announcement id before after now (some reason))).failover =
      cp.failover := by
  simp only [onTransition, HealthState.announcement]
  split_ifs <;> simp [FailoverEvents.handleTransition]

theorem act_probed (th : Thresholds) (hm : cp.health.Mirrors) {id : String} {h : ReplicaHysteresis}
    (hid : cp.health.record id = some h) (result : HealthResult ν) (now eventId : String) :
    ∃ s', cp.act th (.probed id result now eventId) = .ok (cp.onTransition th eventId
        (s', HealthState.announcement id h (h.next th result.event) now none), .done) ∧
      HealthState.Rewrites cp.health s' id (h.next th result.event)
        (fun runtime => (runtime.measure result now).setHysteresis (h.next th result.event)) := by
  obtain ⟨s', hs, hw⟩ := HealthState.pollOne_spec th hm hid result now
  exact ⟨s', by simp [act, hs, bind, Except.bind, pure, Except.pure], hw⟩

theorem act_eject (th : Thresholds) (hm : cp.health.Mirrors) {id : String} {h : ReplicaHysteresis}
    (hid : cp.health.record id = some h) (reason now eventId : String) :
    ∃ s', cp.act th (.eject id reason now eventId) = .ok (cp.onTransition th eventId
        (s', HealthState.announcement id h (h.next th .ejected) now (some reason)), .done) ∧
      HealthState.Rewrites cp.health s' id (h.next th .ejected)
        (·.setHysteresis (h.next th .ejected)) := by
  obtain ⟨s', hs, hw⟩ := HealthState.eject_spec th hm hid reason now
  exact ⟨s', by simp [act, hs, bind, Except.bind, pure, Except.pure], hw⟩

theorem failover_of_probed (hm : cp.health.Mirrors) {id : String} {result : HealthResult ν}
    {now eventId : String} (h : cp.act th (.probed id result now eventId) = .ok (cp', out)) :
    cp'.failover = cp.failover ++ ((cp.health.record id).bind fun before =>
      probeEvent th id before.health (before.next th result.event).health now eventId).toList := by
  cases hid : cp.health.record id with
  | none =>
      obtain ⟨_, hp, hpost⟩ := ok_of_bind h
      rw [HealthState.pollOne_of_unknown th hid] at hp
      obtain rfl := Except.ok.inj hp
      obtain rfl := (Prod.mk.inj (Except.ok.inj hpost)).1
      simp [onTransition]
  | some before =>
      obtain ⟨s', hs, -⟩ := act_probed th hm hid result now eventId
      rw [(Prod.mk.inj (Except.ok.inj (h.symm.trans hs))).1, failover_onTransition_probed]
      rfl

theorem failover_of_eject (hm : cp.health.Mirrors) {id reason now eventId : String}
    (h : cp.act th (.eject id reason now eventId) = .ok (cp', out)) :
    cp'.failover = cp.failover := by
  cases hid : cp.health.record id with
  | none => simp [act, HealthState.eject, hid, bind, Except.bind] at h
  | some before =>
      obtain ⟨s', hs, -⟩ := act_eject th hm hid reason now eventId
      rw [(Prod.mk.inj (Except.ok.inj (h.symm.trans hs))).1, failover_onTransition_eject]

/-- A tool writes the registry and the config, and nothing else of the stores. -/
theorem logs_of_tool {call : ToolCall ν} (h : cp.act th (.tool call) = .ok (cp', out)) :
    cp'.failover = cp.failover ∧ cp'.decisions = cp.decisions := by
  cases call with
  | drainReplica id =>
      obtain ⟨_, -, h⟩ := ok_of_bind h
      obtain ⟨rfl, -⟩ := Prod.mk.inj (Except.ok.inj h)
      exact ⟨rfl, rfl⟩
  | restoreReplica id =>
      obtain ⟨_, -, h⟩ := ok_of_bind h
      obtain ⟨rfl, -⟩ := Prod.mk.inj (Except.ok.inj h)
      exact ⟨rfl, rfl⟩
  | setRoutingStrategy name =>
      obtain ⟨_, -, h⟩ := ok_of_bind h
      obtain ⟨rfl, -⟩ := Prod.mk.inj (Except.ok.inj h)
      exact ⟨rfl, rfl⟩
  | setScoringWeights weights =>
      obtain ⟨_, -, h⟩ := ok_of_bind h
      obtain ⟨rfl, -⟩ := Prod.mk.inj (Except.ok.inj h)
      exact ⟨rfl, rfl⟩

omit [JsNumber ν] in
/-- A rewrite that applies an event to one known replica keeps the mirror, and the registry
shows it at that replica only. -/
theorem touches_of_rewrites {s s' : HealthState ν} (hm : s.Mirrors) {id : String}
    {h : ReplicaHysteresis} (hid : s.record id = some h)
    (next : ReplicaHysteresis → ReplicaHysteresis)
    (g : ReplicaRuntime ν → ReplicaRuntime ν)
    (hw : HealthState.Rewrites s s' id (next h)
      (fun runtime => (g runtime).setHysteresis (next h))) :
    s'.Mirrors ∧ ∀ r, s'.sink.get? r = (s.sink.get? r).map fun state =>
      if id = r then { state with
        runtime := (g state.runtime).setHysteresis (next state.runtime.hysteresis) }
      else state := by
  refine ⟨hw.mirrors hm ⟨h, hid⟩ fun _ => rfl, fun r => ?_⟩
  rw [get?_of_rewrites hw]
  apply Option.map_congr
  intro state hstate
  by_cases hr : id = r
  · subst hr
    have := hm.record_eq hstate
    rw [if_pos rfl, if_pos rfl, Option.some.inj (hid.symm.trans this)]
  · rw [if_neg hr, if_neg hr]

theorem map_touch_of_eq {r : String} {a : Action ν} (h : ∀ state, touch th r a state = state)
    {o : Option (ReplicaState ν)} : o.map (touch th r a) = o := by
  cases o <;> simp [h]

theorem callTool_touches (hm : cp.health.Mirrors) {call : ToolCall ν}
    (h : cp.callTool call = .ok (cp', out)) : cp'.health.Mirrors ∧
      ∀ r, cp'.registry.get? r = (cp.registry.get? r).map (touch th r (.tool call)) := by
  cases call with
  | drainReplica id =>
      obtain ⟨_, hs, h⟩ := ok_of_bind h
      obtain ⟨rfl, -⟩ := Prod.mk.inj (Except.ok.inj h)
      exact ⟨mirrors_setReplicaAdmin hm hs, setReplicaAdmin_get? hs⟩
  | restoreReplica id =>
      obtain ⟨_, hs, h⟩ := ok_of_bind h
      obtain ⟨rfl, -⟩ := Prod.mk.inj (Except.ok.inj h)
      exact ⟨mirrors_setReplicaAdmin hm hs, setReplicaAdmin_get? hs⟩
  | setRoutingStrategy name =>
      obtain ⟨_, hs, h⟩ := ok_of_bind h
      obtain ⟨rfl, -⟩ := Prod.mk.inj (Except.ok.inj h)
      exact ⟨hm, fun r => (map_touch_of_eq fun _ => rfl).symm⟩
  | setScoringWeights weights =>
      obtain ⟨_, hs, h⟩ := ok_of_bind h
      obtain ⟨rfl, -⟩ := Prod.mk.inj (Except.ok.inj h)
      exact ⟨hm, fun r => (map_touch_of_eq fun _ => rfl).symm⟩

/-- **Every operation touches replicas one by one**, never adds or removes any, and keeps the
scheduler and the registry in agreement. -/
theorem act_touches (hm : cp.health.Mirrors) {a : Action ν} (h : cp.act th a = .ok (cp', out)) :
    cp'.health.Mirrors ∧
      ∀ r, cp'.registry.get? r = (cp.registry.get? r).map (touch th r a) := by
  cases a with
  | probed id result now eventId =>
      cases hid : cp.health.record id with
      | none =>
          have hp := HealthState.pollOne_of_unknown th hid result now
          simp only [act, hp, bind, Except.bind, pure, Except.pure] at h
          obtain ⟨rfl, rfl⟩ := Prod.mk.inj (Except.ok.inj h)
          refine ⟨hm, fun r => ?_⟩
          by_cases hr : id = r
          · show cp.registry.get? r = _
            rw [← hr, hm.unregistered hid]; rfl
          · refine (map_touch_of_eq ?_).symm
            exact fun state => if_neg hr
      | some hy =>
          obtain ⟨s', hs, hw⟩ := act_probed th hm hid result now eventId
          obtain ⟨rfl, rfl⟩ := Prod.mk.inj (Except.ok.inj (h.symm.trans hs))
          exact touches_of_rewrites hm hid (·.next th result.event) (·.measure result now) hw
  | eject id reason now eventId =>
      cases hid : cp.health.record id with
      | none =>
          simp [act, HealthState.eject, hid, bind, Except.bind] at h
      | some hy =>
          obtain ⟨s', hs, hw⟩ := act_eject th hm hid reason now eventId
          obtain ⟨rfl, rfl⟩ := Prod.mk.inj (Except.ok.inj (h.symm.trans hs))
          exact touches_of_rewrites hm hid (·.next th .ejected) (fun runtime => runtime) hw
  | route exclude =>
      obtain ⟨rfl, -⟩ := Prod.mk.inj (Except.ok.inj h)
      exact ⟨hm, fun r => (map_touch_of_eq fun _ => rfl).symm⟩
  | recordEvent event =>
      obtain ⟨rfl, -⟩ := Prod.mk.inj (Except.ok.inj h)
      exact ⟨hm, fun r => (map_touch_of_eq fun _ => rfl).symm⟩
  | recordDecision decision =>
      obtain ⟨rfl, -⟩ := Prod.mk.inj (Except.ok.inj h)
      exact ⟨hm, fun r => (map_touch_of_eq fun _ => rfl).symm⟩
  | tool call => exact callTool_touches hm h

end ControlPlane

end WhyRouted
