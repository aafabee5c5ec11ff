import Mathlib.Algebra.Order.Ring.Nat
import WhyRouted.Config
import WhyRouted.HttpAdapter
import WhyRouted.Progress

/-! # The registry mirrors the scheduler

From a loaded configuration `main` registers the fleet it derives from it, and everything it
builds is given that same fleet.  So registering throws nothing, every id the adapter is asked
for resolves, and no operation of a run meets an id it does not know.  Along the run the registry
shows the scheduler's own counters, and as latency what the replica's last probe measured. -/

namespace WhyRouted

variable {ν β : Type} [JsNumber ν]

/-! ### Starting -/

theorem registers {replicas : List Replica} {registry : Registry ν}
    (hids : (replicas.map (·.id)).Nodup)
    (hfresh : ∀ replica ∈ replicas, registry.get? replica.id = none) :
    ∃ registry', replicas.foldlM Registry.register registry = .ok registry' := by
  induction replicas generalizing registry with
  | nil => exact ⟨registry, rfl⟩
  | cons replica replicas ih =>
      obtain ⟨hnew, hrest⟩ := List.nodup_cons.mp hids
      have hregister : registry.register replica = .ok (registry.push
          { id := replica.id, url := replica.url, runtime := initialRuntime, admin := .active }
          (hfresh replica List.mem_cons_self)) := by
        simp only [Registry.register]
        exact dif_pos (hfresh replica List.mem_cons_self)
      have hfresh' : ∀ other ∈ replicas, (registry.push
          { id := replica.id, url := replica.url, runtime := initialRuntime, admin := .active }
          (hfresh replica List.mem_cons_self)).get? other.id = none := by
        intro other hother
        have hne : other.id ≠ replica.id := by
          intro heq
          exact hnew (List.mem_map.mpr ⟨other, hother, heq⟩)
        rw [KeyedList.get?_push, if_neg hne]
        exact hfresh other (List.mem_cons_of_mem replica hother)
      obtain ⟨registry', hall⟩ := ih hrest hfresh'
      exact ⟨registry', by rw [List.foldlM_cons, hregister]; exact hall⟩

theorem boots {replicas : List Replica} (hids : (replicas.map (·.id)).Nodup)
    (config : RoutingConfig ν) :
    ∃ s₀ : System ν β, System.boot replicas config = .ok s₀ := by
  obtain ⟨registry, hregistry⟩ : ∃ registry : Registry ν,
      replicas.foldlM Registry.register KeyedList.empty = .ok registry :=
    registers hids fun _ _ => rfl
  exact ⟨_, by simp only [System.boot, wire, hregistry]; rfl⟩

/-- The system `main` starts from its configuration. -/
def start (numerals : Numerals ν) (c : Config ν) : Except String (System ν β) :=
  System.boot (fleetReplicas numerals c) ⟨c.routingStrategy, c.scoringWeights⟩

/-! ### Measurements -/

/-- What a probe measured, if it succeeded. -/
def HealthResult.measurement {ν : Type} (result : HealthResult ν) : Option ν :=
  if result.alive then some result.latencyMs else none

namespace ControlPlane

/-- The probe of `r` an operation completes. -/
def probeOf {ν : Type} (r : String) : Action ν → Option (HealthResult ν)
  | .probed id result _ _ => if id = r then some result else none
  | _ => none

theorem latency_touch (th : Thresholds) (r : String) (a : Action ν) (state : ReplicaState ν) :
    (touch th r a state).runtime.latencyMs =
      (probeOf r a).elim state.runtime.latencyMs (·.measurement) := by
  cases a with
  | probed id result now eventId => simp only [touch, probeOf]; split_ifs <;> rfl
  | eject id reason now eventId => simp only [touch, probeOf]; split_ifs <;> rfl
  | route exclude => rfl
  | recordEvent event => rfl
  | recordDecision decision => rfl
  | tool call =>
      cases call with
      | drainReplica id => simp only [touch, probeOf]; split_ifs <;> rfl
      | restoreReplica id => simp only [touch, probeOf]; split_ifs <;> rfl
      | setRoutingStrategy name => rfl
      | setScoringWeights weights => rfl

theorem latency_of_act {th : Thresholds} {cp cp' : ControlPlane ν} {out : Output ν}
    (hm : cp.health.Mirrors) {a : Action ν} (h : cp.act th a = .ok (cp', out)) (r : String) :
    (cp'.registry.get? r).map (·.runtime.latencyMs) =
      ((cp.registry.get? r).map (·.runtime.latencyMs)).map fun latencyMs =>
        (probeOf r a).elim latencyMs (·.measurement) := by
  rw [(act_touches hm h).2, Option.map_map, Option.map_map]
  congr 1
  funext state
  exact latency_touch th r a state

end ControlPlane

namespace System

/-- The probe of `r` a step completes. -/
def probeOf {ν β : Type} (r : String) : Input ν β → Option (HealthResult ν)
  | .probed id result _ _ => if id = r then some result else none
  | _ => none

/-- The last probe of `r` to have completed. -/
def lastProbe {ν β : Type} (r : String) (tr : Trace ν β) : Option (HealthResult ν) :=
  (tr.filterMap fun x => probeOf r x.label.1).getLast?

/-- The latency the registry shows for `r`. -/
def latencyOf {ν β : Type} (s : System ν β) (r : String) : Option (Option ν) :=
  (s.control.registry.get? r).map (·.runtime.latencyMs)

variable {th : Thresholds} {deps : RouteDeps ν β} {s s' s₀ : System ν β} {report : Report ν β}
  {tr : Trace ν β} {replicas : List Replica} {config : RoutingConfig ν}

/-- **A step changes the latency of a replica only by completing its probe.** -/
theorem step_latency (hm : s.control.health.Mirrors) {a : Input ν β}
    (h : s.step th deps a = .ok (s', report)) (r : String) :
    s'.latencyOf r = (s.latencyOf r).map fun latencyMs =>
      (probeOf r a).elim latencyMs (·.measurement) := by
  have hid : ∀ o : Option (Option ν), o = o.map fun latencyMs =>
      (none : Option (HealthResult ν)).elim latencyMs (·.measurement) := by
    intro o
    cases o <;> rfl
  obtain ⟨hcase, -, -⟩ := step_case h
  unfold latencyOf
  cases hcase with
  | quiet _ _ _ hprobe hsame =>
      have hnone : probeOf r a = none := by
        cases a <;> first | rfl | exact absurd rfl (hprobe _ _ _ _)
      rw [ControlPlane.registry, hsame.health, hnone]
      exact hid _
  | @failed _ _ id _ _ _ _ cp₁ _ _ _ hprobe _ _ heject hsame =>
      have hnone : probeOf r a = none := by
        cases a <;> first | rfl | exact absurd rfl (hprobe _ _ _ _)
      rw [ControlPlane.registry, hsame.health, hnone]
      exact ControlPlane.latency_of_act hm heject r
  | probed hact => exact ControlPlane.latency_of_act hm hact r
  | tool hact => exact ControlPlane.latency_of_act hm hact r

/-- Along every run a replica shows what its last probe measured. -/
theorem latency_of_run (h₀ : boot replicas config = .ok s₀) (h : Exec (Step th deps) s₀ tr s)
    {r : String} {state : ReplicaState ν} (hget : s.control.registry.get? r = some state) :
    state.runtime.latencyMs = (lastProbe r tr).bind (·.measurement) := by
  induction h generalizing state with
  | nil =>
      obtain ⟨-, -, -, hlive⟩ := wire_spec (wire_of_boot h₀).1
      have hruntime : state.runtime = initialRuntime := congrArg Prod.fst (hlive r state hget)
      rw [hruntime]
      rfl
  | @snoc tr s t a hexec hs ih =>
      have hstep := step_latency (mirrors_of_exec h₀ hexec) hs r
      unfold latencyOf at hstep
      rw [hget] at hstep
      obtain ⟨old, hold, hnew⟩ := Option.map_eq_some_iff.mp hstep.symm
      obtain ⟨state₀, hget₀, rfl⟩ := Option.map_eq_some_iff.mp hold
      unfold lastProbe at ih ⊢
      rw [List.filterMap_append, show state.runtime.latencyMs = _ from hnew.symm, ih hget₀]
      cases hp : probeOf r a.1 with
      | none => simp [hp]
      | some result => simp [hp]

/-! ### The mirror -/

/-- In `s`, after the run `tr` of a system wired for the fleet `replicas`, the registry shows what
the scheduler holds, and no operation meets an id it does not know. -/
structure Mirrored (th : Thresholds) (deps : RouteDeps ν β) (replicas : List Replica)
    (tr : Trace ν β) (s : System ν β) : Prop where
  /-- Exactly the fleet is registered. -/
  registered : ∀ r, (∃ state, s.control.registry.get? r = some state) ↔
    r ∈ replicas.map (·.id)
  /-- Health and counters are the scheduler's. -/
  hysteresis : ∀ r state, s.control.registry.get? r = some state →
    s.control.health.record r = some ⟨state.runtime.health, state.runtime.consecFailures,
      state.runtime.consecSuccesses⟩
  /-- The latency is the last probe's, if it succeeded. -/
  latency : ∀ r state, s.control.registry.get? r = some state →
    state.runtime.latencyMs = (lastProbe r tr).bind (·.measurement)
  /-- Whatever happens next, nothing throws. -/
  returns : ∀ a, s.Enabled a → ∃ s' report, s.step th deps a = .ok (s', report)
  /-- The adapter of that fleet knows every id it is polled for and every id it is sent to. -/
  resolves : ∀ adapter : HttpReplicaAdapter ν, adapter.replicas = replicas → ∀ id,
    (∃ h, s.control.health.record id = some h) ∨ (∃ i, s.sendingTo i = some id) →
      ∃ url, adapter.resolve id = .ok url

theorem mirrored_of_run (h₀ : boot replicas config = .ok s₀) (h : Exec (Step th deps) s₀ tr s) :
    Mirrored th deps replicas tr s := by
  have hm := mirrors_of_exec h₀ h
  have hrecord := record_of_run h₀ h
  have hknown : ∀ id hy, s.control.health.record id = some hy → id ∈ replicas.map (·.id) :=
    fun _ _ => mem_of_known h₀ h
  refine ⟨fun r => ⟨?_, ?_⟩, fun r state => hm.record_eq, fun r state => latency_of_run h₀ h,
    fun a => step_returns h₀ h, ?_⟩
  · rintro ⟨state, hget⟩
    exact hknown r _ (hm.record_eq hget)
  · intro hr
    have hsome := hrecord r
    rw [if_pos hr] at hsome
    obtain ⟨state, hget, -⟩ := hm.registered hsome
    exact ⟨state, hget⟩
  · rintro adapter rfl id hid
    have hmem : id ∈ adapter.replicas.map (·.id) := by
      rcases hid with ⟨hy, hy'⟩ | ⟨i, hi⟩
      · exact hknown id hy hy'
      · obtain ⟨hy, hy'⟩ := known_of_waiting h₀ h hi
        exact hknown id hy hy'
    obtain ⟨replica, hreplica, rfl⟩ := List.mem_map.mp hmem
    exact adapter.resolve_of_mem hreplica

end System

/-- **The registry always mirrors the scheduler, and wiring errors are unreachable**, from every
configuration `loadConfig` accepts. -/
theorem registry_mirrors {numerals : Numerals ν} {env : Env} {c : Config ν}
    (hload : loadConfig numerals env = .ok c) (deps : RouteDeps ν β) :
    ∃ s₀ : System ν β, start numerals c = .ok s₀ ∧
      ∀ tr s, Exec (System.Step (Config.thresholds (valid_of_loadConfig hload)) deps) s₀ tr s →
        System.Mirrored (Config.thresholds (valid_of_loadConfig hload)) deps
          (fleetReplicas numerals c) tr s := by
  obtain ⟨s₀, h₀⟩ : ∃ s₀ : System ν β, start numerals c = .ok s₀ :=
    boots (nodup_fleetReplicas numerals c) _
  exact ⟨s₀, h₀, fun tr s h => System.mirrored_of_run h₀ h⟩

/-- Numbers that are counters, for a run that reads none. -/
def Numerals.counters : Numerals ℕ := ⟨fun _ => 0, fun n => some n, toString⟩

/-- An empty environment gives the defaults. -/
theorem loadConfig_nothing :
    loadConfig Numerals.counters (fun _ => none) = .ok defaultConfig := rfl

theorem valid_defaultConfig : Config.Valid (defaultConfig : Config ℕ) :=
  valid_of_loadConfig loadConfig_nothing

/-- From the defaults: two probes bring up a replica that then times out on a request, another's
probe fails, and a third is drained. -/
def troubledDefaults : Except String (System ℕ Unit × System.Trace ℕ Unit × System ℕ Unit) := do
  let s₀ ← start Numerals.counters defaultConfig
  let run ← replay (System.step (Config.thresholds valid_defaultConfig) .oneRetry) s₀ [
    .probed "replica-1" ⟨true, 5, 0⟩ "t0" "e0",
    .probed "replica-1" ⟨true, 6, 0⟩ "t1" "e1",
    .probed "replica-2" ⟨false, 200, 0⟩ "t2" "e2",
    .request "request-1" () .still,
    .settle 0 timedOut .still .still,
    .tool (.drainReplica "replica-3")]
  return (s₀, run)

/-- The registry shows what these steps have left. -/
theorem registry_mirrors_defaults : ∃ (s₀ s : System ℕ Unit) (tr : System.Trace ℕ Unit),
    start Numerals.counters defaultConfig = .ok s₀ ∧ tr.length = 6 ∧
      s.control.registry.items.map (fun state =>
        (state.id, state.runtime.health, state.runtime.latencyMs, state.admin)) =
          [("replica-1", .unhealthy, some 6, .active), ("replica-2", .unknown, none, .active),
            ("replica-3", .unknown, none, .drained), ("replica-4", .unknown, none, .active)] ∧
      System.Mirrored (Config.thresholds valid_defaultConfig) .oneRetry
        (fleetReplicas Numerals.counters defaultConfig) tr s := by
  obtain ⟨⟨s₀, tr, s⟩, h, hc⟩ := exists_of_check troubledDefaults (fun run =>
    decide (run.2.1.length = 6) && decide (run.2.2.control.registry.items.map (fun state =>
      (state.id, state.runtime.health, state.runtime.latencyMs, state.admin)) =
        [("replica-1", .unhealthy, some 6, .active), ("replica-2", .unknown, none, .active),
          ("replica-3", .unknown, none, .drained), ("replica-4", .unknown, none, .active)]))
    (by decide +kernel)
  simp only [Bool.and_eq_true, decide_eq_true_eq] at hc
  obtain ⟨_, h₀, h⟩ := ok_of_bind h
  obtain ⟨_, hr, h⟩ := ok_of_bind h
  cases Except.ok.inj h
  obtain ⟨s₀', h₀', hmirror⟩ := registry_mirrors loadConfig_nothing .oneRetry
  obtain rfl := Except.ok.inj (h₀.symm.trans h₀')
  exact ⟨s₀, s, tr, h₀, hc.1, hc.2, hmirror tr s (exec_of_replay hr).1⟩

end WhyRouted
