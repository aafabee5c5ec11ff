import Mathlib.Algebra.Order.Ring.Nat
import WhyRouted.Actions
import WhyRouted.Runs

/-! # What a tool call does, and what it says it did

A call of one of the four tools over the stores either is refused and changes nothing, or
writes one field: the addressed replica's `admin`, the strategy name, or the weights
(`callAction_effect`).  The `after` it reports is that field as the next `route` finds it, and
`changed` says whether anything moved.  Where it says nothing did, the stores are the very
state the call found, the strategy instance and its cursor included, so nothing that happens
later can tell that the call was made. -/

namespace WhyRouted

variable {ν : Type} [JsNumber ν]

/-! ### What the next route uses -/

/-- A round of the engine agrees with what a drain or restore reported of its replica. -/
structure RoutedAs (after : ReplicaAdminState) (decision : RouteResult ν) : Prop where
  drained : ⟨after.replicaId, .drained⟩ ∈ decision.excluded ↔ after.admin = .drained
  unhealthy : ⟨after.replicaId, .unhealthy⟩ ∈ decision.excluded ↔
    after.admin = .active ∧ after.health ≠ .healthy
  routable : decision.outcome = .ok after.replicaId → after.routable = true
  noHealthy : decision.outcome = .error .noHealthyReplicas ↔ after.routableReplicas = 0

omit [JsNumber ν] in
theorem stateOf_eq_some_iff {registry : Registry ν} {replicaId : String} {s : ReplicaAdminState} :
    stateOf registry.items replicaId = some s ↔ ∃ replica,
      registry.get? replicaId = some replica ∧
        s = { replicaId, admin := replica.admin, health := replica.runtime.health
              routable := isRoutable replica
              routableReplicas := (registry.items.filter isRoutable).length } := by
  constructor
  · intro h
    obtain ⟨replica, hfind, rfl⟩ := Option.map_eq_some_iff.mp h
    exact ⟨replica, hfind, rfl⟩
  · rintro ⟨replica, hget, rfl⟩
    exact stateOf_of_get? hget

theorem candidates_latencyWeighted (config : RoutingConfig ν)
    (h : config.strategyName = .latencyWeighted) (engine : Engine)
    (replicas : List (ReplicaState ν)) (exclude : Option (List String)) :
    (engine.route replicas config exclude).1.candidates =
      LatencyWeighted.score (poolReplicas replicas exclude) config.weights := by
  have hstrategy : engine.strategyFor config.strategyName = .latencyWeighted := by
    have hname := engine.name_strategyFor config.strategyName
    rw [h] at hname ⊢
    cases hs : engine.strategyFor .latencyWeighted <;> simp_all [Strategy.name]
  simp only [Engine.route, hstrategy]
  split_ifs with hkept
  · have hnil : poolReplicas replicas exclude = [] := by
      rw [poolReplicas, List.length_eq_zero_iff.mp hkept, List.filter_nil]
    rw [hnil]
    rfl
  · rfl
  · split <;> rfl

theorem mem_excluded_iff {registry : Registry ν} {replica : ReplicaState ν}
    (hmem : replica ∈ registry.items) {reason : ExclusionReason} (hreason : reason ≠ .alreadyTried)
    (engine : Engine) (config : RoutingConfig ν) (exclude : Option (List String)) :
    ⟨replica.id, reason⟩ ∈ (engine.route registry.items config exclude).1.excluded ↔
      (replica.admin = .drained ∨ replica.runtime.health ≠ .healthy) ∧
        droppedReason replica = reason := by
  rw [route_excluded, List.mem_append]
  constructor
  · rintro (hin | hin)
    · obtain ⟨r, hr, hentry⟩ := List.mem_map.mp hin
      obtain ⟨hid, hr'⟩ := ExcludedCandidate.mk.inj hentry
      obtain ⟨hrmem, hdropped⟩ := mem_droppedReplicas.mp hr
      obtain rfl := registry.eq_of_mem_of_key_eq hrmem hmem hid
      exact ⟨hdropped, hr'⟩
    · obtain ⟨r, -, hentry⟩ := List.mem_map.mp hin
      exact absurd (ExcludedCandidate.mk.inj hentry).2.symm hreason
  · rintro ⟨hdropped, hr'⟩
    exact Or.inl (List.mem_map.mpr ⟨replica, mem_droppedReplicas.mpr ⟨hmem, hdropped⟩, by rw [hr']⟩)

theorem routedAs_of_stateOf {registry : Registry ν} {replicaId : String} {s : ReplicaAdminState}
    (h : stateOf registry.items replicaId = some s) (engine : Engine) (config : RoutingConfig ν)
    (exclude : Option (List String)) :
    RoutedAs s (engine.route registry.items config exclude).1 := by
  have hcount := routableReplicas_of_stateOf h
  obtain ⟨replica, hget, rfl⟩ := stateOf_eq_some_iff.mp h
  obtain ⟨hmem, rfl⟩ := registry.get?_eq_some_iff.mp hget
  refine ⟨?_, ?_, ?_, ?_⟩
  · rw [mem_excluded_iff hmem (by decide)]
    cases hadmin : replica.admin <;> simp [droppedReason, hadmin]
  · rw [mem_excluded_iff hmem (by decide)]
    cases hadmin : replica.admin <;> simp [droppedReason, hadmin]
  · intro hok
    obtain ⟨r, hr, hrid⟩ := route_ok engine registry.items config exclude hok
    obtain ⟨hin, hactive, hhealthy, -⟩ := (mem_scoredReplicas _ _ _).mp hr
    obtain rfl := registry.eq_of_mem_of_key_eq hin hmem hrid
    simp [isRoutable, hactive, hhealthy]
  · rw [route_noHealthy_iff, hcount, List.length_eq_zero_iff]

/-! ### One call -/

omit [JsNumber ν] in
theorem Registry.withAdmin_eq_self_iff {registry : Registry ν} {replicaId : String}
    {replica : ReplicaState ν} (h : registry.get? replicaId = some replica)
    (target : ReplicaAdmin) :
    registry.withAdmin replicaId target = registry ↔ replica.admin = target := by
  have hget : (registry.withAdmin replicaId target).get? replicaId =
      some { replica with admin := target } := by
    unfold Registry.withAdmin
    rw [KeyedList.get?_modify_self, h, Option.map_some]
  constructor
  · intro hself
    rw [hself, h] at hget
    exact congrArg ReplicaState.admin (Option.some.inj hget)
  · rintro rfl
    obtain ⟨hmem, hid⟩ := registry.get?_eq_some_iff.mp h
    apply KeyedList.modify_eq_self
    intro r hr hrid
    obtain rfl := registry.eq_of_mem_of_key_eq hr hmem (hrid.trans hid.symm)
    rfl

/-- A drain or a restore of `id` that was applied: its `admin` is `target`, nothing else moved,
and the report is of the fleet before, and of the fleet the next `route` reads. -/
structure AdminSet (cp : ControlPlane ν) (id : String) (target : ReplicaAdmin)
    (report : ActionReport ReplicaAdminState) (cp' : ControlPlane ν) : Prop where
  stores : cp' = cp.putRegistry (cp.registry.withAdmin id target)
  before : ∃ before, report.before = some before ∧ stateOf cp.registry.items id = some before
  after : stateOf cp'.registry.items id = some report.after
  target : report.after.admin = target
  next : ∀ exclude, RoutedAs report.after (cp'.route exclude).1

/-- A change of strategy that was applied. -/
structure StrategySet (cp : ControlPlane ν) (name : String) (report : ActionReport StrategyName)
    (cp' : ControlPlane ν) : Prop where
  stores : cp' = cp.putConfig { cp.config with strategyName := report.after }
  before : report.before = some cp.config.strategyName
  named : report.after.text = name
  next : ∀ exclude, (cp'.route exclude).1.strategy = report.after ∧ (cp'.route exclude).1 =
    (cp.engine.route cp.registry.items { cp.config with strategyName := report.after } exclude).1

/-- A change of weights that was applied. -/
structure WeightsSet (cp : ControlPlane ν) (weights : ScoringWeights ν)
    (report : ActionReport (ScoringWeights ν)) (cp' : ControlPlane ν) : Prop where
  stores : cp' = cp.putConfig { cp.config with weights := report.after }
  before : report.before = some cp.config.weights
  given : report.after = weights
  next : ∀ exclude, (cp'.route exclude).1 =
    (cp.engine.route cp.registry.items { cp.config with weights := report.after } exclude).1
  scored : cp.config.strategyName = .latencyWeighted → ∀ exclude,
    (cp'.route exclude).1.candidates =
      LatencyWeighted.score (poolReplicas cp.registry.items exclude) report.after

/-- What a call does to the stores, and what it answers. -/
inductive ToolEffect (cp : ControlPlane ν) : ToolCall ν → Answer ν → ControlPlane ν → Prop where
  | refused {call : ToolCall ν} {answer : Answer ν} {code : ActionFailureCode}
      (failure : answer.failure = some code) (code_eq : code ≠ .internalError) :
      ToolEffect cp call answer cp
  | drained {id : String} {report : ActionReport ReplicaAdminState} {cp' : ControlPlane ν}
      (effect : AdminSet cp id .drained report cp') :
      ToolEffect cp (.drainReplica id) (.admin (.ok report)) cp'
  | restored {id : String} {report : ActionReport ReplicaAdminState} {cp' : ControlPlane ν}
      (effect : AdminSet cp id .active report cp') :
      ToolEffect cp (.restoreReplica id) (.admin (.ok report)) cp'
  | strategySet {name : String} {report : ActionReport StrategyName} {cp' : ControlPlane ν}
      (effect : StrategySet cp name report cp') :
      ToolEffect cp (.setRoutingStrategy name) (.strategy (.ok report)) cp'
  | weightsSet {weights : ScoringWeights ν} {report : ActionReport (ScoringWeights ν)}
      {cp' : ControlPlane ν} (effect : WeightsSet cp weights report cp') :
      ToolEffect cp (.setScoringWeights weights) (.weights (.ok report)) cp'

theorem ToolEffect.eq_of_failure {cp cp' : ControlPlane ν} {call : ToolCall ν} {answer : Answer ν}
    (h : ToolEffect cp call answer cp') {code : ActionFailureCode}
    (hcode : answer.failure = some code) : cp' = cp := by
  cases h with
  | refused _ _ => rfl
  | drained _ => cases hcode
  | restored _ => cases hcode
  | strategySet _ => cases hcode
  | weightsSet _ => cases hcode

/-- `changed` says whether the registry or the config moved, and if it says that nothing did,
nothing in the stores moved. -/
structure SaysWhatChanged (cp : ControlPlane ν) (answer : Answer ν) (cp' : ControlPlane ν) :
    Prop where
  changed : answer.changed = some true ↔ cp'.registry ≠ cp.registry ∨ cp'.config ≠ cp.config
  unchanged : answer.changed = some false → cp' = cp

omit [JsNumber ν] in
theorem SaysWhatChanged.of_refused {cp : ControlPlane ν} {answer : Answer ν}
    (h : answer.changed = none) : SaysWhatChanged cp answer cp := by
  refine ⟨?_, fun _ => rfl⟩
  rw [h]
  simp

omit [JsNumber ν] in
theorem SaysWhatChanged.of_compared {S : Type} [DecidableEq S] (before after : S)
    {cp cp' : ControlPlane ν} {answer : Answer ν}
    (h : answer.changed = some (!decide (before = after))) (hsame : before = after → cp' = cp)
    (hmoved : cp'.registry = cp.registry → cp'.config = cp.config → before = after) :
    SaysWhatChanged cp answer cp' := by
  by_cases heq : before = after
  · have hcp := hsame heq
    subst hcp
    refine ⟨?_, fun _ => rfl⟩
    rw [h, decide_eq_true heq]
    simp
  · rw [decide_eq_false heq] at h
    refine ⟨⟨fun _ => ?_, fun _ => h⟩, fun hfalse => ?_⟩
    · by_contra hnone
      obtain ⟨hregistry, hconfig⟩ := not_or.mp hnone
      exact heq (hmoved (not_not.mp hregistry) (not_not.mp hconfig))
    · rw [h] at hfalse
      cases hfalse

theorem runAction_setReplicaAdmin (cp : ControlPlane ν) (now id : String) (target : ReplicaAdmin)
    {cp' : ControlPlane ν} {answer : Answer ν}
    (h : cp.runAction cp.putRegistry .admin now (setReplicaAdmin cp.registry id target) =
      (cp', answer)) :
    (cp' = cp ∧ ∃ reason, answer = .admin (.failed .unknownReplica reason)) ∨
      ∃ report, answer = .admin (.ok report) ∧ AdminSet cp id target report cp' ∧
        SaysWhatChanged cp answer cp' := by
  rcases setReplicaAdmin_spec cp.registry id target with
    ⟨-, reason, hok⟩ | ⟨before, after, notes, hbefore, hafter, htarget, hok⟩
  · rw [hok] at h
    obtain ⟨rfl, rfl⟩ := Prod.mk.inj h
    exact Or.inl ⟨rfl, reason, rfl⟩
  · rw [hok] at h
    obtain ⟨rfl, rfl⟩ := Prod.mk.inj h
    refine Or.inr ⟨_, rfl, ⟨rfl, ⟨before, rfl, hbefore⟩, hafter, htarget, ?_⟩, ?_⟩
    · exact fun exclude => routedAs_of_stateOf hafter _ _ exclude
    -- the views agree exactly when the replica was in the target state already
    · obtain ⟨replica, hget, hview⟩ := stateOf_eq_some_iff.mp hbefore
      have hself := Registry.withAdmin_eq_self_iff hget target
      refine SaysWhatChanged.of_compared before after rfl ?_ ?_
      · rintro rfl
        have hregistry := hself.mpr (by rw [← htarget, hview])
        unfold ControlPlane.putRegistry
        rw [hregistry]
      · intro hregistry _
        have hwritten : cp.registry.withAdmin id target = cp.registry := hregistry
        rw [hwritten, hbefore] at hafter
        exact Option.some.inj hafter

variable [DecidableEq ν]

/-- **A call does what its answer says**: it is refused and changes nothing, or it writes its
one field. -/
theorem callAction_effect (cp : ControlPlane ν) (now : String) (call : ToolCall ν)
    {cp' : ControlPlane ν} {answer : Answer ν} (h : cp.callAction now call = (cp', answer)) :
    ToolEffect cp call answer cp' ∧ SaysWhatChanged cp answer cp' := by
  cases call with
  | drainReplica id =>
      rcases runAction_setReplicaAdmin cp now id .drained h with
        ⟨rfl, reason, rfl⟩ | ⟨report, rfl, heffect, hsays⟩
      · exact ⟨.refused rfl (by decide), .of_refused rfl⟩
      · exact ⟨.drained heffect, hsays⟩
  | restoreReplica id =>
      rcases runAction_setReplicaAdmin cp now id .active h with
        ⟨rfl, reason, rfl⟩ | ⟨report, rfl, heffect, hsays⟩
      · exact ⟨.refused rfl (by decide), .of_refused rfl⟩
      · exact ⟨.restored heffect, hsays⟩
  | setRoutingStrategy name =>
      simp only [ControlPlane.callAction] at h
      rcases setRoutingStrategy_spec cp.config name with ⟨reason, hok⟩ | ⟨strategy, hnamed, hok⟩
      · rw [hok] at h
        obtain ⟨rfl, rfl⟩ := Prod.mk.inj h
        exact ⟨.refused rfl (by decide), .of_refused rfl⟩
      · rw [hok] at h
        obtain ⟨rfl, rfl⟩ := Prod.mk.inj h
        refine ⟨.strategySet ⟨rfl, rfl, hnamed, fun exclude => ⟨?_, rfl⟩⟩, ?_⟩
        · exact route_strategy _ _ _ exclude
        · refine SaysWhatChanged.of_compared cp.config.strategyName strategy rfl ?_ ?_
          · rintro rfl
            rfl
          · intro _ hconfig
            exact (congrArg RoutingConfig.strategyName hconfig).symm
  | setScoringWeights weights =>
      simp only [ControlPlane.callAction] at h
      rcases setScoringWeights_spec cp.config weights with ⟨reason, hok⟩ | ⟨notes, hok⟩
      · rw [hok] at h
        obtain ⟨rfl, rfl⟩ := Prod.mk.inj h
        exact ⟨.refused rfl (by decide), .of_refused rfl⟩
      · rw [hok] at h
        obtain ⟨rfl, rfl⟩ := Prod.mk.inj h
        refine ⟨.weightsSet ⟨rfl, rfl, rfl, fun _ => rfl, fun hname exclude => ?_⟩, ?_⟩
        · exact candidates_latencyWeighted { cp.config with weights } hname _ _ exclude
        · refine SaysWhatChanged.of_compared cp.config.weights weights rfl ?_ ?_
          · rintro rfl
            rfl
          · intro _ hconfig
            exact (congrArg RoutingConfig.weights hconfig).symm

/-! ### Any order of calls -/

namespace Console

variable (th : Thresholds) (simulated : Bool)

/-- One step of the process reports exactly what it did to the stores. -/
structure ReportsExactly (c : Console ν) (event : ConsoleEvent ν) (reply : ConsoleReply ν)
    (c' : Console ν) : Prop where
  /-- A failed call leaves them as they were. -/
  failed : ∀ answer code, reply = .answer answer → answer.failure = some code →
    c'.stores = c.stores
  /-- A call that is not refused writes its one field, as it says. -/
  applied : ∀ call now, event = .call call now → ∃ answer, reply = .answer answer ∧
    ToolEffect c.stores call answer c'.stores
  changed : ∀ answer, reply = .answer answer → (answer.changed = some true ↔
    c'.stores.registry ≠ c.stores.registry ∨ c'.stores.config ≠ c.stores.config)
  /-- What follows a call that changed nothing follows without it. -/
  unobservable : ∀ answer, reply = .answer answer → answer.changed = some false →
    c' = c ∧ ∀ trace final, Exec (Step th simulated) c' trace final ↔
      Exec (Step th simulated) c trace final
  /-- `simulate_failure` touches no store, when it is called and when it ends. -/
  simulate : ∀ replicaId mode now, event = .simulate replicaId mode now → c'.stores = c.stores
  reported : ∀ injection outcome now, event = .reported injection outcome now →
    c'.stores = c.stores

variable {th simulated} {c c' : Console ν}

theorem ReportsExactly.of_untouched {event : ConsoleEvent ν} {reply : ConsoleReply ν}
    (h : c'.stores = c.stores) (hevent : ∀ call now, event ≠ .call call now)
    (hreply : ∀ answer, reply = .answer answer → answer.changed = none) :
    ReportsExactly th simulated c event reply c' := by
  refine ⟨fun _ _ _ _ => h, fun call now he => absurd he (hevent call now), ?_, ?_,
    fun _ _ _ _ => h, fun _ _ _ _ => h⟩
  · intro answer ha
    rw [hreply answer ha, h]
    simp
  · intro answer ha hfalse
    rw [hreply answer ha] at hfalse
    cases hfalse

omit [JsNumber ν] [DecidableEq ν] in
theorem changed_of_simulateFailure {replicas : List (ReplicaState ν)} {replicaId : String}
    {mode : Option String} {output : ActionOutput FaultState}
    (h : simulateFailure simulated replicas replicaId mode = .inl output) (now : String) :
    (performAction now (.ok output)).changed = none := by
  simp only [simulateFailure] at h
  split at h
  · obtain rfl := Sum.inl.inj h
    rfl
  · split_ifs at h
    · obtain rfl := Sum.inl.inj h
      rfl
    · obtain rfl := Sum.inl.inj h
      rfl

theorem changed_of_finish (injection : Injection) (outcome : Except String FaultState)
    (now : String) : (performAction now (injection.finish outcome)).changed = none := by
  cases outcome <;> rfl

theorem step_reports {event : ConsoleEvent ν} {reply : ConsoleReply ν}
    (h : Step th simulated c (event, reply) c') : ReportsExactly th simulated c event reply c' := by
  cases event with
  | operate action =>
      obtain ⟨⟨stores, output⟩, -, h⟩ := ok_of_bind h
      obtain ⟨rfl, rfl⟩ := Prod.mk.inj (Except.ok.inj h)
      -- not a call of a tool: it answers nothing
      refine ⟨?_, ?_, ?_, ?_, ?_, ?_⟩ <;> intros <;> contradiction
  | call call now =>
      have hcall : (.ok ({ c with stores := (c.stores.callAction now call).1 },
          .answer (c.stores.callAction now call).2) : Except String (Console ν × ConsoleReply ν)) =
          .ok (c', reply) := h
      obtain ⟨rfl, rfl⟩ := Prod.mk.inj (Except.ok.inj hcall)
      obtain ⟨heffect, hsays⟩ := callAction_effect c.stores now call rfl
      refine ⟨?_, ?_, ?_, ?_, ?_, ?_⟩
      · rintro answer code ⟨⟩ hcode
        exact heffect.eq_of_failure hcode
      · rintro call' now' ⟨⟩
        exact ⟨_, rfl, heffect⟩
      · rintro answer ⟨⟩
        exact hsays.changed
      · rintro answer ⟨⟩ hfalse
        have hstores : (c.stores.callAction now call).1 = c.stores := hsays.unchanged hfalse
        have hsame : ({ c with stores := (c.stores.callAction now call).1 } : Console ν) = c := by
          rw [hstores]
        refine ⟨hsame, fun trace final => ?_⟩
        rw [hsame]
      · rintro _ _ _ ⟨⟩
      · rintro _ _ _ ⟨⟩
  | simulate replicaId mode now =>
      simp only [Computes, perform] at h
      split at h
      case h_1 output hout =>
        obtain ⟨rfl, rfl⟩ := Prod.mk.inj (Except.ok.inj h)
        refine ReportsExactly.of_untouched ?_ ?_ ?_
        · rfl
        · rintro call now' ⟨⟩
        · rintro answer ⟨⟩
          exact changed_of_simulateFailure hout now
      case h_2 mode hinject =>
        obtain ⟨rfl, rfl⟩ := Prod.mk.inj (Except.ok.inj h)
        refine ReportsExactly.of_untouched ?_ ?_ ?_
        · rfl
        · rintro call now' ⟨⟩
        · rintro answer ⟨⟩
  | reported injection outcome now =>
      simp only [Computes, perform] at h
      split_ifs at h
      obtain ⟨rfl, rfl⟩ := Prod.mk.inj (Except.ok.inj h)
      refine ReportsExactly.of_untouched ?_ ?_ ?_
      · rfl
      · rintro call now' ⟨⟩
      · rintro answer ⟨⟩
        exact changed_of_finish injection outcome now

/-- **Actions report exactly what they changed**, whatever ran before them and whatever runs
between them: probes, ejections, routes and other calls. -/
theorem actions_report_exactly {start final : Console ν}
    {trace : List (Transition (Console ν) (ConsoleEvent ν × ConsoleReply ν))}
    (hrun : Exec (Step th simulated) start trace final) :
    ∀ x ∈ trace, ReportsExactly th simulated x.pre x.label.1 x.label.2 x.post := by
  intro x hx
  exact step_reports (hrun.step_of_mem hx)

/-- A replica is drained twice, then its fault injection is asked for and answered. -/
def drainTwice : Except String (Console ℕ × List (Transition (Console ℕ)
    (ConsoleEvent ℕ × ConsoleReply ℕ)) × Console ℕ) := do
  let stores ← wire [⟨"replica-1", ""⟩] ⟨.roundRobin, ⟨1, 1⟩⟩
  let run ← replay (perform .twoOne true) ⟨stores, []⟩ [
    .call (.drainReplica "replica-1") "t0",
    .operate (.route none),
    .call (.drainReplica "replica-1") "t1",
    .simulate "replica-1" none "t2",
    .reported ⟨"replica-1", .kill⟩ (.ok ⟨true, false⟩) "t3"]
  return (⟨stores, []⟩, run)

def changes (trace : List (Transition (Console ν) (ConsoleEvent ν × ConsoleReply ν))) :
    List (Option Bool) :=
  trace.filterMap fun x => match x.label.2 with
    | .answer answer => some answer.changed
    | _ => none

/-- The first drain changes something, the second nothing, and a fault has no state before. -/
theorem actions_report_exactly_drainTwice : ∃ (start final : Console ℕ) (trace : List
      (Transition (Console ℕ) (ConsoleEvent ℕ × ConsoleReply ℕ))),
    Exec (Step .twoOne true) start trace final ∧
    (∀ x ∈ trace, ReportsExactly .twoOne true x.pre x.label.1 x.label.2
      x.post) ∧
    changes trace = [some true, some false, none] := by
  obtain ⟨⟨start, trace, final⟩, h, hc⟩ := exists_of_check drainTwice (fun run =>
    decide (changes run.2.1 = [some true, some false, none])) (by decide)
  obtain ⟨_, h₀, h⟩ := ok_of_bind h
  obtain ⟨_, hr, h⟩ := ok_of_bind h
  cases Except.ok.inj h
  have hexec := (exec_of_replay hr).1
  exact ⟨_, _, _, hexec, actions_report_exactly hexec, of_decide_eq_true hc⟩

end Console

end WhyRouted
