import WhyRouted.Probing
import WhyRouted.Provenance

/-! # Decisions are true of the fleet

A `Decision` shows, round by round, the load and the latency of every candidate.  They are not the
replica's at the moment of the round: the engine has what the last probe left in the registry, and
the replica has gone on since.  But they were the replica's at one moment of the run
(`registry_truthful`), and a decision shows nothing else, however long its request was retried and
whatever happened to the replicas before it was recorded (`decision_truthful`). -/

namespace WhyRouted

namespace Fleet

variable {ν β : Type} [JsNumber ν] {deps : FleetDeps ν β} {c₀ c c' : Fleet ν β} {tr tr' : Trace ν β}
  {config : RoutingConfig ν} {r : String}

/-! ### The last probe -/

/-- The probe of `r` a step applied. -/
def probedBy (r : String) (x : Stride ν β) : Option (HealthResult ν) :=
  x.label.2.main.bind fun label => System.probeOf r label.1

omit [JsNumber ν] in
theorem probedBy_eq_some_iff {x : Stride ν β} {result : HealthResult ν} :
    probedBy r x = some result ↔ appliedBy x = some (r, result) := by
  unfold probedBy appliedBy
  cases x.label.2.main with
  | none => simp
  | some label =>
      obtain ⟨b, report⟩ := label
      cases b <;> simp [System.probeOf]

omit [JsNumber ν] in
theorem lastProbe_mainTrace (r : String) (tr : Trace ν β) :
    System.lastProbe r (mainTrace tr) = (tr.filterMap (probedBy r)).getLast? := by
  rw [System.lastProbe, filterMap_mainTrace]
  rfl

/-- What a run has shown of replica `r`: nothing, or what its last probe did. -/
inductive Shown (deps : FleetDeps ν β) (tr : Trace ν β) (r : String) : ν × Option ν → Prop where
  | nothing (hnone : ∀ x ∈ tr, probedBy r x = none) : Shown deps tr r (JsNumber.ofNat 0, none)
  | probed {tr₁ tr₂ : Trace ν β} {x : Stride ν β} {result : HealthResult ν}
      (hsplit : tr = tr₁ ++ x :: tr₂) (hprobed : probedBy r x = some result)
      (hlast : ∀ y ∈ tr₂, probedBy r y = none) (htruth : Truth deps tr₁ r x result) :
      Shown deps tr r result.figures

theorem shown_of_exec (h₀ : boot deps config = .ok c₀) (h : Exec (Step deps) c₀ tr c) :
    Shown deps tr r
      ((System.lastProbe r (mainTrace tr)).elim (JsNumber.ofNat 0, none) (·.figures)) := by
  rw [lastProbe_mainTrace]
  cases hlast : (tr.filterMap (probedBy r)).getLast? with
  | none => exact .nothing (List.filterMap_eq_nil_iff.mp (List.getLast?_eq_none_iff.mp hlast))
  | some result =>
      obtain ⟨tr₁, x, tr₂, rfl, hx, hnone⟩ := exists_of_getLast?_filterMap hlast
      obtain ⟨hpre, hstep, -⟩ := h.split
      exact .probed rfl hx hnone (truth_of_step h₀ hpre hstep (probedBy_eq_some_iff.mp hx))

/-- What the registry holds after a step that applies no probe of `r` was shown before it. -/
theorem shown_of_registry (h₀ : boot deps config = .ok c₀) (h : Exec (Step deps) c₀ tr c)
    {x : Stride ν β} (hpre : x.pre = c) (hstep : Step deps x.pre x.label x.post)
    (hx : probedBy r x = none) {state : ReplicaState ν}
    (hget : x.post.main.control.registry.get? r = some state) :
    Shown deps tr r state.runtime.figures := by
  subst hpre
  have hfigures := System.figures_of_run (boot_spec h₀).1 (exec_main (h.snoc hstep)) hget
  rw [lastProbe_mainTrace, List.filterMap_append, List.filterMap_cons_none hx, List.filterMap_nil,
    List.append_nil, ← lastProbe_mainTrace] at hfigures
  rw [hfigures]
  exact shown_of_exec h₀ h

/-! ### Rounds -/

/-- A round is what the engine answered in step `x`, after the run `tr`: it was asked on the
registry as that step left it, and every figure in the answer had been shown by then. -/
structure Backed (deps : FleetDeps ν β) (tr : Trace ν β) (x : Stride ν β)
    (round : DecisionRound ν) : Prop where
  asked : ∃ label decision, ∃ engine : Engine, ∃ exclude : List String,
    x.label.2.main = some label ∧ decision ∈ routedOf label.2.calls ∧
    decision = (engine.route x.post.main.control.registry.items x.post.main.control.config
      (some exclude)).1 ∧ Reports round decision
  figures : ∀ candidate ∈ round.candidates,
    Shown deps tr candidate.replicaId (candidate.inFlight, candidate.latencyMs)

theorem not_probed_of_routed {th : Thresholds} {route : RouteDeps ν β} {s s' : System ν β}
    {a : Input ν β} {report : Report ν β} {decision : RouteResult ν}
    (h : s.step th route a = .ok (s', report)) (hmem : decision ∈ routedOf report.calls) :
    System.probeOf r a = none := by
  cases System.handler_step h with
  | probed _ => cases hmem
  | _ => rfl

theorem backed_of_routed (h₀ : boot deps config = .ok c₀) (h : Exec (Step deps) c₀ tr c)
    {x : Stride ν β} (hpre : x.pre = c) (hstep : Step deps x.pre x.label x.post)
    {label : Input ν β × Report ν β} (hlabel : x.label.2.main = some label)
    {decision : RouteResult ν} (hmem : decision ∈ routedOf label.2.calls)
    {round : DecisionRound ν} (hreports : Reports round decision) : Backed deps tr x round := by
  have hmain : System.Step deps.thresholds deps.route x.pre.main label x.post.main := by
    exact (exec_main (Exec.single hstep)).step_of_mem
      (mem_mainTrace.mpr ⟨x, List.mem_singleton_self x, label, hlabel, rfl⟩)
  obtain ⟨-, hasked, -⟩ := System.step_case hmain
  obtain ⟨engine, exclude, hroute⟩ := hasked.routed decision hmem
  refine ⟨⟨label, decision, engine, exclude, hlabel, hmem, hroute, hreports⟩,
    fun candidate hcandidate => ?_⟩
  -- a candidate has the figures of its entry in the registry
  rw [hreports.candidates, hroute] at hcandidate
  have hmeasured := List.mem_map_of_mem (f := CandidateScore.measured) hcandidate
  rw [route_measured] at hmeasured
  obtain ⟨state, hscored, heq⟩ := List.mem_map.mp hmeasured
  obtain ⟨hid, hload, hlatency⟩ : state.id = candidate.replicaId ∧
      state.runtime.inFlight = candidate.inFlight ∧
      state.runtime.latencyMs = candidate.latencyMs := by
    simpa [ReplicaState.measured, CandidateScore.measured] using heq
  have hitem := ((mem_scoredReplicas _ _ _).mp hscored).1
  rw [← hid, ← hload, ← hlatency]
  refine shown_of_registry h₀ h hpre hstep ?_
    (x.post.main.control.registry.get?_eq_some_iff.mpr ⟨hitem, rfl⟩)
  rw [probedBy, hlabel]
  exact not_probed_of_routed hmain hmem

/-! ### Truth -/

/-- **The registry is true of the fleet.**  In every state of a run, the load and the latency the
registry shows for a replica are what the last probe of it showed: nothing, if it was lost or the
replica was killed when it answered, and otherwise the sends that slept there when it answered, and
the baseline. -/
theorem registry_truthful (h₀ : boot deps config = .ok c₀) (h : Exec (Step deps) c₀ tr c)
    {state : ReplicaState ν} (hget : c.main.control.registry.get? r = some state) :
    Shown deps tr r (state.runtime.inFlight, state.runtime.latencyMs) := by
  have hfigures := System.figures_of_run (boot_spec h₀).1 (exec_main h) hget
  rw [show (state.runtime.inFlight, state.runtime.latencyMs) = _ from hfigures]
  exact shown_of_exec h₀ h

/-- **A decision is true of the fleet.**  In every run, each round of each recorded decision is what
the engine answered in one step of the run, on the registry as that step left it; and the load and
the latency of every candidate had been shown by the last probe of that replica before the step. -/
theorem decision_truthful (h₀ : boot deps config = .ok c₀) (h : Exec (Step deps) c₀ tr c) :
    ∀ d ∈ c.main.control.decisions, ∀ round ∈ d.rounds, ∃ tr₁ x tr₂, tr = tr₁ ++ x :: tr₂ ∧
      Backed deps tr₁ x round := by
  intro d hd round hround
  obtain ⟨i, hd', -, -, -, hrecorded⟩ :=
    (System.heard_of_exec (boot_spec h₀).1 (exec_main h)).decisions d hd
  obtain ⟨decision, hanswer, reason, -, rfl⟩ := hrecorded.rounds round hround
  obtain ⟨y, hy, hanswered⟩ := List.mem_filterMap.mp hanswer
  have hmem := System.mem_routedOf_of_answer hanswered
  obtain ⟨x, hx, label, hlabel, rfl⟩ := mem_mainTrace.mp hy
  obtain ⟨tr₁, tr₂, rfl⟩ := List.append_of_mem hx
  obtain ⟨hpre, hstep, -⟩ := h.split
  exact ⟨tr₁, x, tr₂, rfl, backed_of_routed h₀ hpre rfl hstep hlabel hmem
    (reports_roundFor decision reason)⟩

/-- A replica is probed and killed, and a request to it fails; then it is revived. -/
def decidedBehindProbe : Except String (Fleet ℕ (Option (ReplicaReply ℕ)) ×
    Trace ℕ (Option (ReplicaReply ℕ)) × Fleet ℕ (Option (ReplicaReply ℕ))) :=
  perform .small ⟨.leastLoaded, ⟨1, 1⟩⟩ [.pollAll, .health 0 2, .operator "replica-1" .kill,
    .probeEvent 0 (.headers 5) "t0" "e0", .probeEvent 0 .bodyComplete "t1" "e1",
    .request "request-1" none .still, .infer 0, .operator "replica-1" .revive,
    .sendEvent 0 (.headers 6), .resume 0 .still .still]

/-- The decision shows the load of two that a probe had seen. -/
theorem decision_truthful_decidedBehindProbe : ∃ (tr₁ : Trace ℕ (Option (ReplicaReply ℕ)))
    (x : Stride ℕ (Option (ReplicaReply ℕ))) (round : DecisionRound ℕ),
    round.candidates.map (fun candidate => (candidate.replicaId, candidate.inFlight)) =
      [("replica-1", 2)] ∧ Backed .small tr₁ x round := by
  obtain ⟨⟨c₀, tr, c⟩, h, hc⟩ := exists_of_check decidedBehindProbe (fun run =>
    run.2.2.main.control.decisions.any fun d => d.rounds.any fun round =>
      decide (round.candidates.map (fun candidate => (candidate.replicaId, candidate.inFlight)) =
        [("replica-1", 2)])) (by decide)
  simp only [List.any_eq_true, decide_eq_true_eq] at hc
  obtain ⟨d, hd, round, hround, hfigures⟩ := hc
  obtain ⟨hboot, hexec⟩ := exec_of_perform h
  obtain ⟨tr₁, x, -, -, hbacked⟩ := decision_truthful hboot hexec d hd round hround
  exact ⟨tr₁, x, round, hfigures, hbacked⟩

/-- And so does the registry, with the replica revived and idle. -/
theorem registry_truthful_decidedBehindProbe : ∃ (tr : Trace ℕ (Option (ReplicaReply ℕ)))
    (c : Fleet ℕ (Option (ReplicaReply ℕ))), (c.replicas "replica-1").killed = false ∧
      (c.replicas "replica-1").inFlight = 0 ∧ Shown .small tr "replica-1" (2, some 5) := by
  obtain ⟨⟨c₀, tr, c⟩, h, hc⟩ := exists_of_check decidedBehindProbe (fun run =>
    decide ((run.2.2.replicas "replica-1").killed = false) &&
      decide ((run.2.2.replicas "replica-1").inFlight = 0) &&
      (run.2.2.main.control.registry.get? "replica-1").any fun (state : ReplicaState ℕ) =>
        decide ((state.runtime.inFlight, state.runtime.latencyMs) = (2, some 5))) (by decide)
  simp only [Bool.and_eq_true, decide_eq_true_eq] at hc
  obtain ⟨state, hget, hfigures⟩ := (Option.any_eq_true _ _).mp hc.2
  obtain ⟨hboot, hexec⟩ := exec_of_perform h
  have hshown := registry_truthful hboot hexec hget
  rw [of_decide_eq_true hfigures] at hshown
  exact ⟨tr, c, hc.1.1, hc.1.2, hshown⟩

end Fleet

end WhyRouted
