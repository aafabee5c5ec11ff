import WhyRouted.SystemSteps

/-! # Nothing throws

`eject` throws on a replica it does not know, and a handler does not catch that.  No handler
ever meets it: what it ejects it was sent to, what it was sent to the engine picked from the
registry, and no replica leaves the registry.  So in every reachable state every input that can
occur has its step (`step_returns`), and the executions of the system are all there is. -/

namespace WhyRouted

namespace System

variable {ν β : Type} [JsNumber ν] {th : Thresholds} {deps : RouteDeps ν β}
  {s₀ s s' : System ν β} {tr : Trace ν β} {replicas : List Replica} {config : RoutingConfig ν}

/-- The inputs that can occur: only a pending send settles. -/
def Enabled (s : System ν β) : Input ν β → Prop
  | .settle i _ _ _ => s.sendingTo i ≠ none
  | _ => True

/-! ### What a handler waits for is known -/

theorem known_of_asked (hm : s.control.health.Mirrors) {calls : List (Call ν β)}
    (hasked : Asked s.control calls) {r : String} (hr : r ∈ sentOf calls) :
    ∃ hy, s.control.health.record r = some hy := by
  obtain ⟨decision, hmem, hok⟩ := hasked.sent r hr
  obtain ⟨engine, exclude, rfl⟩ := hasked.routed decision hmem
  obtain ⟨state, hscored, hid⟩ := route_ok engine _ _ _ hok
  have hget : s.control.registry.get? r = some state :=
    s.control.registry.get?_eq_some_iff.mpr ⟨((mem_scoredReplicas _ _ _).mp hscored).1, hid⟩
  exact ⟨_, hm.record_eq hget⟩

theorem known_of_waiting (h₀ : boot replicas config = .ok s₀) (h : Exec (Step th deps) s₀ tr s)
    {i : ℕ} {r : String} (hi : s.sendingTo i = some r) :
    ∃ hy, s.control.health.record r = some hy := by
  induction h generalizing i r with
  | nil => simp [sendingTo, (wire_of_boot h₀).2] at hi
  | snoc hexec hs ih =>
      obtain ⟨-, hasked, hwait⟩ := step_case hs
      rcases hwait i r hi with hold | hnew
      · obtain ⟨hy, hrecord⟩ := ih hold
        rw [step_record (mirrors_of_exec h₀ hexec) hs r, hrecord]
        exact ⟨_, rfl⟩
      · exact known_of_asked (mirrors_of_exec h₀ (hexec.snoc hs)) hasked hnew

theorem mem_of_known (h₀ : boot replicas config = .ok s₀) (h : Exec (Step th deps) s₀ tr s)
    {r : String} {hy : ReplicaHysteresis} (hr : s.control.health.record r = some hy) :
    r ∈ replicas.map (·.id) := by
  by_contra hnot
  rw [record_of_run h₀ h r, if_neg hnot] at hr
  cases hr

/-! ### Every input has its step -/

theorem callTool_returns (cp : ControlPlane ν) (call : ToolCall ν) :
    ∃ cp' out, cp.callTool call = .ok (cp', out) := by
  have hadmin : ∀ id target, ∃ out registry,
      setReplicaAdmin cp.registry id target = .ok (out, registry) := by
    intro id target
    rcases setReplicaAdmin_cases cp.registry id target with ⟨-, reason, h⟩ | ⟨_, _, _, _, -, h⟩
    · exact ⟨_, _, h⟩
    · exact ⟨_, _, h⟩
  cases call with
  | drainReplica id =>
      obtain ⟨out, registry, h⟩ := hadmin id .drained
      exact ⟨_, _, by simp only [ControlPlane.callTool, h]; rfl⟩
  | restoreReplica id =>
      obtain ⟨out, registry, h⟩ := hadmin id .active
      exact ⟨_, _, by simp only [ControlPlane.callTool, h]; rfl⟩
  | setRoutingStrategy name =>
      cases hparse : parseStrategyName name with
      | none =>
          exact ⟨_, _, by simp only [ControlPlane.callTool, setRoutingStrategy, hparse]; rfl⟩
      | some n =>
          exact ⟨_, _, by
            simp only [ControlPlane.callTool, setRoutingStrategy, hparse,
              RoutingConfig.setStrategyName, assertValidStrategyName]
            rfl⟩
  | setScoringWeights weights =>
      cases hvalid : assertValidWeights weights with
      | error reason =>
          exact ⟨_, _, by simp only [ControlPlane.callTool, setScoringWeights, hvalid]; rfl⟩
      | ok u =>
          exact ⟨_, _, by
            simp only [ControlPlane.callTool, setScoringWeights, hvalid, RoutingConfig.setWeights]
            rfl⟩

theorem settle_returns (hm : s.control.health.Mirrors) {i : ℕ} {r : String}
    (hi : s.sendingTo i = some r) {hy : ReplicaHysteresis}
    (hr : s.control.health.record r = some hy) (settled : Settled ν β)
    (ambient ambient' : Ambient) :
    ∃ s' report, s.step th deps (.settle i settled ambient ambient') = .ok (s', report) := by
  obtain ⟨hd, decision, hget, hphase⟩ := sendingTo_eq_some_iff.mp hi
  suffices hresume : ∃ cp' h' calls, resume th deps s.control hd decision r settled ambient
      ambient' = .ok (cp', h', calls) by
    obtain ⟨cp', h', calls, hresume⟩ := hresume
    exact ⟨_, _, by simp only [step, hget, hphase, hresume]; rfl⟩
  rcases onSettled_calls deps hd decision r ambient settled with
    ⟨hc, -⟩ | ⟨err, rest, rfl, -, hcalls, hq, hrouted, hsent, hnext⟩
  · obtain ⟨cp', h', calls, hresume, -⟩ := resume_quiet th s.control ambient' hc
    exact ⟨cp', h', calls, hresume⟩
  · obtain ⟨_, heject, -⟩ := ControlPlane.act_eject th hm hr (Handler.ejectReason err)
      (ambient.clock 4) (ambient.uuid 4)
    obtain ⟨cp', h', calls, hresume, -⟩ :=
      resume_failed th ambient' hcalls hq hrouted hsent hnext heject
    exact ⟨cp', h', calls, hresume⟩

/-- **In every reachable state every enabled input has its step.** -/
theorem step_returns (h₀ : boot replicas config = .ok s₀) (h : Exec (Step th deps) s₀ tr s)
    {a : Input ν β} (ha : s.Enabled a) : ∃ s' report, s.step th deps a = .ok (s', report) := by
  have hm := mirrors_of_exec h₀ h
  cases a with
  | request requestId payload ambient =>
      obtain ⟨cp', h', calls, hl, -⟩ := loopHead_spec th deps s.control { requestId, payload }
        ambient
      exact ⟨_, _, by simp only [step, hl]; rfl⟩
  | settle i settled ambient ambient' =>
      obtain ⟨r, hi⟩ := Option.ne_none_iff_exists'.mp ha
      obtain ⟨hy, hr⟩ := known_of_waiting h₀ h hi
      exact settle_returns hm hi hr settled ambient ambient'
  | probed id result now eventId =>
      cases hid : s.control.health.record id with
      | none =>
          have hp := HealthState.pollOne_of_unknown th hid result now
          exact ⟨_, _, by simp only [step, ControlPlane.act, hp]; rfl⟩
      | some hy =>
          obtain ⟨_, hp, -⟩ := ControlPlane.act_probed th hm hid result now eventId
          exact ⟨_, _, by simp only [step, hp]; rfl⟩
  | tool call =>
      obtain ⟨cp', out, hcall⟩ := callTool_returns s.control call
      have hact : s.control.act th (.tool call) = .ok (cp', out) := hcall
      exact ⟨_, _, by simp only [step, hact]; rfl⟩

end System

end WhyRouted
