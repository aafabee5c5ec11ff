import WhyRouted.DecisionTruth
import WhyRouted.RequestTruth
import WhyRouted.Sampling
import WhyRouted.WindDown

/-! # Why a request was answered as it was

A response says that nothing could be picked, that all tries have failed, or that one failure ended
the request; it does not say what that rests on.  In a run it is known.  A stretch writes its
response from what it has before it: the send it goes on from, and the engine's answer (`Wrote`).
In the fleet the send is one the replica refused, lost or ran, and the engine's answer is the state
of every replica at that step (`answer_explained`): whoever reads that no replica could be picked
knows of each that it was drained, marked down, tried by this very request, or without a latency to
weigh because the last probe of it had failed. -/

namespace WhyRouted

variable {ν β : Type}

/-! ### What a stretch writes -/

/-- What a handler that ends as `h` had before it when it wrote its response: what it went on from,
if it did, and the engine's last answer. -/
inductive Wrote [JsNumber ν] (deps : RouteDeps ν β) (cp : ControlPlane ν) (h : Handler ν β) :
    Option (String × Settled ν β) → RouteResponse ν β → Prop where
  | unrouted {settled : Option (String × Settled ν β)} {engine : Engine} {error : RouteError}
      (hroute : (engine.route cp.registry.items cp.config (some h.exclude)).1.outcome =
        .error error) : Wrote deps cp h settled ⟨503, h.unroutableBody error⟩
  | exhausted {replicaId : String} {err : ReplicaRequestError} (hretry : err.retryable = true)
      (hspent : deps.maxRetries < h.attempts.length) :
      Wrote deps cp h (some (replicaId, .error (.request err)))
        ⟨503, .allReplicasFailed h.attempts h.requestId⟩
  | failed {replicaId : String} {err : SendError} (hretry : err.retryable = false) :
      Wrote deps cp h (some (replicaId, .error err))
        ⟨502, .replicaRequestFailed replicaId err.detail h.attempts h.requestId⟩
  | unwritten {replicaId message : String} {sent : SendResult ν β} {strategy : StrategyName}
      (hwrite : deps.writeError ⟨200, .served replicaId strategy sent.response sent.latencyMs
        h.attempts h.requestId⟩ = some message) :
      Wrote deps cp h (some (replicaId, .ok sent))
        ⟨502, .replicaRequestFailed replicaId message h.attempts h.requestId⟩
  | served {replicaId : String} {sent : SendResult ν β} {strategy : StrategyName} :
      Wrote deps cp h (some (replicaId, .ok sent))
        ⟨200, .served replicaId strategy sent.response sent.latencyMs h.attempts h.requestId⟩

section stretch

variable (deps : RouteDeps ν β) (h : Handler ν β) (decision : RouteResult ν) (ambient : Ambient)
  {res : RouteResponse ν β}

theorem SameTries.unroutableBody {h h' : Handler ν β} (hsame : SameTries h h')
    (error : RouteError) : h'.unroutableBody error = h.unroutableBody error := by
  simp only [Handler.unroutableBody, hsame.attempts, hsame.requestId]

theorem onRouted_wrote (hp : (h.onRouted deps decision ambient).1.phase = .responded res) :
    ∃ error, decision.outcome = .error error ∧
      res = ⟨503, (h.onRouted deps decision ambient).1.unroutableBody error⟩ := by
  unfold Handler.onRouted at hp ⊢
  cases ho : decision.outcome with
  | ok replicaId => simp [ho] at hp
  | error error =>
      simp only [ho] at hp ⊢
      obtain ⟨hsame, -, -, hres⟩ := respond_went deps (h.pushRound (roundFor decision))
        ⟨503, (h.pushRound (roundFor decision)).unroutableBody error⟩
      refine ⟨error, rfl, (hres res hp).trans ?_⟩
      rw [hsame.unroutableBody]

theorem onFatal_wrote {replicaId : String} {err : SendError}
    (hp : (h.onFatal deps decision replicaId err ambient).1.phase = .responded res) :
    res = ⟨502, .replicaRequestFailed replicaId err.detail
      (h.onFatal deps decision replicaId err ambient).1.attempts
      (h.onFatal deps decision replicaId err ambient).1.requestId⟩ := by
  obtain ⟨pushed, hout⟩ : ∃ pushed : Handler ν β,
      (h.onFatal deps decision replicaId err ambient).1 = (pushed.respond deps
        ⟨502, .replicaRequestFailed replicaId err.detail pushed.attempts pushed.requestId⟩).1 :=
    ⟨_, rfl⟩
  rw [hout] at hp ⊢
  obtain ⟨hsame, -, -, hres⟩ := respond_went deps pushed
    ⟨502, .replicaRequestFailed replicaId err.detail pushed.attempts pushed.requestId⟩
  rw [hsame.attempts, hsame.requestId]
  exact hres res hp

variable [JsNumber ν]

theorem onSettled_wrote (cp : ControlPlane ν) (replicaId : String) (settled : Settled ν β) :
    (∀ res, (h.onSettled deps decision replicaId settled ambient).1.phase = .responded res →
      Wrote deps cp (h.onSettled deps decision replicaId settled ambient).1
        (some (replicaId, settled)) res) ∧
    ((h.onSettled deps decision replicaId settled ambient).1.phase = .routing →
      (h.onSettled deps decision replicaId settled ambient).1.attempts.length ≤
        deps.maxRetries) := by
  have hfatal : ∀ (h : Handler ν β) (err : SendError),
      (h.onFatal deps decision replicaId err ambient).1.phase ≠ .routing := by
    intro h err hp
    obtain ⟨-, hfinished, -⟩ := onFatal_went deps h decision ambient replicaId err
    rw [hp] at hfinished
    cases hfinished
  cases settled with
  | ok sent =>
      simp only [Handler.onSettled]
      cases hwrite : deps.writeError ⟨200, .served replicaId decision.strategy sent.response
        sent.latencyMs (h.pushRound (roundFor decision)).attempts
        (h.pushRound (roundFor decision)).requestId⟩ with
      | none =>
          refine ⟨?_, fun hp => by cases hp⟩
          rintro _ ⟨⟩
          exact .served
      | some message =>
          refine ⟨fun res hp => ?_, fun hp => absurd hp (hfatal _ _)⟩
          obtain ⟨hsame, -⟩ := onFatal_went deps (h.pushRound (roundFor decision)) decision ambient
            replicaId (.other message)
          rw [onFatal_wrote deps _ decision ambient hp]
          rw [← hsame.attempts, ← hsame.requestId] at hwrite
          exact .unwritten hwrite
  | error err =>
      cases err with
      | other detail =>
          refine ⟨fun res hp => ?_, fun hp => absurd hp (hfatal _ _)⟩
          rw [onFatal_wrote deps h decision ambient hp]
          exact .failed rfl
      | request err =>
          simp only [Handler.onSettled]
          split_ifs with hretry
          · simp only [Handler.onRetryable]
            split_ifs with hspent
            · obtain ⟨hsame, hfinished, -, hres⟩ := respond_went deps
                (h.pushFailure decision replicaId err)
                ⟨503, .allReplicasFailed (h.pushFailure decision replicaId err).attempts
                  (h.pushFailure decision replicaId err).requestId⟩
              refine ⟨fun res hp => ?_, fun hp => ?_⟩
              · rw [← hsame.attempts] at hspent
                have hwrote : Wrote deps cp _ (some (replicaId, _)) _ := .exhausted hretry hspent
                rw [hsame.attempts, hsame.requestId] at hwrote
                rw [hres res hp]
                exact hwrote
              · rw [hp] at hfinished
                cases hfinished
            · refine ⟨fun res hp => ?_, fun _ => Nat.le_of_not_lt hspent⟩
              cases hp
          · refine ⟨fun res hp => ?_, fun hp => absurd hp (hfatal _ _)⟩
            rw [onFatal_wrote deps h decision ambient hp]
            exact .failed (by simpa [SendError.retryable] using hretry)

end stretch

/-! ### What a step writes -/

namespace System

variable [JsNumber ν] {th : Thresholds} {deps : RouteDeps ν β} {cp cp' : ControlPlane ν}
  {ambient ambient' : Ambient} {h h' : Handler ν β} {calls : List (Call ν β)} {s₀ s s' : System ν β}
  {tr : Trace ν β} {report : Report ν β} {res : RouteResponse ν β} {i : ℕ}

theorem loopHead_wrote (hl : loopHead th deps cp h ambient = .ok (cp', h', calls))
    (hp : h'.phase = .responded res) (settled : Option (String × Settled ν β)) :
    Wrote deps cp' h' settled res := by
  obtain ⟨decisions, heq⟩ := loopHead_eq th deps cp h ambient
  obtain ⟨rfl, hpair⟩ := Prod.mk.inj (Except.ok.inj (heq.symm.trans hl))
  obtain ⟨rfl, rfl⟩ := Prod.mk.inj hpair
  obtain ⟨error, hroute, rfl⟩ := onRouted_wrote deps h _ ambient hp
  obtain ⟨-, hsame, -⟩ := loopHead_rests heq
  rw [← hsame.exclude] at hroute
  exact .unrouted hroute

theorem resume_wrote {decision : RouteResult ν} {replicaId : String} {settled : Settled ν β}
    (hr : resume th deps cp h decision replicaId settled ambient ambient' = .ok (cp', h', calls)) :
    (∀ res, h'.phase = .responded res → Wrote deps cp' h' (some (replicaId, settled)) res) ∧
      (h'.phase.finished = false → h'.attempts.length ≤ deps.maxRetries) := by
  simp only [resume] at hr
  obtain ⟨cp₁, -, h₂⟩ := ok_of_bind hr
  split at h₂
  next hrouting =>
    obtain ⟨⟨cp₂, h₃, calls₂⟩, hl, h₂⟩ := ok_of_bind h₂
    obtain ⟨rfl, hpair⟩ := Prod.mk.inj (Except.ok.inj h₂)
    obtain ⟨rfl, rfl⟩ := Prod.mk.inj hpair
    obtain ⟨-, hsame, -⟩ := loopHead_rests hl
    refine ⟨fun res hp => loopHead_wrote hl hp _, fun _ => ?_⟩
    rw [hsame.attempts]
    exact (onSettled_wrote deps h decision ambient cp replicaId settled).2 hrouting
  next hrouting =>
    obtain ⟨rfl, hpair⟩ := Prod.mk.inj (Except.ok.inj h₂)
    obtain ⟨rfl, rfl⟩ := Prod.mk.inj hpair
    refine ⟨(onSettled_wrote deps h decision ambient _ replicaId settled).1, fun hbusy => ?_⟩
    obtain ⟨-, -, ⟨hp, -⟩ | hp⟩ := onSettled_went deps h decision ambient replicaId settled
    · exact absurd hp hrouting
    · cases hbusy.symm.trans hp

/-- **A response is written in one step**, from what its request went on from and the engine's
answer; and a request that is not over has a try left. -/
theorem wrote_of_step {a : Input ν β} (h : s.step th deps a = .ok (s', report))
    (hget : s'.handlers[i]? = some h') :
    s.handlers[i]? = some h' ∨ ∃ settled, GoesOn s i a settled ∧
      (∀ res, h'.phase = .responded res → Wrote deps s'.control h' settled res) ∧
      (h'.phase.finished = false → h'.attempts.length ≤ deps.maxRetries) := by
  cases a with
  | request requestId payload ambient =>
      obtain ⟨⟨cp, h₁, calls⟩, hl, h⟩ := ok_of_bind h
      obtain ⟨rfl, rfl⟩ := Prod.mk.inj (Except.ok.inj h)
      rw [List.getElem?_append] at hget
      split_ifs at hget with hlt
      · exact Or.inl hget
      · obtain ⟨hbound, -⟩ := List.getElem?_eq_some_iff.mp hget
        have hlast : i = s.handlers.length := by
          rw [List.length_singleton] at hbound
          omega
        obtain rfl := List.mem_singleton.mp (List.mem_of_getElem? hget)
        obtain ⟨-, hsame, -⟩ := loopHead_rests hl
        refine Or.inr ⟨none, .begins hlast, fun res hp => loopHead_wrote hl hp none, fun _ => ?_⟩
        rw [hsame.attempts]
        exact Nat.zero_le _
  | settle j settled ambient ambient' =>
      simp only [step] at h
      split at h
      · cases h
      next hd hgot =>
      split at h
      next decision replicaId hphase =>
        obtain ⟨⟨cp, h₁, calls⟩, hr, h⟩ := ok_of_bind h
        obtain ⟨rfl, rfl⟩ := Prod.mk.inj (Except.ok.inj h)
        rw [List.getElem?_set] at hget
        split_ifs at hget with hj
        · subst hj
          obtain rfl := Option.some.inj hget
          exact Or.inr ⟨_, .resumes hgot hphase, resume_wrote hr⟩
        · exact Or.inl hget
      · cases h
  | probed replicaId result now eventId =>
      obtain ⟨⟨cp, out⟩, -, h⟩ := ok_of_bind h
      obtain ⟨rfl, rfl⟩ := Prod.mk.inj (Except.ok.inj h)
      exact Or.inl hget
  | tool call =>
      obtain ⟨⟨cp, out⟩, -, h⟩ := ok_of_bind h
      obtain ⟨rfl, rfl⟩ := Prod.mk.inj (Except.ok.inj h)
      exact Or.inl hget

variable {replicas : List Replica} {config : RoutingConfig ν} {r : String}

/-- Along a run, a request that is not over has a try left. -/
theorem tries_of_exec (h₀ : boot replicas config = .ok s₀) (h : Exec (Step th deps) s₀ tr s) :
    ∀ (i : ℕ) (h' : Handler ν β), s.handlers[i]? = some h' → h'.phase.finished = false →
      h'.attempts.length ≤ deps.maxRetries := by
  induction h with
  | nil =>
      intro i h' hget
      simp [(wire_of_boot h₀).2] at hget
  | @snoc tr s₁ s₂ label _ hs ih =>
      intro i h' hget hbusy
      obtain ⟨a, report⟩ := label
      rcases wrote_of_step hs hget with hbefore | ⟨settled, -, -, hleft⟩
      · exact ih i h' hbefore hbusy
      · exact hleft hbusy

theorem attempts_le_of_settle (h₀ : boot replicas config = .ok s₀)
    (h : Exec (Step th deps) s₀ tr s) {settled : Settled ν β}
    (hs : s.step th deps (.settle i settled ambient ambient') = .ok (s', report))
    (hget : s'.handlers[i]? = some h') : h'.attempts.length ≤ deps.maxRetries + 1 := by
  cases handler_step hs with
  | @resumed _ old new decision replicaId _ _ _ _ hold hphase hwent _ hset =>
      obtain ⟨hlt, -⟩ := List.getElem?_eq_some_iff.mp hold
      rw [hset, List.getElem?_set_self hlt] at hget
      obtain rfl := Option.some.inj hget
      have hleft := tries_of_exec h₀ h i old hold (by rw [hphase]; rfl)
      cases hwent with
      | retried _ _ hattempts _ _ =>
          rw [hattempts, List.length_append, List.length_singleton]
          omega
      | failed _ hsame _ _ =>
          rw [hsame.attempts]
          omega
      | served hsame _ _ =>
          rw [hsame.attempts]
          omega

/-! ### When nothing can be picked -/

/-- What a round has against a replica, when it can pick none. -/
inductive Unpickable (s : System ν β) (exclude : List String) (r : String) : Prop where
  | drained (hadmin : s.adminOf r = some .drained)
  | unhealthy (hhealth : s.healthOf r ≠ some .healthy)
  | tried (hmem : r ∈ exclude)
  | unmeasured {state : ReplicaState ν}
      (hstrategy : s.control.config.strategyName = .latencyWeighted)
      (hget : s.control.registry.get? r = some state) (hlatency : state.runtime.latencyMs = none)

/-- What it has against one before it looks at the request. -/
def Down (s : System ν β) (r : String) : Prop :=
  s.adminOf r = some .drained ∨ s.healthOf r ≠ some .healthy

omit [JsNumber ν] in
theorem adminOf_of_get {state : ReplicaState ν}
    (hget : s.control.registry.get? r = some state) : s.adminOf r = some state.admin := by
  unfold adminOf
  rw [hget]
  rfl

omit [JsNumber ν] in
theorem healthOf_of_get (hm : s.control.health.Mirrors) {state : ReplicaState ν}
    (hget : s.control.registry.get? r = some state) :
    s.healthOf r = some state.runtime.health := by
  unfold healthOf
  rw [hm.record_eq hget]
  rfl

theorem registered_of_exec (h₀ : boot replicas config = .ok s₀) (h : Exec (Step th deps) s₀ tr s)
    (hr : r ∈ replicas.map (·.id)) : ∃ state, s.control.registry.get? r = some state := by
  have hrecord := record_of_run h₀ h r
  rw [if_pos hr] at hrecord
  obtain ⟨state, hget, -⟩ := (mirrors_of_exec h₀ h).registered hrecord
  exact ⟨state, hget⟩

omit [JsNumber ν] in
/-- A registered replica is kept exactly if it is not down. -/
theorem mem_kept_iff (hm : s.control.health.Mirrors) {state : ReplicaState ν}
    (hget : s.control.registry.get? r = some state) :
    state ∈ keptReplicas s.control.registry.items ↔ ¬ Down s r := by
  obtain ⟨hmem, -⟩ := s.control.registry.get?_eq_some_iff.mp hget
  rw [mem_keptReplicas, Down, healthOf_of_get hm hget, adminOf_of_get hget]
  cases state.admin <;> simp [hmem]

/-- **An error of the engine accounts for the whole fleet.** -/
theorem unpickable_of_error (h₀ : boot replicas config = .ok s₀) (h : Exec (Step th deps) s₀ tr s)
    {engine : Engine} {exclude : List String} {error : RouteError}
    (hroute : (engine.route s.control.registry.items s.control.config (some exclude)).1.outcome =
      .error error) :
    (∀ r ∈ replicas.map (·.id), Unpickable s exclude r) ∧
      (error = .noHealthyReplicas ↔ ∀ r ∈ replicas.map (·.id), Down s r) := by
  have hm := mirrors_of_exec h₀ h
  refine ⟨fun r hr => ?_, ?_⟩
  · obtain ⟨state, hget⟩ := registered_of_exec h₀ h hr
    obtain ⟨hmem, hid⟩ := s.control.registry.get?_eq_some_iff.mp hget
    by_contra hnot
    -- a replica with nothing against it would have been scored, and something picked
    have hkept := (mem_kept_iff hm hget).mpr fun hdown =>
      hnot (hdown.elim .drained .unhealthy)
    obtain ⟨-, hactive, hhealthy⟩ := mem_keptReplicas.mp hkept
    have hscored : state ∈ scoredReplicas s.control.registry.items s.control.config
        (some exclude) := by
      refine (mem_scoredReplicas _ _ _).mpr ⟨hmem, hactive, hhealthy, fun htried => ?_, ?_⟩
      · exact hnot (.tried (hid ▸ htried))
      · refine (scores_eq_true_iff _ _).mpr fun hstrategy hlatency => ?_
        exact hnot (.unmeasured hstrategy hget hlatency)
    obtain ⟨id, hok⟩ := route_picks engine _ _ _ (List.ne_nil_of_mem hscored)
    cases hroute.symm.trans hok
  · have hkept : error = .noHealthyReplicas ↔ keptReplicas s.control.registry.items = [] := by
      rw [← route_noHealthy_iff engine _ s.control.config (some exclude), hroute]
      simp
    rw [hkept, List.eq_nil_iff_forall_not_mem]
    constructor
    · intro hnone r hr
      obtain ⟨state, hget⟩ := registered_of_exec h₀ h hr
      by_contra hup
      exact hnone state ((mem_kept_iff hm hget).mpr hup)
    · intro hdown state hmem
      obtain ⟨hitem, -⟩ := mem_keptReplicas.mp hmem
      have hget := s.control.registry.get?_eq_some_iff.mpr ⟨hitem, rfl⟩
      have hfleet := mem_of_known h₀ h (hm.record_eq hget)
      exact (mem_kept_iff hm hget).mp hmem (hdown state.id hfleet)

end System

/-! ### Reasons -/

namespace Fleet

variable [JsNumber ν] {deps : FleetDeps ν β} {c₀ c c' : Fleet ν β} {tr : Trace ν β}
  {report : FleetReport ν β} {config : RoutingConfig ν} {i : ℕ} {r : String} {hd : Handler ν β}
  {res : RouteResponse ν β}

/-- Why request `i`, with the handler `hd`, could not be sent to `r` after a run. -/
inductive Unpickable (deps : FleetDeps ν β) (tr : Trace ν β) (c : Fleet ν β) (i : ℕ)
    (hd : Handler ν β) (r : String) : Prop where
  /-- The operator had drained it, and not restored it. -/
  | drained (hstanding : Standing (Drains r) (Restores r) tr)
  /-- Its probes and the sends to it had not made it healthy. -/
  | unhealthy (hhealth : (ReplicaHysteresis.run deps.thresholds (history r tr)).health ≠ .healthy)
  /-- The request had been sent to it, and lists how the send had failed. -/
  | tried {j : ℕ} {err : ReplicaRequestError} (hlisted : ⟨r, err.kind, err.status⟩ ∈ hd.attempts)
      (hfared : Fared deps tr c i j r (.error (.request err)))
  /-- Latencies were weighed and it had none, as its last probe had shown. -/
  | unmeasured {state : ReplicaState ν}
      (hstrategy : c.main.control.config.strategyName = .latencyWeighted)
      (hget : c.main.control.registry.get? r = some state)
      (hlatency : state.runtime.latencyMs = none)
      (hshown : Shown deps tr r (state.runtime.inFlight, none))

/-- Why nobody's request could have been sent to it. -/
def Down (deps : FleetDeps ν β) (tr : Trace ν β) (r : String) : Prop :=
  Standing (Drains r) (Restores r) tr ∨
    (ReplicaHysteresis.run deps.thresholds (history r tr)).health ≠ .healthy

/-- Why request `i`, with the handler `hd`, was answered with a response after a run. -/
inductive Reason (deps : FleetDeps ν β) (tr : Trace ν β) (c : Fleet ν β) (i : ℕ)
    (hd : Handler ν β) : RouteResponse ν β → Prop where
  /-- No replica of the fleet could be picked for a first try, and the text says if all were
  down. -/
  | unpicked {error : RouteError} (hnone : hd.attempts = [])
      (hfleet : ∀ r ∈ deps.adapter.replicas.map (·.id), Unpickable deps tr c i hd r)
      (herror : error = .noHealthyReplicas ↔
        ∀ r ∈ deps.adapter.replicas.map (·.id), Down deps tr r) :
      Reason deps tr c i hd ⟨503, .unroutable error hd.requestId⟩
  /-- Some tries had failed, which the body lists, and none could be picked for another. -/
  | abandoned (hsome : hd.attempts ≠ [])
      (hfleet : ∀ r ∈ deps.adapter.replicas.map (·.id), Unpickable deps tr c i hd r) :
      Reason deps tr c i hd ⟨503, .allReplicasFailed hd.attempts hd.requestId⟩
  /-- As many tries as there are had failed. -/
  | exhausted (hlength : hd.attempts.length = deps.route.maxRetries + 1) :
      Reason deps tr c i hd ⟨503, .allReplicasFailed hd.attempts hd.requestId⟩
  /-- One had failed, and another could do no better. -/
  | failed {j : ℕ} {replicaId : String} {err : SendError} (hretry : err.retryable = false)
      (hfared : Fared deps tr c i j replicaId (.error err)) :
      Reason deps tr c i hd
        ⟨502, .replicaRequestFailed replicaId err.detail hd.attempts hd.requestId⟩
  /-- One had been served, and the answer could not be written. -/
  | unwritten {j : ℕ} {replicaId message : String} {sent : SendResult ν β}
      {strategy : StrategyName} (hfared : Fared deps tr c i j replicaId (.ok sent))
      (hwrite : deps.route.writeError ⟨200, .served replicaId strategy sent.response sent.latencyMs
        hd.attempts hd.requestId⟩ = some message) :
      Reason deps tr c i hd
        ⟨502, .replicaRequestFailed replicaId message hd.attempts hd.requestId⟩
  /-- One had been served. -/
  | served {j : ℕ} {replicaId : String} {sent : SendResult ν β} {strategy : StrategyName}
      (hfared : Fared deps tr c i j replicaId (.ok sent)) :
      Reason deps tr c i hd ⟨200, .served replicaId strategy sent.response sent.latencyMs
        hd.attempts hd.requestId⟩

theorem health_of_run (h₀ : boot deps config = .ok c₀) (h : Exec (Step deps) c₀ tr c)
    (hr : r ∈ deps.adapter.replicas.map (·.id)) : c.main.healthOf r =
      some (ReplicaHysteresis.run deps.thresholds (history r tr)).health := by
  unfold System.healthOf
  rw [record_of_run h₀ h r, if_pos hr]
  rfl

/-- What the process has against a replica is so. -/
theorem down_iff (h₀ : boot deps config = .ok c₀) (h : Exec (Step deps) c₀ tr c)
    (hr : r ∈ deps.adapter.replicas.map (·.id)) : System.Down c.main r ↔ Down deps tr r := by
  rw [System.Down, Down, drained_iff_standing h₀ h hr, health_of_run h₀ h hr]
  simp

/-- A replica the request excludes has failed it. -/
theorem tried_of_mem (h₀ : boot deps config = .ok c₀) (h : Exec (Step deps) c₀ tr c)
    (hget : c.main.handlers[i]? = some hd) (hmem : r ∈ hd.exclude) :
    ∃ j err, ⟨r, err.kind, err.status⟩ ∈ hd.attempts ∧
      Fared deps tr c i j r (.error (.request err)) := by
  obtain ⟨js, last, haccount⟩ := (accounted_of_exec h₀ h).each i hd hget
  rw [haccount.exclude] at hmem
  obtain ⟨attempt, hattempt, rfl⟩ := List.mem_map.mp hmem
  obtain ⟨j, -, err, -, heq, hspent⟩ := send_of_attempt haccount.attempts hattempt
  obtain ⟨sent, hsent, hrequest, hid, -, -, htruth⟩ := truth_of_spent h₀ h hspent
  rw [heq] at hattempt
  exact ⟨j, err, hattempt, hspent.settled, sent, hsent, hrequest, hid, htruth⟩

/-- What a round has against a replica was so. -/
theorem unpickable_of_run (h₀ : boot deps config = .ok c₀) (h : Exec (Step deps) c₀ tr c)
    (hget : c.main.handlers[i]? = some hd) (hr : r ∈ deps.adapter.replicas.map (·.id))
    (hagainst : System.Unpickable c.main hd.exclude r) : Unpickable deps tr c i hd r := by
  have hdown := down_iff h₀ h hr
  cases hagainst with
  | drained hadmin => exact (hdown.mp (Or.inl hadmin)).elim .drained .unhealthy
  | unhealthy hhealth => exact (hdown.mp (Or.inr hhealth)).elim .drained .unhealthy
  | tried hmem =>
      obtain ⟨j, err, hlisted, hfared⟩ := tried_of_mem h₀ h hget hmem
      exact .tried hlisted hfared
  | @unmeasured state hstrategy hstate hlatency =>
      have hfigures := System.figures_of_run (boot_spec h₀).1 (exec_main h) hstate
      refine .unmeasured hstrategy hstate hlatency ?_
      rw [← hlatency, show (state.runtime.inFlight, state.runtime.latencyMs) = _ from hfigures]
      exact shown_of_exec h₀ h

/-- What the engine had against the fleet was so. -/
theorem unpicked_of_error (h₀ : boot deps config = .ok c₀) (h : Exec (Step deps) c₀ tr c)
    (hget : c.main.handlers[i]? = some hd) {engine : Engine} {error : RouteError}
    (hroute : (engine.route c.main.control.registry.items c.main.control.config
      (some hd.exclude)).1.outcome = .error error) :
    Reason deps tr c i hd ⟨503, hd.unroutableBody error⟩ := by
  obtain ⟨hagainst, herror⟩ := System.unpickable_of_error (boot_spec h₀).1 (exec_main h) hroute
  have hfleet : ∀ r ∈ deps.adapter.replicas.map (·.id), Unpickable deps tr c i hd r :=
    fun r hr => unpickable_of_run h₀ h hget hr (hagainst r hr)
  unfold Handler.unroutableBody
  split_ifs with hlength
  · refine .unpicked (List.length_eq_zero_iff.mp hlength) hfleet (herror.trans ?_)
    exact forall₂_congr fun r hr => down_iff h₀ h hr
  · exact .abandoned (fun hnone => hlength (List.length_eq_zero_iff.mpr hnone)) hfleet

theorem fared_of_goesOn (h₀ : boot deps config = .ok c₀) (h : Exec (Step deps) c₀ tr c)
    {a : FleetInput ν β} (hs : c.step deps a = .ok (c', report)) {label : Input ν β × Report ν β}
    (hlabel : report.main = some label) {replicaId : String} {settled : Settled ν β}
    (hgoes : System.GoesOn c.main i label.1 (some (replicaId, settled))) :
    ∃ j, Fared deps (tr ++ [⟨c, (a, report), c'⟩]) c' i j replicaId settled := by
  cases step_cases hs with
  | began _ =>
      obtain rfl := Option.some.inj hlabel
      cases hgoes
  | tooled _ =>
      obtain rfl := Option.some.inj hlabel
      cases hgoes
  | probed _ _ _ _ _ _ =>
      obtain rfl := Option.some.inj hlabel
      cases hgoes
  | @resumed j _ _ _ _ sent _ _ _ hsend hsettled hsent hnot _ =>
      obtain rfl := Option.some.inj hlabel
      cases hgoes with
      | resumes hold hsending =>
          obtain ⟨js, last, haccount⟩ := (accounted_of_exec h₀ h).each _ _ hold
          obtain ⟨-, rfl, -⟩ := haccount.awaited hsending hsent rfl hnot
          exact ⟨j, (fared_of_settled h₀ h hsend hsettled hsent).since h₀ h (Exec.single hs)⟩
  | _ => cases hlabel

/-- **A step that answers a request has its reason.** -/
theorem reason_of_step (h₀ : boot deps config = .ok c₀) (h : Exec (Step deps) c₀ tr c)
    {a : FleetInput ν β} (hs : c.step deps a = .ok (c', report))
    (hget : c'.main.handlers[i]? = some hd) (hphase : hd.phase = .responded res) :
    c.main.handlers[i]? = some hd ∨ Reason deps (tr ++ [⟨c, (a, report), c'⟩]) c' i hd res := by
  have hexec : Exec (Step deps) c₀ (tr ++ [⟨c, (a, report), c'⟩]) c' := h.snoc hs
  -- the reason of a step of the process
  have hreason : ∀ {label : Input ν β × Report ν β} {main : System ν β},
      c.main.step deps.thresholds deps.route label.1 = .ok (main, label.2) → c'.main = main →
      report.main = some label →
      c.main.handlers[i]? = some hd ∨ Reason deps (tr ++ [⟨c, (a, report), c'⟩]) c' i hd res := by
    rintro label _ hmain rfl hlabel
    rcases System.wrote_of_step hmain hget with hbefore | ⟨settled, hgoes, hwrote, -⟩
    · exact Or.inl hbefore
    right
    cases hwrote res hphase with
    | unrouted hroute => exact unpicked_of_error h₀ hexec hget hroute
    | exhausted hretry hspent =>
        have hle : hd.attempts.length ≤ deps.route.maxRetries + 1 := by
          generalize hinput : label.1 = input at hgoes hmain
          cases hgoes with
          | resumes _ _ =>
              exact System.attempts_le_of_settle (boot_spec h₀).1 (exec_main h) hmain hget
        exact .exhausted (by omega)
    | failed hretry =>
        obtain ⟨j, hfared⟩ := fared_of_goesOn h₀ h hs hlabel hgoes
        exact .failed hretry hfared
    | unwritten hwrite =>
        obtain ⟨j, hfared⟩ := fared_of_goesOn h₀ h hs hlabel hgoes
        exact .unwritten hfared hwrite
    | served =>
        obtain ⟨j, hfared⟩ := fared_of_goesOn h₀ h hs hlabel hgoes
        exact .served hfared
  cases step_cases hs with
  | began hmain => exact hreason hmain (dispatch_main ..) rfl
  | tooled hmain => exact hreason hmain rfl rfl
  | probed _ _ _ _ _ hmain => exact hreason hmain rfl rfl
  | resumed _ _ _ _ hmain => exact hreason hmain (dispatch_main ..) rfl
  | _ => exact Or.inl hget

/-- A request answered in a stretch was answered in one step of it. -/
theorem explained_since {w : Trace ν β} (h₀ : boot deps config = .ok c₀)
    (h : Exec (Step deps) c₀ tr c) (hw : Exec (Step deps) c w c')
    (hopen : ∀ hd, c.main.handlers[i]? = some hd → hd.phase.finished = false)
    (hget : c'.main.handlers[i]? = some hd) (hphase : hd.phase = .responded res) :
    ∃ w₁ x w₂, w = w₁ ++ x :: w₂ ∧ x.pre.main.handlers[i]? ≠ some hd ∧
      x.post.main.handlers[i]? = some hd ∧ Reason deps (tr ++ (w₁ ++ [x])) x.post i hd res := by
  induction hw with
  | nil =>
      have hbusy := hopen hd hget
      rw [hphase] at hbusy
      cases hbusy
  | @snoc w c₁ c₂ label hw hs ih =>
      by_cases hbefore : c₁.main.handlers[i]? = some hd
      · obtain ⟨w₁, x, w₂, rfl, hx⟩ := ih hbefore
        exact ⟨w₁, x, w₂ ++ [⟨c₁, label, c₂⟩], by simp, hx⟩
      · obtain ⟨a, report⟩ := label
        have hreason := (reason_of_step h₀ (h.trans hw) hs hget hphase).resolve_left hbefore
        rw [List.append_assoc] at hreason
        exact ⟨w, ⟨c₁, (a, report), c₂⟩, [], rfl, hbefore, hget, hreason⟩

/-- **Every answer is explained.**  In every run, each response was written in one step of it, and
what it rests on was so when that step was over: that nothing could be picked, for a first try or
after some had failed, of every replica of the fleet; that the tries were used up; that one send
failed beyond retry; or that one was served. -/
theorem answer_explained (h₀ : boot deps config = .ok c₀) (h : Exec (Step deps) c₀ tr c)
    (hget : c.main.handlers[i]? = some hd) (hphase : hd.phase = .responded res) :
    ∃ tr₁ x tr₂, tr = tr₁ ++ x :: tr₂ ∧ x.pre.main.handlers[i]? ≠ some hd ∧
      x.post.main.handlers[i]? = some hd ∧ Reason deps (tr₁ ++ [x]) x.post i hd res := by
  obtain ⟨-, hnone⟩ := System.wire_of_boot (boot_spec h₀).1
  exact explained_since h₀ Exec.nil h (by simp [hnone]) hget hphase

/-- One of two replicas is drained, and a request to the other is given up. -/
def leftWithNone : Except String (Fleet ℕ (Option (ReplicaReply ℕ)) ×
    Trace ℕ (Option (ReplicaReply ℕ)) × Fleet ℕ (Option (ReplicaReply ℕ))) :=
  perform .pair ⟨.roundRobin, ⟨1, 1⟩⟩ [.pollAll, .health 0 0, .health 1 0,
    .probeEvent 0 (.headers 5) "t0" "e0", .probeEvent 0 .bodyComplete "t0" "e0",
    .probeEvent 1 (.headers 5) "t1" "e1", .probeEvent 1 .bodyComplete "t1" "e1",
    .tool (.drainReplica "replica-1"), .request "request-1" none .still, .infer 0,
    .sendEvent 0 .timerFired, .sendEvent 0 .abortDelivered, .resume 0 .still .still]

/-- It had a try left, and nobody to try. -/
theorem answer_explained_leftWithNone : ∃ (tr : Trace ℕ (Option (ReplicaReply ℕ)))
    (c : Fleet ℕ (Option (ReplicaReply ℕ))) (hd : Handler ℕ (Option (ReplicaReply ℕ))),
    c.main.handlers[0]? = some hd ∧ hd.attempts = [⟨"replica-2", .timeout, none⟩] ∧
      Unpickable .pair tr c 0 hd "replica-1" ∧ Unpickable .pair tr c 0 hd "replica-2" := by
  obtain ⟨⟨c₀, tr, c⟩, h, hc⟩ := exists_of_check leftWithNone (fun run =>
    (run.2.2.main.handlers[0]?).any fun hd => match hd.phase with
      | .responded res => decide (res.status = 503) &&
          decide (hd.attempts = [⟨"replica-2", .timeout, none⟩])
      | .routing => false
      | .sending _ _ => false
      | .rejected _ => false) (by decide)
  obtain ⟨hd, hget, hd'⟩ := (Option.any_eq_true _ _).mp hc
  obtain ⟨hboot, hexec⟩ := exec_of_perform h
  cases hphase : hd.phase with
  | responded res =>
      simp only [hphase, Bool.and_eq_true, decide_eq_true_eq] at hd'
      obtain ⟨hstatus, hattempts⟩ := hd'
      obtain ⟨tr₁, x, -, -, -, hpost, hreason⟩ := answer_explained hboot hexec hget hphase
      cases hreason with
      | unpicked hnone _ _ => cases hattempts.symm.trans hnone
      | abandoned _ hfleet =>
          exact ⟨tr₁ ++ [x], x.post, hd, hpost, hattempts, hfleet _ (by decide),
            hfleet _ (by decide)⟩
      | exhausted hlength => simp [hattempts, FleetDeps.pair, FleetDeps.of] at hlength
      | failed _ _ => cases hstatus
      | unwritten _ _ => cases hstatus
      | served _ => cases hstatus
  | _ => simp [hphase] at hd'

end Fleet

end WhyRouted
