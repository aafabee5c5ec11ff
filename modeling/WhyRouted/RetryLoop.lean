import WhyRouted.HandleRoute

/-! # Runs of one request

A run of `handleRoute`, round by round, against arbitrary answers: what the engine says to the
`k`-th `route` call and how the `k`-th send settles are parameters, so everything that other
requests, probes and operators do in between is covered.

`RoundStep` lists everything one round can do when the response can be written: go round again
after a retryable failure, or finish in one of four ways.  `round_step` proves it, and `run_rule`
is the induction over rounds by which whole runs are reasoned about. -/

namespace WhyRouted

variable {ν β : Type}

/-- What a run meets. -/
structure RouteEnv (ν β : Type) where
  /-- The engine's answer to the `k`-th call, for the exclude list it is given. -/
  route : ℕ → List String → RouteResult ν
  /-- How the `k`-th send settles, for the replica and payload it is given. -/
  send : ℕ → String → β → Settled ν β
  /-- Ids and clock readings, one supply for each stretch of code. -/
  ambient : ℕ → Ambient

/-! ### Rounds -/

/-- What a round records of an error its send was given up for. -/
def SendError.failureReason : SendError → Option FailureReason
  | request err => some ⟨err.kind, err.status⟩
  | other _ => none

/-- What it records of its send. -/
def failureOf : Settled ν β → Option FailureReason
  | .ok _ => none
  | .error err => err.failureReason

namespace Handler

/-- One iteration of the loop; a handler that has finished stays as it is. -/
def round (deps : RouteDeps ν β) (env : RouteEnv ν β) (k : ℕ) (h : Handler ν β) :
    Handler ν β × List (Call ν β) :=
  match h.phase with
  | .routing =>
      let (h, calls) := h.onRouted deps (env.route k h.exclude) (env.ambient (2 * k))
      match h.phase with
      | .sending decision replicaId =>
          let (h, calls') := h.onSettled deps decision replicaId (env.send k replicaId h.payload)
            (env.ambient (2 * k + 1))
          (h, calls ++ calls')
      | _ => (h, calls)
  | _ => (h, [])

/-- The handler after `k` rounds, and every call it has made. -/
def after (deps : RouteDeps ν β) (env : RouteEnv ν β) (h : Handler ν β) :
    ℕ → Handler ν β × List (Call ν β)
  | 0 => (h, [])
  | k + 1 =>
      let (h', calls) := h.after deps env k
      let (h'', calls') := h'.round deps env k
      (h'', calls ++ calls')

/-- Everything a round can do when writing a response does not throw. -/
inductive RoundStep (deps : RouteDeps ν β) (h : Handler ν β) (decision : RouteResult ν)
    (send : String → Settled ν β) : Handler ν β → List (Call ν β) → Prop where
  | again {replicaId : String} {err : ReplicaRequestError} (id atTime : String)
      (hpick : decision.outcome = .ok replicaId)
      (hsend : send replicaId = .error (.request err)) (hretry : err.retryable = true)
      (hleft : h.attempts.length < deps.maxRetries) :
      RoundStep deps h decision send
        { h.pushFailure decision replicaId err with phase := .routing }
        [.route h.exclude decision, .sendRequest replicaId h.payload,
          .eject replicaId (ejectReason err), .recordEvent (h.ejectEvent replicaId err id atTime)]
  | exhausted {replicaId : String} {err : ReplicaRequestError} (id atTime id' atTime' : String)
      {res : RouteResponse ν β} (hpick : decision.outcome = .ok replicaId)
      (hsend : send replicaId = .error (.request err)) (hretry : err.retryable = true)
      (hnone : deps.maxRetries ≤ h.attempts.length)
      (hres : res = ⟨503, .allReplicasFailed (h.pushFailure decision replicaId err).attempts
        h.requestId⟩) :
      RoundStep deps h decision send
        { h.pushFailure decision replicaId err with phase := .responded res }
        [.route h.exclude decision, .sendRequest replicaId h.payload,
          .eject replicaId (ejectReason err), .recordEvent (h.ejectEvent replicaId err id atTime),
          .recordDecision ((h.pushFailure decision replicaId err).decision none none id' atTime'),
          .respond res]
  | fatal {replicaId : String} {err : SendError} {reason : Option FailureReason}
      (id atTime : String) {res : RouteResponse ν β} (hpick : decision.outcome = .ok replicaId)
      (hsend : send replicaId = .error err) (hretry : err.retryable = false)
      (hreason : reason = err.failureReason)
      (hres : res = ⟨502, .replicaRequestFailed replicaId err.detail h.attempts h.requestId⟩) :
      RoundStep deps h decision send
        { h.pushRound { roundFor decision with failureReason := reason } with
          phase := .responded res }
        [.route h.exclude decision, .sendRequest replicaId h.payload,
          .recordDecision ((h.pushRound { roundFor decision with failureReason := reason }).decision
            none none id atTime),
          .respond res]
  | served {replicaId : String} {sent : SendResult ν β} (id atTime : String)
      {res : RouteResponse ν β} (hpick : decision.outcome = .ok replicaId)
      (hsend : send replicaId = .ok sent)
      (hres : res = ⟨200, .served replicaId decision.strategy sent.response sent.latencyMs
        h.attempts h.requestId⟩) :
      RoundStep deps h decision send
        { h.pushRound (roundFor decision) with phase := .responded res }
        [.route h.exclude decision, .sendRequest replicaId h.payload,
          .recordDecision ((h.pushRound (roundFor decision)).decision (some replicaId)
            (some sent.latencyMs) id atTime),
          .respond res]
  | unroutable {error : RouteError} (id atTime : String) {res : RouteResponse ν β}
      (hpick : decision.outcome = .error error) (hres : res = ⟨503, h.unroutableBody error⟩) :
      RoundStep deps h decision send
        { h.pushRound (roundFor decision) with phase := .responded res }
        [.route h.exclude decision,
          .recordDecision ((h.pushRound (roundFor decision)).decision none none id atTime),
          .respond res]

/-- The round pushed when the engine answers `decision` and the send to its pick settles as `send`
says. -/
def recordOf (decision : RouteResult ν) (send : String → Settled ν β) : DecisionRound ν :=
  { roundFor decision with
    failureReason := decision.outcome.toOption.bind fun replicaId => failureOf (send replicaId) }

namespace RoundStep

variable {deps : RouteDeps ν β} {h h' : Handler ν β} {decision : RouteResult ν}
  {send : String → Settled ν β} {calls : List (Call ν β)}

theorem routed (hs : RoundStep deps h decision send h' calls) : routedOf calls = [decision] := by
  cases hs <;> rfl

theorem sent (hs : RoundStep deps h decision send h' calls) :
    sentOf calls = decision.outcome.toOption.toList := by
  cases hs with
  | again _ _ hpick _ _ _ => rw [hpick]; rfl
  | exhausted _ _ _ _ hpick _ _ _ _ => rw [hpick]; rfl
  | fatal _ _ hpick _ _ _ _ => rw [hpick]; rfl
  | served _ _ hpick _ _ => rw [hpick]; rfl
  | unroutable _ _ hpick _ => rw [hpick]; rfl

theorem picked_of_sent (hs : RoundStep deps h decision send h' calls) {replicaId : String}
    (hid : replicaId ∈ sentOf calls) : decision.outcome = .ok replicaId := by
  rw [hs.sent] at hid
  exact mem_pick_iff.mp hid

/-- What a round pushes, and records if it is the last: the engine's answer, and how the send to its
pick failed. -/
theorem pushed (hs : RoundStep deps h decision send h' calls) :
    h'.payload = h.payload ∧ h'.rounds = h.rounds ++ [recordOf decision send] ∧
      ∀ d ∈ decisionsOf calls, d.rounds = h'.rounds := by
  have hsent : ∀ {replicaId : String} {err : SendError}, decision.outcome = .ok replicaId →
      send replicaId = .error err →
        recordOf decision send = { roundFor decision with failureReason := err.failureReason } := by
    intro replicaId err hpick hsend
    simp only [recordOf, hpick, Except.toOption, Option.bind_some, hsend, failureOf]
  have hquiet : ∀ {round : DecisionRound ν}, recordOf decision send =
      { roundFor decision with failureReason := none } → round = roundFor decision →
        round = recordOf decision send := by
    rintro round hrecord rfl
    rw [hrecord, ← roundFor_failureReason decision]
  cases hs with
  | again _ _ hpick hsend _ _ =>
      refine ⟨rfl, ?_, by simp [decisionsOf]⟩
      rw [hsent hpick hsend]
      rfl
  | exhausted _ _ _ _ hpick hsend _ _ _ =>
      refine ⟨rfl, ?_, by simp [decisionsOf, Handler.decision]⟩
      rw [hsent hpick hsend]
      rfl
  | fatal _ _ hpick hsend _ hreason _ =>
      subst hreason
      refine ⟨rfl, ?_, by simp [decisionsOf, Handler.decision]⟩
      rw [hsent hpick hsend]
      rfl
  | served _ _ hpick hsend _ =>
      refine ⟨rfl, ?_, by simp [decisionsOf, Handler.decision]⟩
      rw [← hquiet (by simp [recordOf, hpick, hsend, Except.toOption, failureOf]) rfl]
      rfl
  | unroutable _ _ hpick _ =>
      refine ⟨rfl, ?_, by simp [decisionsOf, Handler.decision]⟩
      rw [← hquiet (by simp [recordOf, hpick, Except.toOption]) rfl]
      rfl

/-- A round records and responds exactly when it finishes the request. -/
theorem finishes (hs : RoundStep deps h decision send h' calls) :
    (h'.phase = .routing ∧ decisionsOf calls = [] ∧ responsesOf calls = []) ∨
      ∃ res d, h'.phase = .responded res ∧ decisionsOf calls = [d] ∧ responsesOf calls = [res] := by
  cases hs with
  | again _ _ _ _ _ _ => exact Or.inl ⟨rfl, rfl, rfl⟩
  | exhausted _ _ _ _ _ _ _ _ _ => exact Or.inr ⟨_, _, rfl, rfl, rfl⟩
  | fatal _ _ _ _ _ _ _ => exact Or.inr ⟨_, _, rfl, rfl, rfl⟩
  | served _ _ _ _ _ => exact Or.inr ⟨_, _, rfl, rfl, rfl⟩
  | unroutable _ _ _ _ => exact Or.inr ⟨_, _, rfl, rfl, rfl⟩

theorem silent_of_routing (hs : RoundStep deps h decision send h' calls)
    (hp : h'.phase = .routing) : decisionsOf calls = [] ∧ responsesOf calls = [] := by
  rcases hs.finishes with ⟨_, hsilent⟩ | ⟨res, d, hp', _⟩
  · exact hsilent
  · cases hp.symm.trans hp'

theorem responses_of_responded (hs : RoundStep deps h decision send h' calls)
    {res : RouteResponse ν β} (hp : h'.phase = .responded res) : responsesOf calls = [res] := by
  rcases hs.finishes with ⟨hp', _⟩ | ⟨res', d, hp', _, hres⟩
  · cases hp.symm.trans hp'
  · obtain rfl : res' = res := by simpa [hp] using hp'.symm
    exact hres

/-- A round goes on only after a retryable failure of its pick, which it excludes. -/
theorem goes_on (hs : RoundStep deps h decision send h' calls) (hp : h'.phase = .routing) :
    ∃ replicaId err, decision.outcome = .ok replicaId ∧
      send replicaId = .error (.request err) ∧ err.retryable = true ∧
      h.attempts.length < deps.maxRetries ∧
      h' = { h.pushFailure decision replicaId err with phase := .routing } := by
  cases hs with
  | again _ _ hpick hsend hretry hleft => exact ⟨_, _, hpick, hsend, hretry, hleft, rfl⟩
  | exhausted _ _ _ _ _ _ _ _ _ => cases hp
  | fatal _ _ _ _ _ _ _ => cases hp
  | served _ _ _ _ _ => cases hp
  | unroutable _ _ _ _ => cases hp

end RoundStep

variable {deps : RouteDeps ν β} {env : RouteEnv ν β} {k : ℕ} {h : Handler ν β}

theorem respond_of_writes (hw : ∀ res, deps.writeError res = none) (res : RouteResponse ν β) :
    h.respond deps res = ({ h with phase := .responded res }, [.respond res]) := by
  simp [respond, hw]

/-- **One round of a request** is one of the five steps. -/
theorem round_step (env : RouteEnv ν β) (k : ℕ) (hw : ∀ res, deps.writeError res = none)
    (hp : h.phase = .routing) :
    RoundStep deps h (env.route k h.exclude) (fun id => env.send k id h.payload)
      (h.round deps env k).1 (h.round deps env k).2 := by
  unfold round
  rw [hp]
  cases ho : (env.route k h.exclude).outcome with
  | error error =>
      simp only [onRouted, ho, respond_of_writes hw]
      exact .unroutable _ _ ho rfl
  | ok replicaId =>
      simp only [onRouted, ho]
      cases hs : env.send k replicaId h.payload with
      | ok sent =>
          simp only [onSettled, hw]
          exact .served _ _ ho hs rfl
      | error err =>
          cases err with
          | other detail =>
              simp only [onSettled, onFatal, respond_of_writes hw]
              exact .fatal _ _ ho hs rfl rfl rfl
          | request err =>
              simp only [onSettled]
              split_ifs with hretry
              · simp only [onRetryable, respond_of_writes hw]
                split_ifs with hlen
                · refine .exhausted _ _ _ _ ho hs hretry ?_ rfl
                  simp only [pushFailure, List.length_append, List.length_singleton] at hlen
                  omega
                · refine .again _ _ ho hs hretry ?_
                  simp only [pushFailure, List.length_append, List.length_singleton] at hlen
                  omega
              · simp only [onFatal, respond_of_writes hw]
                exact .fatal _ _ ho hs (by simpa [SendError.retryable] using hretry) rfl rfl

theorem round_of_responded {res : RouteResponse ν β} (hp : h.phase = .responded res) :
    h.round deps env k = (h, []) := by
  simp [round, hp]

theorem after_succ (h₀ : Handler ν β) (k : ℕ) : h₀.after deps env (k + 1) =
    (((h₀.after deps env k).1.round deps env k).1,
      (h₀.after deps env k).2 ++ ((h₀.after deps env k).1.round deps env k).2) := rfl

/-- Once a handler has responded, the run stays where it is. -/
theorem after_of_responded {h₀ : Handler ν β} {res : RouteResponse ν β}
    (hp : (h₀.after deps env k).1.phase = .responded res) :
    ∀ j ≥ k, h₀.after deps env j = h₀.after deps env k := by
  intro j hj
  induction j, hj using Nat.le_induction with
  | base => rfl
  | succ j hj ih => rw [after_succ, ih, round_of_responded hp, List.append_nil]

/-- **The run rule.**  What holds of the accumulators at the start, is kept by every round that
goes on and brings about `F` in every round that finishes, holds until `F` does. -/
theorem run_rule (env : RouteEnv ν β) (hw : ∀ res, deps.writeError res = none)
    {I : ℕ → Handler ν β → List (Call ν β) → Prop}
    {F : Handler ν β → List (Call ν β) → RouteResponse ν β → Prop} (h₀ : Handler ν β)
    (hp₀ : h₀.phase = .routing) (ha₀ : h₀.attempts = []) (h_init : I 0 h₀ [])
    (h_again : ∀ k h calls h' calls', h₀.after deps env k = (h, calls) → h.phase = .routing →
      I k h calls → h.attempts.length = k →
      RoundStep deps h (env.route k h.exclude) (fun id => env.send k id h.payload) h' calls' →
      h'.phase = .routing → I (k + 1) h' (calls ++ calls'))
    (h_done : ∀ k h calls h' calls' res, h₀.after deps env k = (h, calls) → h.phase = .routing →
      I k h calls → h.attempts.length = k → k ≤ deps.maxRetries →
      RoundStep deps h (env.route k h.exclude) (fun id => env.send k id h.payload) h' calls' →
      h'.phase = .responded res → F h' (calls ++ calls') res) (k : ℕ) :
    ((h₀.after deps env k).1.phase = .routing ∧ (h₀.after deps env k).1.attempts.length = k ∧
        k ≤ deps.maxRetries ∧ I k (h₀.after deps env k).1 (h₀.after deps env k).2) ∨
      ∃ res, (h₀.after deps env k).1.phase = .responded res ∧
        F (h₀.after deps env k).1 (h₀.after deps env k).2 res := by
  induction k with
  | zero => exact Or.inl ⟨hp₀, by simp [after, ha₀], Nat.zero_le _, h_init⟩
  | succ k ih =>
      rcases ih with ⟨hp, hlen, hk, hI⟩ | ⟨res, hp, hF⟩
      · have hstep := round_step env k hw hp
        rw [after_succ]
        generalize (h₀.after deps env k).1.round deps env k = r at hstep
        obtain ⟨h', calls'⟩ := r
        have hagain := h_again k _ _ h' calls' rfl hp hI hlen hstep
        have hdone := fun res => h_done k _ _ h' calls' res rfl hp hI hlen hk hstep
        cases hstep with
        | again _ _ _ _ _ hleft =>
            refine Or.inl ⟨rfl, ?_, ?_, hagain rfl⟩
            · simp [pushFailure, hlen]
            · omega
        | exhausted _ _ _ _ _ _ _ _ _ => exact Or.inr ⟨_, rfl, hdone _ rfl⟩
        | fatal _ _ _ _ _ _ _ => exact Or.inr ⟨_, rfl, hdone _ rfl⟩
        | served _ _ _ _ _ => exact Or.inr ⟨_, rfl, hdone _ rfl⟩
        | unroutable _ _ _ _ => exact Or.inr ⟨_, rfl, hdone _ rfl⟩
      · rw [after_of_responded hp _ (Nat.le_succ k)]
        exact Or.inr ⟨res, hp, hF⟩

end Handler

end WhyRouted
