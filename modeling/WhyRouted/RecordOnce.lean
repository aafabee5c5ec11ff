import Mathlib.Algebra.Order.Ring.Nat
import WhyRouted.RetryLoop

/-! # One decision for each request, and the writes that break it

The handler records its `Decision` just before it writes the response, and hands the log the
array of rounds it has been pushing to.  On the error exits nothing comes after the write.  A
served response is written inside the `try`, so an exception of `res.json` lands in the `catch`:
a second round goes onto the array the log already holds, and a second decision is recorded with
the same rounds.

Here no write is assumed to succeed.  `RecordStep` says what a round does to the log,
`recordings` carries it along a run, and `recordedOnce_iff` says which runs record exactly
once. -/

namespace WhyRouted

variable {ν β : Type}

namespace Handler

/-! ### A round, whatever its write does -/

/-- The response a request is served with. -/
def servedResponse (h : Handler ν β) (decision : RouteResult ν) (replicaId : String)
    (sent : SendResult ν β) : RouteResponse ν β :=
  ⟨200, .served replicaId decision.strategy sent.response sent.latencyMs h.attempts h.requestId⟩

/-- The round at hand would serve the request, with a response that cannot be written. -/
def ServesUnwritable (deps : RouteDeps ν β) (h : Handler ν β) (decision : RouteResult ν)
    (send : String → Settled ν β) : Prop :=
  ∃ replicaId sent, decision.outcome = .ok replicaId ∧ send replicaId = .ok sent ∧
    deps.writeError (h.servedResponse decision replicaId sent) ≠ none

/-- Whether the handler has returned or thrown. -/
def Finished (h : Handler ν β) : Prop :=
  (∃ res, h.phase = .responded res) ∨ ∃ message, h.phase = .rejected message

/-- What a round does to the decision log. -/
inductive RecordStep (deps : RouteDeps ν β) (h : Handler ν β) (decision : RouteResult ν)
    (send : String → Settled ν β) : Handler ν β → List (Call ν β) → Prop where
  /-- The loop goes on and has recorded nothing. -/
  | again {h' : Handler ν β} {calls : List (Call ν β)} (hphase : h'.phase = .routing)
      (hattempts : h'.attempts.length = h.attempts.length + 1)
      (hleft : h.attempts.length < deps.maxRetries) (hnone : decisionsOf calls = [])
      (hwritable : ¬ ServesUnwritable deps h decision send) :
      RecordStep deps h decision send h' calls
  /-- The request is over, and its decision holds the rounds as they are. -/
  | once {h' : Handler ν β} {calls : List (Call ν β)} {d : Decision ν} (hfinished : h'.Finished)
      (hone : decisionsOf calls = [d]) (hrounds : d.rounds = h'.rounds)
      (hwritable : ¬ ServesUnwritable deps h decision send) :
      RecordStep deps h decision send h' calls
  /-- The request is over and recorded twice, both times with the array the handler ends with. -/
  | twice {h' : Handler ν β} {calls : List (Call ν β)} {d d' : Decision ν}
      (hfinished : h'.Finished) (htwo : decisionsOf calls = [d, d'])
      (hrounds : d.rounds = h'.rounds)
      (hunwritable : ServesUnwritable deps h decision send) :
      RecordStep deps h decision send h' calls

section respond

variable {deps : RouteDeps ν β} {h : Handler ν β}

/-- An error exit finishes the handler and records nothing more, whatever its write does. -/
theorem respond_finishes (deps : RouteDeps ν β) (h : Handler ν β) (res : RouteResponse ν β) :
    (h.respond deps res).1.Finished ∧ decisionsOf (h.respond deps res).2 = [] ∧
      (h.respond deps res).1.rounds = h.rounds := by
  unfold respond
  cases deps.writeError res with
  | none => exact ⟨.inl ⟨res, rfl⟩, rfl, rfl⟩
  | some message => exact ⟨.inr ⟨message, rfl⟩, rfl, rfl⟩

/-- The fatal branch records one decision, with the rounds as it leaves them. -/
theorem onFatal_records (deps : RouteDeps ν β) (h : Handler ν β) (decision : RouteResult ν)
    (replicaId : String) (err : SendError) (ambient : Ambient) :
    (h.onFatal deps decision replicaId err ambient).1.Finished ∧
      ∃ d, decisionsOf (h.onFatal deps decision replicaId err ambient).2 = [d] ∧
        d.rounds = (h.onFatal deps decision replicaId err ambient).1.rounds := by
  simp only [onFatal]
  generalize hg : h.pushRound _ = g
  obtain ⟨hfinished, hnone, hrounds⟩ := respond_finishes deps g
    ⟨502, .replicaRequestFailed replicaId err.detail g.attempts g.requestId⟩
  rw [hrounds]
  exact ⟨hfinished, _, congrArg (List.cons _) hnone, rfl⟩

/-- The retryable branch goes round again and records nothing, or finishes like an error exit. -/
theorem onRetryable_records (deps : RouteDeps ν β) (h : Handler ν β) (decision : RouteResult ν)
    (replicaId : String) (err : ReplicaRequestError) (ambient : Ambient) :
    ((h.onRetryable deps decision replicaId err ambient).1.phase = .routing ∧
        (h.onRetryable deps decision replicaId err ambient).1.attempts.length =
          h.attempts.length + 1 ∧
        h.attempts.length < deps.maxRetries ∧
        decisionsOf (h.onRetryable deps decision replicaId err ambient).2 = []) ∨
      ((h.onRetryable deps decision replicaId err ambient).1.Finished ∧
        ∃ d, decisionsOf (h.onRetryable deps decision replicaId err ambient).2 = [d] ∧
          d.rounds = (h.onRetryable deps decision replicaId err ambient).1.rounds) := by
  have hlength : (h.pushFailure decision replicaId err).attempts.length =
      h.attempts.length + 1 := by
    simp [pushFailure]
  simp only [onRetryable]
  split_ifs with hspent
  · right
    generalize h.pushFailure decision replicaId err = g
    obtain ⟨hfinished, hnone, hrounds⟩ := respond_finishes deps g
      ⟨503, .allReplicasFailed g.attempts g.requestId⟩
    rw [hrounds]
    exact ⟨hfinished, _, congrArg (List.cons _) hnone, rfl⟩
  · left
    refine ⟨rfl, hlength, ?_, rfl⟩
    omega

end respond

variable {deps : RouteDeps ν β} {env : RouteEnv ν β} {k : ℕ} {h : Handler ν β}

section unwritable

variable {decision : RouteResult ν} {send : String → Settled ν β} {replicaId : String}

theorem not_servesUnwritable_of_unpicked {error : RouteError}
    (ho : decision.outcome = .error error) : ¬ ServesUnwritable deps h decision send := by
  rintro ⟨replicaId, sent, hpick, -, -⟩
  cases ho.symm.trans hpick

theorem not_servesUnwritable_of_failed {err : SendError} (ho : decision.outcome = .ok replicaId)
    (hs : send replicaId = .error err) : ¬ ServesUnwritable deps h decision send := by
  rintro ⟨replicaId', sent, hpick, hsend, -⟩
  obtain rfl : replicaId = replicaId' := Except.ok.inj (ho.symm.trans hpick)
  cases hs.symm.trans hsend

theorem servesUnwritable_iff {sent : SendResult ν β} (ho : decision.outcome = .ok replicaId)
    (hs : send replicaId = .ok sent) : ServesUnwritable deps h decision send ↔
      deps.writeError (h.servedResponse decision replicaId sent) ≠ none := by
  constructor
  · rintro ⟨replicaId', sent', hpick, hsend, hthrows⟩
    obtain rfl : replicaId = replicaId' := Except.ok.inj (ho.symm.trans hpick)
    obtain rfl : sent = sent' := Except.ok.inj (hs.symm.trans hsend)
    exact hthrows
  · exact fun hthrows => ⟨replicaId, sent, ho, hs, hthrows⟩

theorem failed_records {err : SendError} (ho : decision.outcome = .ok replicaId)
    (hs : send replicaId = .error err) (ambient : Ambient) :
    RecordStep deps h decision send
      (({ h with phase := .sending decision replicaId } : Handler ν β).onSettled deps decision
        replicaId (.error err) ambient).1
      ([.route h.exclude decision, .sendRequest replicaId h.payload] ++
        (({ h with phase := .sending decision replicaId } : Handler ν β).onSettled deps decision
          replicaId (.error err) ambient).2) := by
  have hwritable : ¬ ServesUnwritable deps h decision send := not_servesUnwritable_of_failed ho hs
  generalize hg : ({ h with phase := .sending decision replicaId } : Handler ν β) = g
  have hattempts : g.attempts = h.attempts := by rw [← hg]
  have hfatal : ∀ err, RecordStep deps h decision send
      (g.onFatal deps decision replicaId err ambient).1
      ([.route h.exclude decision, .sendRequest replicaId h.payload] ++
        (g.onFatal deps decision replicaId err ambient).2) := by
    intro err
    obtain ⟨hfinished, d, hone, hrounds⟩ := onFatal_records deps g decision replicaId err ambient
    exact .once hfinished hone hrounds hwritable
  cases err with
  | other detail => exact hfatal (.other detail)
  | request err =>
      simp only [onSettled]
      split_ifs
      · rcases onRetryable_records deps g decision replicaId err ambient with
          ⟨hphase, hlength, hleft, hnone⟩ | ⟨hfinished, d, hone, hrounds⟩
        · rw [hattempts] at hlength hleft
          exact .again hphase hlength hleft hnone hwritable
        · exact .once hfinished hone hrounds hwritable
      · exact hfatal (.request err)

end unwritable

/-- **One round of a request**, seen from the decision log. -/
theorem round_records (deps : RouteDeps ν β) (env : RouteEnv ν β) (k : ℕ)
    (hp : h.phase = .routing) :
    RecordStep deps h (env.route k h.exclude) (fun id => env.send k id h.payload)
      (h.round deps env k).1 (h.round deps env k).2 := by
  unfold round
  rw [hp]
  cases ho : (env.route k h.exclude).outcome with
  | error error =>
      have hwritable : ¬ ServesUnwritable deps h (env.route k h.exclude)
          (fun id => env.send k id h.payload) := not_servesUnwritable_of_unpicked ho
      simp only [onRouted, ho]
      generalize h.pushRound _ = g
      obtain ⟨hfinished, hnone, hrounds⟩ := respond_finishes deps g ⟨503, g.unroutableBody error⟩
      rcases hfinished with ⟨res, hres⟩ | ⟨message, hres⟩
      · simp only [hres]
        exact .once (.inl ⟨res, hres⟩) (congrArg (List.cons _) hnone) hrounds.symm hwritable
      · simp only [hres]
        exact .once (.inr ⟨message, hres⟩) (congrArg (List.cons _) hnone) hrounds.symm hwritable
  | ok replicaId =>
      simp only [onRouted, ho]
      cases hs : env.send k replicaId h.payload with
      | error err => exact failed_records ho hs (env.ambient (2 * k + 1))
      | ok sent =>
          simp only [onSettled]
          cases hwrite : deps.writeError _ with
          | none =>
              refine .once (.inl ⟨_, rfl⟩) rfl rfl ?_
              rw [servesUnwritable_iff ho hs, not_not]
              exact hwrite
          | some message =>
              obtain ⟨hfinished, d', hone, -⟩ := onFatal_records deps
                (h.pushRound (roundFor (env.route k h.exclude))) (env.route k h.exclude) replicaId
                (.other message) (env.ambient (2 * k + 1))
              refine .twice hfinished (congrArg (List.cons _) hone) rfl
                ((servesUnwritable_iff ho hs).mpr ?_)
              rw [show deps.writeError (h.servedResponse _ replicaId sent) = _ from hwrite]
              simp

/-! ### A whole run -/

theorem round_of_finished (hf : h.Finished) : h.round deps env k = (h, []) := by
  unfold round
  rcases hf with ⟨res, hp⟩ | ⟨message, hp⟩
  · rw [hp]
  · rw [hp]

/-- The decision is recorded exactly once, with the array of rounds the handler ends with. -/
def RecordedOnce (deps : RouteDeps ν β) (env : RouteEnv ν β) (h₀ : Handler ν β) : Prop :=
  ∃ n d, ∀ k ≥ n, (h₀.after deps env k).1.Finished ∧
    decisionsOf (h₀.after deps env k).2 = [d] ∧ (h₀.after deps env k).1.rounds = d.rounds

/-- Whenever the run comes to serve the request, the response can be written. -/
def WritesWhatItServes (deps : RouteDeps ν β) (env : RouteEnv ν β) (h₀ : Handler ν β) : Prop :=
  ∀ k, (h₀.after deps env k).1.phase = .routing →
    ¬ ServesUnwritable deps (h₀.after deps env k).1 (env.route k (h₀.after deps env k).1.exclude)
      (fun id => env.send k id (h₀.after deps env k).1.payload)

/-- What a run has recorded after `k` rounds, and whether it has met an unwritable response. -/
inductive Recordings (deps : RouteDeps ν β) (env : RouteEnv ν β) (h₀ : Handler ν β) (k : ℕ) :
    Prop where
  | running (hphase : (h₀.after deps env k).1.phase = .routing)
      (hlength : (h₀.after deps env k).1.attempts.length = k) (hk : k ≤ deps.maxRetries)
      (hnone : decisionsOf (h₀.after deps env k).2 = [])
  | recorded (d : Decision ν) (hfinished : (h₀.after deps env k).1.Finished)
      (hone : decisionsOf (h₀.after deps env k).2 = [d])
      (hrounds : (h₀.after deps env k).1.rounds = d.rounds)
  | repeated (j : ℕ) (d d' : Decision ν) (hfinished : (h₀.after deps env k).1.Finished)
      (htwo : decisionsOf (h₀.after deps env k).2 = [d, d'])
      (hrounds : (h₀.after deps env k).1.rounds = d.rounds)
      (hphase : (h₀.after deps env j).1.phase = .routing)
      (hunwritable : ServesUnwritable deps (h₀.after deps env j).1
        (env.route j (h₀.after deps env j).1.exclude)
        (fun id => env.send j id (h₀.after deps env j).1.payload))

theorem after_succ_of_finished {h₀ : Handler ν β} (hf : (h₀.after deps env k).1.Finished) :
    h₀.after deps env (k + 1) = h₀.after deps env k := by
  rw [after_succ, round_of_finished hf, List.append_nil]

theorem recordings (deps : RouteDeps ν β) (env : RouteEnv ν β) {h₀ : Handler ν β}
    (hp₀ : h₀.phase = .routing) (ha₀ : h₀.attempts = []) (k : ℕ) :
    Recordings deps env h₀ k := by
  induction k with
  | zero => exact .running hp₀ (by simp [after, ha₀]) (Nat.zero_le _) rfl
  | succ k ih =>
      cases ih with
      | running hphase hlength hk hnone =>
          have hafter : h₀.after deps env (k + 1) = _ := after_succ h₀ k
          have hdecisions : decisionsOf (h₀.after deps env (k + 1)).2 =
              decisionsOf ((h₀.after deps env k).1.round deps env k).2 := by
            rw [hafter, decisionsOf_append, hnone, List.nil_append]
          have hstep := round_records deps env k hphase
          cases hstep with
          | again hphase' hattempts hleft hnone' _ =>
              refine .running hphase' ?_ (by omega) (hdecisions.trans hnone')
              rw [hafter]
              exact hattempts.trans (congrArg (· + 1) hlength)
          | once hfinished hone hrounds _ =>
              exact .recorded _ hfinished (hdecisions.trans hone) hrounds.symm
          | twice hfinished htwo hrounds hunwritable =>
              exact .repeated k _ _ hfinished (hdecisions.trans htwo) hrounds.symm hphase
                hunwritable
      | recorded d hfinished hone hrounds =>
          have hsame := after_succ_of_finished hfinished
          rw [← hsame] at hfinished hone hrounds
          exact .recorded d hfinished hone hrounds
      | repeated j d d' hfinished htwo hrounds hphase hunwritable =>
          have hsame := after_succ_of_finished hfinished
          rw [← hsame] at hfinished htwo hrounds
          exact .repeated j d d' hfinished htwo hrounds hphase hunwritable

theorem after_of_finished {h₀ : Handler ν β} (hf : (h₀.after deps env k).1.Finished) :
    ∀ j ≥ k, h₀.after deps env j = h₀.after deps env k := by
  intro j hj
  induction j, hj using Nat.le_induction with
  | base => rfl
  | succ j hj ih =>
      rw [← ih] at hf
      rw [after_succ_of_finished hf, ih]

/-- An unwritable served response is recorded twice, whatever round it comes in. -/
theorem decisions_of_unwritable {h₀ : Handler ν β} (hp₀ : h₀.phase = .routing)
    (ha₀ : h₀.attempts = []) (hphase : (h₀.after deps env k).1.phase = .routing)
    (hunwritable : ServesUnwritable deps (h₀.after deps env k).1
      (env.route k (h₀.after deps env k).1.exclude)
      (fun id => env.send k id (h₀.after deps env k).1.payload)) :
    (h₀.after deps env (k + 1)).1.Finished ∧
      (decisionsOf (h₀.after deps env (k + 1)).2).length = 2 := by
  have hnone : decisionsOf (h₀.after deps env k).2 = [] := by
    cases recordings deps env hp₀ ha₀ k with
    | running _ _ _ hnone => exact hnone
    | recorded _ hfinished _ _ =>
        rcases hfinished with ⟨res, hp⟩ | ⟨message, hp⟩ <;> cases hphase.symm.trans hp
    | repeated _ _ _ hfinished _ _ _ _ =>
        rcases hfinished with ⟨res, hp⟩ | ⟨message, hp⟩ <;> cases hphase.symm.trans hp
  have hafter : h₀.after deps env (k + 1) = _ := after_succ h₀ k
  rw [hafter, decisionsOf_append, hnone, List.nil_append]
  cases round_records deps env k hphase with
  | again _ _ _ _ hwritable => exact absurd hunwritable hwritable
  | once _ _ _ hwritable => exact absurd hunwritable hwritable
  | twice hfinished htwo _ _ => exact ⟨hfinished, by rw [htwo]; rfl⟩

/-- **One decision for each request**: it is recorded exactly once, and left alone after that,
exactly when no served response the request comes to write fails to be written.  As in the whole
model of the handler, `eject` returns: the engine picks replicas the scheduler knows. -/
theorem recordedOnce_iff (deps : RouteDeps ν β) (env : RouteEnv ν β) (requestId : String)
    (payload : β) : RecordedOnce deps env { requestId, payload } ↔
      WritesWhatItServes deps env { requestId, payload } := by
  generalize hh₀ : ({ requestId, payload } : Handler ν β) = h₀
  have hp₀ : h₀.phase = .routing := by rw [← hh₀]
  have ha₀ : h₀.attempts = [] := by rw [← hh₀]
  constructor
  · rintro ⟨n, d, hrec⟩ k hphase hunwritable
    obtain ⟨hfinished, htwo⟩ := decisions_of_unwritable hp₀ ha₀ hphase hunwritable
    have hlate : k + 1 ≤ max n (k + 1) := le_max_right n (k + 1)
    obtain ⟨-, hone, -⟩ := hrec _ (le_max_left n (k + 1))
    rw [after_of_finished hfinished _ hlate] at hone
    rw [hone] at htwo
    cases htwo
  · intro hwrites
    cases recordings deps env hp₀ ha₀ (deps.maxRetries + 1) with
    | running _ _ hk _ => omega
    | recorded d hfinished hone hrounds =>
        refine ⟨deps.maxRetries + 1, d, fun k hk => ?_⟩
        rw [after_of_finished hfinished k hk]
        exact ⟨hfinished, hone, hrounds⟩
    | repeated j d d' _ _ _ hphase hunwritable => exact absurd hunwritable (hwrites j hphase)

/-! ### A response that cannot be written -/

/-- `res.json` throws on the served response, as it does on one that is nested too deeply. -/
def tooDeepDeps : RouteDeps ℕ Unit where
  maxRetries := 1
  writeError res := if res.status = 200 then some "Maximum call stack size exceeded" else none

/-- One healthy replica, which answers. -/
def oneAnswer : RouteEnv ℕ Unit where
  route _ _ := ⟨.ok "replica-1", .roundRobin, [], []⟩
  send _ _ _ := .ok ⟨(), 5⟩
  ambient _ := ⟨fun _ => "id", fun _ => "t"⟩

/-- The log holds two decisions for the request, and each lists two rounds for its one pick. -/
theorem decision_recorded_twice : ∃ d d',
    decisionsOf (Handler.after tooDeepDeps oneAnswer { requestId := "r", payload := () } 1).2 =
      [d, d'] ∧
    d.chosenReplicaId = some "replica-1" ∧ d'.chosenReplicaId = none ∧
    d.rounds.length = 2 ∧ d'.rounds.length = 2 ∧
    (routedOf (Handler.after tooDeepDeps oneAnswer
      { requestId := "r", payload := () } 1).2).length = 1 ∧
    ¬ RecordedOnce tooDeepDeps oneAnswer { requestId := "r", payload := () } := by
  refine ⟨_, _, rfl, rfl, rfl, rfl, rfl, rfl, ?_⟩
  rintro ⟨n, d, hrec⟩
  have hfinished : (Handler.after tooDeepDeps oneAnswer
      { requestId := "r", payload := () } 1).1.Finished := .inl ⟨_, rfl⟩
  obtain ⟨-, hone, -⟩ := hrec (max n 1) (le_max_left n 1)
  rw [after_of_finished hfinished _ (le_max_right n 1)] at hone
  have htwo := congrArg List.length hone
  cases htwo

end Handler

end WhyRouted
