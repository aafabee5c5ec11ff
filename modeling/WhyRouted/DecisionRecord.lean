import Mathlib.Data.List.Forall2
import WhyRouted.RetryLoop

/-! # The decision record is a faithful account

Against any engine answers and any send outcomes, a request leaves one `Decision`, and that
record, the calls the handler made and the response it wrote tell the same story (`Faithful`).

The three accumulators grow in different branches of the loop.  `Lockstep` is what ties them
together at the loop head: a round for each answer, a pick for each send, an attempt for each
round, nothing recorded yet.  Every round that goes on keeps it, and every exit turns it into
the account. -/

namespace WhyRouted

variable {ν β : Type}

/-! ### What the account says -/

/-- The outcome a round owes an engine answer. -/
def RouteResult.roundOutcome (decision : RouteResult ν) : RoundOutcome :=
  match decision.outcome with
  | .ok _ => .picked
  | .error .noHealthyReplicas => .noHealthyReplicas
  | .error .noRoutableReplica => .noRoutableReplica

/-- The round carries what the engine said. -/
structure Reports (round : DecisionRound ν) (decision : RouteResult ν) : Prop where
  candidates : round.candidates = decision.candidates
  excluded : round.excluded = decision.excluded
  strategy : round.strategy = decision.strategy.text
  outcome : round.outcome = decision.roundOutcome

def picksOf (rounds : List (DecisionRound ν)) : List (Option String) :=
  (rounds.filter fun round => round.outcome = .picked).map (·.pickedReplicaId)

/-- The attempt a round that failed retryably stands for. -/
def DecisionRound.attempt (round : DecisionRound ν) : Option RouteAttempt :=
  match round.pickedReplicaId, round.failureReason with
  | some replicaId, some reason =>
      if retryableFailure reason.kind reason.status then
        some ⟨replicaId, reason.kind, reason.status⟩
      else none
  | _, _ => none

/-- A pick that failed retryably. -/
def DecisionRound.Retried (round : DecisionRound ν) : Prop :=
  round.outcome = .picked ∧
    ∃ reason, round.failureReason = some reason ∧ retryableFailure reason.kind reason.status = true

/-- The record `d` accounts for the calls of a request answered with `res`. -/
structure Faithful (calls : List (Call ν β)) (res : RouteResponse ν β) (d : Decision ν) :
    Prop where
  requestId : d.requestId = res.body.requestId
  /-- One round for each engine call, in order, with what the call returned. -/
  rounds : List.Forall₂ Reports d.rounds (routedOf calls)
  picks : picksOf d.rounds = (sentOf calls).map some
  attempts : d.rounds.filterMap (·.attempt) = res.body.attempts
  chosen_iff : d.chosenReplicaId ≠ none ↔ res.status = 200
  chosen : ∀ id, d.chosenReplicaId = some id →
    res.body.replicaId = some id ∧ d.rounds.getLast?.bind (·.pickedReplicaId) = some id
  latency_iff : d.latencyMs ≠ none ↔ d.chosenReplicaId ≠ none
  latency : d.latencyMs = res.body.latencyMs
  /-- Only the last round can have ended the request. -/
  earlier : ∀ round ∈ d.rounds.dropLast, round.Retried

/-! ### One round -/

section round

variable (decision : RouteResult ν) (reason : Option FailureReason)

theorem reports_roundFor : Reports { roundFor decision with failureReason := reason } decision := by
  unfold roundFor
  cases ho : decision.outcome with
  | ok id => exact ⟨rfl, rfl, rfl, by rw [RouteResult.roundOutcome, ho]⟩
  | error e => cases e <;> exact ⟨rfl, rfl, rfl, by rw [RouteResult.roundOutcome, ho]⟩

theorem roundFor_eq : roundFor decision = { roundFor decision with failureReason := none } := by
  rw [← roundFor_failureReason decision]

theorem picksOf_concat (rounds : List (DecisionRound ν)) :
    picksOf (rounds ++ [{ roundFor decision with failureReason := reason }]) =
      picksOf rounds ++ decision.outcome.toOption.toList.map some := by
  unfold picksOf roundFor
  rw [List.filter_append, List.map_append]
  cases decision.outcome with
  | ok id => rfl
  | error e => cases e <;> rfl

variable {decision}

theorem pickedReplicaId_roundFor {id : String} (ho : decision.outcome = .ok id) :
    (roundFor decision).pickedReplicaId = some id := by
  simp [roundFor, ho]

theorem outcome_roundFor {id : String} (ho : decision.outcome = .ok id) :
    (roundFor decision).outcome = .picked := by
  simp [roundFor, ho]

theorem attempt_of_retryable {id : String} {err : ReplicaRequestError}
    (ho : decision.outcome = .ok id) (hretry : err.retryable = true) :
    DecisionRound.attempt
        { roundFor decision with failureReason := some ⟨err.kind, err.status⟩ } =
      some ⟨id, err.kind, err.status⟩ := by
  have hretry : retryableFailure err.kind err.status = true := hretry
  simp [DecisionRound.attempt, pickedReplicaId_roundFor ho, hretry]

theorem attempt_of_fatal {id : String} {err : ReplicaRequestError}
    (ho : decision.outcome = .ok id) (hretry : err.retryable = false) :
    DecisionRound.attempt
        { roundFor decision with failureReason := some ⟨err.kind, err.status⟩ } = none := by
  have hretry : retryableFailure err.kind err.status = false := hretry
  simp [DecisionRound.attempt, pickedReplicaId_roundFor ho, hretry]

theorem attempt_eq_none {round : DecisionRound ν} (h : round.failureReason = none) :
    round.attempt = none := by
  unfold DecisionRound.attempt
  rw [h]
  cases round.pickedReplicaId <;> rfl

theorem filterMap_attempt_concat (rounds : List (DecisionRound ν)) (round : DecisionRound ν) :
    (rounds ++ [round]).filterMap (·.attempt) =
      rounds.filterMap (·.attempt) ++ round.attempt.toList := by
  rw [List.filterMap_append]
  cases h : round.attempt <;> simp [h]

end round

/-! ### Lockstep -/

/-- The accumulators and the calls of a request at its loop head. -/
structure Lockstep (requestId : String) (h : Handler ν β) (calls : List (Call ν β)) : Prop where
  requestId : h.requestId = requestId
  rounds : List.Forall₂ Reports h.rounds (routedOf calls)
  picks : picksOf h.rounds = (sentOf calls).map some
  attempts : h.rounds.filterMap (·.attempt) = h.attempts
  retried : ∀ round ∈ h.rounds, round.Retried
  unrecorded : decisionsOf calls = []
  silent : responsesOf calls = []

variable {deps : RouteDeps ν β} {requestId : String} {h h' : Handler ν β}
  {calls calls' : List (Call ν β)} {decision : RouteResult ν} {send : String → Settled ν β}

/-- The round a step appends keeps rounds and picks in step with the calls. -/
theorem Lockstep.push (hl : Lockstep requestId h calls) (hrouted : routedOf calls' = [decision])
    (hsent : sentOf calls' = decision.outcome.toOption.toList) (reason : Option FailureReason) :
    List.Forall₂ Reports (h.rounds ++ [{ roundFor decision with failureReason := reason }])
        (routedOf (calls ++ calls')) ∧
      picksOf (h.rounds ++ [{ roundFor decision with failureReason := reason }]) =
        (sentOf (calls ++ calls')).map some := by
  refine ⟨?_, ?_⟩
  · rw [routedOf_append, hrouted]
    exact List.rel_append hl.rounds (.cons (reports_roundFor decision reason) .nil)
  · rw [picksOf_concat, sentOf_append, hsent, List.map_append, hl.picks]

theorem Lockstep.again (hl : Lockstep requestId h calls)
    (hs : Handler.RoundStep deps h decision send h' calls') (hp : h'.phase = .routing) :
    Lockstep requestId h' (calls ++ calls') := by
  obtain ⟨hunrecorded, hsilent⟩ := hs.silent_of_routing hp
  obtain ⟨id, err, hpick, _, hretry, _, rfl⟩ := hs.goes_on hp
  obtain ⟨hrounds, hpicks⟩ := hl.push hs.routed hs.sent (some ⟨err.kind, err.status⟩)
  refine ⟨hl.requestId, hrounds, hpicks, ?_, ?_, ?_, ?_⟩
  · show (h.rounds ++ [_]).filterMap _ = h.attempts ++ [_]
    rw [filterMap_attempt_concat, hl.attempts, attempt_of_retryable hpick hretry]
    rfl
  · intro round hround
    rcases List.mem_append.mp hround with hround | hround
    · exact hl.retried round hround
    · rw [List.mem_singleton.mp hround]
      exact ⟨outcome_roundFor hpick, _, rfl, hretry⟩
  · rw [decisionsOf_append, hl.unrecorded, hunrecorded]
    rfl
  · rw [responsesOf_append, hl.silent, hsilent]
    rfl

/-- A record of the rounds so far and one more is faithful when it agrees with the response. -/
theorem Lockstep.account (hl : Lockstep requestId h calls) (hrouted : routedOf calls' = [decision])
    (hsent : sentOf calls' = decision.outcome.toOption.toList) (reason : Option FailureReason)
    {res : RouteResponse ν β} {d : Decision ν}
    (hd : d.rounds = h.rounds ++ [{ roundFor decision with failureReason := reason }])
    (hid : d.requestId = res.body.requestId)
    (hattempts : h.attempts ++ (DecisionRound.attempt
      { roundFor decision with failureReason := reason }).toList = res.body.attempts)
    (hchosen_iff : d.chosenReplicaId ≠ none ↔ res.status = 200)
    (hchosen : ∀ id, d.chosenReplicaId = some id →
      res.body.replicaId = some id ∧ decision.outcome = .ok id)
    (hlatency_iff : d.latencyMs ≠ none ↔ d.chosenReplicaId ≠ none)
    (hlatency : d.latencyMs = res.body.latencyMs) : Faithful (calls ++ calls') res d := by
  obtain ⟨hrounds, hpicks⟩ := hl.push hrouted hsent reason
  refine ⟨hid, hd ▸ hrounds, hd ▸ hpicks, ?_, hchosen_iff, ?_, hlatency_iff, hlatency, ?_⟩
  · rw [hd, filterMap_attempt_concat, hl.attempts, ← hattempts]
  · intro id h
    obtain ⟨hbody, hpick⟩ := hchosen id h
    refine ⟨hbody, ?_⟩
    rw [hd, List.getLast?_concat]
    exact pickedReplicaId_roundFor hpick
  · rw [hd, List.dropLast_concat]
    exact hl.retried

theorem Lockstep.done (hl : Lockstep requestId h calls)
    (hs : Handler.RoundStep deps h decision send h' calls') {res : RouteResponse ν β}
    (hp : h'.phase = .responded res) :
    responsesOf (calls ++ calls') = [res] ∧ ∃ d, decisionsOf (calls ++ calls') = [d] ∧
      d.requestId = requestId ∧ Faithful (calls ++ calls') res d := by
  have hresponses : responsesOf (calls ++ calls') = [res] := by
    rw [responsesOf_append, hl.silent, hs.responses_of_responded hp]
    rfl
  refine ⟨hresponses, ?_⟩
  rw [decisionsOf_append, hl.unrecorded, List.nil_append]
  have hrouted := hs.routed
  have hsent := hs.sent
  cases hs with
  | again _ _ _ _ _ _ => cases hp
  | exhausted _ _ _ _ hpick _ hretry _ hres =>
      cases hp
      refine ⟨_, rfl, hl.requestId, hl.account hrouted hsent (some _) rfl ?_ ?_ ?_ ?_ ?_ ?_⟩
      · rw [hres]; rfl
      · rw [attempt_of_retryable hpick hretry, hres]; rfl
      · simp [Handler.decision, hres]
      · simp [Handler.decision]
      · simp [Handler.decision]
      · rw [hres]; rfl
  | @fatal _ err _ _ _ _ hpick _ hretry hreason hres =>
      cases hp
      subst hreason
      refine ⟨_, rfl, hl.requestId,
        hl.account hrouted hsent err.failureReason rfl ?_ ?_ ?_ ?_ ?_ ?_⟩
      · rw [hres]; rfl
      · have hnone : DecisionRound.attempt
            { roundFor decision with failureReason := err.failureReason } = none := by
          cases err with
          | other detail => exact attempt_eq_none rfl
          | request err => exact attempt_of_fatal hpick hretry
        rw [hnone, hres]
        exact List.append_nil _
      · simp [Handler.decision, hres]
      · simp [Handler.decision]
      · simp [Handler.decision]
      · rw [hres]; rfl
  | served _ _ hpick _ hres =>
      cases hp
      refine ⟨_, rfl, hl.requestId, hl.account hrouted hsent none ?_ ?_ ?_ ?_ ?_ ?_ ?_⟩
      · rw [← roundFor_eq]; rfl
      · rw [hres]; rfl
      · rw [attempt_eq_none rfl, hres]
        exact List.append_nil _
      · simp [Handler.decision, hres]
      · rintro _ ⟨rfl⟩
        exact ⟨by rw [hres]; rfl, hpick⟩
      · simp [Handler.decision]
      · rw [hres]; rfl
  | unroutable _ _ _ hres =>
      cases hp
      refine ⟨_, rfl, hl.requestId, hl.account hrouted hsent none ?_ ?_ ?_ ?_ ?_ ?_ ?_⟩
      · rw [← roundFor_eq]; rfl
      · rw [hres]
        unfold Handler.unroutableBody
        split_ifs <;> rfl
      · rw [attempt_eq_none rfl, hres]
        unfold Handler.unroutableBody
        split_ifs with hlen
        · rw [List.length_eq_zero_iff.mp hlen]; rfl
        · exact List.append_nil _
      · simp [Handler.decision, hres]
      · simp [Handler.decision]
      · simp [Handler.decision]
      · rw [hres]
        unfold Handler.unroutableBody
        split_ifs <;> rfl

/-! ### What the rounds met -/

/-- The replicas some rounds have picked. -/
def pickedOf (rounds : List (DecisionRound ν)) : List String := rounds.filterMap (·.pickedReplicaId)

/-- Round `i` is what the engine answered the `i`-th time, asked to exclude the picks before it, and
says how the send to its pick failed, if it did. -/
def Recounts (env : RouteEnv ν β) (payload : β) (rounds : List (DecisionRound ν)) : Prop :=
  ∀ i round, rounds[i]? = some round → round =
    Handler.recordOf (env.route i (pickedOf (rounds.take i))) fun id => env.send i id payload

/-- The rounds of a request at its loop head. -/
structure Recounting (env : RouteEnv ν β) (payload : β) (k : ℕ) (h : Handler ν β) : Prop where
  carries : h.payload = payload
  length : h.rounds.length = k
  exclude : h.exclude = pickedOf h.rounds
  recounts : Recounts env payload h.rounds

section recounts

variable {env : RouteEnv ν β} {payload : β} {k : ℕ}

theorem Recounts.concat {rounds : List (DecisionRound ν)} (hr : Recounts env payload rounds) :
    Recounts env payload (rounds ++ [Handler.recordOf (env.route rounds.length (pickedOf rounds))
      fun id => env.send rounds.length id payload]) := by
  intro i round hround
  rw [List.getElem?_append] at hround
  split_ifs at hround with hlt
  · rw [List.take_append_of_le_length hlt.le]
    exact hr i round hround
  · obtain ⟨hbound, heq⟩ := List.getElem?_eq_some_iff.mp hround
    obtain rfl : i = rounds.length := by
      rw [List.length_singleton] at hbound
      omega
    rw [List.take_left' rfl, ← heq]
    simp

theorem Recounting.recounts_round (hr : Recounting env payload k h)
    (hs : Handler.RoundStep deps h (env.route k h.exclude) (fun id => env.send k id h.payload) h'
      calls') : Recounts env payload h'.rounds := by
  obtain ⟨hpayload, rfl, hexclude, hrecounts⟩ := hr
  obtain ⟨-, hrounds, -⟩ := hs.pushed
  rw [hrounds, hexclude, hpayload]
  exact hrecounts.concat

theorem Recounting.again (hr : Recounting env payload k h)
    (hs : Handler.RoundStep deps h (env.route k h.exclude) (fun id => env.send k id h.payload) h'
      calls') (hp : h'.phase = .routing) : Recounting env payload (k + 1) h' := by
  obtain ⟨hpayload, hrounds, -⟩ := hs.pushed
  have hrecounts := hr.recounts_round hs
  obtain ⟨id, err, hpick, -, -, -, rfl⟩ := hs.goes_on hp
  refine ⟨hpayload.trans hr.carries, ?_, ?_, hrecounts⟩
  · rw [hrounds, List.length_append, hr.length]
    rfl
  · have hlast : pickedOf [Handler.recordOf (env.route k h.exclude)
        fun id => env.send k id h.payload] = [id] := by
      simp [pickedOf, Handler.recordOf, pickedReplicaId_roundFor hpick]
    rw [hrounds, pickedOf, List.filterMap_append]
    exact congrArg₂ (· ++ ·) hr.exclude hlast.symm

end recounts

/-- **The recorded decision is a faithful account of the request**: whatever the engine answers
and however the sends settle, the request is answered once and leaves one record, whose rounds are
what the engine answered and how each send failed. -/
theorem decision_faithful (deps : RouteDeps ν β) (env : RouteEnv ν β)
    (hw : ∀ res, deps.writeError res = none)
    (requestId : String) (payload : β) :
    let run := Handler.after deps env { requestId, payload }
    ∃ k ≤ deps.maxRetries + 1, ∃ res calls,
      (∀ j ≥ k, (run j).1.phase = .responded res ∧ (run j).2 = calls) ∧
      responsesOf calls = [res] ∧ ∃ d, decisionsOf calls = [d] ∧
        d.requestId = requestId ∧ Faithful calls res d ∧ Recounts env payload d.rounds := by
  intro run
  have hrun := Handler.run_rule env hw
    (I := fun k h calls => Lockstep requestId h calls ∧ Recounting env payload k h)
    (F := fun _ calls res => responsesOf calls = [res] ∧ ∃ d, decisionsOf calls = [d] ∧
      d.requestId = requestId ∧ Faithful calls res d ∧ Recounts env payload d.rounds)
    { requestId, payload } rfl rfl
    ⟨⟨rfl, .nil, rfl, rfl, by simp, rfl, rfl⟩, rfl, rfl, rfl, by simp [Recounts]⟩ ?_ ?_
    (deps.maxRetries + 1)
  · rcases hrun with ⟨_, _, hk, _⟩ | ⟨res, hp, hres, hd⟩
    · omega
    · refine ⟨_, le_rfl, res, _, ?_, hres, hd⟩
      intro j hj
      have hj' : run j = run (deps.maxRetries + 1) := Handler.after_of_responded hp j hj
      rw [hj']
      exact ⟨hp, rfl⟩
  · rintro k h calls h' calls' - - ⟨hl, hr⟩ - hs hp
    exact ⟨hl.again hs hp, hr.again hs hp⟩
  · rintro k h calls h' calls' res - - ⟨hl, hr⟩ - - hs hp
    obtain ⟨hres, d, hd, hid, hf⟩ := hl.done hs hp
    obtain ⟨-, -, hrecorded⟩ := hs.pushed
    refine ⟨hres, d, hd, hid, hf, ?_⟩
    rw [decisionsOf_append, hl.unrecorded, List.nil_append] at hd
    rw [hrecorded d (by rw [hd]; exact List.mem_singleton_self d)]
    exact hr.recounts_round hs

/-- A first pick that times out and a second that answers. -/
def RouteEnv.retried : RouteEnv ℕ Unit where
  route k _ := ⟨.ok (if k = 0 then "replica-1" else "replica-2"), .roundRobin, [], []⟩
  send _ id _ :=
    if id = "replica-1" then .error (.request ⟨.timeout, "no answer", none⟩) else .ok ⟨(), 7⟩
  ambient _ := ⟨toString, toString⟩

theorem decision_faithful_retried :
    let calls := (Handler.after ⟨1, fun _ => none⟩ RouteEnv.retried
      { requestId := "request", payload := () } 2).2
    ∃ res d, responsesOf calls = [res] ∧ decisionsOf calls = [d] ∧ Faithful calls res d ∧
      Recounts RouteEnv.retried () d.rounds ∧
      d.rounds.map (fun round => (round.pickedReplicaId, round.failureReason)) =
        [(some "replica-1", some ⟨.timeout, none⟩), (some "replica-2", none)] := by
  intro calls
  obtain ⟨k, hk, res, _, hrun, hres, d, hd, -, hf, hrecounts⟩ :=
    decision_faithful ⟨1, fun _ => none⟩ RouteEnv.retried (fun _ => rfl) "request" ()
  obtain rfl := (hrun 2 hk).2
  have hrounds : (decisionsOf calls).map (fun d => d.rounds.map fun round =>
      (round.pickedReplicaId, round.failureReason)) =
        [[(some "replica-1", some ⟨.timeout, none⟩), (some "replica-2", none)]] := by decide
  rw [show decisionsOf calls = [d] from hd, List.map_singleton] at hrounds
  exact ⟨res, d, hres, hd, hf, hrecounts, List.singleton_inj.mp hrounds⟩

end WhyRouted
