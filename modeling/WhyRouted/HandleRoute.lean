import WhyRouted.Engine
import WhyRouted.FailoverLog

/-! # The retry loop of `POST /route`

`handleRoute` of `src/api/server.ts`, with the decision record of `src/decisions/types.ts`.

A handler runs without interruption between two awaits, and its only await is `sendRequest`.
So a call is modelled by its accumulators and the point it stands at (`Phase`), with one
function for each stretch of code: `onRouted` from the engine's answer to the send or the
response, `onSettled` from the settled send to the response or back to the head of the loop.
Each returns the calls it makes on its dependencies, in order.

`eject` and the two `record` functions return nothing, as the handler's `RouteHandlerDeps` has
them; what they do to the rest of the system is modelled where the system is.  `eject` throws for
a replica the scheduler does not know, and there the handler rejects: the model covers the
replicas it knows, which are all the engine can pick.

`recordDecision` hands the log the array `rounds` itself.  Nothing is pushed to it after the
handler has returned, so a record differs from a copy only where one stretch records and pushes
again: a served response whose write throws. -/

namespace WhyRouted

variable {ν β : Type}

/-! ### Decision record -/

inductive RoundOutcome where
  | picked
  | noRoutableReplica
  | noHealthyReplicas
deriving DecidableEq, Repr

/-- Why a round's pick did not resolve the request. -/
structure FailureReason where
  kind : ReplicaErrorKind
  status : Option ℕ
deriving DecidableEq, Repr

/-- One round: the engine's outcome and, if the pick failed, why. -/
structure DecisionRound (ν : Type) where
  candidates : List (CandidateScore ν)
  excluded : List ExcludedCandidate
  strategy : String
  outcome : RoundOutcome
  pickedReplicaId : Option String := none
  failureReason : Option FailureReason := none

/-- The record one request leaves. -/
structure Decision (ν : Type) where
  id : String
  requestId : String
  atTime : String
  rounds : List (DecisionRound ν)
  chosenReplicaId : Option String
  latencyMs : Option ν

/-! ### Responses -/

/-- One failed try. -/
structure RouteAttempt where
  replicaId : String
  kind : ReplicaErrorKind
  status : Option ℕ
deriving DecidableEq, Repr

/-- The JSON bodies `/route` answers with. -/
inductive RouteBody (ν β : Type) where
  | served (replicaId : String) (strategy : StrategyName) (response : β) (latencyMs : ν)
      (attempts : List RouteAttempt) (requestId : String)
  | unroutable (error : RouteError) (requestId : String)
  | allReplicasFailed (attempts : List RouteAttempt) (requestId : String)
  | replicaRequestFailed (replicaId detail : String) (attempts : List RouteAttempt)
      (requestId : String)

structure RouteResponse (ν β : Type) where
  status : ℕ
  body : RouteBody ν β

namespace RouteBody

def requestId : RouteBody ν β → String
  | served _ _ _ _ _ requestId => requestId
  | unroutable _ requestId => requestId
  | allReplicasFailed _ requestId => requestId
  | replicaRequestFailed _ _ _ requestId => requestId

def attempts : RouteBody ν β → List RouteAttempt
  | served _ _ _ _ attempts _ => attempts
  | unroutable _ _ => []
  | allReplicasFailed attempts _ => attempts
  | replicaRequestFailed _ _ attempts _ => attempts

def replicaId : RouteBody ν β → Option String
  | served replicaId _ _ _ _ _ => some replicaId
  | unroutable _ _ => none
  | allReplicasFailed _ _ => none
  | replicaRequestFailed replicaId _ _ _ => some replicaId

def latencyMs : RouteBody ν β → Option ν
  | served _ _ _ latencyMs _ _ => some latencyMs
  | _ => none

def error : RouteBody ν β → Option String
  | served _ _ _ _ _ _ => none
  | unroutable error _ => some error.text
  | allReplicasFailed _ _ => some "all_replicas_failed"
  | replicaRequestFailed _ _ _ _ => some "replica_request_failed"

end RouteBody

/-! ### The handler -/

/-- Build the round an engine outcome contributes. -/
def roundFor (decision : RouteResult ν) : DecisionRound ν :=
  match decision.outcome with
  | .error error =>
      { candidates := decision.candidates, excluded := decision.excluded
        strategy := decision.strategy.text
        outcome := match error with
          | .noHealthyReplicas => .noHealthyReplicas
          | .noRoutableReplica => .noRoutableReplica }
  | .ok replicaId =>
      { candidates := decision.candidates, excluded := decision.excluded
        strategy := decision.strategy.text, outcome := .picked, pickedReplicaId := some replicaId }

theorem roundFor_failureReason (decision : RouteResult ν) :
    (roundFor decision).failureReason = none := by
  unfold roundFor
  split <;> rfl

/-- A call the handler makes on one of its dependencies, or its response. -/
inductive Call (ν β : Type) where
  | route (exclude : List String) (decision : RouteResult ν)
  | sendRequest (replicaId : String) (payload : β)
  | eject (replicaId reason : String)
  | recordEvent (event : FailoverEvent)
  | recordDecision (decision : Decision ν)
  | respond (res : RouteResponse ν β)

/-! ### Reading a list of calls -/

def routedOf (calls : List (Call ν β)) : List (RouteResult ν) :=
  calls.filterMap fun
    | .route _ decision => some decision
    | _ => none

def sentOf (calls : List (Call ν β)) : List String :=
  calls.filterMap fun
    | .sendRequest replicaId _ => some replicaId
    | _ => none

def decisionsOf (calls : List (Call ν β)) : List (Decision ν) :=
  calls.filterMap fun
    | .recordDecision decision => some decision
    | _ => none

def responsesOf (calls : List (Call ν β)) : List (RouteResponse ν β) :=
  calls.filterMap fun
    | .respond res => some res
    | _ => none

@[simp] theorem routedOf_append (l l' : List (Call ν β)) :
    routedOf (l ++ l') = routedOf l ++ routedOf l' := List.filterMap_append

@[simp] theorem sentOf_append (l l' : List (Call ν β)) :
    sentOf (l ++ l') = sentOf l ++ sentOf l' := List.filterMap_append

@[simp] theorem decisionsOf_append (l l' : List (Call ν β)) :
    decisionsOf (l ++ l') = decisionsOf l ++ decisionsOf l' := List.filterMap_append

@[simp] theorem responsesOf_append (l l' : List (Call ν β)) :
    responsesOf (l ++ l') = responsesOf l ++ responsesOf l' := List.filterMap_append

theorem mem_pick_iff {ε : Type} {outcome : Except ε String} {replicaId : String} :
    replicaId ∈ outcome.toOption.toList ↔ outcome = .ok replicaId := by
  cases outcome <;> simp [Except.toOption, eq_comm]

/-! ### Handler state -/

/-- Where a handler stands: at the head of its loop, waiting for a send, or finished, by its
response or by an exception nothing catches. -/
inductive Phase (ν β : Type) where
  | routing
  | sending (decision : RouteResult ν) (replicaId : String)
  | responded (res : RouteResponse ν β)
  | rejected (message : String)

/-- One `handleRoute` call: its arguments, its accumulators and its position. -/
structure Handler (ν β : Type) where
  requestId : String
  payload : β
  attempts : List RouteAttempt := []
  exclude : List String := []
  rounds : List (DecisionRound ν) := []
  phase : Phase ν β := .routing

/-- What the runtime supplies during one stretch: fresh ids and clock readings. -/
structure Ambient where
  uuid : ℕ → String
  clock : ℕ → String

/-- The server's own parameters. -/
structure RouteDeps (ν β : Type) where
  maxRetries : ℕ
  /-- What `res.json` throws for a response, if it throws. -/
  writeError : RouteResponse ν β → Option String

/-- `res.json` throws for no response of 200.  A body that was parsed from JSON it can write, unless
it is nested too deeply. -/
def WritesServed (deps : RouteDeps ν β) : Prop :=
  ∀ res, res.status = 200 → deps.writeError res = none

namespace Handler

variable (deps : RouteDeps ν β) (h : Handler ν β)

/-- The record `recordDecision` builds, over the rounds pushed so far. -/
def decision (chosenReplicaId : Option String) (latencyMs : Option ν) (id atTime : String) :
    Decision ν where
  id
  requestId := h.requestId
  atTime
  rounds := h.rounds
  chosenReplicaId
  latencyMs

/-- Write an error response, outside any `try`: a throwing write rejects the handler. -/
def respond (res : RouteResponse ν β) : Handler ν β × List (Call ν β) :=
  match deps.writeError res with
  | none => ({ h with phase := .responded res }, [.respond res])
  | some message => ({ h with phase := .rejected message }, [])

def pushRound (round : DecisionRound ν) : Handler ν β :=
  { h with rounds := h.rounds ++ [round] }

/-- The three accumulators after a retryable failure of the pick. -/
def pushFailure (decision : RouteResult ν) (replicaId : String) (err : ReplicaRequestError) :
    Handler ν β :=
  let attempt : RouteAttempt := { replicaId, kind := err.kind, status := err.status }
  let round : DecisionRound ν :=
    { roundFor decision with failureReason := some ⟨err.kind, err.status⟩ }
  { h with
    attempts := h.attempts ++ [attempt], rounds := h.rounds ++ [round]
    exclude := h.exclude ++ [replicaId] }

/-- The body when the engine picks nothing: its error on the first try, the list of attempts
after that. -/
def unroutableBody (error : RouteError) : RouteBody ν β :=
  if h.attempts.length = 0 then .unroutable error h.requestId
  else .allReplicasFailed h.attempts h.requestId

/-- The engine has answered: send to its pick, or stop. -/
def onRouted (decision : RouteResult ν) (ambient : Ambient) : Handler ν β × List (Call ν β) :=
  let routed := Call.route h.exclude decision
  match decision.outcome with
  | .error error =>
      let h := h.pushRound (roundFor decision)
      let recorded := h.decision none none (ambient.uuid 0) (ambient.clock 0)
      let (h, calls) := h.respond deps ⟨503, h.unroutableBody error⟩
      (h, routed :: .recordDecision recorded :: calls)
  | .ok replicaId =>
      ({ h with phase := .sending decision replicaId },
        [routed, .sendRequest replicaId h.payload])

/-- The reason text of a request-driven ejection. -/
def ejectReason (err : ReplicaRequestError) : String :=
  "request failed: " ++ err.kind.text ++ err.status.elim "" fun status => " " ++ toString status

/-- The event recorded for a request-driven ejection. -/
def ejectEvent (replicaId : String) (err : ReplicaRequestError) (id atTime : String) :
    FailoverEvent where
  id
  replicaId
  kind := .ejected
  atTime
  trigger := .requestFailure
  reason := ejectReason err
  requestId := some h.requestId

/-- The retryable branch: eject, record, and go round again while retries are left. -/
def onRetryable (decision : RouteResult ν) (replicaId : String) (err : ReplicaRequestError)
    (ambient : Ambient) : Handler ν β × List (Call ν β) :=
  let ejected := [Call.eject replicaId (ejectReason err),
    .recordEvent (h.ejectEvent replicaId err (ambient.uuid 0) (ambient.clock 0))]
  let h := h.pushFailure decision replicaId err
  if h.attempts.length > deps.maxRetries then
    let recorded := h.decision none none (ambient.uuid 1) (ambient.clock 1)
    let (h, calls) := h.respond deps ⟨503, .allReplicasFailed h.attempts h.requestId⟩
    (h, ejected ++ Call.recordDecision recorded :: calls)
  else ({ h with phase := .routing }, ejected)

/-- The rest of the `catch`: a non-retryable error stops the request. -/
def onFatal (decision : RouteResult ν) (replicaId : String) (err : SendError) (ambient : Ambient) :
    Handler ν β × List (Call ν β) :=
  let failureReason : Option FailureReason := match err with
    | .request err => some ⟨err.kind, err.status⟩
    | .other _ => none
  let h := h.pushRound { roundFor decision with failureReason }
  let recorded := h.decision none none (ambient.uuid 2) (ambient.clock 2)
  let (h, calls) := h.respond deps
    ⟨502, .replicaRequestFailed replicaId err.detail h.attempts h.requestId⟩
  (h, .recordDecision recorded :: calls)

/-- The send has settled. -/
def onSettled (decision : RouteResult ν) (replicaId : String) (settled : Settled ν β)
    (ambient : Ambient) : Handler ν β × List (Call ν β) :=
  match settled with
  | .ok ⟨response, latencyMs⟩ =>
      let h := h.pushRound (roundFor decision)
      let recorded := h.decision (some replicaId) (some latencyMs) (ambient.uuid 3)
        (ambient.clock 3)
      let res : RouteResponse ν β :=
        ⟨200, .served replicaId decision.strategy response latencyMs h.attempts h.requestId⟩
      match deps.writeError res with
      | none => ({ h with phase := .responded res }, [.recordDecision recorded, .respond res])
      | some message =>
          -- the write is inside the `try`, so its exception lands in the `catch` below, and the
          -- round pushed there is in the array the first record holds
          let (h, calls) := h.onFatal deps decision replicaId (.other message) ambient
          (h, .recordDecision { recorded with rounds := h.rounds } :: calls)
  | .error err =>
      match err with
      | .request err =>
          if err.retryable then h.onRetryable deps decision replicaId err ambient
          else h.onFatal deps decision replicaId (.request err) ambient
      | .other detail => h.onFatal deps decision replicaId (.other detail) ambient

end Handler

end WhyRouted
