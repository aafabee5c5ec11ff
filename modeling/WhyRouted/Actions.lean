import WhyRouted.ControlPlane

/-! # The action tools behind their envelope

`src/mcp/action.ts` and the five action tools of `src/mcp/tools`, as an MCP client calls them:
`performAction` turns what a handler returns (`Tools`) or throws into the result a client sees,
and derives `changed` from the two states the handler read.

Four tools are synchronous, so one call is one step (`callAction`).  `simulate_failure` decides
what to do in one step and, when it injects a fault, ends in another, once the replica has
reported; what the injector answers is not ours to say.  A `Console` is the stores of the
process with the injections under way, and its steps are those calls and every other operation
on the stores, in any order.

`isDeepStrictEqual` compares numbers with `Object.is`: it is the equality of `ν`. -/

namespace WhyRouted

/-! ### The envelope -/

inductive ActionFailureCode where
  | unknownReplica
  | invalidInput
  | unsupported
  | internalError
deriving DecidableEq, Repr

/-- A successful `ActionResult`.  Absent `notes` are the empty list. -/
structure ActionReport (S : Type) where
  /-- `none` when there is no `before` to compare against. -/
  changed : Option Bool
  before : Option S
  after : S
  appliedAt : String
  notes : List String
deriving DecidableEq, Repr

/-- What an action tool answers. -/
inductive ActionResult (S : Type) where
  | ok (report : ActionReport S)
  | failed (code : ActionFailureCode) (reason : String)
deriving DecidableEq, Repr

/-- Wrap what a handler returned or threw; `now` is the clock when it did. -/
def performAction {S : Type} [DecidableEq S] (now : String) :
    Except String (ActionOutput S) → ActionResult S
  | .ok (.applied before after notes) =>
      .ok { changed := before.map fun before => !decide (before = after)
            before, after, appliedAt := now, notes }
  | .ok (.unknownReplica reason) => .failed .unknownReplica reason
  | .ok (.invalidInput reason) => .failed .invalidInput reason
  | .ok (.unsupported reason) => .failed .unsupported reason
  | .error message => .failed .internalError message

/-- The code of a failed call. -/
def ActionResult.failure {S : Type} : ActionResult S → Option ActionFailureCode
  | ok _ => none
  | failed code _ => some code

/-- `changed`, for a call that has it. -/
def ActionResult.changed {S : Type} : ActionResult S → Option Bool
  | ok report => report.changed
  | failed _ _ => none

/-! ### Simulated failures -/

inductive FaultMode where
  | kill
  | failInfer
  | revive
deriving DecidableEq, Repr

def FaultMode.text : FaultMode → String
  | kill => "kill"
  | failInfer => "fail_infer"
  | revive => "revive"

/-- `FAULT_MODES`. -/
def faultModes : List FaultMode := [.kill, .failInfer, .revive]

/-- What a replica reports about its own faults. -/
structure FaultState where
  killed : Bool
  inferFailing : Bool
deriving DecidableEq, Repr

/-- `NOTE`: what to expect after each mode. -/
def FaultMode.note : FaultMode → String
  | kill => "the fault is injected; the replica shows as unhealthy in get_fleet_status only " ++
      "after the health checks notice, about 1.5 seconds at the default settings"
  | failInfer => "only inference requests fail; health checks still pass, so the replica is " ++
      "ejected when a live request fails, not by the poll loop"
  | revive => "the fault is cleared; the replica returns to healthy in get_fleet_status after " ++
      "consecutive successful health checks"

/-- `simulate_failure` up to the injector: its answer, or the fault to inject.  `simulated` says
whether the fleet has an injector at all. -/
def simulateFailure {ν : Type} (simulated : Bool) (replicas : List (ReplicaState ν))
    (replicaId : String) (mode : Option String) : ActionOutput FaultState ⊕ FaultMode :=
  let chosen := mode.getD "kill"
  match faultModes.find? (·.text = chosen) with
  | none => .inl (.invalidInput ("unknown mode " ++ jsonString chosen ++ ", expected one of " ++
      ", ".intercalate (faultModes.map FaultMode.text)))
  | some fault =>
      if !simulated then
        .inl (.unsupported ("this fleet does not support fault injection: it is not a simulated " ++
          "fleet, so there is no kill switch to call"))
      else if !replicas.any (·.id = replicaId) then
        .inl (.unknownReplica ("no replica registered with id " ++ jsonString replicaId))
      else .inr fault

/-- A `simulate_failure` call waiting for its replica to report. -/
structure Injection where
  replicaId : String
  mode : FaultMode
deriving DecidableEq, Repr

/-- `simulate_failure` after the injector: the fault state the replica reported, or a throw. -/
def Injection.finish (injection : Injection) :
    Except String FaultState → Except String (ActionOutput FaultState)
  | .ok after => .ok (.applied none after [injection.mode.note])
  | .error message => .error ("could not inject " ++ injection.mode.text ++ " into " ++
      injection.replicaId ++ ": " ++ message)

/-! ### The five tools over the stores -/

variable {ν : Type} [JsNumber ν] [DecidableEq ν]

/-- The result of one of the action tools. -/
inductive Answer (ν : Type) where
  | admin (result : ActionResult ReplicaAdminState)
  | strategy (result : ActionResult StrategyName)
  | weights (result : ActionResult (ScoringWeights ν))
  | fault (result : ActionResult FaultState)

namespace Answer

omit [JsNumber ν] [DecidableEq ν]

def failure : Answer ν → Option ActionFailureCode
  | admin result => result.failure
  | strategy result => result.failure
  | weights result => result.failure
  | fault result => result.failure

def changed : Answer ν → Option Bool
  | admin result => result.changed
  | strategy result => result.changed
  | weights result => result.changed
  | fault result => result.changed

end Answer

namespace ControlPlane

section put

omit [JsNumber ν] [DecidableEq ν]

def putRegistry (cp : ControlPlane ν) (registry : Registry ν) : ControlPlane ν :=
  { cp with health := { cp.health with sink := registry } }

def putConfig (cp : ControlPlane ν) (config : RoutingConfig ν) : ControlPlane ν :=
  { cp with config }

/-- `performAction` around a handler that writes one of the stores. -/
def runAction {S Store : Type} [DecidableEq S] (cp : ControlPlane ν)
    (put : Store → ControlPlane ν) (answer : ActionResult S → Answer ν) (now : String) :
    Except String (ActionOutput S × Store) → ControlPlane ν × Answer ν
  | .ok (output, store) => (put store, answer (performAction now (.ok output)))
  -- none of these handlers throws (`callAction_effect`)
  | .error message => (cp, answer (performAction now (.error message)))

end put

/-- A call of a tool that changes the stores: the stores it leaves and what it answers. -/
def callAction (cp : ControlPlane ν) (now : String) : ToolCall ν → ControlPlane ν × Answer ν
  | .drainReplica id =>
      cp.runAction cp.putRegistry .admin now (setReplicaAdmin cp.registry id .drained)
  | .restoreReplica id =>
      cp.runAction cp.putRegistry .admin now (setReplicaAdmin cp.registry id .active)
  | .setRoutingStrategy name =>
      cp.runAction cp.putConfig .strategy now (setRoutingStrategy cp.config name)
  | .setScoringWeights weights =>
      cp.runAction cp.putConfig .weights now (setScoringWeights cp.config weights)

end ControlPlane

/-! ### The console -/

/-- The process as the action tools meet it: the stores, and the injections under way. -/
structure Console (ν : Type) where
  stores : ControlPlane ν
  injections : List Injection

/-- One step of the process. -/
inductive ConsoleEvent (ν : Type) where
  /-- Anything else that runs: a probe, an ejection, a route, an entry of a log. -/
  | operate (action : Action ν)
  | call (call : ToolCall ν) (now : String)
  | simulate (replicaId : String) (mode : Option String) (now : String)
  /-- The injector has answered a waiting call, or thrown. -/
  | reported (injection : Injection) (outcome : Except String FaultState) (now : String)

inductive ConsoleReply (ν : Type) where
  | output (output : Output ν)
  | answer (answer : Answer ν)
  /-- The call is waiting for the replica. -/
  | pending

namespace Console

variable (th : Thresholds) (simulated : Bool)

def perform (c : Console ν) : ConsoleEvent ν → Except String (Console ν × ConsoleReply ν)
  | .operate action => do
      let (stores, output) ← c.stores.act th action
      return ({ c with stores }, .output output)
  | .call call now =>
      let (stores, answer) := c.stores.callAction now call
      .ok ({ c with stores }, .answer answer)
  | .simulate replicaId mode now =>
      match simulateFailure simulated c.stores.registry.items replicaId mode with
      | .inl output => .ok (c, .answer (.fault (performAction now (.ok output))))
      | .inr mode =>
          .ok ({ c with injections := c.injections ++ [⟨replicaId, mode⟩] }, .pending)
  | .reported injection outcome now =>
      if injection ∈ c.injections then
        .ok ({ c with injections := c.injections.erase injection },
          .answer (.fault (performAction now (injection.finish outcome))))
      else .error "no such call is waiting"

abbrev Step : Console ν → ConsoleEvent ν × ConsoleReply ν → Console ν → Prop :=
  Computes (perform th simulated)

end Console

end WhyRouted
