import WhyRouted.Aggregates
import WhyRouted.ControlPlane
import WhyRouted.Explain
import WhyRouted.TimeLog

/-! # The read tools behind their envelope

`dispatch` of `src/mcp/types.ts` and the four read tools of `src/mcp/tools`: the snapshot of the
fleet, the failover history, the explanation of one decision, and the question tool, which is a
point lookup or an aggregate over a window.

A handler computes its data and its record ids in separate expressions, and `dispatch` turns
what it returned or threw into the result a client sees.  A phrase or a question is read first,
which is all that can throw, and the stores are queried for what it asks. -/

namespace WhyRouted

open IsoTime (Instant)
open TextPattern

/-! ### The envelope -/

inductive GroundingSource where
  | registry
  | failoverLog
  | decisionLog
deriving DecidableEq, Repr

/-- The name in a reason and in a result. -/
def GroundingSource.text : GroundingSource → String
  | registry => "registry"
  | failoverLog => "failover_log"
  | decisionLog => "decision_log"

/-- What an answer was built from. -/
structure Grounding where
  source : GroundingSource
  queriedAt : String
  recordIds : List String
deriving DecidableEq, Repr

inductive ToolFailureCode where
  | noData
  | invalidInput
  | internalError
deriving DecidableEq, Repr

/-- What a caller of a read tool gets back. -/
inductive ToolResult (T : Type) where
  | ok (data : T) (groundedIn : Grounding)
  | failed (code : ToolFailureCode) (reason : String)

/-- What a handler returns. -/
inductive ToolOutput (T : Type) where
  | data (data : T) (source : GroundingSource) (recordIds : List String)
  | noData (reason : String)
  | invalidInput (reason : String)

/-- Wrap what a handler returned or threw; `now` is the clock when it did. -/
def dispatch {T : Type} (now : String) : Except String (ToolOutput T) → ToolResult T
  | .ok (.data data source recordIds) =>
      if recordIds.length = 0 then
        .failed .noData ("no records found in " ++ source.text)
      else .ok data ⟨source, now, recordIds⟩
  | .ok (.noData reason) => .failed .noData reason
  | .ok (.invalidInput reason) => .failed .invalidInput reason
  | .error message => .failed .internalError message

variable {ν : Type} [JsNumber ν] (dates : Dates)

omit [JsNumber ν] in
def ToolOutput.map {S T : Type} (f : S → T) : ToolOutput S → ToolOutput T
  | .data value source recordIds => .data (f value) source recordIds
  | .noData reason => .noData reason
  | .invalidInput reason => .invalidInput reason

/-! ### `get_fleet_status` -/

omit [JsNumber ν] in
/-- The snapshot of the registry. -/
def getFleetStatus (registry : Registry ν) (generatedAt : String) :
    ToolOutput (RegistrySnapshot ν) :=
  let snapshot := registry.getSnapshot generatedAt
  if snapshot.replicas.length = 0 then .noData "the registry has no replicas registered"
  else .data snapshot .registry (snapshot.replicas.map (·.id))

/-! ### `get_failover_history` -/

structure FailoverHistoryData where
  range : Bounds
  events : List FailoverEvent

/-- `failoverLog.query`. -/
def FailoverEvents.query (events : FailoverEvents) (range : Bounds) : List FailoverEvent :=
  queryRange (·.atTime) events range

/-- The bounds, for a sentence. -/
def Bounds.describe (range : Bounds) : String :=
  match range.fromTime, range.toTime with
  | some lo, some hi => "between " ++ lo ++ " and " ++ hi
  | some lo, none => "since " ++ lo
  | none, some hi => "up to " ++ hi
  | none, none => "in the log"

def readBound (key : String) (value : Option String) : Except String (Option String) :=
  match value with
  | none => .ok none
  | some value =>
      match normalizeIso dates value with
      | none => .error (key ++ " \"" ++ value ++ "\" is not an ISO 8601 timestamp")
      | some iso => .ok (some iso)

/-- The bounds `from` and `to` give. -/
def explicitBounds (fromTime toTime : Option String) : Except String Bounds := do
  let lo ← readBound dates "from" fromTime
  let hi ← readBound dates "to" toTime
  if lo.any fun lo => hi.any fun hi => codeUnitLt hi lo then .error "from is after to"
  else return ⟨lo, hi⟩

/-- The bounds the arguments ask for, or why they are refused. -/
def historyBounds (fromTime toTime last : Option String) (now : Instant) :
    Throws (Except String Bounds) :=
  match last with
  | some last =>
      if fromTime ≠ none ∨ toTime ≠ none then
        .ok (.error "give either last, or from and/or to, not both")
      else do
        let resolved ← resolveLast last now
        return resolved.map fun range => ⟨some range.fromTime, some range.toTime⟩
  | none => .ok (explicitBounds dates fromTime toTime)

def FailoverEvents.history (log : FailoverEvents) : Except String Bounds →
    ToolOutput FailoverHistoryData
  | .error reason => .invalidInput reason
  | .ok range =>
      let events := log.query range
      if events.length = 0 then .noData ("no failover events recorded " ++ range.describe)
      else .data ⟨range, events⟩ .failoverLog (events.map (·.id))

/-- The events the arguments ask for. -/
def getFailoverHistory (log : FailoverEvents) (fromTime toTime last : Option String)
    (now : Instant) : Throws (ToolOutput FailoverHistoryData) :=
  (historyBounds dates fromTime toTime last now).map log.history

/-! ### `explain_routing_decision` -/

/-- The decision log's storage, oldest entry first. -/
abbrev DecisionLog (ν : Type) := List (Decision ν)

namespace DecisionLog

variable (log : DecisionLog ν)

omit [JsNumber ν] in
/-- `decisionLog.get`: the first decision of a request. -/
def get? (requestId : String) : Option (Decision ν) := log.find? (·.requestId = requestId)

omit [JsNumber ν] in
/-- `decisionLog.query`. -/
def query (range : Bounds) : List (Decision ν) := queryRange (·.atTime) log range

/-- The answer to a point lookup, shared by both tools that make one. -/
def lookup (requestId : String) : ToolOutput (ExplainRoutingDecisionData ν) :=
  match log.get? requestId with
  | none => .noData ("no decision recorded for request id \"" ++ requestId ++ "\"")
  | some decision => .data (explainDecision decision) .decisionLog [decision.id]

end DecisionLog

/-- Explain one request; `none` stands for an argument that is not a string. -/
def explainRoutingDecision (log : DecisionLog ν) (requestId : Option String) :
    ToolOutput (ExplainRoutingDecisionData ν) :=
  match requestId with
  | none => .invalidInput "request_id must be a non-empty string"
  | some requestId =>
      if jsTrim requestId = "" then .invalidInput "request_id must be a non-empty string"
      else log.lookup requestId

/-! ### `query_decisions` -/

/-- The shapes of question the tool answers. -/
def supportedQuestions : String :=
  "Supported questions: a request id (\"why did request <uuid> go where it did\"), " ++
    "or an aggregate over a time range using p50, p95, p99, latency, count, how many, failed, " ++
    "failures or per replica (\"what was p99 between 3:00 and 3:10\", \"how many requests " ++
    "failed in the last 10 minutes\")."

def ambiguousQuestion : String :=
  "ambiguous question: ask about one request id or one time range, not both or several"

/-- `[0-9a-f]`, in either case. -/
def isHexDigit (c : Char) : Bool := c.isDigit || decide ('a' ≤ asciiLower c ∧ asciiLower c ≤ 'f')

/-- `UUID`. -/
def uuid : Pattern :=
  .all [.boundary, .times 8 isHexDigit, caseless "-", .times 4 isHexDigit, caseless "-",
    .times 4 isHexDigit, caseless "-", .times 4 isHexDigit, caseless "-", .times 12 isHexDigit,
    .boundary]

/-- `AGGREGATE_WORD`. -/
def aggregateWord : Pattern :=
  .all [.boundary, .oneOf (["p50", "p95", "p99", "latency", "count", "how many", "failed",
    "failures", "per replica"].map caseless), .boundary]

/-- The request ids in a question, in lower case. -/
def requestIds (question : String) : List String :=
  (uuid.matchAll question.toList).map fun m => jsLower (m.text question.toList)

/-- Whether a question asks for an aggregate. -/
def asksAggregate (question : String) : Bool := (aggregateWord.exec question.toList 0).isSome

/-- What a question asks for. -/
inductive Question where
  | point (requestId : String)
  | window (range : ResolvedRange)

/-- What the ids and the range found in a question ask for, or why it is refused. -/
def questionOf (ids : List String) (found : RangeSearch) (aggregates : Bool) :
    Except String Question :=
  match ids, found with
  | _ :: _ :: _, _ => .error ambiguousQuestion
  | [requestId], .none => .ok (.point requestId)
  | [_], .range _ _ => .error ambiguousQuestion
  | [_], .invalid _ => .error ambiguousQuestion
  | [], .none => .error ("unsupported question. " ++ supportedQuestions)
  | [], .range range _ =>
      if aggregates then .ok (.window range)
      else .error ("unsupported question. " ++ supportedQuestions)
  | [], .invalid reason =>
      if aggregates then .error ("could not read a time range: " ++ reason)
      else .error ("unsupported question. " ++ supportedQuestions)

/-- Read a question. -/
def readQuestion (question : Option String) (now : Instant) : Throws (Except String Question) :=
  match question with
  | none =>
      .ok (.error ("natural_language_query must be a non-empty string. " ++ supportedQuestions))
  | some question =>
      if jsTrim question = "" then
        .ok (.error ("natural_language_query must be a non-empty string. " ++ supportedQuestions))
      else do
        let found ← findRange dates question now
        return questionOf (requestIds question) found (asksAggregate question)

/-- `ExplainRoutingDecisionData | AggregateData`. -/
inductive QueryDecisionsData (ν : Type) where
  | explanation (data : ExplainRoutingDecisionData ν)
  | aggregate (data : AggregateData ν)

/-- The aggregate over a window. -/
def DecisionLog.window (log : DecisionLog ν) (range : ResolvedRange) :
    ToolOutput (AggregateData ν) :=
  let decisions := log.query ⟨some range.fromTime, some range.toTime⟩
  if decisions.length = 0 then
    .noData ("no decisions recorded between " ++ range.fromTime ++ " and " ++ range.toTime)
  else .data (aggregate decisions range) .decisionLog (decisions.map (·.id))

/-- What the log says to a question. -/
def DecisionLog.answer (log : DecisionLog ν) :
    Except String Question → ToolOutput (QueryDecisionsData ν)
  | .error reason => .invalidInput reason
  | .ok (.point requestId) => (log.lookup requestId).map .explanation
  | .ok (.window range) => (log.window range).map .aggregate

/-- Answer a question. -/
def queryDecisions (log : DecisionLog ν) (question : Option String) (now : Instant) :
    Throws (ToolOutput (QueryDecisionsData ν)) :=
  (readQuestion dates question now).map log.answer

/-! ### The four tools over the stores -/

/-- A call of a read tool, with the arguments as the SDK parsed them. -/
inductive ReadCall where
  | fleetStatus
  | failoverHistory (fromTime toTime last : Option String)
  | explainRoutingDecision (requestId : Option String)
  | queryDecisions (question : Option String)

/-- The clock readings of one call. -/
structure ReadClock where
  now : Instant
  generatedAt : String
  queriedAt : String

/-- The data of a read tool. -/
inductive ReadData (ν : Type) where
  | fleet (snapshot : RegistrySnapshot ν)
  | history (data : FailoverHistoryData)
  | explanation (data : ExplainRoutingDecisionData ν)
  | decisions (data : QueryDecisionsData ν)

namespace ControlPlane

variable (cp : ControlPlane ν) (clock : ReadClock)

/-- What the handler of a read tool returns or throws. -/
def readOutput : ReadCall → Throws (ToolOutput (ReadData ν))
  | .fleetStatus => .ok ((getFleetStatus cp.registry clock.generatedAt).map .fleet)
  | .failoverHistory fromTime toTime last =>
      (getFailoverHistory dates cp.failover fromTime toTime last clock.now).map (·.map .history)
  | .explainRoutingDecision requestId =>
      .ok ((WhyRouted.explainRoutingDecision cp.decisions requestId).map .explanation)
  | .queryDecisions question =>
      (WhyRouted.queryDecisions dates cp.decisions question clock.now).map (·.map .decisions)

def read (call : ReadCall) : ToolResult (ReadData ν) :=
  dispatch clock.queriedAt (cp.readOutput dates clock call)

end ControlPlane

end WhyRouted
