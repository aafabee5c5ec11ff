import Mathlib.Data.List.Basic
import WhyRouted.Numbers

/-! # Text and the shared domain types

The vocabulary of `src/types.ts` and `src/routing/types.ts`: replicas, their runtime and the
operator's intent, the scoring weights and the strategy names.  Loads, latencies, weights and scores
are JavaScript numbers; counters (`consecFailures`, the round-robin cursor, `maxRetries`) are
natural numbers. -/

namespace WhyRouted

/-- The UTF-16 code units of a string. -/
def codeUnits (s : String) : List ℕ :=
  s.toList.flatMap fun c =>
    if c.toNat < 0x10000 then [c.toNat]
    else [0xD800 + (c.toNat - 0x10000) / 0x400, 0xDC00 + (c.toNat - 0x10000) % 0x400]

/-- `a < b` on strings, which JavaScript compares by code units. -/
def codeUnitLt (a b : String) : Bool := decide (codeUnits a < codeUnits b)

def hexDigit (n : ℕ) : String := ("0123456789abcdef".toList[n]?).elim "" Char.toString

/-- A character inside a JSON string. -/
def jsonChar (c : Char) : String :=
  match c.toNat with
  | 0x22 => "\\\""
  | 0x5C => "\\\\"
  | 0x08 => "\\b"
  | 0x09 => "\\t"
  | 0x0A => "\\n"
  | 0x0C => "\\f"
  | 0x0D => "\\r"
  | n => if n < 0x20 then "\\u00" ++ hexDigit (n / 16) ++ hexDigit (n % 16) else c.toString

/-- `JSON.stringify` of a string. -/
def jsonString (s : String) : String := "\"" ++ String.join (s.toList.map jsonChar) ++ "\""

/-! ### Replicas -/

/-- Health of a replica, as decided by the scheduler's hysteresis. -/
inductive ReplicaHealth where
  | healthy
  | unhealthy
  | unknown
deriving DecidableEq, Repr

def ReplicaHealth.text : ReplicaHealth → String
  | healthy => "healthy"
  | unhealthy => "unhealthy"
  | unknown => "unknown"

/-- Static identity of a replica. -/
structure Replica where
  id : String
  url : String
deriving DecidableEq, Repr

/-- Everything about a replica that changes over time, written by the scheduler. -/
structure ReplicaRuntime (ν : Type) where
  health : ReplicaHealth
  inFlight : ν
  /-- `none` when there is no valid measurement: never probed, or the last probe failed. -/
  latencyMs : Option ν
  consecFailures : ℕ
  consecSuccesses : ℕ
  lastCheckedAt : Option String
deriving DecidableEq, Repr

/-- Operator intent, separate from health. -/
inductive ReplicaAdmin where
  | active
  | drained
deriving DecidableEq, Repr

/-- A replica with its live runtime: the unit the registry stores and snapshots. -/
structure ReplicaState (ν : Type) extends Replica where
  runtime : ReplicaRuntime ν
  admin : ReplicaAdmin
deriving DecidableEq, Repr

/-- Point-in-time view of the fleet, in registration order. -/
structure RegistrySnapshot (ν : Type) where
  generatedAt : String
  replicas : List (ReplicaState ν)

/-- Runtime of a freshly registered replica. -/
def initialRuntime {ν : Type} [JsNumber ν] : ReplicaRuntime ν where
  health := .unknown
  inFlight := JsNumber.ofNat 0
  latencyMs := none
  consecFailures := 0
  consecSuccesses := 0
  lastCheckedAt := none

/-! ### Routing vocabulary -/

/-- Live-tunable weights of the latency-weighted strategy. -/
structure ScoringWeights (ν : Type) where
  loadWeight : ν
  latencyWeight : ν
deriving DecidableEq, Repr

inductive StrategyName where
  | roundRobin
  | leastLoaded
  | latencyWeighted
deriving DecidableEq, Repr

def StrategyName.text : StrategyName → String
  | roundRobin => "round-robin"
  | leastLoaded => "least-loaded"
  | latencyWeighted => "latency-weighted"

/-- One candidate's score inputs at decision time; lower always wins. -/
structure CandidateScore (ν : Type) where
  replicaId : String
  inFlight : ν
  latencyMs : Option ν
  score : ν
  considered : Bool
deriving DecidableEq, Repr

inductive ExclusionReason where
  | unhealthy
  | alreadyTried
  | drained
deriving DecidableEq, Repr

/-- A replica the engine filtered out before it reached a strategy. -/
structure ExcludedCandidate where
  replicaId : String
  reason : ExclusionReason
deriving DecidableEq, Repr

end WhyRouted
