import WhyRouted.Types

/-! # The replica adapter's contract

`src/adapter/types.ts`: what a probe and a request resolve to, and the typed rejection the
retry loop narrows on.  A replica's response body is passed through unread, so its type `β` is
a parameter everywhere. -/

namespace WhyRouted

/-- Result of probing one replica. -/
structure HealthResult (ν : Type) where
  alive : Bool
  latencyMs : ν
  inFlight : ν
deriving DecidableEq, Repr

/-- Result of one request: the opaque response and the measured round-trip. -/
structure SendResult (ν β : Type) where
  response : β
  latencyMs : ν
deriving DecidableEq, Repr

inductive ReplicaErrorKind where
  | timeout
  | connection
  | httpStatus
deriving DecidableEq, Repr

def ReplicaErrorKind.text : ReplicaErrorKind → String
  | timeout => "timeout"
  | connection => "connection"
  | httpStatus => "http_status"

/-- Whether a failure of this kind, with this status, may be retried on another replica. -/
def retryableFailure (kind : ReplicaErrorKind) (status : Option ℕ) : Bool :=
  decide (kind ≠ .httpStatus) || status.any (fun code => decide (500 ≤ code))

/-- Typed rejection from `sendRequest`; `retryable` is what its constructor computes. -/
structure ReplicaRequestError where
  kind : ReplicaErrorKind
  message : String
  status : Option ℕ := none
deriving DecidableEq, Repr

def ReplicaRequestError.retryable (err : ReplicaRequestError) : Bool :=
  retryableFailure err.kind err.status

/-- What a `sendRequest` call can throw: the typed error, or anything else, kept as the text
`err instanceof Error ? err.message : String(err)` gives for it. -/
inductive SendError where
  | request (err : ReplicaRequestError)
  | other (detail : String)
deriving DecidableEq, Repr

def SendError.detail : SendError → String
  | request err => err.message
  | other detail => detail

/-- Whether the retry loop's guard `err instanceof ReplicaRequestError && err.retryable`
accepts the error. -/
def SendError.retryable : SendError → Bool
  | request err => err.retryable
  | other _ => false

/-- How a `sendRequest` call settles. -/
abbrev Settled (ν β : Type) := Except SendError (SendResult ν β)

end WhyRouted
