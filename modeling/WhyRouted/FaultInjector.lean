import WhyRouted.HttpAdapter
import WhyRouted.ReplicaServer

/-! # The fault injector

`createHttpFaultInjector` of `src/replica/fault-injector.ts`.  Its `inject` posts to an admin
endpoint and reads the answer back; `AbortSignal.timeout` watches over both waits, so a call ends
in one of a few ways (`AdminOutcome`), and `inject` is what it makes of each. -/

namespace WhyRouted

variable {ν : Type}

/-- `ADMIN_PATH`. -/
def FaultMode.adminPath : FaultMode → String
  | kill => "/admin/kill"
  | failInfer => "/admin/fail-infer"
  | revive => "/admin/revive"

/-- The JSON an admin endpoint's body parses to: an object, with the booleans it has under the two
names, or something else. -/
inductive AdminBody where
  | notObject
  | object (killed inferFailing : Option Bool)
deriving DecidableEq, Repr

/-- `isFaultState`, with the state the body is. -/
def AdminBody.faultState : AdminBody → Option FaultState
  | object (some killed) (some inferFailing) => some ⟨killed, inferFailing⟩
  | _ => none

/-- How a call of an admin endpoint ends. -/
inductive AdminOutcome where
  /-- `fetch` rejects: the replica is unreachable, or the timeout has passed. -/
  | rejected (err : JsError)
  /-- The headers arrive, and the body is read or is not. -/
  | answered (status : ℕ) (body : Except JsError AdminBody)

/-- The injector of a fleet. -/
structure HttpFaultInjector where
  replicas : List Replica

namespace HttpFaultInjector

variable (injector : HttpFaultInjector)

/-- `urls.get`; of two entries with one id the map holds the later. -/
def base (replicaId : String) : Option String :=
  (injector.replicas.reverse.find? fun replica => replica.id = replicaId).map (·.url)

/-- The URL `inject` posts to. -/
def adminUrl (replicaId : String) (mode : FaultMode) : Option String :=
  (injector.base replicaId).map (· ++ mode.adminPath)

/-- `inject`, for the outcome its `fetch` meets; an exception is the message it throws. -/
def inject (replicaId : String) (mode : FaultMode) (outcome : AdminOutcome) :
    Except String FaultState :=
  match injector.adminUrl replicaId mode with
  | none => .error ("no admin endpoint known for replica \"" ++ replicaId ++ "\"")
  | some _ =>
      match outcome with
      | .rejected err => .error err.message
      | .answered status body =>
          if !responseOk status then
            .error ("replica \"" ++ replicaId ++ "\" answered " ++ toString status ++ " to " ++
              mode.adminPath)
          else
            match body with
            | .error err => .error err.message
            | .ok body =>
                match body.faultState with
                | some state => .ok state
                | none => .error ("replica \"" ++ replicaId ++
                    "\" returned an unexpected body from " ++ mode.adminPath)

/-- A state is only ever what the replica reported. -/
theorem inject_eq_ok_iff {replicaId : String} {mode : FaultMode} {outcome : AdminOutcome}
    {state : FaultState} : injector.inject replicaId mode outcome = .ok state ↔
      injector.base replicaId ≠ none ∧ ∃ status, responseOk status = true ∧
        outcome =
          .answered status (.ok (.object (some state.killed) (some state.inferFailing))) := by
  obtain ⟨killed', inferFailing'⟩ := state
  unfold inject adminUrl
  cases injector.base replicaId with
  | none => simp
  | some url =>
      cases outcome with
      | rejected err => simp
      | answered status body =>
          cases hok : responseOk status with
          | false => simp [hok]
          | true =>
              rcases body with err | (_ | ⟨_ | killed, _ | inferFailing⟩) <;>
                simp [hok, AdminBody.faultState]

end HttpFaultInjector

/-- The body of a simulated replica's answer. -/
def ReplicaReply.adminBody : ReplicaReply ν → AdminBody
  | faults state => .object (some state.killed) (some state.inferFailing)
  | _ => .object none none

end WhyRouted
