import WhyRouted.Scheduler

/-! # The failover log

`src/events/types.ts` and `src/events/failover-log.ts`: the timeline of ejections and
recoveries.  It is fed two ways.  The scheduler's transitions arrive through
`handleTransition`, which leaves out those that carry a reason, since they come from `eject`;
the retry loop appends a request-driven ejection itself, through `record`. -/

namespace WhyRouted

inductive FailoverKind where
  | ejected
  | recovered
deriving DecidableEq, Repr

inductive FailoverTrigger where
  | healthCheck
  | requestFailure
deriving DecidableEq, Repr

/-- One ejection or recovery. -/
structure FailoverEvent where
  id : String
  replicaId : String
  kind : FailoverKind
  atTime : String
  trigger : FailoverTrigger
  reason : String
  /-- The request whose failure caused a request-driven ejection. -/
  requestId : Option String
deriving DecidableEq, Repr

/-- The log's storage, oldest entry first. -/
abbrev FailoverEvents := List FailoverEvent

namespace FailoverEvents

variable (th : Thresholds)

/-- The reason written for a poll-driven ejection. -/
def failedProbes : String := toString th.unhealthyThreshold ++ " consecutive failed probes"

/-- The reason written for a recovery. -/
def healthyProbes : String := toString th.healthyThreshold ++ " consecutive healthy probes"

def record (events : FailoverEvents) (event : FailoverEvent) : FailoverEvents := events ++ [event]

/-- Feed a scheduler transition; `eventId` is the fresh id an entry would get. -/
def handleTransition (events : FailoverEvents) (transition : HealthTransition) (eventId : String) :
    FailoverEvents :=
  if transition.reason ≠ none then events
  else if transition.toHealth = .unhealthy then
    events.record
      { id := eventId, replicaId := transition.replicaId, kind := .ejected
        atTime := transition.atTime, trigger := .healthCheck, reason := failedProbes th
        requestId := none }
  else if transition.toHealth = .healthy ∧ transition.fromHealth = .unhealthy then
    events.record
      { id := eventId, replicaId := transition.replicaId, kind := .recovered
        atTime := transition.atTime, trigger := .healthCheck, reason := healthyProbes th
        requestId := none }
  else events

/-- What one replica's entries say, oldest first. -/
def kindsOf (events : FailoverEvents) (r : String) : List FailoverKind :=
  (events.filter fun event => event.replicaId = r).map (·.kind)

@[simp] theorem kindsOf_nil (r : String) : kindsOf [] r = [] := rfl

theorem kindsOf_append (events events' : FailoverEvents) (r : String) :
    kindsOf (events ++ events') r = events.kindsOf r ++ kindsOf events' r := by
  unfold kindsOf
  rw [List.filter_append, List.map_append]

theorem kindsOf_singleton (event : FailoverEvent) (r : String) :
    kindsOf [event] r = if event.replicaId = r then [event.kind] else [] := by
  unfold kindsOf
  split_ifs with h <;> simp [h]

end FailoverEvents

end WhyRouted
