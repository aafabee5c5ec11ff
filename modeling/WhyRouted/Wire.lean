import WhyRouted.HttpAdapter
import WhyRouted.ReplicaServer

/-! # A call on the wire

What lies between the adapter and a replica.  A call travels, the replica handles it, once, and the
answer comes back; meanwhile the connection may fail, the adapter's timer may fire, and a call that
the adapter has given up is handled all the same.  So a call has two sides: how far the replica has
got with it (`Served`), and the adapter's exchange.

The network decides when anything arrives and whether (`WireEvent`), and never what: headers and a
body reach the adapter only from the replica's answer (`WireEvent.deliver`).  Hence whatever a call
ends in, the adapter has it from the replica or has lost the call (`Relays`). -/

namespace WhyRouted

variable {ν β ρ : Type}

/-- How far a replica has got with a call. -/
inductive Served (ν : Type) where
  | travelling
  | sleeping (call : ℕ)
  | answered (reply : ReplicaReply ν)
deriving DecidableEq, Repr

namespace Served

def reply : Served ν → Option (ReplicaReply ν)
  | answered reply => some reply
  | _ => none

/-- The number of a call the replica has accepted and not answered. -/
def call : Served ν → Option ℕ
  | sleeping call => some call
  | _ => none

/-- A call after the replica's handler has begun with it. -/
def ofOutput : ReplicaOutput ν → Served ν
  | .replied reply => answered reply
  | .sleeps call => sleeping call

theorem reply_eq_some_iff {served : Served ν} {reply : ReplicaReply ν} :
    served.reply = some reply ↔ served = answered reply := by
  cases served <;> simp [Served.reply]

end Served

/-- What the network or the clock does to a call. -/
inductive WireEvent (ν : Type) where
  | connectionFailed (err : JsError)
  | headers (latencyMs : ν)
  | bodyChunk
  | bodyComplete
  | bodyFailed (err : JsError)
  | timerFired
  | abortDelivered
deriving DecidableEq, Repr

namespace WireEvent

/-- What the adapter sees of it: of headers and a body, what the replica has answered. -/
def deliver (decode : ReplicaReply ν → β) (served : Served ν) : WireEvent ν → Option (NetEvent ν β)
  | connectionFailed err => some (.connectionFailed err)
  | headers latencyMs => served.reply.map fun reply => .headers reply.status latencyMs
  | bodyChunk => some .bodyChunk
  | bodyComplete => served.reply.map fun reply => .bodyComplete (decode reply)
  | bodyFailed err => some (.bodyFailed err)
  | timerFired => some .timerFired
  | abortDelivered => some .abortDelivered

/-- Whether the call is lost by it, or given up. -/
def loses : WireEvent ν → Bool
  | connectionFailed _ => true
  | bodyFailed _ => true
  | timerFired => true
  | abortDelivered => true
  | _ => false

end WireEvent

/-! ### One event of a call -/

/-- Everything an event can do to a call, with what the call makes of it. -/
inductive Moves (call : HttpCall ν β ρ) (x : Exchange ν ρ) :
    NetEvent ν β → Exchange ν ρ → Prop where
  | unreachable {err : JsError} (hwait : x.wait = .headers) :
      Moves call x (.connectionFailed err) (x.leaveFetch (.settled (call.fetchRejected err)))
  | answered {status : ℕ} {latencyMs : ν} (hwait : x.wait = .headers)
      (hok : responseOk status = true) :
      Moves call x (.headers status latencyMs) (x.leaveFetch (.body latencyMs))
  | notOk {status : ℕ} {latencyMs : ν} (hwait : x.wait = .headers)
      (hok : responseOk status = false) :
      Moves call x (.headers status latencyMs) (x.leaveFetch (.settled (call.notOk status)))
  | fetchAborted (hwait : x.wait = .headers) :
      Moves call x .abortDelivered (x.leaveFetch (.settled (call.fetchRejected abortError)))
  | fired (hwait : ∀ result, x.wait ≠ .settled result) :
      Moves call x .timerFired { x with timer := .fired, aborted := true }
  | chunk {latencyMs : ν} (hwait : x.wait = .body latencyMs) : Moves call x .bodyChunk x
  | bodyRead {latencyMs : ν} {body : β} (hwait : x.wait = .body latencyMs) :
      Moves call x (.bodyComplete body) { x with wait := .settled (call.bodyRead latencyMs body) }
  | bodyCut {latencyMs : ν} {err : JsError} (hwait : x.wait = .body latencyMs) :
      Moves call x (.bodyFailed err) { x with wait := .settled (call.bodyRejected err) }
  | bodyAborted {latencyMs : ν} (hwait : x.wait = .body latencyMs) :
      Moves call x .abortDelivered { x with wait := .settled (call.bodyRejected abortError) }

theorem moves_of_advance {call : HttpCall ν β ρ} {x y : Exchange ν ρ} {event : NetEvent ν β}
    (h : call.advance x event = some y) : Moves call x event y := by
  unfold HttpCall.advance at h
  split at h
  next err hwait =>
    split_ifs at h
    obtain rfl := Option.some.inj h
    exact .unreachable hwait
  next status latencyMs hwait =>
    split_ifs at h with _ hok
    · obtain rfl := Option.some.inj h
      exact .answered hwait hok
    · obtain rfl := Option.some.inj h
      exact .notOk hwait (by simpa using hok)
  next hwait =>
    split_ifs at h
    obtain rfl := Option.some.inj h
    exact .fetchAborted hwait
  next hwait =>
    unfold Exchange.fire at h
    split_ifs at h
    obtain rfl := Option.some.inj h
    exact .fired (by simp [hwait])
  next latencyMs hwait =>
    split_ifs at h
    obtain rfl := Option.some.inj h
    exact .chunk hwait
  next latencyMs body hwait =>
    split_ifs at h
    obtain rfl := Option.some.inj h
    exact .bodyRead hwait
  next latencyMs err hwait =>
    split_ifs at h
    obtain rfl := Option.some.inj h
    exact .bodyCut hwait
  next latencyMs hwait =>
    split_ifs at h
    obtain rfl := Option.some.inj h
    exact .bodyAborted hwait
  next latencyMs hwait =>
    unfold Exchange.fire at h
    split_ifs at h
    obtain rfl := Option.some.inj h
    exact .fired (by simp [hwait])
  · cases h

/-! ### What the adapter can know -/

section tells

variable (call : HttpCall ν β ρ) (decode : ReplicaReply ν → β)

/-- How a call can end: lost, or with what the replica answered. -/
inductive Ending (served : Served ν) : ρ → Prop where
  | lost (err : JsError) : Ending served (call.fetchRejected err)
  | refused {reply : ReplicaReply ν} (hserved : served = .answered reply)
      (hok : responseOk reply.status = false) : Ending served (call.notOk reply.status)
  | read {reply : ReplicaReply ν} (latencyMs : ν) (hserved : served = .answered reply)
      (hok : responseOk reply.status = true) :
      Ending served (call.bodyRead latencyMs (decode reply))
  | cut {reply : ReplicaReply ν} (err : JsError) (hserved : served = .answered reply)
      (hok : responseOk reply.status = true) : Ending served (call.bodyRejected err)

/-- What the adapter has of a call is what the replica gave. -/
structure Relays (x : Exchange ν ρ) (served : Served ν) : Prop where
  body : ∀ latencyMs, x.wait = .body latencyMs →
    ∃ reply, served = .answered reply ∧ responseOk reply.status = true
  settled : ∀ result, x.wait = .settled result → Ending call decode served result

variable {call decode} {x y : Exchange ν ρ} {served served' : Served ν}

theorem relays_start : Relays call decode .start served := ⟨nofun, nofun⟩

theorem tells_of_settled {result : ρ} (hwait : x.wait = .settled result)
    (hending : Ending call decode served result) : Relays call decode x served := by
  constructor
  · intro latencyMs hbody
    cases hwait.symm.trans hbody
  · intro result' hresult
    cases hwait.symm.trans hresult
    exact hending

theorem Relays.serve (ht : Relays call decode x served) (hnone : served.reply = none) :
    Relays call decode x served' := by
  have hnot : ∀ reply, served ≠ .answered reply := by
    rintro reply rfl
    cases hnone
  constructor
  · intro latencyMs hwait
    obtain ⟨reply, hserved, -⟩ := ht.body latencyMs hwait
    exact absurd hserved (hnot reply)
  · intro result hwait
    cases ht.settled result hwait with
    | lost err => exact .lost err
    | refused hserved _ => exact absurd hserved (hnot _)
    | read _ hserved _ => exact absurd hserved (hnot _)
    | cut _ hserved _ => exact absurd hserved (hnot _)

/-- **What the network delivers, the replica said.** -/
theorem Relays.advance (ht : Relays call decode x served) {event : WireEvent ν} {e : NetEvent ν β}
    (hdeliver : event.deliver decode served = some e) (h : call.advance x e = some y) :
    Relays call decode y served := by
  cases moves_of_advance h with
  | unreachable hwait => exact tells_of_settled rfl (.lost _)
  | answered hwait hok =>
      cases event <;> simp [WireEvent.deliver] at hdeliver
      obtain ⟨reply, hreply, rfl, rfl⟩ := hdeliver
      have hserved := Served.reply_eq_some_iff.mp hreply
      exact ⟨fun _ _ => ⟨reply, hserved, hok⟩, nofun⟩
  | notOk hwait hok =>
      cases event <;> simp [WireEvent.deliver] at hdeliver
      obtain ⟨reply, hreply, rfl, rfl⟩ := hdeliver
      exact tells_of_settled rfl (.refused (Served.reply_eq_some_iff.mp hreply) hok)
  | fetchAborted hwait => exact tells_of_settled rfl (.lost _)
  | fired hwait => exact ⟨ht.body, ht.settled⟩
  | chunk hwait => exact ht
  | bodyRead hwait =>
      cases event <;> simp [WireEvent.deliver] at hdeliver
      obtain ⟨reply, hreply, rfl⟩ := hdeliver
      obtain ⟨reply', hserved, hok⟩ := ht.body _ hwait
      rw [hserved] at hreply
      obtain rfl := Option.some.inj hreply
      exact tells_of_settled rfl (.read _ hserved hok)
  | bodyCut hwait =>
      obtain ⟨reply, hserved, hok⟩ := ht.body _ hwait
      exact tells_of_settled rfl (.cut _ hserved hok)
  | bodyAborted hwait =>
      obtain ⟨reply, hserved, hok⟩ := ht.body _ hwait
      exact tells_of_settled rfl (.cut _ hserved hok)

theorem body_of_advance {event : WireEvent ν} {e : NetEvent ν β}
    (hdeliver : event.deliver decode served = some e) (h : call.advance x e = some y)
    {latencyMs : ν} (hbody : y.wait = .body latencyMs) :
    x.wait = .body latencyMs ∨ event = .headers latencyMs := by
  cases moves_of_advance h with
  | answered _ _ =>
      obtain rfl := Wait.body.inj hbody
      cases event <;> simp [WireEvent.deliver] at hdeliver
      obtain ⟨reply, -, -, rfl⟩ := hdeliver
      exact Or.inr rfl
  | fired _ => exact Or.inl hbody
  | chunk _ => exact Or.inl hbody
  | _ => cases hbody

/-- A call is settled by an event that loses it, or with what the replica gave. -/
theorem settled_of_advance {event : WireEvent ν} {e : NetEvent ν β}
    (hdeliver : event.deliver decode served = some e) (h : call.advance x e = some y) {result : ρ}
    (hsettled : y.wait = .settled result) : event.loses = true ∨
      (∃ status, result = call.notOk status) ∨
      ∃ latencyMs body, result = call.bodyRead latencyMs body := by
  cases moves_of_advance h with
  | answered _ _ => cases hsettled
  | notOk _ _ => exact Or.inr (Or.inl ⟨_, (Wait.settled.inj hsettled).symm⟩)
  | fired hwait => exact absurd hsettled (hwait result)
  | chunk hwait => cases hwait.symm.trans hsettled
  | bodyRead _ => exact Or.inr (Or.inr ⟨_, _, (Wait.settled.inj hsettled).symm⟩)
  | _ =>
      left
      cases event <;> simp [WireEvent.deliver] at hdeliver
      all_goals rfl

end tells

end WhyRouted
