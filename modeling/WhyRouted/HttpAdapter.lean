import WhyRouted.Adapter

/-! # The HTTP adapter

`src/adapter/http.ts`.  A call to a replica passes through two waits, for the response headers
and for the body, and `fetchWithTimeout` sees only the first: it arms a timer that aborts the
request, and clears it as soon as `fetch` settles.

The transport is an environment that delivers events to a call in any order (`NetEvent`).  Of
`fetch` it keeps what its interface promises: it settles when headers arrive or the connection
fails, the body is read separately, and once the signal has aborted both reject.  `checkHealth`
and `sendRequest` differ only in what they make of each ending, so they are two values of
`HttpCall`, and `advance` runs either. -/

namespace WhyRouted

variable {ν β ρ : Type}

/-! ### The parts of a call -/

/-- An exception of the transport. -/
structure JsError where
  name : String
  message : String
deriving DecidableEq, Repr

/-- `String(err)`. -/
def JsError.text (err : JsError) : String :=
  if err.name = "" then err.message
  else if err.message = "" then err.name
  else err.name ++ ": " ++ err.message

/-- What `fetch` and the body read reject with once the signal has aborted. -/
def abortError : JsError := ⟨"AbortError", "This operation was aborted"⟩

/-- The timer `fetchWithTimeout` sets. -/
inductive AbortTimer where
  | armed
  | fired
  | cleared
deriving DecidableEq, Repr

/-- `clearTimeout`: nothing happens to a timer that has fired. -/
def AbortTimer.clear : AbortTimer → AbortTimer
  | armed => cleared
  | fired => fired
  | cleared => cleared

/-- What a call waits for. -/
inductive Wait (ν ρ : Type) where
  | headers
  | body (latencyMs : ν)
  | settled (result : ρ)
deriving DecidableEq, Repr

/-- One call in flight. -/
structure Exchange (ν ρ : Type) where
  timer : AbortTimer
  /-- `controller.signal.aborted`. -/
  aborted : Bool
  wait : Wait ν ρ
deriving DecidableEq, Repr

/-- What can happen to a call next. -/
inductive NetEvent (ν β : Type) where
  | connectionFailed (err : JsError)
  /-- The response headers arrive, `latencyMs` after the call began. -/
  | headers (status : ℕ) (latencyMs : ν)
  | bodyChunk
  /-- `res.json()` resolves. -/
  | bodyComplete (body : β)
  /-- `res.json()` rejects: the connection is lost, or the body is not JSON. -/
  | bodyFailed (err : JsError)
  | timerFired
  /-- The pending wait rejects because the signal has aborted. -/
  | abortDelivered
deriving DecidableEq, Repr

/-- What a caller of `fetchWithTimeout` makes of each ending of its two waits. -/
structure HttpCall (ν β ρ : Type) where
  fetchRejected : JsError → ρ
  notOk : ℕ → ρ
  bodyRead : ν → β → ρ
  bodyRejected : JsError → ρ

/-- `res.ok`. -/
def responseOk (status : ℕ) : Bool := decide (200 ≤ status ∧ status ≤ 299)

namespace Exchange

def start : Exchange ν ρ := ⟨.armed, false, .headers⟩

def result (x : Exchange ν ρ) : Option ρ :=
  match x.wait with
  | .settled result => some result
  | _ => none

def pending (x : Exchange ν ρ) : Bool := x.result.isNone

def fire (x : Exchange ν ρ) : Option (Exchange ν ρ) :=
  if x.timer = .armed then some { x with timer := .fired, aborted := true } else none

/-- The end of the wait for `fetch`, whose `finally` clears the timer. -/
def leaveFetch (x : Exchange ν ρ) (wait : Wait ν ρ) : Exchange ν ρ :=
  { x with timer := x.timer.clear, wait }

end Exchange

/-- A call after one event; `none` when the event cannot happen to it. -/
def HttpCall.advance (call : HttpCall ν β ρ) (x : Exchange ν ρ) (event : NetEvent ν β) :
    Option (Exchange ν ρ) :=
  match x.wait, event with
  | .headers, .connectionFailed err =>
      if x.aborted then none else some (x.leaveFetch (.settled (call.fetchRejected err)))
  | .headers, .headers status latencyMs =>
      if x.aborted then none
      else if responseOk status then some (x.leaveFetch (.body latencyMs))
      else some (x.leaveFetch (.settled (call.notOk status)))
  | .headers, .abortDelivered =>
      if x.aborted then some (x.leaveFetch (.settled (call.fetchRejected abortError))) else none
  | .headers, .timerFired => x.fire
  | .body _, .bodyChunk => if x.aborted then none else some x
  | .body latencyMs, .bodyComplete body =>
      if x.aborted then none else some { x with wait := .settled (call.bodyRead latencyMs body) }
  | .body _, .bodyFailed err =>
      if x.aborted then none else some { x with wait := .settled (call.bodyRejected err) }
  | .body _, .abortDelivered =>
      if x.aborted then some { x with wait := .settled (call.bodyRejected abortError) } else none
  | .body _, .timerFired => x.fire
  | _, _ => none

/-! ### The adapter -/

/-- `HttpReplicaAdapter`'s fields; `urls` is a map built from the fleet. -/
structure HttpReplicaAdapter (ν : Type) where
  replicas : List Replica
  healthTimeoutMs : ν
  requestTimeoutMs : ν

namespace HttpReplicaAdapter

variable [JsNumber ν]

/-- The constructor; requests have ten probe timeouts by default. -/
def new (replicas : List Replica) (healthTimeoutMs : ν) (requestTimeoutMs : Option ν) :
    HttpReplicaAdapter ν where
  replicas
  healthTimeoutMs
  requestTimeoutMs := requestTimeoutMs.getD (JsNumber.mul healthTimeoutMs (JsNumber.ofNat 10))

variable (adapter : HttpReplicaAdapter ν)

/-- A replica's base URL; of two entries with one id the map holds the later. -/
def resolve (replicaId : String) : Except String String :=
  match adapter.replicas.reverse.find? (fun replica => replica.id = replicaId) with
  | some replica => .ok replica.url
  | none => .error ("unknown replica \"" ++ replicaId ++ "\"")

/-- What a failed probe resolves with. -/
def failed : HealthResult ν := ⟨false, adapter.healthTimeoutMs, JsNumber.ofNat 0⟩

/-- The JSON a probe's body parses to: `null`, on which the property read throws, or a value
with or without a number under `inFlight`. -/
inductive ProbeBody (ν : Type) where
  | null
  | value (inFlight : Option ν)
deriving DecidableEq, Repr

/-- `checkHealth` of a known replica: every failure resolves as `failed`. -/
def checkHealth : HttpCall ν (ProbeBody ν) (HealthResult ν) where
  fetchRejected _ := adapter.failed
  notOk _ := adapter.failed
  bodyRead latencyMs body := match body with
    | .null => adapter.failed
    | .value inFlight => ⟨true, latencyMs, inFlight.getD (JsNumber.ofNat 0)⟩
  bodyRejected _ := adapter.failed

/-- `sendRequest` to a known replica.  The body is read outside the `try`, so what that rejects
with leaves the call as it is. -/
def sendRequest (replicaId : String) : HttpCall ν β (Settled ν β) where
  fetchRejected err := .error (.request (
    if err.name = "AbortError" then
      { kind := .timeout
        message := "replica \"" ++ replicaId ++ "\" did not respond to /infer within " ++
          JsNumber.text adapter.requestTimeoutMs ++ "ms" }
    else
      { kind := .connection
        message := "could not reach replica \"" ++ replicaId ++ "\" for /infer: " ++ err.text }))
  notOk status := .error (.request
    { kind := .httpStatus
      message := "replica \"" ++ replicaId ++ "\" returned " ++ toString status ++ " for /infer"
      status := some status })
  bodyRead latencyMs body := .ok ⟨body, latencyMs⟩
  bodyRejected err := .error (.other err.message)

omit [JsNumber ν] in
theorem resolve_of_mem {replica : Replica} (h : replica ∈ adapter.replicas) :
    ∃ url, adapter.resolve replica.id = .ok url := by
  unfold resolve
  cases hfind : adapter.replicas.reverse.find? (fun replica' => replica'.id = replica.id) with
  | some replica' => exact ⟨replica'.url, rfl⟩
  | none =>
      rw [List.find?_eq_none] at hfind
      exact absurd (decide_eq_true rfl) (hfind replica (List.mem_reverse.mpr h))

end HttpReplicaAdapter

/-! ### What one event does to a call -/

/-- The headers of a successful response. -/
def NetEvent.answers : NetEvent ν β → Bool
  | .headers status _ => responseOk status
  | _ => false

/-- Everything an event can do to a call. -/
inductive Advance (x : Exchange ν ρ) : NetEvent ν β → Exchange ν ρ → Prop where
  | answered {status : ℕ} {latencyMs : ν} (hwait : x.wait = .headers)
      (haborted : x.aborted = false) (hok : responseOk status = true) :
      Advance x (.headers status latencyMs) (x.leaveFetch (.body latencyMs))
  | settles {event : NetEvent ν β} {y : Exchange ν ρ} {result : ρ} (hpending : x.pending = true)
      (hsettled : y.wait = .settled result) (hanswers : event.answers = false) :
      Advance x event y
  | fires (hpending : x.pending = true) (harmed : x.timer = .armed) :
      Advance x .timerFired { x with timer := .fired, aborted := true }
  | stays {latencyMs : ν} (hwait : x.wait = .body latencyMs) : Advance x .bodyChunk x

section advance

variable {call : HttpCall ν β ρ} {x y : Exchange ν ρ} {event : NetEvent ν β}

theorem pending_of_headers (hwait : x.wait = .headers) : x.pending = true := by
  simp [Exchange.pending, Exchange.result, hwait]

theorem pending_of_body {latencyMs : ν} (hwait : x.wait = .body latencyMs) :
    x.pending = true := by
  simp [Exchange.pending, Exchange.result, hwait]

theorem pending_of_settled {result : ρ} (hwait : x.wait = .settled result) :
    x.pending = false := by
  simp [Exchange.pending, Exchange.result, hwait]

theorem advance_fires (hpending : x.pending = true) (h : x.fire = some y) :
    Advance x (.timerFired : NetEvent ν β) y := by
  unfold Exchange.fire at h
  split_ifs at h with harmed
  obtain rfl := Option.some.inj h
  exact .fires hpending harmed

theorem advance_cases (h : call.advance x event = some y) : Advance x event y := by
  unfold HttpCall.advance at h
  split at h
  next err hwait =>
    split_ifs at h
    obtain rfl := Option.some.inj h
    exact .settles (pending_of_headers hwait) rfl rfl
  next status latencyMs hwait =>
    split_ifs at h with haborted hok
    · obtain rfl := Option.some.inj h
      exact .answered hwait (by simpa using haborted) hok
    · obtain rfl := Option.some.inj h
      exact .settles (pending_of_headers hwait) rfl (by simpa [NetEvent.answers] using hok)
  next hwait =>
    split_ifs at h
    obtain rfl := Option.some.inj h
    exact .settles (pending_of_headers hwait) rfl rfl
  next hwait => exact advance_fires (pending_of_headers hwait) h
  next latencyMs hwait =>
    split_ifs at h
    obtain rfl := Option.some.inj h
    exact .stays hwait
  next latencyMs body hwait =>
    split_ifs at h
    obtain rfl := Option.some.inj h
    exact .settles (pending_of_body hwait) rfl rfl
  next latencyMs err hwait =>
    split_ifs at h
    obtain rfl := Option.some.inj h
    exact .settles (pending_of_body hwait) rfl rfl
  next latencyMs hwait =>
    split_ifs at h
    obtain rfl := Option.some.inj h
    exact .settles (pending_of_body hwait) rfl rfl
  next latencyMs hwait => exact advance_fires (pending_of_body hwait) h
  · cases h

theorem pending_of_advance (h : call.advance x event = some y) : x.pending = true := by
  cases advance_cases h with
  | answered hwait _ _ => exact pending_of_headers hwait
  | settles hpending _ _ => exact hpending
  | fires hpending _ => exact hpending
  | stays hwait => exact pending_of_body hwait

/-! ### Being watched over -/

/-- While the call is pending, its timer is armed or its abort has been signalled. -/
def Exchange.Guarded (x : Exchange ν ρ) : Prop :=
  x.pending = true → x.timer = .armed ∨ x.aborted = true

theorem guarded_start : (Exchange.start : Exchange ν ρ).Guarded := fun _ => Or.inl rfl

theorem guarded_of_settled {result : ρ} (hwait : x.wait = .settled result) : x.Guarded := by
  intro hp
  rw [pending_of_settled hwait] at hp
  cases hp

/-- A call stays guarded through every event but the headers of a successful response. -/
theorem guarded_of_advance (hg : x.Guarded) (hanswers : event.answers = false)
    (h : call.advance x event = some y) : y.Guarded := by
  cases advance_cases h with
  | answered _ _ hok => exact absurd hok (by simpa [NetEvent.answers] using hanswers)
  | settles _ hsettled _ => exact guarded_of_settled hsettled
  | fires _ _ => exact fun _ => Or.inr rfl
  | stays _ => exact hg

theorem not_guarded_of_answers (hanswers : event.answers = true)
    (h : call.advance x event = some y) : ¬ y.Guarded := by
  cases advance_cases h with
  | answered _ haborted _ =>
      intro hg
      rcases hg (pending_of_body rfl) with harmed | habort
      · have hclear : x.timer.clear = .armed := harmed
        cases ht : x.timer <;> simp [ht, AbortTimer.clear] at hclear
      · rw [show (x.leaveFetch _).aborted = x.aborted from rfl, haborted] at habort
        cases habort
  | settles _ _ hne => simp [hne] at hanswers
  | fires _ _ => cases hanswers
  | stays _ => cases hanswers

theorem stalled_of_advance {latencyMs : ν} (hbody : ∀ body, event ≠ .bodyComplete body)
    (hfailed : ∀ err, event ≠ .bodyFailed err)
    (h : call.advance ⟨.cleared, false, .body latencyMs⟩ event = some y) :
    y = ⟨.cleared, false, .body latencyMs⟩ := by
  cases event with
  | bodyComplete body => exact absurd rfl (hbody body)
  | bodyFailed err => exact absurd rfl (hfailed err)
  | bodyChunk => exact (Option.some.inj h).symm
  | connectionFailed err => cases h
  | headers status latencyMs' => cases h
  | timerFired => cases h
  | abortDelivered => cases h

end advance

end WhyRouted
