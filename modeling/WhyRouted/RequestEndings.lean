import Mathlib.Algebra.Order.Ring.Nat
import WhyRouted.HandleRoute
import WhyRouted.HttpAdapter

/-! # How a request to a replica ends

`sendRequest` classifies a failure in three places: the `catch` around `fetch`, the status check
after it, and the error class itself.  The body of a successful response is read after all of
them, so what that read rejects with reaches the retry loop unclassified.

`Course` lists, event by event, everything the transport can do with one request; every run of
`advance` is one of them.  From it follows when the classification the adapter's contract
promises holds, and with it what `/route` does about the failure. -/

namespace WhyRouted

variable {ν β ρ : Type}

/-! ### The courses of one call -/

/-- A call after a list of events; `none` when one of them cannot happen. -/
def HttpCall.run (call : HttpCall ν β ρ) (events : List (NetEvent ν β)) : Option (Exchange ν ρ) :=
  events.foldlM call.advance Exchange.start

/-- The runs of a call, by what has happened. -/
inductive Course (call : HttpCall ν β ρ) : List (NetEvent ν β) → Exchange ν ρ → Prop where
  | waiting : Course call [] ⟨.armed, false, .headers⟩
  | expired : Course call [.timerFired] ⟨.fired, true, .headers⟩
  | unreachable (err : JsError) :
      Course call [.connectionFailed err] ⟨.cleared, false, .settled (call.fetchRejected err)⟩
  | timedOut : Course call [.timerFired, .abortDelivered]
      ⟨.fired, true, .settled (call.fetchRejected abortError)⟩
  | refused (status : ℕ) (latencyMs : ν) (hok : responseOk status = false) :
      Course call [.headers status latencyMs] ⟨.cleared, false, .settled (call.notOk status)⟩
  | reading (status : ℕ) (latencyMs : ν) (chunks : ℕ) (hok : responseOk status = true) :
      Course call (.headers status latencyMs :: List.replicate chunks .bodyChunk)
        ⟨.cleared, false, .body latencyMs⟩
  | complete (status : ℕ) (latencyMs : ν) (chunks : ℕ) (body : β) (hok : responseOk status = true) :
      Course call (.headers status latencyMs :: (List.replicate chunks .bodyChunk ++
        [.bodyComplete body])) ⟨.cleared, false, .settled (call.bodyRead latencyMs body)⟩
  | lost (status : ℕ) (latencyMs : ν) (chunks : ℕ) (err : JsError)
      (hok : responseOk status = true) :
      Course call (.headers status latencyMs :: (List.replicate chunks .bodyChunk ++
        [.bodyFailed err])) ⟨.cleared, false, .settled (call.bodyRejected err)⟩

section course

variable {call : HttpCall ν β ρ} {events : List (NetEvent ν β)} {x y : Exchange ν ρ}

theorem Course.advance (h : Course call events x) {event : NetEvent ν β}
    (hstep : call.advance x event = some y) : Course call (events ++ [event]) y := by
  cases h with
  | waiting =>
      cases event with
      | connectionFailed err =>
          obtain rfl := Option.some.inj hstep
          exact .unreachable err
      | headers status latencyMs =>
          cases hok : responseOk status with
          | true =>
              rw [show call.advance ⟨.armed, false, .headers⟩ (.headers status latencyMs) =
                some ⟨.cleared, false, .body latencyMs⟩ by
                  simp [HttpCall.advance, hok, Exchange.leaveFetch, AbortTimer.clear]] at hstep
              obtain rfl := Option.some.inj hstep
              exact .reading status latencyMs 0 hok
          | false =>
              rw [show call.advance ⟨.armed, false, .headers⟩ (.headers status latencyMs) =
                some ⟨.cleared, false, .settled (call.notOk status)⟩ by
                  simp [HttpCall.advance, hok, Exchange.leaveFetch, AbortTimer.clear]] at hstep
              obtain rfl := Option.some.inj hstep
              exact .refused status latencyMs hok
      | timerFired =>
          obtain rfl := Option.some.inj hstep
          exact .expired
      | _ => cases hstep
  | expired =>
      cases event with
      | abortDelivered =>
          obtain rfl := Option.some.inj hstep
          exact .timedOut
      | _ => cases hstep
  | reading status latencyMs chunks hok =>
      cases event with
      | bodyChunk =>
          obtain rfl := Option.some.inj hstep
          rw [List.cons_append, ← List.replicate_succ']
          exact .reading status latencyMs (chunks + 1) hok
      | bodyComplete body =>
          obtain rfl := Option.some.inj hstep
          exact .complete status latencyMs chunks body hok
      | bodyFailed err =>
          obtain rfl := Option.some.inj hstep
          exact .lost status latencyMs chunks err hok
      -- the timer went with the headers, so no abort can come any more
      | _ => cases hstep
  | unreachable err => cases event <;> cases hstep
  | timedOut => cases event <;> cases hstep
  | refused status latencyMs hok => cases event <;> cases hstep
  | complete status latencyMs chunks body hok => cases event <;> cases hstep
  | lost status latencyMs chunks err hok => cases event <;> cases hstep

/-- **Every run is a course.** -/
theorem course_of_run (h : call.run events = some x) : Course call events x := by
  induction events using List.reverseRecOn generalizing x with
  | nil =>
      obtain rfl := Option.some.inj h
      exact .waiting
  | append_singleton events event ih =>
      unfold HttpCall.run at h
      rw [List.foldlM_append] at h
      obtain ⟨y, hy, hstep⟩ := Option.bind_eq_some_iff.mp h
      have hlast : call.advance y event = some x := by simpa using hstep
      exact (ih hy).advance hlast

end course

/-! ### What the contract promises -/

/-- The request timed out, or the transport failed, before the headers or after them. -/
def TransportFault (events : List (NetEvent ν β)) : Prop :=
  .abortDelivered ∈ events ∨ (∃ err, .connectionFailed err ∈ events) ∨
    ∃ err, .bodyFailed err ∈ events

/-- The replica answered with this status. -/
def Answered (events : List (NetEvent ν β)) (status : ℕ) : Prop :=
  ∃ latencyMs, .headers status latencyMs ∈ events

/-- Another replica may do better: a fault of the transport, or a status of 500 and up. -/
def Retryable (events : List (NetEvent ν β)) : Prop :=
  TransportFault events ∨ ∃ status, Answered events status ∧ 500 ≤ status

/-- The adapter's contract for a call that went through `events` and settled as `settled`, and
what `/route` makes of the outcome. -/
structure Classified (replicaId : String) (events : List (NetEvent ν β)) (settled : Settled ν β) :
    Prop where
  /-- It resolves exactly on a 2xx response with a complete body. -/
  resolves_iff : (∃ sent, settled = .ok sent) ↔
    (∃ status, Answered events status ∧ responseOk status = true) ∧
      ∃ body, .bodyComplete body ∈ events
  /-- It rejects with the typed error only, and the error says whether to retry. -/
  rejects : ∀ err, settled = .error err →
    ∃ typed, err = .request typed ∧ (typed.retryable = true ↔ Retryable events)
  /-- A failure that may be retried ejects the replica, is logged, and sends the request round
  again while retries are left. -/
  retries : Retryable events → ∀ (deps : RouteDeps ν β) (h : Handler ν β)
    (decision : RouteResult ν) (ambient : Ambient),
    ∃ reason event rest, (h.onSettled deps decision replicaId settled ambient).2 =
        .eject replicaId reason :: .recordEvent event :: rest ∧
      event.replicaId = replicaId ∧
      (h.attempts.length < deps.maxRetries →
        (h.onSettled deps decision replicaId settled ambient).1.phase = .routing)
  /-- The client gets a 502 only for a non-2xx status below 500. -/
  surfaces : ∀ (deps : RouteDeps ν β), WritesServed deps → ∀ (h : Handler ν β)
    (decision : RouteResult ν) (ambient : Ambient),
    ∀ res ∈ responsesOf (h.onSettled deps decision replicaId settled ambient).2,
      res.status = 502 → ∃ status, Answered events status ∧ responseOk status = false ∧ status < 500

/-! ### What `/route` does with each ending -/

section handler

variable (deps : RouteDeps ν β) (h : Handler ν β) (decision : RouteResult ν)
  (replicaId : String) (ambient : Ambient)

theorem responsesOf_respond (res : RouteResponse ν β) :
    ∀ res' ∈ responsesOf (h.respond deps res).2, res' = res := by
  unfold Handler.respond
  cases deps.writeError res with
  | none => simp [responsesOf]
  | some message => simp [responsesOf]

theorem onRetryable_retries (err : ReplicaRequestError) :
    ∃ reason event rest, (h.onRetryable deps decision replicaId err ambient).2 =
        .eject replicaId reason :: .recordEvent event :: rest ∧
      event.replicaId = replicaId ∧
      (h.attempts.length < deps.maxRetries →
        (h.onRetryable deps decision replicaId err ambient).1.phase = .routing) := by
  have hlength : (h.pushFailure decision replicaId err).attempts.length =
      h.attempts.length + 1 := by
    simp [Handler.pushFailure]
  simp only [Handler.onRetryable]
  split_ifs with hspent
  · exact ⟨_, _, _, rfl, rfl, fun hleft => absurd hspent (by omega)⟩
  · exact ⟨_, _, _, rfl, rfl, fun _ => rfl⟩

theorem onRetryable_status (err : ReplicaRequestError) :
    ∀ res ∈ responsesOf (h.onRetryable deps decision replicaId err ambient).2,
      res.status = 503 := by
  simp only [Handler.onRetryable]
  split_ifs with hspent
  · intro res hres
    have hres' : res ∈ responsesOf ((h.pushFailure decision replicaId err).respond deps
        ⟨503, .allReplicasFailed (h.pushFailure decision replicaId err).attempts
          (h.pushFailure decision replicaId err).requestId⟩).2 := by
      simpa [responsesOf] using hres
    rw [responsesOf_respond deps _ _ res hres']
  · simp [responsesOf]

theorem onSettled_ok_status (hw : WritesServed deps) (sent : SendResult ν β) :
    ∀ res ∈ responsesOf (h.onSettled deps decision replicaId (.ok sent) ambient).2,
      res.status = 200 := by
  obtain ⟨response, latencyMs⟩ := sent
  simp only [Handler.onSettled]
  rw [hw _ rfl]
  simp [responsesOf]

end handler

/-! ### The classification -/

section classification

variable {replicaId : String} {events : List (NetEvent ν β)} {settled : Settled ν β}

/-- A request the transport has lost, before its headers, rejects as retryable. -/
theorem fetchRejected_retryable [JsNumber ν] (adapter : HttpReplicaAdapter ν)
    (replicaId : String) (err : JsError) : ∃ typed,
    (adapter.sendRequest replicaId : HttpCall ν β (Settled ν β)).fetchRejected err =
      .error (.request typed) ∧ typed.retryable = true := by
  refine ⟨_, rfl, ?_⟩
  split_ifs <;> rfl

theorem classified_of_error {typed : ReplicaRequestError}
    (hnone : ∀ body, .bodyComplete body ∉ events)
    (hretry : typed.retryable = true ↔ Retryable events)
    (hstatus : typed.retryable = false →
      ∃ status, Answered events status ∧ responseOk status = false ∧ status < 500) :
    Classified replicaId events (.error (.request typed)) where
  resolves_iff := by
    constructor
    · rintro ⟨sent, hsent⟩
      cases hsent
    · rintro ⟨-, body, hbody⟩
      exact absurd hbody (hnone body)
  rejects := by
    intro err herr
    obtain rfl := Except.error.inj herr
    exact ⟨typed, rfl, hretry⟩
  retries := by
    intro hr deps h decision ambient
    have hflag : typed.retryable = true := hretry.mpr hr
    simp only [Handler.onSettled, hflag, if_true]
    exact onRetryable_retries deps h decision replicaId ambient typed
  surfaces := by
    intro deps _ h decision ambient res hres hcode
    cases hflag : typed.retryable with
    | false => exact hstatus hflag
    | true =>
        simp only [Handler.onSettled, hflag, if_true] at hres
        have h503 := onRetryable_status deps h decision replicaId ambient typed res hres
        omega

theorem classified_of_ok {status : ℕ} (hanswered : Answered events status)
    (hok : responseOk status = true) {body : β} (hbody : .bodyComplete body ∈ events)
    (hnot : ¬ Retryable events) (sent : SendResult ν β) :
    Classified replicaId events (.ok sent) where
  resolves_iff := ⟨fun _ => ⟨⟨status, hanswered, hok⟩, body, hbody⟩, fun _ => ⟨sent, rfl⟩⟩
  rejects := by
    intro err herr
    cases herr
  retries := fun hr => absurd hr hnot
  surfaces := by
    intro deps hw h decision ambient res hres hcode
    have h200 := onSettled_ok_status deps h decision replicaId ambient hw sent res hres
    omega

variable [JsNumber ν] {adapter : HttpReplicaAdapter ν}

/-- **The classification of a request**: it is the contract's exactly when the body of a
successful response does not fail while it is read. -/
theorem classified_iff {x : Exchange ν (Settled ν β)}
    (hrun : (adapter.sendRequest replicaId).run events = some x)
    (hsettled : x.wait = .settled settled) :
    Classified replicaId events settled ↔ ∀ err, .bodyFailed err ∉ events := by
  cases course_of_run hrun with
  | waiting => cases hsettled
  | expired => cases hsettled
  | reading status latencyMs chunks hok => cases hsettled
  | unreachable err =>
      obtain rfl : _ = settled := by simpa using hsettled
      refine ⟨fun _ err' hmem => by simp at hmem, fun _ => ?_⟩
      obtain ⟨typed, heq, hflag⟩ := fetchRejected_retryable adapter replicaId err
      rw [heq]
      have hr : Retryable [(.connectionFailed err : NetEvent ν β)] :=
        .inl (.inr (.inl ⟨err, List.mem_singleton.mpr rfl⟩))
      exact classified_of_error (by simp) (iff_of_true hflag hr)
        fun hfalse => absurd hflag (by simp [hfalse])
  | timedOut =>
      obtain rfl : _ = settled := by simpa using hsettled
      refine ⟨fun _ err' hmem => by simp at hmem, fun _ => ?_⟩
      obtain ⟨typed, heq, hflag⟩ := fetchRejected_retryable adapter replicaId abortError
      rw [heq]
      have hr : Retryable [(.timerFired : NetEvent ν β), .abortDelivered] :=
        .inl (.inl (by simp))
      exact classified_of_error (by simp) (iff_of_true hflag hr)
        fun hfalse => absurd hflag (by simp [hfalse])
  | refused status latencyMs hok =>
      obtain rfl : _ = settled := by simpa using hsettled
      refine ⟨fun _ err' hmem => by simp at hmem, fun _ => ?_⟩
      have hanswered : Answered [(.headers status latencyMs : NetEvent ν β)] status :=
        ⟨latencyMs, List.mem_singleton.mpr rfl⟩
      have hretry : Retryable [(.headers status latencyMs : NetEvent ν β)] ↔ 500 ≤ status := by
        simp [Retryable, TransportFault, Answered]
      apply classified_of_error (by simp)
      · rw [hretry]
        simp [ReplicaRequestError.retryable, retryableFailure]
      · intro hflag
        refine ⟨status, hanswered, hok, ?_⟩
        simpa [ReplicaRequestError.retryable, retryableFailure] using hflag
  | complete status latencyMs chunks body hok =>
      obtain rfl : _ = settled := by simpa using hsettled
      refine ⟨fun _ err' hmem => by simp [List.mem_replicate] at hmem, fun _ => ?_⟩
      have hanswered : Answered (.headers status latencyMs ::
          (List.replicate chunks .bodyChunk ++ [(.bodyComplete body : NetEvent ν β)])) status :=
        ⟨latencyMs, List.mem_cons_self⟩
      -- a 2xx status is below 500, and a body that completes has not failed
      have hbelow : status < 500 := by
        have hrange := of_decide_eq_true hok
        omega
      have hbody : (.bodyComplete body : NetEvent ν β) ∈ .headers status latencyMs ::
          (List.replicate chunks .bodyChunk ++ [.bodyComplete body]) := by simp
      apply classified_of_ok hanswered hok hbody
      simp only [Retryable, TransportFault, Answered]
      simp [List.mem_replicate, hbelow]
  | lost status latencyMs chunks err hok =>
      obtain rfl : _ = settled := by simpa using hsettled
      have hfailed : (.bodyFailed err : NetEvent ν β) ∈ .headers status latencyMs ::
          (List.replicate chunks .bodyChunk ++ [.bodyFailed err]) := by simp
      constructor
      · intro hc
        obtain ⟨typed, htyped, -⟩ := hc.rejects _ rfl
        cases htyped
      · intro hnone
        exact absurd hfailed (hnone err)

end classification

/-! ### A replica that dies while it answers -/

/-- One replica's adapter. -/
def oneReplicaAdapter : HttpReplicaAdapter ℕ := ⟨[⟨"replica-1", "http://a"⟩], 500, 5000⟩

/-- The connection goes while the body of a 200 response is read. -/
def diesMidResponse : List (NetEvent ℕ Unit) :=
  [.headers 200 3, .bodyChunk, .bodyFailed ⟨"TypeError", "terminated"⟩]

theorem diesMidResponse_run : (oneReplicaAdapter.sendRequest "replica-1").run diesMidResponse =
    some ⟨.cleared, false, .settled (.error (.other "terminated"))⟩ := by decide

/-- The rejection is not the typed one, so nothing ejects the replica or tries another. -/
theorem lost_body_not_classified : ∃ (x : Exchange ℕ (Settled ℕ Unit)) (settled : Settled ℕ Unit),
    (oneReplicaAdapter.sendRequest "replica-1").run diesMidResponse = some x ∧
    x.wait = .settled settled ∧ TransportFault diesMidResponse ∧
    settled = .error (.other "terminated") ∧
    ¬ Classified "replica-1" diesMidResponse settled := by
  have hlost : TransportFault diesMidResponse := .inr (.inr ⟨_, by simp [diesMidResponse]; rfl⟩)
  refine ⟨_, _, diesMidResponse_run, rfl, hlost, rfl, fun hc => ?_⟩
  obtain ⟨typed, htyped, -⟩ := hc.rejects _ rfl
  cases htyped

/-- A refused connection, a status of 404 and a body in two pieces are classified. -/
theorem classified_iff_threeEndings :
    Classified "replica-1" [(.connectionFailed ⟨"TypeError", "fetch failed"⟩ : NetEvent ℕ Unit)]
      (.error (.request ⟨.connection, "could not reach replica \"replica-1\" for /infer: " ++
        "TypeError: fetch failed", none⟩)) ∧
    (∃ settled : Settled ℕ Unit, Classified "replica-1" [.headers 404 3] settled ∧
      ∃ err, settled = .error (.request err) ∧ err.status = some 404 ∧ err.retryable = false) ∧
    Classified "replica-1" [.headers 200 3, .bodyChunk, .bodyComplete ()]
      (.ok (⟨(), 3⟩ : SendResult ℕ Unit)) := by
  have hrefused : (oneReplicaAdapter.sendRequest "replica-1").run
      [(.connectionFailed ⟨"TypeError", "fetch failed"⟩ : NetEvent ℕ Unit)] = some _ := rfl
  have hmissing : (oneReplicaAdapter.sendRequest "replica-1").run
      [(.headers 404 3 : NetEvent ℕ Unit)] = some _ := rfl
  have hserved : (oneReplicaAdapter.sendRequest "replica-1").run
      [.headers 200 3, .bodyChunk, .bodyComplete ()] = some _ := rfl
  refine ⟨(classified_iff hrefused rfl).mpr ?_, ⟨_, (classified_iff hmissing rfl).mpr ?_, ?_⟩,
    (classified_iff hserved rfl).mpr ?_⟩
  · simp
  · simp
  · exact ⟨_, rfl, rfl, rfl⟩
  · simp

end WhyRouted
