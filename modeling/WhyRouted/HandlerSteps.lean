import Mathlib.Algebra.Order.Ring.Nat
import WhyRouted.SystemSteps

/-! # What a step does to the requests

The companion of the steps' inversion lemma for the stores: what a step does to the handlers.  A
new request is put last, a settled send moves the handler that awaited it, and no other handler
is touched (`handler_step`).  Either stretch leaves its handler waiting for the one send it made,
to a replica it has not tried, or finished (`Rests`); and a settled send adds a failed attempt or
ends the request (`Went`). -/

namespace WhyRouted

variable {ν β : Type}

/-- The sends of a stretch, with what they carry. -/
def sendsOf (calls : List (Call ν β)) : List (String × β) :=
  calls.filterMap fun
    | .sendRequest replicaId payload => some (replicaId, payload)
    | _ => none

@[simp] theorem sendsOf_append (l l' : List (Call ν β)) :
    sendsOf (l ++ l') = sendsOf l ++ sendsOf l' := List.filterMap_append

theorem map_sendsOf (calls : List (Call ν β)) : (sendsOf calls).map Prod.fst = sentOf calls := by
  induction calls with
  | nil => rfl
  | cons call calls ih =>
      cases call <;> simpa [sendsOf, sentOf] using ih

/-- Where a stretch leaves its handler. -/
inductive Rests (h : Handler ν β) (calls : List (Call ν β)) : Prop where
  | sending {decision : RouteResult ν} {replicaId : String}
      (hphase : h.phase = .sending decision replicaId)
      (hsends : sendsOf calls = [(replicaId, h.payload)]) (hnew : replicaId ∉ h.exclude)
  | finished (hphase : h.phase.finished = true) (hsends : sendsOf calls = [])

/-- What stays the same in a handler: what it was called with. -/
structure SameRequest (h h' : Handler ν β) : Prop where
  requestId : h'.requestId = h.requestId
  payload : h'.payload = h.payload

/-- What stays the same in a handler that tries nothing new. -/
structure SameTries (h h' : Handler ν β) : Prop extends SameRequest h h' where
  attempts : h'.attempts = h.attempts
  exclude : h'.exclude = h.exclude

/-- An answer that lists what the handler has tried, and names the replica it is about. -/
structure Discloses (h : Handler ν β) (status : ℕ) (replicaId : Option String)
    (res : RouteResponse ν β) : Prop where
  status : res.status = status
  attempts : res.body.attempts = h.attempts
  replicaId : res.body.replicaId = replicaId

/-- What a handler makes of its send, once that has settled. -/
inductive Went (h : Handler ν β) (decision : RouteResult ν) (replicaId : String)
    (h' : Handler ν β) : Settled ν β → Prop where
  | retried {err : ReplicaRequestError} (hretry : err.retryable = true) (hsame : SameRequest h h')
      (hattempts : h'.attempts = h.attempts ++ [⟨replicaId, err.kind, err.status⟩])
      (hexclude : h'.exclude = h.exclude ++ [replicaId])
      (hres : ∀ res, h'.phase = .responded res → Discloses h' 503 none res) :
      Went h decision replicaId h' (.error (.request err))
  | failed {err : SendError} (hretry : err.retryable = false) (hsame : SameTries h h')
      (hfinished : h'.phase.finished = true)
      (hres : ∀ res, h'.phase = .responded res → Discloses h' 502 (some replicaId) res) :
      Went h decision replicaId h' (.error err)
  | served {sent : SendResult ν β} (hsame : SameTries h h')
      (hfinished : h'.phase.finished = true)
      (hres : ∀ res, h'.phase = .responded res → Discloses h' 502 (some replicaId) res ∨
        res = ⟨200, .served replicaId decision.strategy sent.response sent.latencyMs h.attempts
          h.requestId⟩) : Went h decision replicaId h' (.ok sent)

/-! ### One stretch -/

section stretch

variable (deps : RouteDeps ν β) (h : Handler ν β) (decision : RouteResult ν) (ambient : Ambient)

theorem respond_went (res : RouteResponse ν β) : SameTries h (h.respond deps res).1 ∧
    (h.respond deps res).1.phase.finished = true ∧ sendsOf (h.respond deps res).2 = [] ∧
    ∀ res', (h.respond deps res).1.phase = .responded res' → res' = res := by
  unfold Handler.respond
  cases deps.writeError res with
  | none =>
      refine ⟨⟨⟨rfl, rfl⟩, rfl, rfl⟩, rfl, rfl, ?_⟩
      rintro _ ⟨⟩
      rfl
  | some message => exact ⟨⟨⟨rfl, rfl⟩, rfl, rfl⟩, rfl, rfl, by simp⟩

theorem onRouted_rests (hnew : ∀ r, decision.outcome = .ok r → r ∉ h.exclude) :
    Rests (h.onRouted deps decision ambient).1 (h.onRouted deps decision ambient).2 ∧
      SameTries h (h.onRouted deps decision ambient).1 ∧
      ∀ res, (h.onRouted deps decision ambient).1.phase = .responded res →
        Discloses (h.onRouted deps decision ambient).1 503 none res := by
  unfold Handler.onRouted
  cases ho : decision.outcome with
  | error error =>
      obtain ⟨hsame, hfinished, hsends, hres⟩ := respond_went deps (h.pushRound (roundFor decision))
        ⟨503, (h.pushRound (roundFor decision)).unroutableBody error⟩
      refine ⟨.finished hfinished hsends, ⟨⟨hsame.requestId, hsame.payload⟩, hsame.attempts,
        hsame.exclude⟩, fun res hp => ?_⟩
      rw [hres res hp]
      unfold Handler.unroutableBody
      split_ifs with hnone
      · exact ⟨rfl, (hsame.attempts.trans (List.length_eq_zero_iff.mp hnone)).symm, rfl⟩
      · exact ⟨rfl, hsame.attempts.symm, rfl⟩
  | ok replicaId =>
      exact ⟨.sending rfl rfl (hnew replicaId ho), ⟨⟨rfl, rfl⟩, rfl, rfl⟩, by simp⟩

theorem onFatal_went (replicaId : String) (err : SendError) :
    SameTries h (h.onFatal deps decision replicaId err ambient).1 ∧
      (h.onFatal deps decision replicaId err ambient).1.phase.finished = true ∧
      sendsOf (h.onFatal deps decision replicaId err ambient).2 = [] ∧
      ∀ res, (h.onFatal deps decision replicaId err ambient).1.phase = .responded res →
        Discloses (h.onFatal deps decision replicaId err ambient).1 502 (some replicaId) res := by
  unfold Handler.onFatal
  generalize hpushed : h.pushRound _ = pushed
  obtain ⟨hsame, hfinished, hsends, hres⟩ := respond_went deps pushed
    ⟨502, .replicaRequestFailed replicaId err.detail pushed.attempts pushed.requestId⟩
  subst hpushed
  refine ⟨⟨⟨hsame.requestId, hsame.payload⟩, hsame.attempts, hsame.exclude⟩, hfinished, hsends,
    fun res hp => ?_⟩
  rw [hres res hp]
  exact ⟨rfl, hsame.attempts.symm, rfl⟩

theorem onSettled_went (replicaId : String) (settled : Settled ν β) :
    Went h decision replicaId (h.onSettled deps decision replicaId settled ambient).1 settled ∧
      sendsOf (h.onSettled deps decision replicaId settled ambient).2 = [] ∧
      ((h.onSettled deps decision replicaId settled ambient).1.phase = .routing ∧
          (∃ err, settled = .error (.request err) ∧ err.retryable = true) ∨
        (h.onSettled deps decision replicaId settled ambient).1.phase.finished = true) := by
  cases settled with
  | ok sent =>
      simp only [Handler.onSettled]
      cases deps.writeError ⟨200, .served replicaId decision.strategy sent.response sent.latencyMs
        (h.pushRound (roundFor decision)).attempts (h.pushRound (roundFor decision)).requestId⟩ with
      | none =>
          refine ⟨.served ⟨⟨rfl, rfl⟩, rfl, rfl⟩ rfl ?_, rfl, Or.inr rfl⟩
          rintro _ ⟨⟩
          exact Or.inr rfl
      | some message =>
          obtain ⟨hsame, hfinished, hsends, hres⟩ := onFatal_went deps
            (h.pushRound (roundFor decision)) decision ambient replicaId (.other message)
          exact ⟨.served ⟨⟨hsame.requestId, hsame.payload⟩, hsame.attempts, hsame.exclude⟩
            hfinished fun res hp => Or.inl (hres res hp), hsends, Or.inr hfinished⟩
  | error err =>
      cases err with
      | other detail =>
          obtain ⟨hsame, hfinished, hsends, hres⟩ :=
            onFatal_went deps h decision ambient replicaId (.other detail)
          exact ⟨.failed rfl hsame hfinished hres, hsends, Or.inr hfinished⟩
      | request err =>
          simp only [Handler.onSettled]
          split_ifs with hretry
          · simp only [Handler.onRetryable]
            split_ifs
            · obtain ⟨hsame, hfinished, hsends, hres⟩ := respond_went deps
                (h.pushFailure decision replicaId err)
                ⟨503, .allReplicasFailed (h.pushFailure decision replicaId err).attempts
                  (h.pushFailure decision replicaId err).requestId⟩
              refine ⟨.retried hretry ⟨hsame.requestId, hsame.payload⟩ hsame.attempts hsame.exclude
                fun res hp => ?_, hsends, Or.inr hfinished⟩
              rw [hres res hp]
              exact ⟨rfl, hsame.attempts.symm, rfl⟩
            · exact ⟨.retried hretry ⟨rfl, rfl⟩ rfl rfl (by simp), rfl,
                Or.inl ⟨rfl, err, rfl, hretry⟩⟩
          · obtain ⟨hsame, hfinished, hsends, hres⟩ :=
              onFatal_went deps h decision ambient replicaId (.request err)
            exact ⟨.failed (by simpa [SendError.retryable] using hretry) hsame hfinished hres,
              hsends, Or.inr hfinished⟩

end stretch

/-! ### One step -/

namespace System

variable [JsNumber ν] {th : Thresholds} {deps : RouteDeps ν β} {cp cp' : ControlPlane ν}
  {ambient ambient' : Ambient} {h h' : Handler ν β} {calls : List (Call ν β)} {s s' : System ν β}
  {report : Report ν β}

theorem loopHead_rests (hl : loopHead th deps cp h ambient = .ok (cp', h', calls)) :
    Rests h' calls ∧ SameTries h h' ∧
      ∀ res, h'.phase = .responded res → Discloses h' 503 none res := by
  obtain ⟨cp₁, -, h₂⟩ := ok_of_bind hl
  obtain ⟨-, hpair⟩ := Prod.mk.inj (Except.ok.inj h₂)
  obtain ⟨rfl, rfl⟩ := Prod.mk.inj hpair
  refine onRouted_rests deps h _ ambient fun r hr => ?_
  obtain ⟨state, hscored, rfl⟩ := route_ok cp.engine _ _ _ hr
  exact ((mem_scoredReplicas _ _ _).mp hscored).2.2.2.1

theorem resume_rests {decision : RouteResult ν} {replicaId : String} {settled : Settled ν β}
    (hr : resume th deps cp h decision replicaId settled ambient ambient' = .ok (cp', h', calls)) :
    Rests h' calls ∧ Went h decision replicaId h' settled := by
  obtain ⟨hwent, hsends, hphase⟩ := onSettled_went deps h decision ambient replicaId settled
  simp only [resume] at hr
  generalize h.onSettled deps decision replicaId settled ambient = out at hr hwent hsends hphase
  obtain ⟨cp₁, -, h₂⟩ := ok_of_bind hr
  split at h₂
  next hrouting =>
    obtain ⟨⟨cp₂, h₃, calls₂⟩, hl, h₂⟩ := ok_of_bind h₂
    obtain ⟨-, hpair⟩ := Prod.mk.inj (Except.ok.inj h₂)
    obtain ⟨rfl, rfl⟩ := Prod.mk.inj hpair
    obtain ⟨hrests, hsame, hres⟩ := loopHead_rests hl
    refine ⟨?_, ?_⟩
    · cases hrests with
      | sending hp hs hnew => exact .sending hp (by rw [sendsOf_append, hsends, hs]; rfl) hnew
      | finished hp hs => exact .finished hp (by rw [sendsOf_append, hsends, hs]; rfl)
    · rcases hphase with ⟨-, err, rfl, hretry⟩ | hfinished
      · cases hwent with
        | retried _ hfirst hattempts hexclude _ =>
            exact .retried hretry ⟨hsame.requestId.trans hfirst.requestId,
              hsame.payload.trans hfirst.payload⟩ (hsame.attempts.trans hattempts)
              (hsame.exclude.trans hexclude) hres
        | failed hfatal _ _ _ => cases hretry.symm.trans hfatal
      · rw [hrouting] at hfinished
        cases hfinished
  next hrouting =>
    obtain ⟨-, hpair⟩ := Prod.mk.inj (Except.ok.inj h₂)
    obtain ⟨rfl, rfl⟩ := Prod.mk.inj hpair
    have hfinished : out.1.phase.finished = true := by
      rcases hphase with ⟨hp, -⟩ | hp
      · exact absurd hp hrouting
      · exact hp
    exact ⟨.finished hfinished hsends, hwent⟩

/-- Everything a step can do to the handlers. -/
inductive HandlerStep (s s' : System ν β) : Input ν β → Report ν β → Prop where
  | began {h : Handler ν β} {requestId : String} {payload : β} {ambient : Ambient}
      {report : Report ν β} (hpayload : h.payload = payload) (hattempts : h.attempts = [])
      (hexclude : h.exclude = [])
      (hres : ∀ res, h.phase = .responded res → Discloses h 503 none res)
      (hrests : Rests h report.calls) (hset : s'.handlers = s.handlers ++ [h]) :
      HandlerStep s s' (.request requestId payload ambient) report
  | resumed {i : ℕ} {h h' : Handler ν β} {decision : RouteResult ν} {replicaId : String}
      {settled : Settled ν β} {ambient ambient' : Ambient} {report : Report ν β}
      (hget : s.handlers[i]? = some h) (hphase : h.phase = .sending decision replicaId)
      (hwent : Went h decision replicaId h' settled) (hrests : Rests h' report.calls)
      (hset : s'.handlers = s.handlers.set i h') :
      HandlerStep s s' (.settle i settled ambient ambient') report
  | probed {id : String} {result : HealthResult ν} {now eventId : String}
      (hset : s'.handlers = s.handlers) : HandlerStep s s' (.probed id result now eventId) {}
  | tool {call : ToolCall ν} {output : Output ν} (hset : s'.handlers = s.handlers) :
      HandlerStep s s' (.tool call) { output }

/-- **Every step is one of the four.** -/
theorem handler_step {a : Input ν β} (h : s.step th deps a = .ok (s', report)) :
    HandlerStep s s' a report := by
  cases a with
  | request requestId payload ambient =>
      obtain ⟨⟨cp, h', calls⟩, hl, h⟩ := ok_of_bind h
      obtain ⟨rfl, rfl⟩ := Prod.mk.inj (Except.ok.inj h)
      obtain ⟨hrests, hsame, hres⟩ := loopHead_rests hl
      exact .began hsame.payload hsame.attempts hsame.exclude hres hrests rfl
  | settle i settled ambient ambient' =>
      simp only [step] at h
      split at h
      · cases h
      next hd hget =>
      split at h
      next decision replicaId hphase =>
        obtain ⟨⟨cp, h', calls⟩, hr, h⟩ := ok_of_bind h
        obtain ⟨rfl, rfl⟩ := Prod.mk.inj (Except.ok.inj h)
        obtain ⟨hrests, hwent⟩ := resume_rests hr
        exact .resumed hget hphase hwent hrests rfl
      · cases h
  | probed replicaId result now eventId =>
      obtain ⟨⟨cp, out⟩, hact, h⟩ := ok_of_bind h
      obtain ⟨rfl, rfl⟩ := Prod.mk.inj (Except.ok.inj h)
      exact .probed rfl
  | tool call =>
      obtain ⟨⟨cp, out⟩, hact, h⟩ := ok_of_bind h
      obtain ⟨rfl, rfl⟩ := Prod.mk.inj (Except.ok.inj h)
      exact .tool rfl

end System

end WhyRouted
