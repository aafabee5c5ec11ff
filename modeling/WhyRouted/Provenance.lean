import WhyRouted.Answers
import WhyRouted.DecisionRecord
import WhyRouted.HandlerSteps
import WhyRouted.RegistryMirror

/-! # Where a decision comes from

A request carries the rounds it has been through and the engine's last answer from await to await,
and records them when it is over.  Whatever happens in between, each recorded round is an answer
the engine gave this request in one step of the run, with the failure its send came to, if it
failed; and a record that names a replica is of a request that replica has served
(`heard_of_exec`).  Where every served response is written, the rounds are the answers one for
one, in order, and a record that names no replica is of a request nobody has served.  The figures
the registry held for a replica at a step are those of the replica's last probe
(`figures_of_run`). -/

namespace WhyRouted

variable {ν β : Type}

/-! ### What a request has heard -/

/-- What the records of a request may rest on: the engine's answers to it, and what its sends came
to, oldest first. -/
structure Evidence (ν β : Type) where
  answers : List (RouteResult ν) := []
  settled : List (String × Settled ν β) := []

namespace Evidence

/-- A step may add an answer, and what a send came to. -/
def hears (E : Evidence ν β) (answer : Option (RouteResult ν))
    (settled : Option (String × Settled ν β)) : Evidence ν β :=
  ⟨E.answers ++ answer.toList, E.settled ++ settled.toList⟩

@[simp] theorem hears_none (E : Evidence ν β) : E.hears none none = E := by
  simp [hears]

@[simp] theorem hears_hears (E : Evidence ν β) (answer : Option (RouteResult ν))
    (settled : Option (String × Settled ν β)) :
    (E.hears none settled).hears answer none = E.hears answer settled := by
  simp [hears]

/-- No send has been served. -/
def Unserved (E : Evidence ν β) : Prop := ∀ id sent, (id, .ok sent) ∉ E.settled

end Evidence

/-- A round that records an answer. -/
def RoundOf (decision : RouteResult ν) (round : DecisionRound ν) : Prop :=
  ∃ reason, round = { roundFor decision with failureReason := reason }

theorem roundOf_roundFor (decision : RouteResult ν) : RoundOf decision (roundFor decision) :=
  ⟨none, roundFor_eq decision⟩

/-- A round that rests on `E`: an answer, with the failure of the send to its pick, if one is
recorded. -/
def Reported (E : Evidence ν β) (round : DecisionRound ν) : Prop :=
  ∃ decision ∈ E.answers, ∃ reason,
    (∀ f, reason = some f → ∃ id err, decision.outcome = .ok id ∧
      (id, .error (.request err)) ∈ E.settled ∧ f = ⟨err.kind, err.status⟩) ∧
    round = { roundFor decision with failureReason := reason }

/-- A decision that rests on it. -/
structure Recorded (deps : RouteDeps ν β) (E : Evidence ν β) (d : Decision ν) : Prop where
  nonempty : d.rounds ≠ []
  rounds : ∀ round ∈ d.rounds, Reported E round
  chosen : ∀ id, d.chosenReplicaId = some id →
    ∃ sent, (id, .ok sent) ∈ E.settled ∧ d.latencyMs = some sent.latencyMs
  inOrder : WritesServed deps → List.Forall₂ RoundOf E.answers d.rounds
  unserved : WritesServed deps → d.chosenReplicaId = none → E.Unserved

/-- The answer a handler has no round for yet. -/
def Handler.awaited (h : Handler ν β) : List (RouteResult ν) :=
  match h.phase with
  | .routing => []
  | .sending decision _ => [decision]
  | .responded _ => []
  | .rejected _ => []

/-- What a request holds rests on what it has heard. -/
structure Handler.Heard (deps : RouteDeps ν β) (E : Evidence ν β) (h : Handler ν β) : Prop where
  rounds : ∀ round ∈ h.rounds, Reported E round
  pending : ∀ decision replicaId, h.phase = .sending decision replicaId →
    decision ∈ E.answers ∧ decision.outcome = .ok replicaId
  inOrder : WritesServed deps → ∃ past, E.answers = past ++ h.awaited ∧
    List.Forall₂ RoundOf past h.rounds
  unserved : WritesServed deps → h.phase.finished = false → E.Unserved

/-- And what it records does, once it is over. -/
structure Handler.Tells (deps : RouteDeps ν β) (E : Evidence ν β)
    (out : Handler ν β × List (Call ν β)) : Prop where
  heard : out.1.Heard deps E
  decisions : ∀ d ∈ decisionsOf out.2,
    Recorded deps E d ∧ d.requestId = out.1.requestId ∧ out.1.phase.finished = true
  told : out.1.phase.finished = true → decisionsOf out.2 ≠ []

section stretch

variable {E E' : Evidence ν β} {decision : RouteResult ν} {rounds : List (DecisionRound ν)}

theorem Reported.mono {round : DecisionRound ν} (hr : Reported E round)
    (hanswers : E.answers ⊆ E'.answers) (hsettled : E.settled ⊆ E'.settled) :
    Reported E' round := by
  obtain ⟨decision, hanswer, reason, hreason, heq⟩ := hr
  refine ⟨decision, hanswers hanswer, reason, fun f hf => ?_, heq⟩
  obtain ⟨id, err, ho, herr, hfailure⟩ := hreason f hf
  exact ⟨id, err, ho, hsettled herr, hfailure⟩

theorem Reported.hears {round : DecisionRound ν} (hr : Reported E round)
    (answer : Option (RouteResult ν)) (settled : Option (String × Settled ν β)) :
    Reported (E.hears answer settled) round :=
  hr.mono (List.subset_append_left _ _) (List.subset_append_left _ _)

theorem reported_concat (hr : ∀ round ∈ rounds, Reported E round) (hanswer : decision ∈ E.answers)
    {reason : Option FailureReason}
    (hreason : ∀ f, reason = some f → ∃ id err, decision.outcome = .ok id ∧
      (id, .error (.request err)) ∈ E.settled ∧ f = ⟨err.kind, err.status⟩) :
    ∀ round ∈ rounds ++ [{ roundFor decision with failureReason := reason }],
      Reported E round := by
  intro round hround
  rcases List.mem_append.mp hround with hround | hround
  · exact hr round hround
  · exact ⟨decision, hanswer, reason, hreason, List.mem_singleton.mp hround⟩

theorem reported_push (hr : ∀ round ∈ rounds, Reported E round) (hanswer : decision ∈ E.answers) :
    ∀ round ∈ rounds ++ [roundFor decision], Reported E round := by
  rw [roundFor_eq]
  exact reported_concat hr hanswer fun f hf => by cases hf

theorem inOrder_concat {round : DecisionRound ν}
    (h : ∃ past, E.answers = past ++ [decision] ∧ List.Forall₂ RoundOf past rounds)
    (hround : RoundOf decision round) : List.Forall₂ RoundOf E.answers (rounds ++ [round]) := by
  obtain ⟨past, heq, hpast⟩ := h
  rw [heq]
  exact List.rel_append hpast (.cons hround .nil)

theorem Evidence.Unserved.failed (h : E.Unserved) (id : String) (err : SendError) :
    (E.hears none (some (id, .error err))).Unserved := by
  intro id' sent hmem
  rcases List.mem_append.mp hmem with hmem | hmem
  · exact h id' sent hmem
  · cases List.mem_singleton.mp hmem

variable (deps : RouteDeps ν β) {h : Handler ν β} (ambient : Ambient) {replicaId : String}

theorem awaited_of_finished (hfinished : h.phase.finished = true) : h.awaited = [] := by
  unfold Handler.awaited
  cases hphase : h.phase with
  | sending decision replicaId =>
      rw [hphase] at hfinished
      cases hfinished
  | _ => rfl

theorem heard_of_finished (hfinished : h.phase.finished = true)
    (hr : ∀ round ∈ h.rounds, Reported E round)
    (hin : WritesServed deps → List.Forall₂ RoundOf E.answers h.rounds) : h.Heard deps E := by
  refine ⟨hr, fun decision replicaId hphase => ?_, fun hw => ⟨E.answers, ?_, hin hw⟩,
    fun _ hopen => ?_⟩
  · rw [hphase] at hfinished
    cases hfinished
  · rw [awaited_of_finished hfinished, List.append_nil]
  · cases hfinished.symm.trans hopen

theorem tells_finish (hne : h.rounds ≠ []) (hr : ∀ round ∈ h.rounds, Reported E round)
    (hin : WritesServed deps → List.Forall₂ RoundOf E.answers h.rounds)
    (hun : WritesServed deps → E.Unserved) (id atTime : String) (res : RouteResponse ν β) :
    Handler.Tells deps E ((h.respond deps res).1,
      .recordDecision (h.decision none none id atTime) :: (h.respond deps res).2) := by
  have hrecorded : Recorded deps E (h.decision none none id atTime) :=
    ⟨hne, hr, (fun id hid => by cases hid), hin, fun hw _ => hun hw⟩
  unfold Handler.respond
  cases deps.writeError res with
  | none =>
      refine ⟨heard_of_finished deps rfl hr hin, fun d hd => ?_, by simp [decisionsOf]⟩
      obtain rfl := List.mem_singleton.mp hd
      exact ⟨hrecorded, rfl, rfl⟩
  | some message =>
      refine ⟨heard_of_finished deps rfl hr hin, fun d hd => ?_, by simp [decisionsOf]⟩
      obtain rfl := List.mem_singleton.mp hd
      exact ⟨hrecorded, rfl, rfl⟩

theorem onRouted_tells (hh : h.Heard deps E) (hphase : h.phase = .routing)
    (decision : RouteResult ν) :
    Handler.Tells deps (E.hears (some decision) none) (h.onRouted deps decision ambient) := by
  have hmem : decision ∈ (E.hears (some decision) none).answers := by simp [Evidence.hears]
  have hrounds : ∀ round ∈ h.rounds, Reported (E.hears (some decision) none) round :=
    fun round hround => (hh.rounds round hround).hears _ _
  have hpast : WritesServed deps → ∃ past,
      (E.hears (some decision) none).answers = past ++ [decision] ∧
        List.Forall₂ RoundOf past h.rounds := by
    intro hw
    obtain ⟨past, heq, hin⟩ := hh.inOrder hw
    simp only [Handler.awaited, hphase, List.append_nil] at heq
    exact ⟨past, by rw [← heq]; rfl, hin⟩
  have hopen : WritesServed deps → (E.hears (some decision) none).Unserved := by
    intro hw id sent hsent
    have hsent : (id, .ok sent) ∈ E.settled := by simpa [Evidence.hears] using hsent
    exact hh.unserved hw (by rw [hphase]; rfl) id sent hsent
  unfold Handler.onRouted
  cases ho : decision.outcome with
  | ok replicaId =>
      refine ⟨⟨hrounds, ?_, hpast, fun hw _ => hopen hw⟩, by simp [decisionsOf],
        fun hfinished => by cases hfinished⟩
      rintro _ _ ⟨⟩
      exact ⟨hmem, ho⟩
  | error error =>
      have hpushed : WritesServed deps → List.Forall₂ RoundOf
          (E.hears (some decision) none).answers (h.pushRound (roundFor decision)).rounds :=
        fun hw => inOrder_concat (hpast hw) (roundOf_roundFor decision)
      obtain ⟨hheard, hdecisions, htold⟩ := tells_finish deps
        (h := h.pushRound (roundFor decision)) (by simp [Handler.pushRound])
        (reported_push hrounds hmem) hpushed hopen
        (ambient.uuid 0) (ambient.clock 0)
        ⟨503, (h.pushRound (roundFor decision)).unroutableBody error⟩
      exact ⟨hheard, hdecisions, htold⟩

/-- What a handler has before it when its send has settled. -/
structure Settles (E : Evidence ν β) (h : Handler ν β) (decision : RouteResult ν)
    (replicaId : String) : Prop where
  rounds : ∀ round ∈ h.rounds, Reported E round
  answer : decision ∈ E.answers
  picked : decision.outcome = .ok replicaId
  inOrder : WritesServed deps → ∃ past, E.answers = past ++ [decision] ∧
    List.Forall₂ RoundOf past h.rounds

theorem Handler.Heard.settles (hh : h.Heard deps E) (hphase : h.phase = .sending decision replicaId)
    (settled : Settled ν β) :
    Settles deps (E.hears none (some (replicaId, settled))) h decision replicaId := by
  obtain ⟨hanswer, hpicked⟩ := hh.pending decision replicaId hphase
  have hsame : (E.hears none (some (replicaId, settled))).answers = E.answers :=
    List.append_nil _
  refine ⟨fun round hround => (hh.rounds round hround).hears _ _, hsame ▸ hanswer, hpicked,
    fun hw => ?_⟩
  obtain ⟨past, heq, hin⟩ := hh.inOrder hw
  simp only [Handler.awaited, hphase] at heq
  exact ⟨past, hsame.trans heq, hin⟩

theorem onFatal_tells (hs : Settles deps E h decision replicaId) {err : SendError}
    (herr : ∀ e, err = .request e → (replicaId, .error (.request e)) ∈ E.settled)
    (hun : WritesServed deps → E.Unserved) :
    Handler.Tells deps E (h.onFatal deps decision replicaId err ambient) := by
  refine tells_finish deps (by simp [Handler.pushRound])
    (reported_concat hs.rounds hs.answer fun f hf => ?_)
    (fun hw => inOrder_concat (hs.inOrder hw) ⟨_, rfl⟩) hun _ _ _
  cases err with
  | request e =>
      obtain rfl := Option.some.inj hf
      exact ⟨replicaId, e, hs.picked, herr e rfl, rfl⟩
  | other detail => cases hf

theorem onRetryable_tells (hs : Settles deps E h decision replicaId) {err : ReplicaRequestError}
    (herr : (replicaId, .error (.request err)) ∈ E.settled)
    (hun : WritesServed deps → E.Unserved) :
    Handler.Tells deps E (h.onRetryable deps decision replicaId err ambient) := by
  have hrounds : ∀ round ∈ (h.pushFailure decision replicaId err).rounds, Reported E round := by
    refine reported_concat hs.rounds hs.answer fun f hf => ?_
    obtain rfl := Option.some.inj hf
    exact ⟨replicaId, err, hs.picked, herr, rfl⟩
  have hin : WritesServed deps →
      List.Forall₂ RoundOf E.answers (h.pushFailure decision replicaId err).rounds :=
    fun hw => inOrder_concat (hs.inOrder hw) ⟨_, rfl⟩
  simp only [Handler.onRetryable]
  split_ifs
  · obtain ⟨hheard, hdecisions, htold⟩ := tells_finish deps (by simp [Handler.pushFailure]) hrounds
      hin hun (ambient.uuid 1) (ambient.clock 1)
      ⟨503, .allReplicasFailed (h.pushFailure decision replicaId err).attempts
        (h.pushFailure decision replicaId err).requestId⟩
    exact ⟨hheard, hdecisions, htold⟩
  · refine ⟨⟨hrounds, by simp, fun hw => ⟨E.answers, (List.append_nil _).symm, hin hw⟩,
      fun hw _ => hun hw⟩, by simp [decisionsOf], fun hfinished => by cases hfinished⟩

theorem served_tells (hs : Settles deps E h decision replicaId) {sent : SendResult ν β}
    (hsent : (replicaId, .ok sent) ∈ E.settled) (res : RouteResponse ν β) (id atTime : String) :
    Handler.Tells deps E ({ h.pushRound (roundFor decision) with phase := .responded res },
      [.recordDecision ((h.pushRound (roundFor decision)).decision (some replicaId)
        (some sent.latencyMs) id atTime), .respond res]) := by
  have hrounds := reported_push hs.rounds hs.answer
  have hin : WritesServed deps →
      List.Forall₂ RoundOf E.answers (h.rounds ++ [roundFor decision]) :=
    fun hw => inOrder_concat (hs.inOrder hw) (roundOf_roundFor decision)
  refine ⟨heard_of_finished deps rfl hrounds hin, fun d hd => ?_, by simp [decisionsOf]⟩
  obtain rfl := List.mem_singleton.mp hd
  refine ⟨⟨by simp [Handler.decision, Handler.pushRound], hrounds, ?_, hin,
    fun _ hnone => by cases hnone⟩, rfl, rfl⟩
  rintro _ ⟨⟩
  exact ⟨sent, hsent, rfl⟩

theorem onSettled_tells (hh : h.Heard deps E) (hphase : h.phase = .sending decision replicaId)
    (settled : Settled ν β) : Handler.Tells deps (E.hears none (some (replicaId, settled)))
      (h.onSettled deps decision replicaId settled ambient) := by
  have hs := hh.settles deps hphase settled
  have hsettled : (replicaId, settled) ∈ (E.hears none (some (replicaId, settled))).settled := by
    simp [Evidence.hears]
  cases settled with
  | ok sent =>
      simp only [Handler.onSettled]
      cases hwrite : deps.writeError _ with
      | none => exact served_tells deps hs hsettled _ _ _
      | some message =>
          -- nothing is said of the order of these rounds: the response cannot be written
          have hnot : ¬ WritesServed deps := fun hw => by
            rw [hw _ rfl] at hwrite
            cases hwrite
          have hpushed : Settles deps (E.hears none (some (replicaId, .ok sent)))
              (h.pushRound (roundFor decision)) decision replicaId :=
            ⟨reported_push hs.rounds hs.answer, hs.answer, hs.picked, fun hw => absurd hw hnot⟩
          have herr : ∀ e, SendError.other message = .request e →
              (replicaId, .error (.request e)) ∈
                (E.hears none (some (replicaId, .ok sent))).settled :=
            fun e he => by cases he
          obtain ⟨hheard, hdecisions, -⟩ :=
            onFatal_tells deps ambient hpushed herr fun hw => absurd hw hnot
          obtain ⟨hsame, hfinished, -⟩ := onFatal_went deps (h.pushRound (roundFor decision))
            decision ambient replicaId (.other message)
          refine ⟨hheard, fun d hd => ?_, by simp [decisionsOf]⟩
          rcases List.mem_cons.mp hd with rfl | hd
          · have hne : ((h.pushRound (roundFor decision)).onFatal deps decision replicaId
                (.other message) ambient).1.rounds ≠ [] := by
              simp only [Handler.onFatal, Handler.respond]
              split <;> simp [Handler.pushRound]
            refine ⟨⟨hne, hheard.rounds, ?_, fun hw => absurd hw hnot, fun hw => absurd hw hnot⟩,
              hsame.requestId.symm, hfinished⟩
            rintro _ ⟨⟩
            exact ⟨sent, hsettled, rfl⟩
          · exact hdecisions d hd
  | error err =>
      have hun : WritesServed deps → (E.hears none (some (replicaId, .error err))).Unserved :=
        fun hw => (hh.unserved hw (by rw [hphase]; rfl)).failed replicaId err
      cases err with
      | other detail => exact onFatal_tells deps ambient hs (fun e he => by cases he) hun
      | request err =>
          simp only [Handler.onSettled]
          split_ifs with hretry
          · exact onRetryable_tells deps ambient hs hsettled hun
          · refine onFatal_tells deps ambient hs (fun e he => ?_) hun
            obtain rfl := SendError.request.inj he
            exact hsettled

end stretch

/-! ### What the stores tell -/

namespace System

/-- What request `i` goes on from in a step: nothing, if it begins. -/
inductive GoesOn (s : System ν β) (i : ℕ) :
    Input ν β → Option (String × Settled ν β) → Prop where
  | begins {requestId : String} {payload : β} {ambient : Ambient} (hlast : i = s.handlers.length) :
      GoesOn s i (.request requestId payload ambient) none
  | resumes {h : Handler ν β} {decision : RouteResult ν} {replicaId : String}
      {settled : Settled ν β} {ambient ambient' : Ambient} (hget : s.handlers[i]? = some h)
      (hphase : h.phase = .sending decision replicaId) :
      GoesOn s i (.settle i settled ambient ambient') (some (replicaId, settled))

/-- What request `i` excludes when it asks the engine in a step: what it has tried by then. -/
inductive Asks (s : System ν β) (i : ℕ) : Input ν β → List String → Prop where
  | begins {requestId : String} {payload : β} {ambient : Ambient} (hlast : i = s.handlers.length) :
      Asks s i (.request requestId payload ambient) []
  | resumes {h : Handler ν β} {decision : RouteResult ν} {replicaId : String}
      {settled : Settled ν β} {ambient ambient' : Ambient} (hget : s.handlers[i]? = some h)
      (hphase : h.phase = .sending decision replicaId) :
      Asks s i (.settle i settled ambient ambient') (h.exclude ++ [replicaId])

/-- The engine's answer to request `i` in a step. -/
def answerIn (i : ℕ) (x : Transition (System ν β) (Input ν β × Report ν β)) :
    Option (RouteResult ν) :=
  if x.pre.requestOf x.label.1 = i then (routedOf x.label.2.calls).head? else none

/-- The send request `i` goes on from in a step, and what it came to. -/
def settledIn (i : ℕ) (x : Transition (System ν β) (Input ν β × Report ν β)) :
    Option (String × Settled ν β) :=
  match x.label.1 with
  | .settle j settled _ _ => if j = i then (x.pre.sendingTo i).map fun id => (id, settled) else none
  | _ => none

/-- What a run holds for the records of request `i`. -/
def evidence (tr : Trace ν β) (i : ℕ) : Evidence ν β :=
  ⟨tr.filterMap (answerIn i), tr.filterMap (settledIn i)⟩

theorem evidence_concat (tr : Trace ν β) (x : Transition (System ν β) (Input ν β × Report ν β))
    (i : ℕ) : evidence (tr ++ [x]) i = (evidence tr i).hears (answerIn i x) (settledIn i x) := by
  simp only [evidence, Evidence.hears, List.filterMap_append]
  cases ha : answerIn i x <;> cases hs : settledIn i x <;> simp [ha, hs]

/-- What the system holds of each request rests on the evidence of that request. -/
structure Heard (deps : RouteDeps ν β) (E : ℕ → Evidence ν β) (s : System ν β) : Prop where
  handlers : ∀ (i : ℕ) (h : Handler ν β), s.handlers[i]? = some h → h.Heard deps (E i)
  decisions : ∀ d ∈ s.control.decisions, ∃ i h, s.handlers[i]? = some h ∧
    h.requestId = d.requestId ∧ h.phase.finished = true ∧ Recorded deps (E i) d
  told : ∀ h ∈ s.handlers, h.phase.finished = true →
    ∃ d ∈ s.control.decisions, d.requestId = h.requestId
  /-- Nothing has been heard by a request that is still to come. -/
  fresh : ∀ i, s.handlers.length ≤ i → E i = {}

variable [JsNumber ν] {th : Thresholds} {deps : RouteDeps ν β} {cp cp' : ControlPlane ν}
  {ambient ambient' : Ambient} {E : Evidence ν β} {F F' : ℕ → Evidence ν β} {h h' : Handler ν β}
  {calls : List (Call ν β)} {s s' s₀ : System ν β} {report : Report ν β}
  {decision : RouteResult ν} {replicaId : String} {settled : Settled ν β} {i : ℕ}

/-! ### The engine's answers -/

omit [JsNumber ν] in
theorem routedOf_onSettled (deps : RouteDeps ν β) (h : Handler ν β) (decision : RouteResult ν)
    (replicaId : String) (ambient : Ambient) (settled : Settled ν β) :
    routedOf (h.onSettled deps decision replicaId settled ambient).2 = [] := by
  rcases onSettled_calls deps h decision replicaId ambient settled with
    ⟨hcloses, -⟩ | ⟨err, rest, -, -, heq, -, hrouted, -⟩
  · exact hcloses.routed
  · rw [heq]
    exact hrouted

theorem loopHead_routed (hl : loopHead th deps cp h ambient = .ok (cp', h', calls)) :
    routedOf calls =
      [(cp.engine.route cp'.registry.items cp'.config (some h.exclude)).1] := by
  obtain ⟨decisions, heq⟩ := loopHead_eq th deps cp h ambient
  obtain ⟨rfl, hpair⟩ := Prod.mk.inj (Except.ok.inj (heq.symm.trans hl))
  obtain ⟨rfl, rfl⟩ := Prod.mk.inj hpair
  exact (onRouted_calls deps h (cp.route (some h.exclude)).1 ambient).2.1

/-- A request that goes on asks once, excluding its pick as well, or not at all. -/
theorem resume_routed (hresume : resume th deps cp h decision replicaId settled ambient ambient' =
      .ok (cp', h', calls)) : routedOf calls = [] ∨
    h'.exclude = h.exclude ++ [replicaId] ∧ ∃ engine : Engine, routedOf calls =
      [(engine.route cp'.registry.items cp'.config (some (h.exclude ++ [replicaId]))).1] := by
  have hnone := routedOf_onSettled deps h decision replicaId ambient settled
  obtain ⟨hwent, -⟩ := onSettled_went deps h decision ambient replicaId settled
  simp only [resume] at hresume
  generalize h.onSettled deps decision replicaId settled ambient = out at hresume hnone hwent
  obtain ⟨cp₁, -, h₂⟩ := ok_of_bind hresume
  split at h₂
  next hrouting =>
    obtain ⟨⟨cp₂, h₃, calls₂⟩, hl, h₂⟩ := ok_of_bind h₂
    obtain ⟨rfl, hpair⟩ := Prod.mk.inj (Except.ok.inj h₂)
    obtain ⟨rfl, rfl⟩ := Prod.mk.inj hpair
    have hexclude : out.1.exclude = h.exclude ++ [replicaId] := by
      cases hwent with
      | retried _ _ _ hexclude _ => exact hexclude
      | failed _ _ hfinished _ => rw [hrouting] at hfinished; cases hfinished
      | served _ hfinished _ => rw [hrouting] at hfinished; cases hfinished
    obtain ⟨-, hsame, -⟩ := loopHead_rests hl
    rw [routedOf_append, hnone, List.nil_append, loopHead_routed hl, hexclude]
    exact .inr ⟨hsame.exclude.trans hexclude, cp₁.engine, rfl⟩
  next hrouting =>
    obtain ⟨rfl, hpair⟩ := Prod.mk.inj (Except.ok.inj h₂)
    obtain ⟨rfl, rfl⟩ := Prod.mk.inj hpair
    exact .inl hnone

omit [JsNumber ν] in
theorem mem_routedOf_of_answer {x : Transition (System ν β) (Input ν β × Report ν β)}
    (hanswer : answerIn i x = some decision) : decision ∈ routedOf x.label.2.calls := by
  unfold answerIn at hanswer
  split_ifs at hanswer
  exact List.mem_of_mem_head? hanswer

/-- An answer of the engine is to a request that asks, on the registry as the step leaves it. -/
theorem asked_of_answer {a : Input ν β} (h : s.step th deps a = .ok (s', report))
    (hanswer : answerIn i ⟨s, (a, report), s'⟩ = some decision) : ∃ exclude, Asks s i a exclude ∧
      (∃ hd, s'.handlers[i]? = some hd ∧ hd.exclude = exclude) ∧
      ∃ engine : Engine, decision =
        (engine.route s'.control.registry.items s'.control.config (some exclude)).1 := by
  unfold answerIn at hanswer
  split_ifs at hanswer with hi
  replace hi : s.requestOf a = i := hi
  replace hanswer : (routedOf report.calls).head? = some decision := hanswer
  subst hi
  cases a with
  | request requestId payload ambient =>
      obtain ⟨⟨cp, h', calls⟩, hl, h⟩ := ok_of_bind h
      obtain ⟨rfl, rfl⟩ := Prod.mk.inj (Except.ok.inj h)
      obtain ⟨-, hsame, -⟩ := loopHead_rests hl
      rw [loopHead_routed hl] at hanswer
      exact ⟨[], .begins rfl, ⟨_, List.getElem?_concat_length, hsame.exclude⟩, s.control.engine,
        (Option.some.inj hanswer).symm⟩
  | settle i settled ambient ambient' =>
      simp only [step] at h
      split at h
      · cases h
      next old hget =>
      split at h
      next decision' replicaId hphase =>
        obtain ⟨⟨cp, h', calls⟩, hresume, h⟩ := ok_of_bind h
        obtain ⟨rfl, rfl⟩ := Prod.mk.inj (Except.ok.inj h)
        rcases resume_routed hresume with hnone | ⟨hexclude, engine, hrouted⟩
        · rw [hnone] at hanswer
          cases hanswer
        · obtain ⟨hlt, -⟩ := List.getElem?_eq_some_iff.mp hget
          rw [hrouted] at hanswer
          exact ⟨_, .resumes hget hphase, ⟨_, List.getElem?_set_self hlt, hexclude⟩, engine,
            (Option.some.inj hanswer).symm⟩
      · cases h
  | probed replicaId result now eventId =>
      obtain ⟨⟨cp, out⟩, -, h⟩ := ok_of_bind h
      obtain ⟨rfl, rfl⟩ := Prod.mk.inj (Except.ok.inj h)
      cases hanswer
  | tool call =>
      obtain ⟨⟨cp, out⟩, -, h⟩ := ok_of_bind h
      obtain ⟨rfl, rfl⟩ := Prod.mk.inj (Except.ok.inj h)
      cases hanswer

omit [JsNumber ν] in
theorem goesOn_of_settledIn {a : Input ν β}
    (hsettled : settledIn i ⟨s, (a, report), s'⟩ = some (replicaId, settled)) :
    GoesOn s i a (some (replicaId, settled)) := by
  cases a with
  | settle j settled' ambient ambient' =>
      simp only [settledIn] at hsettled
      split_ifs at hsettled with hj
      subst hj
      obtain ⟨id, hto, hpair⟩ := Option.map_eq_some_iff.mp hsettled
      obtain ⟨rfl, rfl⟩ := Prod.mk.inj hpair
      obtain ⟨hd, decision, hget, hphase⟩ := sendingTo_eq_some_iff.mp hto
      exact .resumes hget hphase
  | _ => cases hsettled

/-! ### Step by step -/

theorem loopHead_tells (hl : loopHead th deps cp h ambient = .ok (cp', h', calls))
    (hh : h.Heard deps E) (hphase : h.phase = .routing) :
    Handler.Tells deps (E.hears (routedOf calls).head? none) (h', calls) ∧
      cp'.decisions = cp.decisions ++ decisionsOf calls := by
  obtain ⟨cp₁, h₁, h₂⟩ := ok_of_bind hl
  have hdecisions : cp₁.decisions = (cp.route (some h.exclude)).2.decisions ++
      decisionsOf (h.onRouted deps (cp.route (some h.exclude)).1 ambient).2 :=
    decisions_of_performAll h₁
  obtain ⟨-, hrouted, -⟩ := onRouted_calls deps h (cp.route (some h.exclude)).1 ambient
  have htells := onRouted_tells deps ambient hh hphase (cp.route (some h.exclude)).1
  obtain ⟨hcp, hpair⟩ := Prod.mk.inj (Except.ok.inj h₂)
  replace hpair : h.onRouted deps (cp.route (some h.exclude)).1 ambient = (h', calls) := hpair
  rw [hpair] at hdecisions hrouted htells
  rw [hrouted]
  exact ⟨htells, hcp ▸ hdecisions⟩

theorem resume_tells (hresume : resume th deps cp h decision replicaId settled ambient ambient' =
      .ok (cp', h', calls)) (hh : h.Heard deps E) (hphase : h.phase = .sending decision replicaId) :
    Handler.Tells deps (E.hears (routedOf calls).head? (some (replicaId, settled))) (h', calls) ∧
      cp'.decisions = cp.decisions ++ decisionsOf calls := by
  have htells := onSettled_tells deps ambient hh hphase settled
  have hnone := routedOf_onSettled deps h decision replicaId ambient settled
  simp only [resume] at hresume
  generalize h.onSettled deps decision replicaId settled ambient = out at hresume htells hnone
  obtain ⟨cp₁, h₁, h₂⟩ := ok_of_bind hresume
  have hfirst := decisions_of_performAll h₁
  split at h₂
  next hrouting =>
    obtain ⟨⟨cp₂, h₃, calls₂⟩, hl, h₂⟩ := ok_of_bind h₂
    obtain ⟨rfl, hpair⟩ := Prod.mk.inj (Except.ok.inj h₂)
    obtain ⟨rfl, rfl⟩ := Prod.mk.inj hpair
    -- a request that goes round again has recorded nothing
    have hsilent : decisionsOf out.2 = [] := by
      refine List.eq_nil_iff_forall_not_mem.mpr fun d hd => ?_
      obtain ⟨-, -, hfinished⟩ := htells.decisions d hd
      rw [hrouting] at hfinished
      cases hfinished
    obtain ⟨⟨hheard, hdecisions, htold⟩, hsecond⟩ := loopHead_tells hl htells.heard hrouting
    rw [routedOf_append, hnone, List.nil_append]
    have hall : decisionsOf (out.2 ++ calls₂) = decisionsOf calls₂ := by
      rw [decisionsOf_append, hsilent, List.nil_append]
    rw [Evidence.hears_hears] at hheard hdecisions
    refine ⟨⟨hheard, ?_, ?_⟩, ?_⟩
    · rw [hall]
      exact hdecisions
    · rw [hall]
      exact htold
    · rw [hall, hsecond, hfirst, hsilent, List.append_nil]
  next hrouting =>
    obtain ⟨rfl, hpair⟩ := Prod.mk.inj (Except.ok.inj h₂)
    obtain ⟨rfl, rfl⟩ := Prod.mk.inj hpair
    rw [hnone]
    exact ⟨htells, hfirst⟩

omit [JsNumber ν] in
theorem Heard.of_tells (hs : s.Heard deps F) (htells : Handler.Tells deps (F' i) (h', calls))
    (hsame : ∀ k, k ≠ i → F' k = F k)
    (hdecisions : s'.control.decisions = s.control.decisions ++ decisionsOf calls)
    (hget : s'.handlers[i]? = some h') (hothers : ∀ k, k ≠ i → s'.handlers[k]? = s.handlers[k]?)
    (hlength : s.handlers.length ≤ s'.handlers.length)
    (hopen : ∀ h, s.handlers[i]? = some h → h.phase.finished = false) : s'.Heard deps F' := by
  refine ⟨fun k hk hgetk => ?_, fun d hd => ?_, fun hk hmem hfinished => ?_, fun k hk => ?_⟩
  · by_cases hki : k = i
    · subst hki
      obtain rfl := Option.some.inj (hget.symm.trans hgetk)
      exact htells.heard
    · rw [hothers k hki] at hgetk
      rw [hsame k hki]
      exact hs.handlers k hk hgetk
  · rw [hdecisions] at hd
    rcases List.mem_append.mp hd with hd | hd
    · obtain ⟨k, hk, hgetk, hid, hfinished, hrecorded⟩ := hs.decisions d hd
      have hki : k ≠ i := by
        rintro rfl
        cases (hopen hk hgetk).symm.trans hfinished
      exact ⟨k, hk, (hothers k hki).trans hgetk, hid, hfinished, (hsame k hki).symm ▸ hrecorded⟩
    · obtain ⟨hrecorded, hid, hfinished⟩ := htells.decisions d hd
      exact ⟨i, h', hget, hid.symm, hfinished, hrecorded⟩
  · obtain ⟨k, hgetk⟩ := List.getElem?_of_mem hmem
    rw [hdecisions]
    by_cases hki : k = i
    · subst hki
      obtain rfl := Option.some.inj (hget.symm.trans hgetk)
      obtain ⟨d, hd⟩ := List.exists_mem_of_ne_nil _ (htells.told hfinished)
      exact ⟨d, List.mem_append_right _ hd, (htells.decisions d hd).2.1⟩
    · rw [hothers k hki] at hgetk
      obtain ⟨d, hd, hid⟩ := hs.told hk (List.mem_of_getElem? hgetk) hfinished
      exact ⟨d, List.mem_append_left _ hd, hid⟩
  · obtain ⟨hlt, -⟩ := List.getElem?_eq_some_iff.mp hget
    rw [hsame k (by omega)]
    exact hs.fresh k (hlength.trans hk)

omit [JsNumber ν] in
theorem Heard.of_quiet (hs : s.Heard deps F) (hsame : ∀ k, F' k = F k)
    (hdecisions : s'.control.decisions = s.control.decisions)
    (hhandlers : s'.handlers = s.handlers) : s'.Heard deps F' := by
  obtain rfl : F' = F := funext hsame
  refine ⟨?_, ?_, ?_, ?_⟩
  · rw [hhandlers]
    exact hs.handlers
  · rw [hdecisions, hhandlers]
    exact hs.decisions
  · rw [hdecisions, hhandlers]
    exact hs.told
  · rw [hhandlers]
    exact hs.fresh

omit [JsNumber ν] in
/-- A step adds nothing to the evidence of a request it does not run. -/
theorem unheard (a : Input ν β) {k : ℕ} (hk : k ≠ s.requestOf a) :
    (F k).hears (answerIn k ⟨s, (a, report), s'⟩) (settledIn k ⟨s, (a, report), s'⟩) = F k := by
  have hanswer : answerIn k ⟨s, (a, report), s'⟩ = none := if_neg (Ne.symm hk)
  have hsettled : settledIn k ⟨s, (a, report), s'⟩ = none := by
    cases a with
    | settle j settled ambient ambient' => exact if_neg (Ne.symm hk)
    | _ => rfl
  rw [hanswer, hsettled, Evidence.hears_none]

/-- **What one step preserves.** -/
theorem Heard.step (hs : s.Heard deps F) {a : Input ν β}
    (h : s.step th deps a = .ok (s', report)) : s'.Heard deps fun i =>
      (F i).hears (answerIn i ⟨s, (a, report), s'⟩) (settledIn i ⟨s, (a, report), s'⟩) := by
  have hothers : ∀ k, k ≠ s.requestOf a → (F k).hears (answerIn k ⟨s, (a, report), s'⟩)
      (settledIn k ⟨s, (a, report), s'⟩) = F k := fun k => unheard a
  cases a with
  | request requestId payload ambient =>
      obtain ⟨⟨cp, h', calls⟩, hl, h⟩ := ok_of_bind h
      obtain ⟨rfl, rfl⟩ := Prod.mk.inj (Except.ok.inj h)
      have hnew : ({ requestId, payload } : Handler ν β).Heard deps (F s.handlers.length) := by
        rw [hs.fresh _ le_rfl]
        exact ⟨by simp, by simp, fun _ => ⟨[], rfl, .nil⟩, fun _ _ => by simp [Evidence.Unserved]⟩
      obtain ⟨htells, hdecisions⟩ := loopHead_tells hl hnew rfl
      refine hs.of_tells (i := s.handlers.length) ?_ hothers hdecisions List.getElem?_concat_length
        (fun k hk => ?_) (by simp) fun h hget => ?_
      · simp only [answerIn, requestOf, if_pos]
        exact htells
      · rcases Nat.lt_or_gt_of_ne hk with hlt | hgt
        · exact List.getElem?_append_left hlt
        · rw [List.getElem?_eq_none (by rw [List.length_append]; exact hgt),
            List.getElem?_eq_none hgt.le]
      · obtain ⟨hlt, -⟩ := List.getElem?_eq_some_iff.mp hget
        exact absurd hlt (lt_irrefl _)
  | settle i settled ambient ambient' =>
      simp only [System.step] at h
      split at h
      · cases h
      next old hget =>
      split at h
      next decision replicaId hphase =>
        obtain ⟨⟨cp, h', calls⟩, hresume, h⟩ := ok_of_bind h
        obtain ⟨rfl, rfl⟩ := Prod.mk.inj (Except.ok.inj h)
        obtain ⟨htells, hdecisions⟩ := resume_tells hresume (hs.handlers i old hget) hphase
        have hto : s.sendingTo i = some replicaId :=
          sendingTo_eq_some_iff.mpr ⟨old, decision, hget, hphase⟩
        obtain ⟨hlt, -⟩ := List.getElem?_eq_some_iff.mp hget
        refine hs.of_tells (i := i) ?_ hothers hdecisions (List.getElem?_set_self hlt)
          (fun k hk => List.getElem?_set_ne (Ne.symm hk)) (by simp) fun h hget' => ?_
        · simp only [answerIn, settledIn, requestOf, if_pos, hto, Option.map_some]
          exact htells
        · obtain rfl := Option.some.inj (hget.symm.trans hget')
          rw [hphase]
          rfl
      · cases h
  | probed replicaId result now eventId =>
      obtain ⟨⟨cp, out⟩, hact, h⟩ := ok_of_bind h
      obtain ⟨rfl, rfl⟩ := Prod.mk.inj (Except.ok.inj h)
      refine hs.of_quiet (fun k => ?_) ((decisions_of_act hact).trans (List.append_nil _)) rfl
      simp [answerIn, settledIn, routedOf]
  | tool call =>
      obtain ⟨⟨cp, out⟩, hact, h⟩ := ok_of_bind h
      obtain ⟨rfl, rfl⟩ := Prod.mk.inj (Except.ok.inj h)
      refine hs.of_quiet (fun k => ?_) ((decisions_of_act hact).trans (List.append_nil _)) rfl
      simp [answerIn, settledIn, routedOf]

variable {tr : Trace ν β} {replicas : List Replica} {config : RoutingConfig ν}

/-- **The records of a run rest on it.** -/
theorem heard_of_exec (h₀ : boot replicas config = .ok s₀) (h : Exec (Step th deps) s₀ tr s) :
    s.Heard deps (evidence tr) := by
  induction h with
  | nil =>
      obtain ⟨hwire, hnone⟩ := wire_of_boot h₀
      obtain ⟨_, _, hcp⟩ := ok_of_bind hwire
      have hempty : s₀.control.decisions = [] := by rw [← Except.ok.inj hcp]
      exact ⟨by simp [hnone], by simp [hempty], by simp [hnone], fun _ _ => rfl⟩
  | @snoc tr s₁ s₂ label _ hs ih =>
      obtain ⟨a, report⟩ := label
      have hstep := ih.step hs
      rwa [← funext fun i => evidence_concat tr ⟨s₁, (a, report), s₂⟩ i] at hstep

end System

/-! ### What the registry shows -/

/-- The load and the latency a replica shows. -/
def ReplicaRuntime.figures (runtime : ReplicaRuntime ν) : ν × Option ν :=
  (runtime.inFlight, runtime.latencyMs)

section figures

variable [JsNumber ν] {th : Thresholds} {deps : RouteDeps ν β}

/-- What a probe leaves of them. -/
def HealthResult.figures (result : HealthResult ν) : ν × Option ν :=
  (if result.alive then result.inFlight else JsNumber.ofNat 0, result.measurement)

namespace ControlPlane

/-- Only a probe writes them. -/
theorem figures_touch (th : Thresholds) (r : String) (a : Action ν) (state : ReplicaState ν) :
    (touch th r a state).runtime.figures =
      (probeOf r a).elim state.runtime.figures (·.figures) := by
  cases a with
  | probed id result now eventId => simp only [touch, probeOf]; split_ifs <;> rfl
  | eject id reason now eventId => simp only [touch, probeOf]; split_ifs <;> rfl
  | route exclude => rfl
  | recordEvent event => rfl
  | recordDecision decision => rfl
  | tool call =>
      cases call with
      | drainReplica id => simp only [touch, probeOf]; split_ifs <;> rfl
      | restoreReplica id => simp only [touch, probeOf]; split_ifs <;> rfl
      | setRoutingStrategy name => rfl
      | setScoringWeights weights => rfl

theorem figures_of_act {cp cp' : ControlPlane ν} {out : Output ν} (hm : cp.health.Mirrors)
    {a : Action ν} (h : cp.act th a = .ok (cp', out)) {r : String} {state : ReplicaState ν}
    (hget : cp'.registry.get? r = some state) : ∃ state₀, cp.registry.get? r = some state₀ ∧
      state.runtime.figures = (probeOf r a).elim state₀.runtime.figures (·.figures) := by
  rw [(act_touches hm h).2] at hget
  obtain ⟨state₀, hget₀, rfl⟩ := Option.map_eq_some_iff.mp hget
  exact ⟨state₀, hget₀, figures_touch th r a state₀⟩

end ControlPlane

namespace System

variable {s s' s₀ : System ν β} {report : Report ν β} {tr : Trace ν β} {replicas : List Replica}
  {config : RoutingConfig ν} {r : String} {state : ReplicaState ν}

theorem figures_of_step (hm : s.control.health.Mirrors) {a : Input ν β}
    (h : s.step th deps a = .ok (s', report)) (hget : s'.control.registry.get? r = some state) :
    ∃ state₀, s.control.registry.get? r = some state₀ ∧
      state.runtime.figures = (probeOf r a).elim state₀.runtime.figures (·.figures) := by
  obtain ⟨hcase, -, -⟩ := step_case h
  cases hcase with
  | quiet _ _ _ hprobe hsame =>
      have hnone : probeOf r a = none := by
        cases a <;> first | rfl | exact absurd rfl (hprobe _ _ _ _)
      rw [ControlPlane.registry, hsame.health] at hget
      exact ⟨state, hget, by rw [hnone]; rfl⟩
  | failed _ _ _ hprobe _ _ heject hsame =>
      have hnone : probeOf r a = none := by
        cases a <;> first | rfl | exact absurd rfl (hprobe _ _ _ _)
      rw [ControlPlane.registry, hsame.health] at hget
      rw [hnone]
      exact ControlPlane.figures_of_act hm heject hget
  | probed hact => exact ControlPlane.figures_of_act hm hact hget
  | tool hact => exact ControlPlane.figures_of_act hm hact hget

/-- **The registry shows what the last probe showed.** -/
theorem figures_of_run (h₀ : boot replicas config = .ok s₀) (h : Exec (Step th deps) s₀ tr s)
    (hget : s.control.registry.get? r = some state) :
    state.runtime.figures = (lastProbe r tr).elim (JsNumber.ofNat 0, none) (·.figures) := by
  induction h generalizing state with
  | nil =>
      obtain ⟨-, -, -, hlive⟩ := wire_spec (wire_of_boot h₀).1
      have hruntime : state.runtime = initialRuntime := congrArg Prod.fst (hlive r state hget)
      rw [hruntime]
      rfl
  | @snoc tr s t a hexec hs ih =>
      obtain ⟨state₀, hget₀, hfigures⟩ := figures_of_step (mirrors_of_exec h₀ hexec) hs hget
      unfold lastProbe at ih ⊢
      rw [hfigures, ih hget₀, List.filterMap_append]
      cases hp : probeOf r a.1 with
      | none => simp [hp]
      | some result => simp [hp]

end System

end figures

end WhyRouted
