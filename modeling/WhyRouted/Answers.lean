import WhyRouted.Progress
import WhyRouted.RetryLoop

/-! # What clients were answered

A run shows each client its response, and leaves its decisions in the log.  The two are made by
different calls of a stretch, and a stretch that goes round again makes neither.  When every
response can be written they come in pairs: `Concludes` says so of one stretch, `StepAnswers` of
one step, and `answers_logged` is what follows for whole runs, whatever requests, probes and
tools do in between. -/

namespace WhyRouted

variable {ν β : Type}

/-! ### Outcomes -/

/-- What a request came to: when, and who served it how fast if anyone did. -/
structure Outcome (ν : Type) where
  atTime : String
  replicaId : Option String
  latencyMs : Option ν

/-- The outcome the log tells. -/
def Decision.outcome (d : Decision ν) : Outcome ν := ⟨d.atTime, d.chosenReplicaId, d.latencyMs⟩

def RouteResponse.servedBy (res : RouteResponse ν β) : Option String :=
  if res.status = 200 then res.body.replicaId else none

def RouteResponse.servedLatency (res : RouteResponse ν β) : Option ν :=
  if res.status = 200 then res.body.latencyMs else none

/-- A response of `/route`: a 200 that names a replica and a latency, or a 502 or a 503. -/
def RouteResponse.Proper (res : RouteResponse ν β) : Prop :=
  (res.status = 200 ∧ res.body.replicaId ≠ none ∧ res.body.latencyMs ≠ none) ∨
    res.status = 502 ∨ res.status = 503

/-- A response, whose it is, and the stamp of the record made with it. -/
structure ClientAnswer (ν β : Type) where
  request : ℕ
  atTime : String
  res : RouteResponse ν β

def ClientAnswer.outcome (a : ClientAnswer ν β) : Outcome ν :=
  ⟨a.atTime, a.res.servedBy, a.res.servedLatency⟩

/-! ### One stretch -/

/-- A record and a response that agree; the response names no replica but the one sent to. -/
structure RecordAgrees (sentTo : Option String) (d : Decision ν) (res : RouteResponse ν β) :
    Prop where
  proper : res.Proper
  chosen : d.chosenReplicaId = res.servedBy
  latency : d.latencyMs = res.servedLatency
  sentTo : ∀ r, res.servedBy = some r → sentTo = some r

/-- What a stretch leaves: nothing while the request goes on, or one decision and one response. -/
inductive Concludes (sentTo : Option String) : Handler ν β × List (Call ν β) → Prop where
  | pending {h : Handler ν β} {calls : List (Call ν β)} (hp : ∀ res, h.phase ≠ .responded res)
      (hd : decisionsOf calls = []) (hr : responsesOf calls = []) : Concludes sentTo (h, calls)
  | answered {h : Handler ν β} {calls : List (Call ν β)} {d : Decision ν} {res : RouteResponse ν β}
      (hp : h.phase = .responded res) (hd : decisionsOf calls = [d])
      (hr : responsesOf calls = [res]) (hagrees : RecordAgrees sentTo d res) :
      Concludes sentTo (h, calls)

theorem Concludes.silent {sentTo : Option String} {out : Handler ν β × List (Call ν β)}
    (hc : Concludes sentTo out) (hp : ∀ res, out.1.phase ≠ .responded res) :
    decisionsOf out.2 = [] ∧ responsesOf out.2 = [] := by
  cases hc with
  | pending _ hd hr => exact ⟨hd, hr⟩
  | answered hp' _ _ _ => exact absurd hp' (hp _)

/-- A silent stretch and one that was sent nothing, together. -/
theorem Concludes.append {sentTo : Option String} {h : Handler ν β}
    {calls calls' : List (Call ν β)} (hc : Concludes none (h, calls'))
    (hd : decisionsOf calls = []) (hr : responsesOf calls = []) :
    Concludes sentTo (h, calls ++ calls') := by
  cases hc with
  | pending hp hd' hr' => exact .pending hp (by simp [hd, hd']) (by simp [hr, hr'])
  | answered hp hd' hr' hagrees =>
      refine .answered hp (by simp [hd, hd']) (by simp [hr, hr'])
        ⟨hagrees.proper, hagrees.chosen, hagrees.latency, fun r hserved => ?_⟩
      cases hagrees.sentTo r hserved

theorem agrees_of_failed {sentTo : Option String} {d : Decision ν} {res : RouteResponse ν β}
    (hstatus : res.status = 502 ∨ res.status = 503) (hchosen : d.chosenReplicaId = none)
    (hlatency : d.latencyMs = none) : RecordAgrees sentTo d res := by
  have hnot : ¬ res.status = 200 := by omega
  refine ⟨.inr hstatus, ?_, ?_, ?_⟩
  · rw [hchosen, RouteResponse.servedBy, if_neg hnot]
  · rw [hlatency, RouteResponse.servedLatency, if_neg hnot]
  · intro r hr
    rw [RouteResponse.servedBy, if_neg hnot] at hr
    cases hr

section stretch

variable {deps : RouteDeps ν β} (hw : ∀ res, deps.writeError res = none) (h : Handler ν β)
  (decision : RouteResult ν) (ambient : Ambient)

include hw

theorem onRouted_concludes : Concludes none (h.onRouted deps decision ambient) := by
  unfold Handler.onRouted
  cases decision.outcome with
  | error error =>
      simp only [Handler.respond_of_writes hw]
      exact .answered rfl rfl rfl (agrees_of_failed (.inr rfl) rfl rfl)
  | ok replicaId => exact .pending (by simp) rfl rfl

theorem onFatal_concludes (replicaId : String) (err : SendError) :
    Concludes (some replicaId) (h.onFatal deps decision replicaId err ambient) := by
  simp only [Handler.onFatal, Handler.respond_of_writes hw]
  exact .answered rfl rfl rfl (agrees_of_failed (.inl rfl) rfl rfl)

theorem onRetryable_concludes (replicaId : String) (err : ReplicaRequestError) :
    Concludes (some replicaId) (h.onRetryable deps decision replicaId err ambient) := by
  simp only [Handler.onRetryable, Handler.respond_of_writes hw]
  split_ifs with hspent
  · exact .answered rfl rfl rfl (agrees_of_failed (.inr rfl) rfl rfl)
  · exact .pending (by simp) rfl rfl

theorem onSettled_concludes (replicaId : String) (settled : Settled ν β) :
    Concludes (some replicaId) (h.onSettled deps decision replicaId settled ambient) := by
  cases settled with
  | ok sent =>
      simp only [Handler.onSettled, hw]
      exact .answered rfl rfl rfl ⟨.inl ⟨rfl, by simp [RouteBody.replicaId],
        by simp [RouteBody.latencyMs]⟩, rfl, rfl, fun r hr => hr⟩
  | error err =>
      cases err with
      | other detail => exact onFatal_concludes hw h decision ambient replicaId (.other detail)
      | request err =>
          simp only [Handler.onSettled]
          split_ifs with hretry
          · exact onRetryable_concludes hw h decision ambient replicaId err
          · exact onFatal_concludes hw h decision ambient replicaId (.request err)

end stretch

/-! ### The stores -/

section stores

variable [JsNumber ν] {th : Thresholds} {deps : RouteDeps ν β} {cp cp' : ControlPlane ν}
  {ambient : Ambient}

omit [JsNumber ν] in
/-- The decision an operation records. -/
def recordedBy : Action ν → List (Decision ν)
  | .recordDecision decision => [decision]
  | _ => []

theorem decisions_of_act {a : Action ν} {out : Output ν} (h : cp.act th a = .ok (cp', out)) :
    cp'.decisions = cp.decisions ++ recordedBy a := by
  cases a with
  | probed id result now eventId =>
      obtain ⟨_, -, h⟩ := ok_of_bind h
      obtain ⟨rfl, -⟩ := Prod.mk.inj (Except.ok.inj h)
      exact (List.append_nil _).symm
  | eject id reason now eventId =>
      obtain ⟨_, -, h⟩ := ok_of_bind h
      obtain ⟨rfl, -⟩ := Prod.mk.inj (Except.ok.inj h)
      exact (List.append_nil _).symm
  | route exclude =>
      obtain ⟨rfl, -⟩ := Prod.mk.inj (Except.ok.inj h)
      exact (List.append_nil _).symm
  | recordEvent event =>
      obtain ⟨rfl, -⟩ := Prod.mk.inj (Except.ok.inj h)
      exact (List.append_nil _).symm
  | recordDecision decision =>
      obtain ⟨rfl, -⟩ := Prod.mk.inj (Except.ok.inj h)
      rfl
  | tool call =>
      rw [(ControlPlane.logs_of_tool h).2]
      exact (List.append_nil _).symm

theorem decisions_of_performAll {calls : List (Call ν β)}
    (h : cp.performAll th ambient calls = .ok cp') :
    cp'.decisions = cp.decisions ++ decisionsOf calls := by
  induction calls generalizing cp with
  | nil =>
      obtain rfl := Except.ok.inj h
      exact (List.append_nil _).symm
  | cons call calls ih =>
      obtain ⟨cp₁, h₁, h₂⟩ := ok_of_bind h
      rw [ih h₂]
      cases call with
      | route exclude decision => rw [← Except.ok.inj h₁]; rfl
      | sendRequest replicaId payload => rw [← Except.ok.inj h₁]; rfl
      | respond res => rw [← Except.ok.inj h₁]; rfl
      | eject replicaId reason =>
          obtain ⟨⟨_, out⟩, hact, h₁⟩ := ok_of_bind h₁
          obtain rfl := Except.ok.inj h₁
          rw [decisions_of_act hact]
          exact List.append_assoc _ _ _
      | recordEvent event =>
          obtain ⟨⟨_, out⟩, hact, h₁⟩ := ok_of_bind h₁
          obtain rfl := Except.ok.inj h₁
          rw [decisions_of_act hact]
          exact List.append_assoc _ _ _
      | recordDecision decision =>
          obtain ⟨⟨_, out⟩, hact, h₁⟩ := ok_of_bind h₁
          obtain rfl := Except.ok.inj h₁
          rw [decisions_of_act hact]
          exact List.append_assoc _ _ _

theorem loopHead_concludes (hw : ∀ res, deps.writeError res = none) {h h' : Handler ν β}
    {calls : List (Call ν β)}
    (hl : System.loopHead th deps cp h ambient = .ok (cp', h', calls)) :
    Concludes none (h', calls) ∧ cp'.decisions = cp.decisions ++ decisionsOf calls := by
  obtain ⟨cp₁, h₁, h₂⟩ := ok_of_bind hl
  have hdecisions : cp₁.decisions = (cp.route (some h.exclude)).2.decisions ++
      decisionsOf (h.onRouted deps (cp.route (some h.exclude)).1 ambient).2 :=
    decisions_of_performAll h₁
  have hout := onRouted_concludes hw h (cp.route (some h.exclude)).1 ambient
  obtain ⟨rfl, hpair⟩ := Prod.mk.inj (Except.ok.inj h₂)
  replace hpair : h.onRouted deps (cp.route (some h.exclude)).1 ambient = (h', calls) := hpair
  rw [hpair] at hdecisions hout
  exact ⟨hout, hdecisions⟩

theorem resume_concludes (hw : ∀ res, deps.writeError res = none) {h h' : Handler ν β}
    {decision : RouteResult ν} {replicaId : String} {settled : Settled ν β} {ambient' : Ambient}
    {calls : List (Call ν β)} (hr : System.resume th deps cp h decision replicaId settled ambient
      ambient' = .ok (cp', h', calls)) :
    Concludes (some replicaId) (h', calls) ∧
      cp'.decisions = cp.decisions ++ decisionsOf calls := by
  have hfirst := onSettled_concludes hw h decision ambient replicaId settled
  simp only [System.resume] at hr
  generalize h.onSettled deps decision replicaId settled ambient = out at hr hfirst
  obtain ⟨cp₁, h₁, h₂⟩ := ok_of_bind hr
  have hdecisions : cp₁.decisions = cp.decisions ++ decisionsOf out.2 := decisions_of_performAll h₁
  split at h₂
  next hphase =>
    obtain ⟨⟨cp₂, h₃, calls₂⟩, hl, h₂⟩ := ok_of_bind h₂
    obtain ⟨hsecond, hdecisions'⟩ := loopHead_concludes hw hl
    obtain ⟨hnone, hsilent⟩ := hfirst.silent (by simp [hphase])
    obtain ⟨rfl, hpair⟩ := Prod.mk.inj (Except.ok.inj h₂)
    obtain ⟨rfl, rfl⟩ := Prod.mk.inj hpair
    refine ⟨hsecond.append hnone hsilent, ?_⟩
    rw [hdecisions', hdecisions, decisionsOf_append, List.append_assoc]
  · obtain ⟨rfl, hpair⟩ := Prod.mk.inj (Except.ok.inj h₂)
    obtain ⟨rfl, rfl⟩ := Prod.mk.inj hpair
    exact ⟨hfirst, hdecisions⟩

end stores

/-! ### One step -/

namespace System

/-- The response request `i` has got. -/
def answerOf (s : System ν β) (i : ℕ) : Option (RouteResponse ν β) :=
  (s.handlers[i]?).bind fun h =>
    match h.phase with
    | .responded res => some res
    | _ => none

/-- The request a step runs: a settled send belongs to an old one, a new one comes last. -/
def requestOf (s : System ν β) : Input ν β → ℕ
  | .settle i _ _ _ => i
  | _ => s.handlers.length

/-- What a step leaves: no answer, or one, recorded, to a request that had none. -/
inductive StepAnswers (s s' : System ν β) (a : Input ν β) (report : Report ν β) : Prop where
  | none (hd : decisionsOf report.calls = []) (hr : responsesOf report.calls = [])
      (hkeep : ∀ j, s'.answerOf j = s.answerOf j)
  | one (d : Decision ν) (res : RouteResponse ν β) (hd : decisionsOf report.calls = [d])
      (hr : responsesOf report.calls = [res])
      (hagrees : RecordAgrees (s.sendingTo (s.requestOf a)) d res)
      (hnew : s.answerOf (s.requestOf a) = .none)
      (hset : ∀ j, s'.answerOf j = if j = s.requestOf a then some res else s.answerOf j)

variable {s s' : System ν β}

/-- The stretch of request `i`, put into its place. -/
theorem stepAnswers_of_concludes {a : Input ν β} {i : ℕ} {h : Handler ν β}
    {calls : List (Call ν β)} (hi : s.requestOf a = i) (hc : Concludes (s.sendingTo i) (h, calls))
    (hset : ∀ j, s'.handlers[j]? = if j = i then some h else s.handlers[j]?)
    (hnew : s.answerOf i = none) : StepAnswers s s' a { calls } := by
  subst hi
  cases hc with
  | pending hp hd hr =>
      refine .none hd hr fun j => ?_
      by_cases hj : j = s.requestOf a
      · rw [hj, hnew, answerOf, hset, if_pos rfl]
        show (match h.phase with | .responded res => some res | _ => none) = none
        split
        next res hres => exact absurd hres (hp res)
        · rfl
      · rw [answerOf, hset, if_neg hj]
        rfl
  | answered hp hd hr hagrees =>
      refine .one _ _ hd hr hagrees hnew fun j => ?_
      rw [answerOf, hset]
      split_ifs
      · simp [hp]
      · rfl

variable [JsNumber ν] {th : Thresholds} {deps : RouteDeps ν β} {report : Report ν β}

/-- **Every step answers one request at most**, and records what it answers. -/
theorem step_answers (hw : ∀ res, deps.writeError res = none) {a : Input ν β}
    (h : s.step th deps a = .ok (s', report)) : StepAnswers s s' a report ∧
      s'.control.decisions = s.control.decisions ++ decisionsOf report.calls := by
  cases a with
  | request requestId payload ambient =>
      obtain ⟨⟨cp, h', calls⟩, hl, h⟩ := ok_of_bind h
      obtain ⟨rfl, rfl⟩ := Prod.mk.inj (Except.ok.inj h)
      obtain ⟨hc, hdecisions⟩ := loopHead_concludes hw hl
      have hto : s.sendingTo s.handlers.length = none := by simp [sendingTo]
      refine ⟨stepAnswers_of_concludes (i := s.handlers.length) rfl (hto ▸ hc) (fun j => ?_)
        (by simp [answerOf]), hdecisions⟩
      show (s.handlers ++ [h'])[j]? = _
      split_ifs with hj
      · rw [hj, List.getElem?_concat_length]
      · rcases Nat.lt_or_gt_of_ne hj with hlt | hgt
        · exact List.getElem?_append_left hlt
        · rw [List.getElem?_eq_none hgt.le, List.getElem?_eq_none]
          rw [List.length_append, List.length_singleton]
          omega
  | settle i settled ambient ambient' =>
      simp only [step] at h
      split at h
      · cases h
      next hd hi =>
      split at h
      next decision replicaId hphase =>
        obtain ⟨⟨cp, h', calls⟩, hr, h⟩ := ok_of_bind h
        obtain ⟨rfl, rfl⟩ := Prod.mk.inj (Except.ok.inj h)
        obtain ⟨hc, hdecisions⟩ := resume_concludes hw hr
        have hto : s.sendingTo i = some replicaId := by simp [sendingTo, hi, hphase]
        refine ⟨stepAnswers_of_concludes (i := i) rfl (hto ▸ hc) (fun j => ?_)
          (by simp [answerOf, hi, hphase]), hdecisions⟩
        have hlt : i < s.handlers.length := (List.getElem?_eq_some_iff.mp hi).1
        show (s.handlers.set i h')[j]? = _
        split_ifs with hj
        · rw [hj, List.getElem?_set_self hlt]
        · exact List.getElem?_set_ne fun heq => hj heq.symm
      · cases h
  | probed replicaId result now eventId =>
      obtain ⟨⟨cp, out⟩, hact, h⟩ := ok_of_bind h
      obtain ⟨rfl, rfl⟩ := Prod.mk.inj (Except.ok.inj h)
      exact ⟨.none rfl rfl fun _ => rfl, decisions_of_act hact⟩
  | tool call =>
      obtain ⟨⟨cp, out⟩, hact, h⟩ := ok_of_bind h
      obtain ⟨rfl, rfl⟩ := Prod.mk.inj (Except.ok.inj h)
      exact ⟨.none rfl rfl fun _ => rfl, decisions_of_act hact⟩

/-! ### A whole run -/

/-- The answers a step gives: each response with the stamp of its record. -/
def answersOf (x : Transition (System ν β) (Input ν β × Report ν β)) : List (ClientAnswer ν β) :=
  List.zipWith (fun d res => ⟨x.pre.requestOf x.label.1, d.atTime, res⟩)
    (decisionsOf x.label.2.calls) (responsesOf x.label.2.calls)

def answers (tr : Trace ν β) : List (ClientAnswer ν β) := tr.flatMap answersOf

/-- In `s`, after the run `tr`, the log of decisions and the clients tell the same. -/
structure AnswersLogged (replicas : List Replica) (tr : Trace ν β) (s : System ν β) : Prop where
  /-- Every response of the run is among the answers. -/
  responses : (tr.flatMap fun x => responsesOf x.label.2.calls) = (answers tr).map (·.res)
  /-- No request is answered twice. -/
  once : ((answers tr).map (·.request)).Nodup
  /-- The answered requests are those that have their response. -/
  held : ∀ i res, s.answerOf i = some res ↔ ∃ a ∈ answers tr, a.request = i ∧ a.res = res
  /-- The log has the same outcomes in the same order. -/
  outcomes : s.control.decisions.map (·.outcome) = (answers tr).map (·.outcome)
  proper : ∀ a ∈ answers tr, a.res.Proper
  /-- A 200 names a replica of the fleet. -/
  fleet : ∀ a ∈ answers tr, ∀ r, a.res.servedBy = some r → r ∈ replicas.map (·.id)

variable {tr : Trace ν β} {s₀ : System ν β} {replicas : List Replica} {config : RoutingConfig ν}

omit [JsNumber ν] in
theorem answers_snoc (tr : Trace ν β) (x : Transition (System ν β) (Input ν β × Report ν β)) :
    answers (tr ++ [x]) = answers tr ++ answersOf x := by
  unfold answers
  rw [List.flatMap_append, List.flatMap_singleton]

omit [JsNumber ν] in
theorem AnswersLogged.not_mem (hl : AnswersLogged replicas tr s) {i : ℕ}
    (hnew : s.answerOf i = none) : i ∉ (answers tr).map (·.request) := by
  intro hmem
  obtain ⟨b, hb, hreq⟩ := List.mem_map.mp hmem
  have hheld := (hl.held i b.res).mpr ⟨b, hb, hreq, rfl⟩
  cases hnew.symm.trans hheld

omit [JsNumber ν] in
/-- One more answer, held by the request it was given to. -/
theorem AnswersLogged.held_concat (hl : AnswersLogged replicas tr s) {i : ℕ}
    {res : RouteResponse ν β} (atTime : String) (hnew : s.answerOf i = none)
    (hset : ∀ j, s'.answerOf j = if j = i then some res else s.answerOf j) (j : ℕ)
    (res' : RouteResponse ν β) : s'.answerOf j = some res' ↔
      ∃ a ∈ answers tr ++ [⟨i, atTime, res⟩], a.request = j ∧ a.res = res' := by
  simp only [List.mem_append, List.mem_singleton, hset]
  split_ifs with hj
  · rw [hj]
    constructor
    · rintro ⟨rfl⟩
      exact ⟨_, .inr rfl, rfl, rfl⟩
    · rintro ⟨b, hb | rfl, hreq, hres⟩
      · exact absurd (List.mem_map.mpr ⟨b, hb, hreq⟩) (hl.not_mem hnew)
      · exact congrArg some hres
  · rw [hl.held j res']
    constructor
    · rintro ⟨b, hb, hreq, hres⟩
      exact ⟨b, .inl hb, hreq, hres⟩
    · rintro ⟨b, hb | rfl, hreq, hres⟩
      · exact ⟨b, hb, hreq, hres⟩
      · exact absurd hreq.symm hj

theorem AnswersLogged.step (hl : AnswersLogged replicas tr s)
    (hw : ∀ res, deps.writeError res = none) {a : Input ν β}
    (hfleet : ∀ i r, s.sendingTo i = some r → r ∈ replicas.map (·.id))
    (h : s.step th deps a = .ok (s', report)) :
    AnswersLogged replicas (tr ++ [⟨s, (a, report), s'⟩]) s' := by
  obtain ⟨hstep, hdecisions⟩ := step_answers hw h
  cases hstep with
  | none hd hr hkeep =>
      have hnone : answersOf (⟨s, (a, report), s'⟩ : Transition (System ν β) _) = [] := by
        simp [answersOf, hd]
      have hall : answers (tr ++ [⟨s, (a, report), s'⟩]) = answers tr := by
        rw [answers_snoc, hnone, List.append_nil]
      rw [hd, List.append_nil] at hdecisions
      refine ⟨?_, hall ▸ hl.once, fun i res => ?_, ?_, hall ▸ hl.proper, hall ▸ hl.fleet⟩
      · rw [List.flatMap_append, List.flatMap_singleton, hall, ← hl.responses]
        show _ ++ responsesOf report.calls = _
        rw [hr, List.append_nil]
      · rw [hkeep, hall]
        exact hl.held i res
      · rw [hdecisions, hall, hl.outcomes]
  | one d res hd hr hagrees hnew hset =>
      have hone : answersOf (⟨s, (a, report), s'⟩ : Transition (System ν β) _) =
          [⟨s.requestOf a, d.atTime, res⟩] := by
        simp [answersOf, hd, hr]
      have hall : answers (tr ++ [⟨s, (a, report), s'⟩]) =
          answers tr ++ [⟨s.requestOf a, d.atTime, res⟩] := by
        rw [answers_snoc, hone]
      rw [hd] at hdecisions
      constructor
      · rw [List.flatMap_append, List.flatMap_singleton, hall, List.map_append, ← hl.responses]
        exact congrArg (_ ++ ·) hr
      · rw [hall, List.map_append]
        refine List.nodup_append'.mpr ⟨hl.once, List.nodup_singleton _, ?_⟩
        rw [List.map_singleton, List.disjoint_singleton]
        exact hl.not_mem hnew
      · rw [hall]
        exact hl.held_concat d.atTime hnew hset
      · rw [hdecisions, hall, List.map_append, List.map_append, hl.outcomes]
        simp [Decision.outcome, ClientAnswer.outcome, hagrees.chosen, hagrees.latency]
      · simp only [hall, List.mem_append, List.mem_singleton]
        rintro b (hb | rfl)
        · exact hl.proper b hb
        · exact hagrees.proper
      · simp only [hall, List.mem_append, List.mem_singleton]
        rintro b (hb | rfl) r hserved
        · exact hl.fleet b hb r hserved
        · exact hfleet _ r (hagrees.sentTo r hserved)

/-- **The log tells what the clients got**, along every run in which each response could be
written. -/
theorem answers_logged (hw : ∀ res, deps.writeError res = none)
    (h₀ : boot replicas config = .ok s₀) (h : Exec (Step th deps) s₀ tr s) :
    AnswersLogged replicas tr s := by
  induction h with
  | nil =>
      obtain ⟨hwire, hhandlers⟩ := wire_of_boot h₀
      obtain ⟨registry, -, hcp⟩ := ok_of_bind hwire
      have hempty : s₀.control.decisions = [] := by rw [← Except.ok.inj hcp]
      refine ⟨rfl, List.nodup_nil, fun i res => ?_, ?_, by simp [answers], by simp [answers]⟩
      · simp [answers, answerOf, hhandlers]
      · rw [hempty]
        rfl
  | @snoc tr s t a hexec hs ih =>
      refine ih.step hw (fun i r hi => ?_) hs
      obtain ⟨hy, hr⟩ := known_of_waiting h₀ hexec hi
      exact mem_of_known h₀ hexec hr

end System

end WhyRouted
