import WhyRouted.System

/-! # What a step of the system can do

The inversion lemma of the system's steps.  A step leaves the stores alone, or is one
retryable failure, which ejects a replica and records the event, or is one probe, or one tool
call (`step_case`); and every engine call in it ran on the registry and the config the step
ends with (`Asked`).  What a step does to the record of one replica follows (`step_record`). -/

namespace WhyRouted

variable {ν β : Type}

/-! ### The calls of a stretch -/

/-- A call that reaches neither the scheduler nor the failover log. -/
def Call.quiet : Call ν β → Bool
  | .eject _ _ => false
  | .recordEvent _ => false
  | _ => true

def Phase.finished : Phase ν β → Bool
  | .routing => false
  | .sending _ _ => false
  | .responded _ => true
  | .rejected _ => true

/-- A stretch that ends a request: it asks nothing, sends nothing and ejects nothing. -/
structure Closes (out : Handler ν β × List (Call ν β)) : Prop where
  quiet : ∀ c ∈ out.2, c.quiet = true
  routed : routedOf out.2 = []
  sent : sentOf out.2 = []
  finished : out.1.phase.finished = true

/-- A handler that waits does so for the replica the stretch sent to. -/
def Waits (h : Handler ν β) (calls : List (Call ν β)) : Prop :=
  ∀ decision replicaId, h.phase = .sending decision replicaId → replicaId ∈ sentOf calls

theorem waits_of_finished {h : Handler ν β} {calls : List (Call ν β)}
    (hf : h.phase.finished = true) : Waits h calls := by
  intro decision replicaId hp
  rw [hp] at hf
  cases hf

theorem Closes.record {h : Handler ν β} {calls : List (Call ν β)} (hc : Closes (h, calls))
    (d : Decision ν) : Closes (h, .recordDecision d :: calls) where
  quiet := by
    simp only [List.forall_mem_cons]
    exact ⟨rfl, hc.quiet⟩
  routed := hc.routed
  sent := hc.sent
  finished := hc.finished

section calls

variable (deps : RouteDeps ν β) (h : Handler ν β) (decision : RouteResult ν) (replicaId : String)
  (ambient : Ambient)

theorem closes_respond (res : RouteResponse ν β) : Closes (h.respond deps res) := by
  unfold Handler.respond
  cases deps.writeError res <;> exact ⟨by simp [Call.quiet], rfl, rfl, rfl⟩

theorem closes_onFatal (err : SendError) :
    Closes (h.onFatal deps decision replicaId err ambient) :=
  (closes_respond deps _ _).record _

theorem onRouted_calls : (∀ c ∈ (h.onRouted deps decision ambient).2, c.quiet = true) ∧
    routedOf (h.onRouted deps decision ambient).2 = [decision] ∧
    sentOf (h.onRouted deps decision ambient).2 = decision.outcome.toOption.toList ∧
    Waits (h.onRouted deps decision ambient).1 (h.onRouted deps decision ambient).2 := by
  unfold Handler.onRouted
  cases ho : decision.outcome with
  | error error =>
      obtain ⟨hq, hr, hs, hf⟩ := closes_respond deps (h.pushRound (roundFor decision))
        ⟨503, (h.pushRound (roundFor decision)).unroutableBody error⟩
      simp only [List.forall_mem_cons]
      exact ⟨⟨rfl, rfl, hq⟩, congrArg (decision :: ·) hr, hs, waits_of_finished hf⟩
  | ok id =>
      refine ⟨by simp [Call.quiet], rfl, rfl, ?_⟩
      rintro _ _ ⟨⟩
      exact List.mem_singleton_self _

/-- A settled send ends the request, or failed retryably: then the handler ejects and records
first. -/
theorem onSettled_calls (settled : Settled ν β) :
    Closes (h.onSettled deps decision replicaId settled ambient) ∧
        (∀ err, settled = .error (.request err) → err.retryable = false) ∨
      ∃ err rest, settled = .error (.request err) ∧ err.retryable = true ∧
        (h.onSettled deps decision replicaId settled ambient).2 =
          .eject replicaId (Handler.ejectReason err) ::
          .recordEvent (h.ejectEvent replicaId err (ambient.uuid 0) (ambient.clock 0)) :: rest ∧
        (∀ c ∈ rest, c.quiet = true) ∧ routedOf rest = [] ∧ sentOf rest = [] ∧
        ((h.onSettled deps decision replicaId settled ambient).1.phase = .routing ∨
          (h.onSettled deps decision replicaId settled ambient).1.phase.finished = true) := by
  cases settled with
  | ok sent =>
      refine Or.inl ⟨?_, by simp⟩
      simp only [Handler.onSettled]
      split
      · exact ⟨by simp [Call.quiet], rfl, rfl, rfl⟩
      · exact (closes_onFatal deps _ decision replicaId ambient _).record _
  | error err =>
      cases err with
      | other detail =>
          exact Or.inl ⟨closes_onFatal deps h decision replicaId ambient _, by simp⟩
      | request err =>
          simp only [Handler.onSettled]
          split_ifs with hretry
          · refine Or.inr ⟨err, ?_⟩
            simp only [Handler.onRetryable]
            split_ifs
            · obtain ⟨hq, hr, hs, hf⟩ := closes_respond deps (h.pushFailure decision replicaId err)
                ⟨503, .allReplicasFailed (h.pushFailure decision replicaId err).attempts
                  (h.pushFailure decision replicaId err).requestId⟩
              exact ⟨_, trivial, hretry, rfl, List.forall_mem_cons.mpr ⟨rfl, hq⟩, hr, hs,
                Or.inr hf⟩
            · exact ⟨_, trivial, hretry, rfl, by simp, rfl, rfl, Or.inl rfl⟩
          · refine Or.inl ⟨closes_onFatal deps h decision replicaId ambient _, ?_⟩
            rintro _ ⟨rfl⟩
            simpa using hretry

end calls

/-! ### The stores after a stretch -/

section stores

variable [JsNumber ν] {th : Thresholds} {deps : RouteDeps ν β} {ambient : Ambient}
  {cp cp' : ControlPlane ν}

/-- Nothing changed but the engine's own state and the decision log. -/
structure SameStores (cp cp' : ControlPlane ν) : Prop where
  health : cp'.health = cp.health
  failover : cp'.failover = cp.failover
  config : cp'.config = cp.config

/-- The engine calls in `calls` ran on the registry and config of `cp`, and the sends went to
their picks. -/
structure Asked (cp : ControlPlane ν) (calls : List (Call ν β)) : Prop where
  routed : ∀ decision ∈ routedOf calls, ∃ engine : Engine, ∃ exclude : List String,
    decision = (engine.route cp.registry.items cp.config (some exclude)).1
  sent : ∀ r ∈ sentOf calls, ∃ decision ∈ routedOf calls, decision.outcome = .ok r

theorem Asked.of_silent {calls : List (Call ν β)} (hr : routedOf calls = [])
    (hs : sentOf calls = []) : Asked cp calls :=
  ⟨by simp [hr], by simp [hs]⟩

theorem performAll_quiet (th : Thresholds) (ambient : Ambient) (cp : ControlPlane ν)
    (calls : List (Call ν β)) (hq : ∀ c ∈ calls, c.quiet = true) :
    ∃ decisions, cp.performAll th ambient calls = .ok { cp with decisions } := by
  induction calls generalizing cp with
  | nil => exact ⟨cp.decisions, rfl⟩
  | cons call calls ih =>
      obtain ⟨hcall, hcalls⟩ := List.forall_mem_cons.mp hq
      cases call with
      | eject replicaId reason => cases hcall
      | recordEvent event => cases hcall
      | route exclude decision => exact ih cp hcalls
      | sendRequest replicaId payload => exact ih cp hcalls
      | respond res => exact ih cp hcalls
      | recordDecision decision =>
          exact ih { cp with decisions := cp.decisions ++ [decision] } hcalls

/-- At the head of its loop a handler asks the engine, and what it does with the answer leaves the
other stores alone. -/
theorem loopHead_eq (th : Thresholds) (deps : RouteDeps ν β) (cp : ControlPlane ν)
    (h : Handler ν β) (ambient : Ambient) : ∃ decisions,
      System.loopHead th deps cp h ambient =
        .ok ({ (cp.route (some h.exclude)).2 with decisions },
          (h.onRouted deps (cp.route (some h.exclude)).1 ambient).1,
          (h.onRouted deps (cp.route (some h.exclude)).1 ambient).2) := by
  obtain ⟨hq, -⟩ := onRouted_calls deps h (cp.route (some h.exclude)).1 ambient
  obtain ⟨decisions, hp⟩ := performAll_quiet th ambient (cp.route (some h.exclude)).2 _ hq
  refine ⟨decisions, ?_⟩
  simp only [System.loopHead, hp]
  rfl

theorem loopHead_spec (th : Thresholds) (deps : RouteDeps ν β) (cp : ControlPlane ν)
    (h : Handler ν β) (ambient : Ambient) : ∃ cp' h' calls,
      System.loopHead th deps cp h ambient = .ok (cp', h', calls) ∧
      SameStores cp cp' ∧ Asked cp' calls ∧ Waits h' calls := by
  obtain ⟨-, hr, hs, hwaits⟩ := onRouted_calls deps h (cp.route (some h.exclude)).1 ambient
  obtain ⟨decisions, hloop⟩ := loopHead_eq th deps cp h ambient
  refine ⟨_, _, _, hloop, ⟨rfl, rfl, rfl⟩, ⟨?_, ?_⟩, hwaits⟩
  · rw [hr]
    rintro _ (_ | ⟨_, ⟨⟩⟩)
    exact ⟨cp.engine, h.exclude, rfl⟩
  · intro r hmem
    rw [hs, mem_pick_iff] at hmem
    exact ⟨_, by rw [hr]; exact List.mem_singleton_self _, hmem⟩

/-- A handler resumed by anything but a retryable failure leaves the stores alone. -/
theorem resume_quiet (th : Thresholds) (cp : ControlPlane ν) {h : Handler ν β}
    {decision : RouteResult ν} {replicaId : String} {settled : Settled ν β} (ambient' : Ambient)
    (hc : Closes (h.onSettled deps decision replicaId settled ambient)) :
    ∃ cp' h' calls, System.resume th deps cp h decision replicaId settled ambient ambient' =
      .ok (cp', h', calls) ∧ SameStores cp cp' ∧ Asked cp' calls ∧ Waits h' calls := by
  obtain ⟨decisions, hp⟩ := performAll_quiet th ambient cp _ hc.quiet
  refine ⟨{ cp with decisions }, (h.onSettled deps decision replicaId settled ambient).1,
    (h.onSettled deps decision replicaId settled ambient).2, ?_, ⟨rfl, rfl, rfl⟩,
    .of_silent hc.routed hc.sent, waits_of_finished hc.finished⟩
  simp only [System.resume, hp, bind, Except.bind]
  split
  next hp =>
    have hf := hc.finished
    rw [hp] at hf
    cases hf
  · rfl

/-- After the ejection, a retryable failure records its event and leaves the stores alone. -/
theorem resume_failed (th : Thresholds) {cp₁ : ControlPlane ν} {h : Handler ν β}
    {decision : RouteResult ν} {replicaId : String} {err : ReplicaRequestError} (ambient' : Ambient)
    {rest : List (Call ν β)}
    (hcalls : (h.onSettled deps decision replicaId (.error (.request err)) ambient).2 =
      .eject replicaId (Handler.ejectReason err) ::
        .recordEvent (h.ejectEvent replicaId err (ambient.uuid 0) (ambient.clock 0)) :: rest)
    (hq : ∀ c ∈ rest, c.quiet = true) (hr : routedOf rest = []) (hs : sentOf rest = [])
    (hphase : (h.onSettled deps decision replicaId (.error (.request err)) ambient).1.phase =
        .routing ∨
      (h.onSettled deps decision replicaId (.error (.request err)) ambient).1.phase.finished = true)
    (heject : cp.act th (.eject replicaId (Handler.ejectReason err) (ambient.clock 4)
      (ambient.uuid 4)) = .ok (cp₁, .done)) :
    ∃ cp' h' calls, System.resume th deps cp h decision replicaId (.error (.request err)) ambient
        ambient' = .ok (cp', h', calls) ∧
      SameStores (cp₁.recordEvent (h.ejectEvent replicaId err (ambient.uuid 0) (ambient.clock 0)))
        cp' ∧
      Asked cp' calls ∧ Waits h' calls := by
  generalize hevent : h.ejectEvent replicaId err (ambient.uuid 0) (ambient.clock 0) = event at *
  obtain ⟨decisions, hp⟩ := performAll_quiet th ambient (cp₁.recordEvent event) _ hq
  have hall : cp.performAll th ambient
      (h.onSettled deps decision replicaId (.error (.request err)) ambient).2 =
        .ok { cp₁.recordEvent event with decisions } := by
    have hrecord : cp₁.act th (.recordEvent event) = .ok (cp₁.recordEvent event, .done) := rfl
    rw [hcalls, ← hp]
    simp only [ControlPlane.performAll, List.foldlM_cons, ControlPlane.perform, heject, hrecord,
      bind, Except.bind, pure, Except.pure]
  have hsilent : routedOf (h.onSettled deps decision replicaId (.error (.request err))
        ambient).2 = [] ∧
      sentOf (h.onSettled deps decision replicaId (.error (.request err)) ambient).2 = [] := by
    rw [hcalls]
    exact ⟨hr, hs⟩
  simp only [System.resume, hall, bind, Except.bind]
  split
  · obtain ⟨cp', h', calls, hl, hsame, hasked, hwaits⟩ := loopHead_spec th deps _ _ ambient'
    rw [hl]
    refine ⟨cp', h', _, rfl, ⟨hsame.health, hsame.failover, hsame.config⟩, ⟨?_, ?_⟩, ?_⟩
    · rw [routedOf_append, hsilent.1]
      exact hasked.routed
    · rw [routedOf_append, sentOf_append, hsilent.1, hsilent.2]
      exact hasked.sent
    · intro decision id hp
      rw [sentOf_append, hsilent.2]
      exact hwaits decision id hp
  next hne =>
    exact ⟨_, _, _, rfl, ⟨rfl, rfl, rfl⟩, .of_silent hsilent.1 hsilent.2,
      waits_of_finished (hphase.resolve_left hne)⟩

theorem eject_of_resume {h h' : Handler ν β} {decision : RouteResult ν} {replicaId reason : String}
    {settled : Settled ν β} {ambient' : Ambient} {calls rest : List (Call ν β)}
    (hcalls : (h.onSettled deps decision replicaId settled ambient).2 =
      .eject replicaId reason :: rest)
    (hr : System.resume th deps cp h decision replicaId settled ambient ambient' =
      .ok (cp', h', calls)) :
    ∃ cp₁, cp.act th (.eject replicaId reason (ambient.clock 4) (ambient.uuid 4)) =
      .ok (cp₁, .done) := by
  obtain ⟨cp₂, hall, -⟩ := ok_of_bind hr
  replace hall : cp.performAll th ambient
      (h.onSettled deps decision replicaId settled ambient).2 = .ok cp₂ := hall
  rw [hcalls] at hall
  obtain ⟨_, heject, -⟩ := ok_of_bind hall
  obtain ⟨⟨cp₁, out⟩, hact, -⟩ := ok_of_bind heject
  obtain ⟨_, _, hout⟩ := ok_of_bind hact
  obtain ⟨-, rfl⟩ := Prod.mk.inj (Except.ok.inj hout)
  exact ⟨cp₁, hact⟩

end stores

/-! ### The step, case by case -/

namespace System

/-- The replica request `i` is waiting for. -/
def sendingTo (s : System ν β) (i : ℕ) : Option String :=
  (s.handlers[i]?).bind fun h =>
    match h.phase with
    | .sending _ replicaId => some replicaId
    | _ => none

/-- The replica whose send fails retryably in a step, if one does. -/
def failing (s : System ν β) : Input ν β → Option String
  | .settle i (.error (.request err)) _ _ => if err.retryable then s.sendingTo i else none
  | _ => none

/-- What a step does to the hysteresis of replica `r`. -/
def eventOf (s : System ν β) (r : String) : Input ν β → Option HealthEvent
  | .probed id result _ _ => if id = r then some result.event else none
  | a => if s.failing a = some r then some .ejected else none

/-- Everything a step can do to the stores. -/
inductive StepCase [JsNumber ν] (th : Thresholds) (s s' : System ν β) :
    Input ν β → Report ν β → Prop where
  | quiet {a : Input ν β} {report : Report ν β} (hfail : s.failing a = none)
      (hevent : ∀ r, s.eventOf r a = none) (htool : ∀ call, a ≠ .tool call)
      (hprobe : ∀ id result now eventId, a ≠ .probed id result now eventId)
      (hsame : SameStores s.control s'.control) : StepCase th s s' a report
  | failed {a : Input ν β} {report : Report ν β} {id reason now eventId : String}
      {event : FailoverEvent} {cp₁ : ControlPlane ν} (hfail : s.failing a = some id)
      (hevent : ∀ r, s.eventOf r a = if id = r then some .ejected else none)
      (htool : ∀ call, a ≠ .tool call)
      (hprobe : ∀ id result now eventId, a ≠ .probed id result now eventId)
      (hid : event.replicaId = id) (hkind : event.kind = .ejected)
      (heject : s.control.act th (.eject id reason now eventId) = .ok (cp₁, .done))
      (hsame : SameStores (cp₁.recordEvent event) s'.control) : StepCase th s s' a report
  | probed {id : String} {result : HealthResult ν} {now eventId : String} {out : Output ν}
      (hact : s.control.act th (.probed id result now eventId) = .ok (s'.control, out)) :
      StepCase th s s' (.probed id result now eventId) {}
  | tool {call : ToolCall ν} {out : Output ν}
      (hact : s.control.act th (.tool call) = .ok (s'.control, out)) :
      StepCase th s s' (.tool call) { output := out }

theorem failing_of_fatal (s : System ν β) (i : ℕ) {settled : Settled ν β}
    (ambient ambient' : Ambient)
    (h : ∀ err, settled = .error (.request err) → err.retryable = false) :
    s.failing (.settle i settled ambient ambient') = none := by
  cases settled with
  | ok sent => rfl
  | error err =>
      cases err with
      | other detail => rfl
      | request err => exact if_neg (by simp [h err rfl])

variable [JsNumber ν] {th : Thresholds} {deps : RouteDeps ν β} {s s' : System ν β}
  {report : Report ν β}

omit [JsNumber ν] in
theorem sendingTo_eq_some_iff {s : System ν β} {j : ℕ} {id : String} : s.sendingTo j = some id ↔
    ∃ hd decision, s.handlers[j]? = some hd ∧ hd.phase = .sending decision id := by
  constructor
  · intro h
    obtain ⟨hd, hj, hp⟩ := Option.bind_eq_some_iff.mp h
    split at hp
    next decision replicaId hphase =>
      obtain rfl := Option.some.inj hp
      exact ⟨hd, decision, hj, hphase⟩
    · cases hp
  · rintro ⟨hd, decision, hj, hp⟩
    simp [sendingTo, hj, hp]

omit [JsNumber ν] in
theorem waiting_append {control : ControlPlane ν} {h : Handler ν β} {calls : List (Call ν β)}
    (hw : Waits h calls) (j : ℕ) (id : String)
    (hj : (⟨control, s.handlers ++ [h]⟩ : System ν β).sendingTo j = some id) :
    s.sendingTo j = some id ∨ id ∈ sentOf calls := by
  obtain ⟨hd, decision, hget, hp⟩ := sendingTo_eq_some_iff.mp hj
  rw [List.getElem?_append] at hget
  split_ifs at hget
  · exact Or.inl (sendingTo_eq_some_iff.mpr ⟨hd, decision, hget, hp⟩)
  · obtain rfl := List.mem_singleton.mp (List.mem_of_getElem? hget)
    exact Or.inr (hw decision id hp)

omit [JsNumber ν] in
theorem waiting_set {control : ControlPlane ν} {h : Handler ν β} {calls : List (Call ν β)}
    (i : ℕ) (hw : Waits h calls) (j : ℕ) (id : String)
    (hj : (⟨control, s.handlers.set i h⟩ : System ν β).sendingTo j = some id) :
    s.sendingTo j = some id ∨ id ∈ sentOf calls := by
  obtain ⟨hd, decision, hget, hp⟩ := sendingTo_eq_some_iff.mp hj
  rw [List.getElem?_set] at hget
  split_ifs at hget
  · obtain rfl := Option.some.inj hget
    exact Or.inr (hw decision id hp)
  · exact Or.inl (sendingTo_eq_some_iff.mpr ⟨hd, decision, hget, hp⟩)

/-- A settled send belongs to a waiting request.  It leaves the stores alone, or failed retryably:
then the replica is ejected and that request's event recorded. -/
theorem settle_step {i : ℕ} {settled : Settled ν β} {ambient ambient' : Ambient}
    (h : s.step th deps (.settle i settled ambient ambient') = .ok (s', report)) :
    ∃ hd replicaId, s.handlers[i]? = some hd ∧ s.sendingTo i = some replicaId ∧
      ((∀ err, settled = .error (.request err) → err.retryable = false) ∧
          SameStores s.control s'.control ∨
        ∃ err cp₁, settled = .error (.request err) ∧ err.retryable = true ∧
          s.control.act th (.eject replicaId (Handler.ejectReason err) (ambient.clock 4)
            (ambient.uuid 4)) = .ok (cp₁, .done) ∧
          SameStores (cp₁.recordEvent (hd.ejectEvent replicaId err (ambient.uuid 0)
            (ambient.clock 0))) s'.control) ∧
      Asked s'.control report.calls ∧
      ∀ j id, s'.sendingTo j = some id → s.sendingTo j = some id ∨ id ∈ sentOf report.calls := by
  simp only [step] at h
  split at h
  · cases h
  next hd hi =>
  split at h
  next decision replicaId hphase =>
    have hto : s.sendingTo i = some replicaId := by simp [sendingTo, hi, hphase]
    obtain ⟨⟨cp, h', calls⟩, hr, h⟩ := ok_of_bind h
    obtain ⟨rfl, rfl⟩ := Prod.mk.inj (Except.ok.inj h)
    rcases onSettled_calls deps hd decision replicaId ambient settled with
      ⟨hc, hretry⟩ | ⟨err, rest, rfl, hretry, hcalls, hq, hrouted, hsent, hnext⟩
    · obtain ⟨_, _, _, hr', hsame, hasked, hwaits⟩ := resume_quiet th s.control ambient' hc
      obtain ⟨rfl, rfl, rfl⟩ : _ ∧ _ ∧ _ := by simpa using hr.symm.trans hr'
      exact ⟨hd, replicaId, hi, hto, .inl ⟨hretry, hsame⟩, hasked, waiting_set i hwaits⟩
    · obtain ⟨cp₁, heject⟩ := eject_of_resume hcalls hr
      obtain ⟨_, _, _, hr', hsame, hasked, hwaits⟩ :=
        resume_failed th ambient' hcalls hq hrouted hsent hnext heject
      obtain ⟨rfl, rfl, rfl⟩ : _ ∧ _ ∧ _ := by simpa using hr.symm.trans hr'
      exact ⟨hd, replicaId, hi, hto, .inr ⟨err, cp₁, rfl, hretry, heject, hsame⟩, hasked,
        waiting_set i hwaits⟩
  · cases h

/-- **Every step is one of the four**, and its engine calls ran on the registry it ends with. -/
theorem step_case {a : Input ν β} (h : s.step th deps a = .ok (s', report)) :
    StepCase th s s' a report ∧ Asked s'.control report.calls ∧
      ∀ j id, s'.sendingTo j = some id → s.sendingTo j = some id ∨ id ∈ sentOf report.calls := by
  cases a with
  | request requestId payload ambient =>
      obtain ⟨⟨cp, h', calls⟩, hl, h⟩ := ok_of_bind h
      obtain ⟨rfl, rfl⟩ := Prod.mk.inj (Except.ok.inj h)
      obtain ⟨_, _, _, hl', hsame, hasked, hwaits⟩ := loopHead_spec th deps s.control
        { requestId, payload } ambient
      obtain ⟨rfl, rfl, rfl⟩ : _ ∧ _ ∧ _ := by simpa using hl.symm.trans hl'
      exact ⟨.quiet rfl (fun _ => rfl) (by simp) (by simp) hsame, hasked,
        waiting_append hwaits⟩
  | settle i settled ambient ambient' =>
      obtain ⟨hd, replicaId, hi, hto, hstores, hasked, hwaits⟩ := settle_step h
      refine ⟨?_, hasked, hwaits⟩
      rcases hstores with ⟨hretry, hsame⟩ | ⟨err, cp₁, rfl, hretry, heject, hsame⟩
      · have hfail := s.failing_of_fatal i ambient ambient' hretry
        exact .quiet hfail (fun r => by simp [eventOf, hfail]) (by simp) (by simp) hsame
      · have hfail : s.failing (.settle i (.error (.request err)) ambient ambient') =
            some replicaId := (if_pos hretry).trans hto
        have hevent : ∀ r, s.eventOf r (.settle i (.error (.request err)) ambient ambient') =
            if replicaId = r then some .ejected else none := by
          intro r
          simp [eventOf, hfail]
        exact .failed hfail hevent (by simp) (by simp) rfl rfl heject hsame
  | probed replicaId result now eventId =>
      obtain ⟨⟨cp, out⟩, hact, h⟩ := ok_of_bind h
      obtain ⟨rfl, rfl⟩ := Prod.mk.inj (Except.ok.inj h)
      exact ⟨.probed hact, .of_silent rfl rfl, fun j id h => Or.inl h⟩
  | tool call =>
      obtain ⟨⟨cp, out⟩, hact, h⟩ := ok_of_bind h
      obtain ⟨rfl, rfl⟩ := Prod.mk.inj (Except.ok.inj h)
      exact ⟨.tool hact, .of_silent rfl rfl, fun j id h => Or.inl h⟩

/-! ### What a step does to one replica -/

/-- The operator's intent for a replica, if it is registered. -/
def adminOf (s : System ν β) (r : String) : Option ReplicaAdmin :=
  (s.control.registry.get? r).map (·.admin)

/-- The health a replica shows. -/
def healthOf (s : System ν β) (r : String) : Option ReplicaHealth :=
  (s.control.health.record r).map (·.health)

/-- **A step applies its event to the record of its replica** and to no other. -/
theorem step_record (hm : s.control.health.Mirrors) {a : Input ν β}
    (h : s.step th deps a = .ok (s', report)) (r : String) : s'.control.health.record r =
      (s.control.health.record r).map fun hy => (s.eventOf r a).elim hy (hy.next th) := by
  obtain ⟨hcase, -, -⟩ := step_case h
  cases hcase with
  | quiet _ hevent _ _ hsame => rw [hsame.health, hevent]; simp
  | @failed _ _ id _ _ _ _ cp₁ _ hevent _ _ _ _ heject hsame =>
      rw [hsame.health, show (cp₁.recordEvent _).health = cp₁.health from rfl,
        ControlPlane.act_record hm heject, hevent]
      rfl
  | probed hact => exact ControlPlane.act_record hm hact r
  | tool hact => exact ControlPlane.act_record hm hact r

theorem healthOf_of_untouched {a : Input ν β} (hm : s.control.health.Mirrors)
    (h : s.step th deps a = .ok (s', report)) {r : String} (hr : s.eventOf r a = none) :
    s'.healthOf r = s.healthOf r := by
  unfold healthOf
  rw [step_record hm h r, hr]
  simp

theorem healthOf_of_unhealthy {a : Input ν β} (hm : s.control.health.Mirrors)
    (h : s.step th deps a = .ok (s', report)) {r : String} (hr : s.healthOf r = some .unhealthy) :
    s'.healthOf r = some .unhealthy ∨ s'.healthOf r = some .healthy := by
  obtain ⟨hy, hget, hu⟩ := Option.map_eq_some_iff.mp hr
  unfold healthOf
  rw [step_record hm h r, hget]
  cases s.eventOf r a with
  | none => exact Or.inl (congrArg some hu)
  | some e =>
      cases e <;> simp only [Option.map_some, Option.elim_some, ReplicaHysteresis.next] <;>
        split_ifs <;> simp_all

omit [JsNumber ν] in
theorem eventOf_of_failing {a : Input ν β} {r : String} (hr : s.failing a = some r) :
    s.eventOf r a = some .ejected := by
  cases a with
  | probed id result now eventId => cases hr
  | request requestId payload ambient => cases hr
  | tool call => cases hr
  | settle i settled ambient ambient' => exact if_pos hr

/-- A replica whose send failed retryably ends the step unhealthy. -/
theorem healthOf_of_failing {a : Input ν β} (hm : s.control.health.Mirrors)
    (h : s.step th deps a = .ok (s', report)) {r : String} (hr : s.failing a = some r) :
    s'.healthOf r = some .unhealthy := by
  have hrecord := step_record hm h r
  obtain ⟨hcase, -, -⟩ := step_case h
  cases hcase with
  | quiet hfail _ _ _ _ => cases hfail.symm.trans hr
  | @failed _ _ id reason now eventId event cp₁ hfail hevent _ _ _ _ heject _ =>
      obtain rfl := Option.some.inj (hfail.symm.trans hr)
      unfold healthOf
      rw [hrecord, hevent, if_pos rfl]
      cases hid : s.control.health.record id with
      | none => simp [ControlPlane.act, HealthState.eject, hid, bind, Except.bind] at heject
      | some hy =>
          simp only [Option.map_some, Option.elim_some, ReplicaHysteresis.next]
          split_ifs with hu
          · rw [hu]
          · rfl
  | probed hact => cases hr
  | tool hact => cases hr

/-- What a step asks for `r`. -/
def asksOf (r : String) : Input ν β → Option ReplicaAdmin
  | .tool call => ControlPlane.adminOf r (.tool call)
  | _ => none

theorem admin_of_act {cp cp' : ControlPlane ν} (hm : cp.health.Mirrors) {b : Action ν}
    {out : Output ν} (h : cp.act th b = .ok (cp', out)) (r : String) :
    (cp'.registry.get? r).map (·.admin) =
      ((cp.registry.get? r).map (·.admin)).map (ControlPlane.adminOf r b).getD := by
  rw [(ControlPlane.act_touches hm h).2, Option.map_map, Option.map_map]
  congr 1
  funext state
  exact ControlPlane.admin_touch r b state

/-- **Only the tools change the operator's intent**, each for its own replica. -/
theorem step_admin (hm : s.control.health.Mirrors) {a : Input ν β}
    (h : s.step th deps a = .ok (s', report)) (r : String) :
    s'.adminOf r = (s.adminOf r).map (asksOf r a).getD := by
  have hid : ∀ o : Option ReplicaAdmin, o.map (none : Option ReplicaAdmin).getD = o := by
    intro o
    cases o <;> rfl
  obtain ⟨hcase, -, -⟩ := step_case h
  unfold adminOf
  cases hcase with
  | quiet _ _ htool _ hsame =>
      have hnone : asksOf r a = none := by cases a <;> first | rfl | exact absurd rfl (htool _)
      rw [ControlPlane.registry, hsame.health, hnone, hid]
  | @failed _ _ id _ _ _ _ cp₁ _ _ htool _ _ _ heject hsame =>
      have hnone : asksOf r a = none := by cases a <;> first | rfl | exact absurd rfl (htool _)
      rw [ControlPlane.registry, hsame.health, hnone]
      exact admin_of_act hm heject r
  | probed hact => exact admin_of_act hm hact r
  | tool hact => exact admin_of_act hm hact r

/-! ### Along a run -/

/-- The probe completions and the failed sends of `r`, oldest first. -/
def history (r : String) (tr : Trace ν β) : List HealthEvent :=
  tr.filterMap fun x => x.pre.eventOf r x.label.1

omit [JsNumber ν] in
theorem history_concat (r : String) (tr : Trace ν β)
    (x : Transition (System ν β) (Input ν β × Report ν β)) :
    history r (tr ++ [x]) = history r tr ++ (x.pre.eventOf r x.label.1).toList := by
  unfold history
  rw [List.filterMap_append]
  cases h : x.pre.eventOf r x.label.1 <;> simp [h]

/-- **Along every run, a replica's record is the automaton run over its history.** -/
theorem record_of_run {s₀ : System ν β} {replicas : List Replica} {config : RoutingConfig ν}
    {tr : Trace ν β} (h₀ : boot replicas config = .ok s₀) (h : Exec (Step th deps) s₀ tr s)
    (r : String) : s.control.health.record r =
      if r ∈ replicas.map (·.id) then some (.run th (history r tr)) else none := by
  induction h with
  | nil =>
      obtain ⟨-, -, hrecord, -⟩ := wire_spec (wire_of_boot h₀).1
      exact hrecord r
  | snoc hexec hs ih =>
      rw [step_record (mirrors_of_exec h₀ hexec) hs r, ih, history_concat]
      split_ifs
      · cases eventOf _ r _ <;> simp
      · rfl

def WentDown (r : String) (x : Transition (System ν β) (Input ν β × Report ν β)) : Prop :=
  x.pre.healthOf r ≠ some .unhealthy ∧ x.post.healthOf r = some .unhealthy

def Recovered (r : String) (x : Transition (System ν β) (Input ν β × Report ν β)) : Prop :=
  x.pre.healthOf r = some .unhealthy ∧ x.post.healthOf r = some .healthy

instance instDecidableWentDown (r : String)
    (x : Transition (System ν β) (Input ν β × Report ν β)) : Decidable (WentDown r x) :=
  inferInstanceAs (Decidable (_ ∧ _))

instance instDecidableRecovered (r : String)
    (x : Transition (System ν β) (Input ν β × Report ν β)) : Decidable (Recovered r x) :=
  inferInstanceAs (Decidable (_ ∧ _))

end System

end WhyRouted
