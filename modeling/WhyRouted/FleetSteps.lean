import WhyRouted.Fleet

/-! # What a step of the fleet can do

The inversion lemma of the fleet's steps, `step_cases`, and what follows at once: an execution of
the fleet is one of the main process (`exec_main`), one of the adapter's transport
(`exec_transport`) and one of each replica (`exec_replica`). -/

namespace WhyRouted

namespace Fleet

variable {ν β : Type} [JsNumber ν] {deps : FleetDeps ν β}

/-! ### The adapter's steps -/

section transport

variable {s : Transport ν β} {adapter : HttpReplicaAdapter ν} {id : String}

theorem step_probe {k : ℕ} {event : NetEvent ν (HttpReplicaAdapter.ProbeBody ν)}
    {x y : Exchange ν (HealthResult ν)} (hget : s.probes[k]? = some (id, x))
    (hadvance : adapter.checkHealth.advance x event = some y) :
    s.step adapter (.probe k event) = .ok (Transport.release { s with
      probes := s.probes.set k (id, y) }, y.result.map (.probed id)) := by
  simp only [Transport.step, hget, hadvance]

theorem step_send {j : ℕ} {event : NetEvent ν β} {x y : Exchange ν (Settled ν β)}
    (hget : s.sends[j]? = some (id, x))
    (hadvance : (adapter.sendRequest id).advance x event = some y) :
    s.step adapter (.send j event) = .ok ({ s with sends := s.sends.set j (id, y) },
      y.result.map (.settled j)) := by
  simp only [Transport.step, hget, hadvance]

end transport

/-! ### Dispatching -/

section dispatch

variable (deps) (c : Fleet ν β) (i : ℕ) (sends : List (String × β))

omit [JsNumber ν] in
theorem dispatch_frame : (dispatch deps c i sends).main = c.main ∧
    (dispatch deps c i sends).replicas = c.replicas ∧
    (dispatch deps c i sends).probed = c.probed ∧
    (dispatch deps c i sends).admins = c.admins ∧
    (dispatch deps c i sends).transport.probes = c.transport.probes ∧
    (dispatch deps c i sends).transport.polling = c.transport.polling := by
  induction sends generalizing c with
  | nil => exact ⟨rfl, rfl, rfl, rfl, rfl, rfl⟩
  | cons call sends ih =>
      obtain ⟨hmain, hreplicas, hprobed, hadmins, hprobes, hpolling⟩ :=
        ih (c.send deps i call.1 call.2)
      have hsent : (c.transport.sendRequest deps.adapter call.1).1.probes = c.transport.probes ∧
          (c.transport.sendRequest deps.adapter call.1).1.polling = c.transport.polling := by
        unfold Transport.sendRequest
        cases deps.adapter.resolve call.1 <;> exact ⟨rfl, rfl⟩
      exact ⟨hmain, hreplicas, hprobed, hadmins, hprobes.trans hsent.1, hpolling.trans hsent.2⟩

omit [JsNumber ν] in
@[simp] theorem dispatch_main : (dispatch deps c i sends).main = c.main :=
  (dispatch_frame deps c i sends).1

omit [JsNumber ν] in
@[simp] theorem dispatch_replicas : (dispatch deps c i sends).replicas = c.replicas :=
  (dispatch_frame deps c i sends).2.1

omit [JsNumber ν] in
@[simp] theorem dispatch_probed : (dispatch deps c i sends).probed = c.probed :=
  (dispatch_frame deps c i sends).2.2.1

omit [JsNumber ν] in
@[simp] theorem dispatch_admins : (dispatch deps c i sends).admins = c.admins :=
  (dispatch_frame deps c i sends).2.2.2.1

omit [JsNumber ν] in
@[simp] theorem dispatch_probes :
    (dispatch deps c i sends).transport.probes = c.transport.probes :=
  (dispatch_frame deps c i sends).2.2.2.2.1

omit [JsNumber ν] in
@[simp] theorem dispatch_sent : (dispatch deps c i sends).sent =
    c.sent ++ sends.map fun call => ⟨i, call.1, call.2, .travelling, false⟩ := by
  induction sends generalizing c with
  | nil => simp [dispatch]
  | cons call sends ih =>
      have hsent : (c.send deps i call.1 call.2).sent =
          c.sent ++ [⟨i, call.1, call.2, .travelling, false⟩] := rfl
      rw [show dispatch deps c i (call :: sends) =
        dispatch deps (c.send deps i call.1 call.2) i sends from rfl, ih, hsent,
        List.append_assoc, List.map_cons, List.singleton_append]

theorem exec_dispatch : ∃ tr,
    Exec (Transport.Step deps.adapter) c.transport tr (dispatch deps c i sends).transport := by
  induction sends generalizing c with
  | nil => exact ⟨[], Exec.nil⟩
  | cons call sends ih =>
      obtain ⟨tr, h⟩ := ih (c.send deps i call.1 call.2)
      have hstep : Transport.Step deps.adapter c.transport
          (.sendRequest call.1, (c.transport.sendRequest deps.adapter call.1).2)
          (c.send deps i call.1 call.2).transport := rfl
      exact ⟨_, (Exec.single hstep).trans h⟩

end dispatch

/-! ### The step, case by case -/

/-- Everything a step can do. -/
inductive StepCase (deps : FleetDeps ν β) (c : Fleet ν β) :
    FleetInput ν β → FleetReport ν β → Fleet ν β → Prop where
  | began {requestId : String} {payload : β} {ambient : Ambient} {main : System ν β}
      {report : Report ν β} (hmain : c.main.step deps.thresholds deps.route
        (.request requestId payload ambient) = .ok (main, report)) :
      StepCase deps c (.request requestId payload ambient)
        { main := some (.request requestId payload ambient, report) }
        (dispatch deps { c with main } c.main.handlers.length (sendsOf report.calls))
  | tooled {call : ToolCall ν} {main : System ν β} {report : Report ν β}
      (hmain : c.main.step deps.thresholds deps.route (.tool call) = .ok (main, report)) :
      StepCase deps c (.tool call) { main := some (.tool call, report) } { c with main }
  | skipped (hpolling : c.transport.polling = true) : StepCase deps c .pollAll {} c
  | swept (hpolling : c.transport.polling = false) : StepCase deps c .pollAll {} { c with
      transport := Transport.release { c.transport with
        polling := true
        probes := deps.adapter.replicas.map fun replica => (replica.id, .start) }
      probed := deps.adapter.replicas.map fun replica => (replica.id, .travelling) }
  | declined {replicaId : String} {mode : Option String} {now : String}
      {output : ActionOutput FaultState}
      (houtput : simulateFailure true c.main.control.registry.items replicaId mode = .inl output) :
      StepCase deps c (.simulate replicaId mode now)
        { answer := some (performAction now (.ok output)) } c
  | simulated {replicaId : String} {mode : Option String} {now : String} {fault : FaultMode} :
      StepCase deps c (.simulate replicaId mode now) {}
        { c with admins := c.admins ++ [⟨⟨replicaId, fault⟩, .travelling, none⟩] }
  | resumed {j : ℕ} {ambient ambient' : Ambient} {id : String} {x : Exchange ν (Settled ν β)}
      {sent : Sent ν β} {settled : Settled ν β} {main : System ν β} {report : Report ν β}
      (hsend : c.transport.sends[j]? = some (id, x)) (hsettled : x.wait = .settled settled)
      (hsent : c.sent[j]? = some sent) (hnot : sent.resumed = false)
      (hmain : c.main.step deps.thresholds deps.route
        (.settle sent.request settled ambient ambient') = .ok (main, report)) :
      StepCase deps c (.resume j ambient ambient')
        { main := some (.settle sent.request settled ambient ambient', report) }
        (dispatch deps { c with main, sent := c.sent.set j { sent with resumed := true } }
          sent.request (sendsOf report.calls))
  | probeMoved {k : ℕ} {event : WireEvent ν} {now eventId id id' : String} {served : Served ν}
      {e : NetEvent ν (HttpReplicaAdapter.ProbeBody ν)} {x y : Exchange ν (HealthResult ν)}
      (hprobed : c.probed[k]? = some (id', served))
      (hdeliver : event.deliver ReplicaReply.probeBody served = some e)
      (hprobe : c.transport.probes[k]? = some (id, x))
      (hadvance : deps.adapter.checkHealth.advance x e = some y) (hpending : y.result = none) :
      StepCase deps c (.probeEvent k event now eventId) {} { c with
        transport := Transport.release { c.transport with
          probes := c.transport.probes.set k (id, y) } }
  | probed {k : ℕ} {event : WireEvent ν} {now eventId id id' : String} {served : Served ν}
      {e : NetEvent ν (HttpReplicaAdapter.ProbeBody ν)} {x y : Exchange ν (HealthResult ν)}
      {result : HealthResult ν} {main : System ν β} {report : Report ν β}
      (hprobed : c.probed[k]? = some (id', served))
      (hdeliver : event.deliver ReplicaReply.probeBody served = some e)
      (hprobe : c.transport.probes[k]? = some (id, x))
      (hadvance : deps.adapter.checkHealth.advance x e = some y)
      (hsettled : y.wait = .settled result)
      (hmain : c.main.step deps.thresholds deps.route (.probed id result now eventId) =
        .ok (main, report)) :
      StepCase deps c (.probeEvent k event now eventId)
        { main := some (.probed id result now eventId, report) } { c with
        main
        transport := Transport.release { c.transport with
          probes := c.transport.probes.set k (id, y) } }
  | sendMoved {j : ℕ} {event : WireEvent ν} {id : String} {sent : Sent ν β} {e : NetEvent ν β}
      {x y : Exchange ν (Settled ν β)} (hsent : c.sent[j]? = some sent)
      (hdeliver : event.deliver deps.body sent.served = some e)
      (hsend : c.transport.sends[j]? = some (id, x))
      (hadvance : (deps.adapter.sendRequest id).advance x e = some y) :
      StepCase deps c (.sendEvent j event) {} { c with
        transport := { c.transport with sends := c.transport.sends.set j (id, y) } }
  | injected {n : ℕ} {lost : Option JsError} {now : String} {call : AdminCall ν}
      {outcome : AdminOutcome} {reported : Except String FaultState}
      (hcall : c.admins[n]? = some call) (hopen : call.reported = none)
      (houtcome : (∃ err, outcome = .rejected err) ∨ ∃ reply, call.served = .answered reply ∧
        outcome = .answered reply.status (.ok reply.adminBody))
      (hreported : reported = HttpFaultInjector.inject ⟨deps.adapter.replicas⟩
        call.injection.replicaId call.injection.mode outcome) :
      StepCase deps c (.injected n lost now)
        { answer := some (performAction now (call.injection.finish reported)) }
        { c with admins := c.admins.set n { call with reported := some reported } }
  | health {k baselineLoad : ℕ} {id : String} {replica : ReplicaApp} {out : ReplicaOutput ν}
      (hprobed : c.probed[k]? = some (id, .travelling))
      (hreplica : (c.replicas id).step (.health baselineLoad) = .ok (replica, out)) :
      StepCase deps c (.health k baselineLoad)
        { replica := some (id, .health baselineLoad, out) }
        { c with
          replicas := Function.update c.replicas id replica
          probed := c.probed.set k (id, .ofOutput out) }
  | arrived {j : ℕ} {sent : Sent ν β} {replica : ReplicaApp} {out : ReplicaOutput ν}
      (hsent : c.sent[j]? = some sent) (hserved : sent.served = .travelling)
      (hreplica : (c.replicas sent.replicaId).step (.infer (deps.unparsed sent.payload)) =
        .ok (replica, out)) :
      StepCase deps c (.infer j)
        { replica := some (sent.replicaId, .infer (deps.unparsed sent.payload), out) }
        { c with
          replicas := Function.update c.replicas sent.replicaId replica
          sent := c.sent.set j { sent with served := .ofOutput out } }
  | woke {j : ℕ} {servedAt : String} {latencyMs : ν} {sent : Sent ν β} {call : ℕ}
      {replica : ReplicaApp} {out : ReplicaOutput ν} (hsent : c.sent[j]? = some sent)
      (hserved : sent.served = .sleeping call)
      (hreplica : (c.replicas sent.replicaId).step (.wakes call servedAt latencyMs) =
        .ok (replica, out)) :
      StepCase deps c (.wake j servedAt latencyMs)
        { replica := some (sent.replicaId, .wakes call servedAt latencyMs, out) }
        { c with
          replicas := Function.update c.replicas sent.replicaId replica
          sent := c.sent.set j { sent with served := .ofOutput out } }
  | admin {n : ℕ} {call : AdminCall ν} {replica : ReplicaApp} {out : ReplicaOutput ν}
      (hcall : c.admins[n]? = some call) (hserved : call.served = .travelling)
      (hreplica : (c.replicas call.injection.replicaId).step (.admin call.injection.mode) =
        .ok (replica, out)) :
      StepCase deps c (.admin n)
        { replica := some (call.injection.replicaId, .admin call.injection.mode, out) }
        { c with
          replicas := Function.update c.replicas call.injection.replicaId replica
          admins := c.admins.set n { call with served := .ofOutput out } }
  | operated {replicaId : String} {mode : FaultMode} {replica : ReplicaApp} {out : ReplicaOutput ν}
      (hreplica : (c.replicas replicaId).step (.admin mode) = .ok (replica, out)) :
      StepCase deps c (.operator replicaId mode)
        { replica := some (replicaId, .admin mode, out) }
        { c with replicas := Function.update c.replicas replicaId replica }

variable {c c' : Fleet ν β} {report : FleetReport ν β}

theorem mainStep_spec {i : ℕ} {a : Input ν β} (h : c.mainStep deps i a = .ok (c', report)) :
    ∃ main mainReport, c.main.step deps.thresholds deps.route a = .ok (main, mainReport) ∧
      c' = dispatch deps { c with main } i (sendsOf mainReport.calls) ∧
      report = { main := some (a, mainReport) } := by
  obtain ⟨⟨main, mainReport⟩, hmain, h⟩ := ok_of_bind h
  obtain ⟨rfl, rfl⟩ := Prod.mk.inj (Except.ok.inj h)
  exact ⟨main, mainReport, hmain, rfl, rfl⟩

omit [JsNumber ν] in
theorem replicaStep_spec {id : String} {a : ReplicaInput ν} {out : ReplicaOutput ν}
    (h : c.replicaStep id a = .ok (c', out)) : ∃ replica,
      (c.replicas id).step a = .ok (replica, out) ∧
      c' = { c with replicas := Function.update c.replicas id replica } := by
  obtain ⟨⟨replica, out'⟩, hreplica, h⟩ := ok_of_bind h
  obtain ⟨rfl, rfl⟩ := Prod.mk.inj (Except.ok.inj h)
  exact ⟨replica, hreplica, rfl⟩

omit [JsNumber ν] in
/-- A result is what a settled call waits for no longer. -/
theorem result_eq_some_iff {ρ : Type} {x : Exchange ν ρ} {result : ρ} :
    x.result = some result ↔ x.wait = .settled result := by
  unfold Exchange.result
  cases x.wait <;> simp

/-- **Every step is one of these.** -/
theorem step_cases {a : FleetInput ν β} (h : c.step deps a = .ok (c', report)) :
    StepCase deps c a report c' := by
  cases a with
  | request requestId payload ambient =>
      obtain ⟨main, mainReport, hmain, rfl, rfl⟩ := mainStep_spec h
      exact .began hmain
  | tool call =>
      obtain ⟨main, mainReport, hmain, rfl, rfl⟩ := mainStep_spec h
      have hnone : sendsOf mainReport.calls = [] := by
        cases System.handler_step hmain with
        | tool hset => rfl
      rw [hnone]
      exact .tooled hmain
  | pollAll =>
      simp only [step] at h
      split_ifs at h with hpolling
      · obtain ⟨rfl, rfl⟩ := Prod.mk.inj (Except.ok.inj h)
        exact .skipped hpolling
      · obtain ⟨rfl, rfl⟩ := Prod.mk.inj (Except.ok.inj h)
        rw [Transport.pollAll, if_neg hpolling]
        exact .swept (by simpa using hpolling)
  | simulate replicaId mode now =>
      simp only [step] at h
      split at h
      next output houtput =>
        obtain ⟨rfl, rfl⟩ := Prod.mk.inj (Except.ok.inj h)
        exact .declined houtput
      next fault houtput =>
        obtain ⟨rfl, rfl⟩ := Prod.mk.inj (Except.ok.inj h)
        exact .simulated
  | resume j ambient ambient' =>
      simp only [step] at h
      split at h
      next id x sent hsend hsent =>
        split at h
        · cases h
        next settled hresult =>
          split_ifs at h with hresumed
          obtain ⟨main, mainReport, hmain, rfl, rfl⟩ := mainStep_spec h
          exact .resumed hsend (result_eq_some_iff.mp hresult) hsent (by simpa using hresumed) hmain
      · cases h
  | probeEvent k event now eventId =>
      simp only [step] at h
      split at h
      · cases h
      next id' served hprobed =>
      split at h
      · cases h
      next e hdeliver =>
      obtain ⟨⟨transport, delivery⟩, htransport, h⟩ := ok_of_bind h
      simp only [Transport.step] at htransport
      split at htransport
      · cases htransport
      next id x hprobe =>
      split at htransport
      · cases htransport
      next y hadvance =>
      obtain ⟨rfl, rfl⟩ := Prod.mk.inj (Except.ok.inj htransport)
      cases hresult : y.result with
      | none =>
          simp only [hresult] at h
          obtain ⟨rfl, rfl⟩ := Prod.mk.inj (Except.ok.inj h)
          exact .probeMoved hprobed hdeliver hprobe hadvance hresult
      | some result =>
          simp only [hresult] at h
          obtain ⟨main, mainReport, hmain, rfl, rfl⟩ := mainStep_spec h
          have hnone : sendsOf mainReport.calls = [] := by
            cases System.handler_step hmain with
            | probed hset => rfl
          rw [hnone]
          exact .probed hprobed hdeliver hprobe hadvance (result_eq_some_iff.mp hresult) hmain
  | sendEvent j event =>
      simp only [step] at h
      split at h
      · cases h
      next sent hsent =>
      split at h
      · cases h
      next e hdeliver =>
      obtain ⟨⟨transport, delivery⟩, htransport, h⟩ := ok_of_bind h
      obtain ⟨rfl, rfl⟩ := Prod.mk.inj (Except.ok.inj h)
      simp only [Transport.step] at htransport
      split at htransport
      · cases htransport
      next id x hsend =>
      split at htransport
      · cases htransport
      next y hadvance =>
      obtain ⟨rfl, -⟩ := Prod.mk.inj (Except.ok.inj htransport)
      exact .sendMoved hsent hdeliver hsend hadvance
  | injected n lost now =>
      simp only [step] at h
      split at h
      · cases h
      next call hcall =>
      split_ifs at h with hover
      have hopen : call.reported = none := by simpa using hover
      cases lost with
      | some err =>
          obtain ⟨rfl, rfl⟩ := Prod.mk.inj (Except.ok.inj h)
          exact .injected hcall hopen (Or.inl ⟨err, rfl⟩) rfl
      | none =>
          cases hreply : call.served.reply with
          | none =>
              simp only [hreply] at h
              cases h
          | some reply =>
              simp only [hreply] at h
              obtain ⟨rfl, rfl⟩ := Prod.mk.inj (Except.ok.inj h)
              exact .injected hcall hopen
                (Or.inr ⟨reply, Served.reply_eq_some_iff.mp hreply, rfl⟩) rfl
  | health k baselineLoad =>
      simp only [step] at h
      split at h
      next id hprobed =>
        obtain ⟨⟨c₁, out⟩, hstep, h⟩ := ok_of_bind h
        obtain ⟨rfl, rfl⟩ := Prod.mk.inj (Except.ok.inj h)
        obtain ⟨replica, hreplica, rfl⟩ := replicaStep_spec hstep
        exact .health hprobed hreplica
      · cases h
  | infer j =>
      simp only [step] at h
      split at h
      next sent hsent =>
        split at h
        next hserved _ =>
          obtain ⟨⟨c₁, out⟩, hstep, h⟩ := ok_of_bind h
          obtain ⟨rfl, rfl⟩ := Prod.mk.inj (Except.ok.inj h)
          obtain ⟨replica, hreplica, rfl⟩ := replicaStep_spec hstep
          exact .arrived hsent hserved hreplica
        · cases h
      · cases h
  | wake j servedAt latencyMs =>
      simp only [step] at h
      split at h
      next sent hsent =>
        split at h
        next call hserved =>
          obtain ⟨⟨c₁, out⟩, hstep, h⟩ := ok_of_bind h
          obtain ⟨rfl, rfl⟩ := Prod.mk.inj (Except.ok.inj h)
          obtain ⟨replica, hreplica, rfl⟩ := replicaStep_spec hstep
          exact .woke hsent hserved hreplica
        · cases h
      · cases h
  | admin n =>
      simp only [step] at h
      split at h
      next call hcall =>
        split at h
        next hserved _ =>
          obtain ⟨⟨c₁, out⟩, hstep, h⟩ := ok_of_bind h
          obtain ⟨rfl, rfl⟩ := Prod.mk.inj (Except.ok.inj h)
          obtain ⟨replica, hreplica, rfl⟩ := replicaStep_spec hstep
          exact .admin hcall hserved hreplica
        · cases h
      · cases h
  | operator replicaId mode =>
      obtain ⟨⟨c₁, out⟩, hstep, h⟩ := ok_of_bind h
      obtain ⟨rfl, rfl⟩ := Prod.mk.inj (Except.ok.inj h)
      obtain ⟨replica, hreplica, rfl⟩ := replicaStep_spec hstep
      exact .operated hreplica

/-! ### The parties -/

variable {c₀ : Fleet ν β} {tr : Trace ν β}

theorem exec_mainOf_some {a : FleetInput ν β} {main : System ν β} {b : Input ν β}
    {mainReport : Report ν β}
    (hmain : c.main.step deps.thresholds deps.route b = .ok (main, mainReport))
    (hreport : report.main = some (b, mainReport)) (hpost : c'.main = main) :
    Exec (System.Step deps.thresholds deps.route) c.main (mainOf ⟨c, (a, report), c'⟩) c'.main := by
  simp only [mainOf, hreport, hpost, Option.map_some, Option.toList_some]
  exact Exec.computed hmain

omit [JsNumber ν] in
theorem mem_mainTrace {y : Transition (System ν β) (Input ν β × Report ν β)} :
    y ∈ mainTrace tr ↔ ∃ x ∈ tr, ∃ label, x.label.2.main = some label ∧
      y = ⟨x.pre.main, label, x.post.main⟩ := by
  simp [mainTrace, mainOf, eq_comm]

omit [JsNumber ν] in
/-- What the main process's run shows is shown in steps of the fleet's. -/
theorem filterMap_mainTrace {α : Type}
    (f : Transition (System ν β) (Input ν β × Report ν β) → Option α) (tr : Trace ν β) :
    (mainTrace tr).filterMap f = tr.filterMap fun x =>
      x.label.2.main.bind fun label => f ⟨x.pre.main, label, x.post.main⟩ := by
  induction tr with
  | nil => rfl
  | cons x tr ih =>
      rw [List.filterMap_cons, mainTrace, List.flatMap_cons, List.filterMap_append,
        show tr.flatMap mainOf = mainTrace tr from rfl, ih, mainOf]
      cases x.label.2.main with
      | none => rfl
      | some label => cases h : f ⟨x.pre.main, label, x.post.main⟩ <;> simp [h]

/-- **A run of the fleet is one of the main process.** -/
theorem exec_main (h : Exec (Step deps) c₀ tr c) :
    Exec (System.Step deps.thresholds deps.route) c₀.main (mainTrace tr) c.main := by
  refine h.project Fleet.main mainOf fun c label c' hs => ?_
  obtain ⟨a, report⟩ := label
  cases step_cases hs with
  | began hmain => exact exec_mainOf_some hmain rfl (dispatch_main ..)
  | tooled hmain => exact exec_mainOf_some hmain rfl rfl
  | resumed _ _ _ _ hmain => exact exec_mainOf_some hmain rfl (dispatch_main ..)
  | probed _ _ _ _ _ hmain => exact exec_mainOf_some hmain rfl rfl
  | _ => exact Exec.nil

/-- A step is one of a replica, or of none. -/
inductive ReplicaCase (c c' : Fleet ν β) (report : FleetReport ν β) : Prop where
  | none (hreport : report.replica = none) (hsame : c'.replicas = c.replicas)
  | one {id : String} {a : ReplicaInput ν} {out : ReplicaOutput ν} {replica : ReplicaApp}
      (hreport : report.replica = some (id, a, out))
      (hreplica : (c.replicas id).step a = .ok (replica, out))
      (hset : c'.replicas = Function.update c.replicas id replica)

theorem replica_case {a : FleetInput ν β} (h : c.step deps a = .ok (c', report)) :
    ReplicaCase c c' report := by
  cases step_cases h with
  | began _ => exact .none rfl (dispatch_replicas ..)
  | resumed _ _ _ _ _ => exact .none rfl (dispatch_replicas ..)
  | health _ hreplica => exact .one rfl hreplica rfl
  | arrived _ _ hreplica => exact .one rfl hreplica rfl
  | woke _ _ hreplica => exact .one rfl hreplica rfl
  | admin _ _ hreplica => exact .one rfl hreplica rfl
  | operated hreplica => exact .one rfl hreplica rfl
  | _ => exact .none rfl rfl

/-- **A run of the fleet is one of every replica.** -/
theorem exec_replica (id : String) (h : Exec (Step deps) c₀ tr c) :
    Exec ReplicaApp.Step (c₀.replicas id) (replicaTrace id tr) (c.replicas id) := by
  refine h.project (fun c => c.replicas id) (replicaOf id) fun c label c' hs => ?_
  cases replica_case hs with
  | none hreport hsame =>
      simp only [replicaOf, hreport, hsame]
      exact Exec.nil
  | @one id' a out replica hreport hreplica hset =>
      simp only [replicaOf, hreport, hset]
      by_cases hid : id' = id
      · subst hid
        rw [if_pos rfl, Function.update_self]
        exact Exec.computed hreplica
      · rw [if_neg hid, Function.update_of_ne (Ne.symm hid)]
        exact Exec.nil

/-- **A run of the fleet is one of the adapter's transport.** -/
theorem exec_transport (h : Exec (Step deps) c₀ tr c) :
    ∃ tr', Exec (Transport.Step deps.adapter) c₀.transport tr' c.transport := by
  refine h.simulate Fleet.transport fun c label c' hs => ?_
  obtain ⟨a, report⟩ := label
  cases step_cases hs with
  | @began _ _ _ main _ _ => exact exec_dispatch deps { c with main } _ _
  | @resumed j _ _ _ _ sent _ main _ _ _ _ _ _ =>
      exact exec_dispatch deps
        { c with main, sent := c.sent.set j { sent with resumed := true } } _ _
  | swept hpolling =>
      have hstep : c.transport.step deps.adapter .pollAll =
          .ok (c.transport.pollAll deps.adapter, none) := rfl
      rw [Transport.pollAll, if_neg (by simp [hpolling])] at hstep
      exact ⟨_, Exec.computed hstep⟩
  | probeMoved _ _ hprobe hadvance _ =>
      have hstep := step_probe hprobe hadvance
      exact ⟨_, Exec.computed hstep⟩
  | probed _ _ hprobe hadvance _ _ =>
      have hstep := step_probe hprobe hadvance
      exact ⟨_, Exec.computed hstep⟩
  | sendMoved _ _ hsend hadvance =>
      have hstep := step_send hsend hadvance
      exact ⟨_, Exec.computed hstep⟩
  | _ => exact ⟨[], Exec.nil⟩

end Fleet

end WhyRouted
