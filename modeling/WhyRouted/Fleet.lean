import WhyRouted.FaultInjector
import WhyRouted.HandlerSteps
import WhyRouted.Transport
import WhyRouted.Wire

/-! # The process and its fleet

What `src/main.ts` starts: the main process, with its stores, its requests and the adapter's calls
in flight, and one simulated replica for each entry of the fleet.  They share nothing but the
calls: a probe, a send or an admin call leaves the process, is handled by its replica at some later
step or never, and what comes back settles it.  Only the process calls `/infer` here: a replica's
port is open to anyone, but a call of another client is not a step of this system.

A step is one stretch of code of one party, or one thing the network does.  A settled send resumes
its handler at a later step, since the handler only goes on when the stretch that settled the send
is over; a settled probe is applied with it, as `pollOne` goes on before the sweep is joined.

The parties are the ones modelled before: an execution is one of the system, one of the adapter's
transport and one of every replica (`exec_main`, `exec_transport`, `exec_replica`). -/

namespace WhyRouted

variable {ν β : Type}

/-- A call of `/infer` the process has made. -/
structure Sent (ν β : Type) where
  /-- The request it is of. -/
  request : ℕ
  replicaId : String
  payload : β
  served : Served ν
  /-- Whether its handler has gone on. -/
  resumed : Bool

/-- A call of an admin endpoint. -/
structure AdminCall (ν : Type) where
  injection : Injection
  served : Served ν
  /-- What `inject` returned or threw. -/
  reported : Option (Except String FaultState)

/-- What the parties are built with. -/
structure FleetDeps (ν β : Type) where
  adapter : HttpReplicaAdapter ν
  thresholds : Thresholds
  route : RouteDeps ν β
  /-- The JSON of an inference answer. -/
  body : ReplicaReply ν → β
  /-- What a replica's `express.json()` answers to a payload, if it does. -/
  unparsed : β → Option ℕ

/-- The process, its calls in flight, and the replicas. -/
structure Fleet (ν β : Type) where
  main : System ν β
  transport : Transport ν β
  replicas : String → ReplicaApp
  /-- How far the replicas have got with the probes of the sweep. -/
  probed : List (String × Served ν)
  sent : List (Sent ν β)
  admins : List (AdminCall ν)

/-- What can happen next. -/
inductive FleetInput (ν β : Type) where
  -- in the process
  | request (requestId : String) (payload : β) (ambient : Ambient)
  | tool (call : ToolCall ν)
  | pollAll
  | simulate (replicaId : String) (mode : Option String) (now : String)
  /-- The handler that awaits send `j` goes on. -/
  | resume (j : ℕ) (ambient ambient' : Ambient)
  -- between the two
  | probeEvent (k : ℕ) (event : WireEvent ν) (now eventId : String)
  | sendEvent (j : ℕ) (event : WireEvent ν)
  /-- Admin call `n` ends, lost or with the replica's answer. -/
  | injected (n : ℕ) (lost : Option JsError) (now : String)
  -- at a replica
  | health (k : ℕ) (baselineLoad : ℕ)
  | infer (j : ℕ)
  | wake (j : ℕ) (servedAt : String) (latencyMs : ν)
  | admin (n : ℕ)
  /-- Somebody else calls an admin endpoint. -/
  | operator (replicaId : String) (mode : FaultMode)

/-- What a step did: the system's step, a replica's step, and what a tool answered. -/
structure FleetReport (ν β : Type) where
  main : Option (Input ν β × Report ν β) := none
  replica : Option (String × ReplicaInput ν × ReplicaOutput ν) := none
  answer : Option (ActionResult FaultState) := none

/-- The JSON a probe's body parses to. -/
def ReplicaReply.probeBody [JsNumber ν] : ReplicaReply ν → HttpReplicaAdapter.ProbeBody ν
  -- the counter is never negative (`ReplicaApp.Accounts.inFlight`)
  | load inFlight => .value (some (JsNumber.ofNat inFlight.toNat))
  | _ => .value none

namespace Fleet

variable [JsNumber ν] (deps : FleetDeps ν β)

/-- Put a send on the wire. -/
def send (c : Fleet ν β) (request : ℕ) (replicaId : String) (payload : β) : Fleet ν β :=
  { c with
    transport := (c.transport.sendRequest deps.adapter replicaId).1
    sent := c.sent ++ [⟨request, replicaId, payload, .travelling, false⟩] }

/-- Put the sends of a stretch of request `i` on the wire. -/
def dispatch (c : Fleet ν β) (i : ℕ) (sends : List (String × β)) : Fleet ν β :=
  sends.foldl (fun c call => c.send deps i call.1 call.2) c

/-- A step of the system for request `i`, and the sends it makes. -/
def mainStep (c : Fleet ν β) (i : ℕ) (a : Input ν β) :
    Except String (Fleet ν β × FleetReport ν β) := do
  let (main, report) ← c.main.step deps.thresholds deps.route a
  return (dispatch deps { c with main } i (sendsOf report.calls), { main := some (a, report) })

/-- A step of a replica. -/
def replicaStep (c : Fleet ν β) (id : String) (a : ReplicaInput ν) :
    Except String (Fleet ν β × ReplicaOutput ν) := do
  let (replica, out) ← (c.replicas id).step a
  return ({ c with replicas := Function.update c.replicas id replica }, out)

/-- One step.  An exception stands for one nothing catches, or for an input that cannot occur. -/
def step (c : Fleet ν β) : FleetInput ν β → Except String (Fleet ν β × FleetReport ν β)
  | .request requestId payload ambient =>
      c.mainStep deps c.main.handlers.length (.request requestId payload ambient)
  | .tool call => c.mainStep deps c.main.handlers.length (.tool call)
  | .pollAll =>
      if c.transport.polling then .ok (c, {})
      else
        .ok ({ c with
            transport := c.transport.pollAll deps.adapter
            probed := deps.adapter.replicas.map fun replica => (replica.id, .travelling) }, {})
  | .simulate replicaId mode now =>
      match simulateFailure true c.main.control.registry.items replicaId mode with
      | .inl output => .ok (c, { answer := some (performAction now (.ok output)) })
      | .inr mode =>
          .ok ({ c with admins := c.admins ++ [⟨⟨replicaId, mode⟩, .travelling, none⟩] }, {})
  | .resume j ambient ambient' =>
      match c.transport.sends[j]?, c.sent[j]? with
      | some (_, x), some sent =>
          match x.result with
          | none => .error "the send is pending"
          | some settled =>
              if sent.resumed then .error "nobody awaits the send"
              else
                mainStep deps { c with sent := c.sent.set j { sent with resumed := true } }
                  sent.request (.settle sent.request settled ambient ambient')
      | _, _ => .error "no such send"
  | .probeEvent k event now eventId =>
      match c.probed[k]? with
      | none => .error "no such probe"
      | some (_, served) =>
          match event.deliver ReplicaReply.probeBody served with
          | none => .error "no such event"
          | some e => do
              let (transport, delivery) ← c.transport.step deps.adapter (.probe k e)
              match delivery with
              | some (.probed id result) =>
                  mainStep deps { c with transport } c.main.handlers.length
                    (.probed id result now eventId)
              | _ => return ({ c with transport }, {})
  | .sendEvent j event =>
      match c.sent[j]? with
      | none => .error "no such send"
      | some sent =>
          match event.deliver deps.body sent.served with
          | none => .error "no such event"
          | some e => do
              let (transport, _) ← c.transport.step deps.adapter (.send j e)
              return ({ c with transport }, {})
  | .injected n lost now =>
      match c.admins[n]? with
      | none => .error "no such call"
      | some call =>
          if call.reported.isSome then .error "the call is over"
          else
            let outcome : Option AdminOutcome := match lost with
              | some err => some (.rejected err)
              | none => call.served.reply.map fun reply =>
                  .answered reply.status (.ok reply.adminBody)
            match outcome with
            | none => .error "the replica has not answered"
            | some outcome =>
                let reported := HttpFaultInjector.inject ⟨deps.adapter.replicas⟩
                  call.injection.replicaId call.injection.mode outcome
                .ok ({ c with admins := c.admins.set n { call with reported := some reported } },
                  { answer := some (performAction now (call.injection.finish reported)) })
  | .health k baselineLoad =>
      match c.probed[k]? with
      | some (id, .travelling) => do
          let (c, out) ← c.replicaStep id (.health baselineLoad)
          return ({ c with probed := c.probed.set k (id, .ofOutput out) },
            { replica := some (id, .health baselineLoad, out) })
      | _ => .error "no such probe travels"
  | .infer j =>
      match c.sent[j]? with
      | some sent =>
          -- a send to a replica without a URL is rejected before it leaves
          match sent.served, deps.adapter.resolve sent.replicaId with
          | .travelling, .ok _ => do
              let a : ReplicaInput ν := .infer (deps.unparsed sent.payload)
              let (c, out) ← c.replicaStep sent.replicaId a
              return ({ c with sent := c.sent.set j { sent with served := .ofOutput out } },
                { replica := some (sent.replicaId, a, out) })
          | _, _ => .error "no such send travels"
      | none => .error "no such send"
  | .wake j servedAt latencyMs =>
      match c.sent[j]? with
      | some sent =>
          match sent.served with
          | .sleeping call => do
              let a : ReplicaInput ν := .wakes call servedAt latencyMs
              let (c, out) ← c.replicaStep sent.replicaId a
              return ({ c with sent := c.sent.set j { sent with served := .ofOutput out } },
                { replica := some (sent.replicaId, a, out) })
          | _ => .error "no such call sleeps"
      | none => .error "no such send"
  | .admin n =>
      match c.admins[n]? with
      | some call =>
          match call.served, HttpFaultInjector.base ⟨deps.adapter.replicas⟩
            call.injection.replicaId with
          | .travelling, some _ => do
              let a : ReplicaInput ν := .admin call.injection.mode
              let (c, out) ← c.replicaStep call.injection.replicaId a
              return ({ c with admins := c.admins.set n { call with served := .ofOutput out } },
                { replica := some (call.injection.replicaId, a, out) })
          | _, _ => .error "no such call travels"
      | none => .error "no such call"
  | .operator replicaId mode => do
      let (c, out) ← c.replicaStep replicaId (.admin mode)
      return (c, { replica := some (replicaId, .admin mode, out) })

abbrev Step : Fleet ν β → FleetInput ν β × FleetReport ν β → Fleet ν β → Prop :=
  Computes (step deps)

abbrev Stride (ν β : Type) := Transition (Fleet ν β) (FleetInput ν β × FleetReport ν β)

abbrev Trace (ν β : Type) := List (Stride ν β)

/-- What `main` starts. -/
def boot (config : RoutingConfig ν) : Except String (Fleet ν β) := do
  return {
    main := ← System.boot deps.adapter.replicas config
    transport := .idle
    replicas := .fresh
    probed := []
    sent := []
    admins := [] }

/-! ### The parties of a run -/

def mainOf (x : Stride ν β) : System.Trace ν β :=
  (x.label.2.main.map fun label => ⟨x.pre.main, label, x.post.main⟩).toList

def mainTrace (tr : Trace ν β) : System.Trace ν β := tr.flatMap mainOf

def replicaOf (id : String) (x : Stride ν β) : ReplicaApp.Trace ν :=
  match x.label.2.replica with
  | some (id', label) => if id' = id then [⟨x.pre.replicas id, label, x.post.replicas id⟩] else []
  | none => []

def replicaTrace (id : String) (tr : Trace ν β) : ReplicaApp.Trace ν := tr.flatMap (replicaOf id)

/-! ### A small setting for runs -/

def perform (config : RoutingConfig ν) (inputs : List (FleetInput ν β)) :
    Except String (Fleet ν β × Trace ν β × Fleet ν β) := do
  let c₀ ← boot deps config
  return (c₀, ← replay (step deps) c₀ inputs)

variable {deps} in
theorem exec_of_perform {config : RoutingConfig ν} {inputs : List (FleetInput ν β)}
    {c₀ c : Fleet ν β} {tr : Trace ν β} (h : perform deps config inputs = .ok (c₀, tr, c)) :
    boot deps config = .ok c₀ ∧ Exec (Step deps) c₀ tr c := by
  obtain ⟨c₁, hboot, h⟩ := ok_of_bind h
  obtain ⟨run, hreplay, h⟩ := ok_of_bind h
  obtain ⟨rfl, rfl⟩ := Prod.mk.inj (Except.ok.inj h)
  exact ⟨hboot, (exec_of_replay hreplay).1⟩

/-- A run, and a stretch of it to look at. -/
structure Stretch (ν β : Type) where
  start : Fleet ν β
  earlier : Trace ν β
  before : Fleet ν β
  window : Trace ν β
  after : Fleet ν β

/-- Start the fleet, perform the ones, and then the others. -/
def performThen (config : RoutingConfig ν) (inputs inputs' : List (FleetInput ν β)) :
    Except String (Stretch ν β) := do
  let (start, earlier, before) ← perform deps config inputs
  let (window, after) ← replay (step deps) before inputs'
  return { start, earlier, before, window, after }

variable {deps} in
theorem exec_of_performThen {config : RoutingConfig ν} {inputs inputs' : List (FleetInput ν β)}
    {run : Stretch ν β} (h : performThen deps config inputs inputs' = .ok run) :
    boot deps config = .ok run.start ∧ Exec (Step deps) run.start run.earlier run.before ∧
      Exec (Step deps) run.before run.window run.after := by
  obtain ⟨⟨start, earlier, before⟩, hperform, h⟩ := ok_of_bind h
  obtain ⟨⟨window, after⟩, hreplay, h⟩ := ok_of_bind h
  obtain rfl := Except.ok.inj h
  obtain ⟨hboot, hexec⟩ := exec_of_perform hperform
  exact ⟨hboot, hexec, (exec_of_replay hreplay).1⟩

end Fleet

/-- Thresholds of two and one, one retry; every payload is taken. -/
def FleetDeps.of (replicas : List Replica) : FleetDeps ℕ (Option (ReplicaReply ℕ)) where
  adapter := .new replicas 200 none
  thresholds := .twoOne
  route := ⟨1, fun _ => none⟩
  body := some
  unparsed _ := none

def FleetDeps.small : FleetDeps ℕ (Option (ReplicaReply ℕ)) :=
  .of [⟨"replica-1", "http://127.0.0.1:8001"⟩]

def FleetDeps.pair : FleetDeps ℕ (Option (ReplicaReply ℕ)) :=
  .of [⟨"replica-1", "http://127.0.0.1:8001"⟩, ⟨"replica-2", "http://127.0.0.1:8002"⟩]

end WhyRouted
