import WhyRouted.Runs

/-! # The wired system

The control plane together with every `POST /route` request in flight.  JavaScript runs one
stretch of code at a time, so the system moves by a request arriving, by the send of one
request settling, by a probe completing, or by a tool being called, and each move is atomic:
in particular a handler whose send failed ejects the replica, records the event and asks the
engine again, on the registry it has just changed, with nothing in between.

A step runs the handler's own functions and performs the calls they make on the control plane.
`step_refines` says that a step is a few operations of the control plane, so what holds of all
its executions holds here. -/

namespace WhyRouted

variable {ν β : Type} [JsNumber ν]

/-- The stores and the requests, in order of arrival, finished ones included. -/
structure System (ν β : Type) where
  control : ControlPlane ν
  handlers : List (Handler ν β)

/-- What can happen next. -/
inductive Input (ν β : Type) where
  | request (requestId : String) (payload : β) (ambient : Ambient)
  /-- The pending send of request `i` settles. -/
  | settle (i : ℕ) (settled : Settled ν β) (ambient ambient' : Ambient)
  | probed (replicaId : String) (result : HealthResult ν) (now eventId : String)
  | tool (call : ToolCall ν)

/-- What a step shows: the calls a handler made, and what a tool returned. -/
structure Report (ν β : Type) where
  calls : List (Call ν β) := []
  output : Output ν := .done

namespace ControlPlane

variable (th : Thresholds) (ambient : Ambient)

/-- Perform a call a handler makes.  Its engine calls are made by `route`, and sends and
responses leave the process. -/
def perform (cp : ControlPlane ν) : Call ν β → Except String (ControlPlane ν)
  | .eject replicaId reason => do
      return (← cp.act th (.eject replicaId reason (ambient.clock 4) (ambient.uuid 4))).1
  | .recordEvent event => do return (← cp.act th (.recordEvent event)).1
  | .recordDecision decision => do return (← cp.act th (.recordDecision decision)).1
  | .route _ _ => .ok cp
  | .sendRequest _ _ => .ok cp
  | .respond _ => .ok cp

/-- Perform the calls of one stretch, in order. -/
def performAll (cp : ControlPlane ν) (calls : List (Call ν β)) : Except String (ControlPlane ν) :=
  calls.foldlM (perform th ambient) cp

end ControlPlane

namespace System

variable (th : Thresholds) (deps : RouteDeps ν β)

/-- A handler at the head of its loop: it asks the engine and acts on the answer. -/
def loopHead (control : ControlPlane ν) (h : Handler ν β) (ambient : Ambient) :
    Except String (ControlPlane ν × Handler ν β × List (Call ν β)) := do
  let (decision, control) := control.route (some h.exclude)
  let (h, calls) := h.onRouted deps decision ambient
  let control ← control.performAll th ambient calls
  return (control, h, calls)

/-- A handler whose send has settled, up to its next await. -/
def resume (control : ControlPlane ν) (h : Handler ν β) (decision : RouteResult ν)
    (replicaId : String) (settled : Settled ν β) (ambient ambient' : Ambient) :
    Except String (ControlPlane ν × Handler ν β × List (Call ν β)) := do
  let (h, calls) := h.onSettled deps decision replicaId settled ambient
  let control ← control.performAll th ambient calls
  match h.phase with
  | .routing =>
      let (control, h, calls') ← loopHead th deps control h ambient'
      return (control, h, calls ++ calls')
  | _ => return (control, h, calls)

/-- One step.  An exception stands for one nothing catches, or for an input that cannot
occur. -/
def step (s : System ν β) : Input ν β → Except String (System ν β × Report ν β)
  | .request requestId payload ambient => do
      let (control, h, calls) ← loopHead th deps s.control { requestId, payload } ambient
      return (⟨control, s.handlers ++ [h]⟩, { calls })
  | .settle i settled ambient ambient' =>
      match s.handlers[i]? with
      | none => .error "no such request"
      | some h =>
          match h.phase with
          | .sending decision replicaId => do
              let (control, h, calls) ←
                resume th deps s.control h decision replicaId settled ambient ambient'
              return (⟨control, s.handlers.set i h⟩, { calls })
          | _ => .error "no send is pending"
  | .probed replicaId result now eventId => do
      let (control, _) ← s.control.act th (.probed replicaId result now eventId)
      return ({ s with control }, {})
  | .tool call => do
      let (control, output) ← s.control.act th (.tool call)
      return ({ s with control }, { output })

abbrev Step : System ν β → Input ν β × Report ν β → System ν β → Prop := Computes (step th deps)

abbrev Trace (ν β : Type) := List (Transition (System ν β) (Input ν β × Report ν β))

def boot (replicas : List Replica) (config : RoutingConfig ν) : Except String (System ν β) := do
  return ⟨← wire replicas config, []⟩

/-! ### A step is a few operations of the control plane -/

variable {th : Thresholds} {deps : RouteDeps ν β} {cp cp' : ControlPlane ν} {ambient : Ambient}
  {s s' : System ν β} {report : Report ν β}

theorem exec_of_perform {call : Call ν β} (h : cp.perform th ambient call = .ok cp') :
    ∃ tr, Exec (ControlPlane.Step th) cp tr cp' := by
  cases call with
  | route exclude decision => exact ⟨[], by rw [exec_nil_iff]; exact (Except.ok.inj h).symm⟩
  | sendRequest replicaId payload =>
      exact ⟨[], by rw [exec_nil_iff]; exact (Except.ok.inj h).symm⟩
  | respond res => exact ⟨[], by rw [exec_nil_iff]; exact (Except.ok.inj h).symm⟩
  | eject replicaId reason =>
      obtain ⟨⟨_, out⟩, hact, h⟩ := ok_of_bind h
      obtain rfl := Except.ok.inj h
      exact ⟨_, Exec.computed hact⟩
  | recordEvent event =>
      obtain ⟨⟨_, out⟩, hact, h⟩ := ok_of_bind h
      obtain rfl := Except.ok.inj h
      exact ⟨_, Exec.computed hact⟩
  | recordDecision decision =>
      obtain ⟨⟨_, out⟩, hact, h⟩ := ok_of_bind h
      obtain rfl := Except.ok.inj h
      exact ⟨_, Exec.computed hact⟩

theorem exec_of_performAll {calls : List (Call ν β)}
    (h : cp.performAll th ambient calls = .ok cp') :
    ∃ tr, Exec (ControlPlane.Step th) cp tr cp' := by
  induction calls generalizing cp with
  | nil => exact ⟨[], by rw [exec_nil_iff]; exact (Except.ok.inj h).symm⟩
  | cons call calls ih =>
      obtain ⟨cp₁, h₁, h₂⟩ := ok_of_bind h
      obtain ⟨tr₁, hexec₁⟩ := exec_of_perform h₁
      obtain ⟨tr₂, hexec₂⟩ := ih h₂
      exact ⟨_, hexec₁.trans hexec₂⟩

theorem exec_of_loopHead {h h' : Handler ν β} {calls : List (Call ν β)}
    (hl : loopHead th deps cp h ambient = .ok (cp', h', calls)) :
    ∃ tr, Exec (ControlPlane.Step th) cp tr cp' := by
  obtain ⟨cp₁, h₁, h₂⟩ := ok_of_bind hl
  obtain ⟨rfl, -⟩ := Prod.mk.inj (Except.ok.inj h₂)
  obtain ⟨tr, hexec⟩ := exec_of_performAll h₁
  have hroute : ControlPlane.Step th cp
      (.route (some h.exclude), .routed (cp.route (some h.exclude)).1)
      (cp.route (some h.exclude)).2 := rfl
  exact ⟨_, (Exec.single hroute).trans hexec⟩

theorem exec_of_resume {h h' : Handler ν β} {decision : RouteResult ν} {replicaId : String}
    {settled : Settled ν β} {ambient' : Ambient} {calls : List (Call ν β)}
    (hr : resume th deps cp h decision replicaId settled ambient ambient' = .ok (cp', h', calls)) :
    ∃ tr, Exec (ControlPlane.Step th) cp tr cp' := by
  obtain ⟨cp₁, h₁, h₂⟩ := ok_of_bind hr
  obtain ⟨tr₁, hexec₁⟩ := exec_of_performAll h₁
  split at h₂
  · obtain ⟨⟨cp₂, h₃, calls₂⟩, hl, h₂⟩ := ok_of_bind h₂
    obtain ⟨rfl, -⟩ := Prod.mk.inj (Except.ok.inj h₂)
    obtain ⟨tr₂, hexec₂⟩ := exec_of_loopHead hl
    exact ⟨_, hexec₁.trans hexec₂⟩
  · obtain ⟨rfl, -⟩ := Prod.mk.inj (Except.ok.inj h₂)
    exact ⟨_, hexec₁⟩

/-- **The system refines the control plane**: a step of the one is an execution of the other. -/
theorem step_refines {a : Input ν β} (h : s.step th deps a = .ok (s', report)) :
    ∃ tr, Exec (ControlPlane.Step th) s.control tr s'.control := by
  cases a with
  | request requestId payload ambient =>
      obtain ⟨⟨cp, h', calls⟩, hl, h⟩ := ok_of_bind h
      obtain ⟨rfl, -⟩ := Prod.mk.inj (Except.ok.inj h)
      exact exec_of_loopHead hl
  | settle i settled ambient ambient' =>
      simp only [step] at h
      split at h
      · cases h
      · split at h
        · obtain ⟨⟨cp, h', calls⟩, hr, h⟩ := ok_of_bind h
          obtain ⟨rfl, -⟩ := Prod.mk.inj (Except.ok.inj h)
          exact exec_of_resume hr
        · cases h
  | probed replicaId result now eventId =>
      obtain ⟨⟨cp, out⟩, hact, h⟩ := ok_of_bind h
      obtain ⟨rfl, -⟩ := Prod.mk.inj (Except.ok.inj h)
      exact ⟨_, Exec.computed hact⟩
  | tool call =>
      obtain ⟨⟨cp, out⟩, hact, h⟩ := ok_of_bind h
      obtain ⟨rfl, -⟩ := Prod.mk.inj (Except.ok.inj h)
      exact ⟨_, Exec.computed hact⟩

variable {s₀ : System ν β} {replicas : List Replica} {config : RoutingConfig ν}
  {tr : Trace ν β}

theorem wire_of_boot (h₀ : boot replicas config = .ok s₀) :
    wire replicas config = .ok s₀.control ∧ s₀.handlers = [] := by
  obtain ⟨cp, hw, h⟩ := ok_of_bind h₀
  obtain rfl := Except.ok.inj h
  exact ⟨hw, rfl⟩

/-- In every reachable state the scheduler and the registry agree. -/
theorem mirrors_of_exec (h₀ : boot replicas config = .ok s₀) (h : Exec (Step th deps) s₀ tr s) :
    s.control.health.Mirrors := by
  obtain ⟨tr', h'⟩ := h.simulate control fun _ _ _ hs => step_refines hs
  exact (ControlPlane.record_of_exec (wire_of_boot h₀).1 h').1

end System

/-! ### A small setting for runs -/

/-- One retry, and a response write that succeeds. -/
def RouteDeps.oneRetry : RouteDeps ℕ Unit := ⟨1, fun _ => none⟩

/-- Ids and clock readings for runs that look at neither. -/
def Ambient.still : Ambient := ⟨fun _ => "id", fun _ => "now"⟩

/-- A send that ran into its deadline. -/
def timedOut : Settled ℕ Unit := .error (.request { kind := .timeout, message := "timed out" })

end WhyRouted
