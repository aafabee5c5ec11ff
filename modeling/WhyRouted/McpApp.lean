import WhyRouted.Auth

/-! # The MCP app

`createMcpTools` (`src/mcp/tools/index.ts`) and `createMcpApp` (`src/mcp/server.ts`): which
tools the server registers, and the layers a request passes, in the order they are installed.
The token is read in three places, to decide what is registered, to decide whether the guard is
installed, and in the guard: `guarded` says what the three amount to.

Express and the MCP SDK are parameters (`Libraries`).  `σ` is the state of the process when a
request arrives, which may be any at each request, and `β` is whatever else a request holds. -/

namespace WhyRouted

/-! ### The tools -/

inductive ToolKind where
  | read
  | action
deriving DecidableEq, Repr

/-- A tool as the server registers it.  What its handler does is modelled beside the stores it
reads or writes. -/
structure ToolDefinition where
  kind : ToolKind
  name : String
deriving DecidableEq, Repr

def createReadTools : List ToolDefinition :=
  [⟨.read, "get_fleet_status"⟩, ⟨.read, "get_failover_history"⟩,
    ⟨.read, "explain_routing_decision"⟩, ⟨.read, "query_decisions"⟩]

def createActionTools : List ToolDefinition :=
  [⟨.action, "drain_replica"⟩, ⟨.action, "restore_replica"⟩, ⟨.action, "simulate_failure"⟩,
    ⟨.action, "set_routing_strategy"⟩, ⟨.action, "set_scoring_weights"⟩]

/-- Every tool to register for this bind and token, and the startup lines to log. -/
def createMcpTools (host : String) (token : Option String) : List ToolDefinition × List String :=
  match actionToolsAllowed host token with
  | .error reason => (createReadTools, authBanner host token ++ [reason])
  | .ok () => (createReadTools ++ createActionTools, authBanner host token)

/-! ### Requests and layers -/

structure HttpRequest (β : Type) where
  method : String
  path : String
  authorization : Option String
  rest : β

structure HttpResponse where
  status : ℕ
  headers : List (String × String)
  body : String
deriving DecidableEq, Repr

/-- A tool's handler was run. -/
structure HandlerRun where
  tool : ToolDefinition
  args : String
deriving DecidableEq, Repr

/-- The libraries the app stands on. -/
structure Libraries (σ β : Type) where
  /-- `express.json()`: the response to a body it cannot parse, `none` to go on. -/
  json : σ → HttpRequest β → Option HttpResponse
  /-- Whether a route for a method and a path takes the request. -/
  takes : String → String → HttpRequest β → Bool
  /-- The answer to a request no route took. -/
  notFound : HttpRequest β → HttpResponse
  /-- `transport.handleRequest` on a server with these tools: the handlers it ran, and what it
  answered; or a throw, with what had been sent by then. -/
  handleRequest : List ToolDefinition → σ → HttpRequest β →
    List HandlerRun × Except (Option HttpResponse) HttpResponse
  /-- Only registered tools are dispatched. -/
  registered : ∀ tools s request, ∀ run ∈ (handleRequest tools s request).1, run.tool ∈ tools

/-- What was run for a request, and what was answered. -/
abbrev Reply := List HandlerRun × HttpResponse

/-- A layer of the app ends a request or passes it on. -/
abbrev Layer (σ β : Type) := σ → HttpRequest β → Option Reply

/-- A JSON-RPC error outside any call. -/
def jsonRpcError (status : ℕ) (code : String) (message : String) : HttpResponse :=
  ⟨status, [], "\x7b\"jsonrpc\":\"2.0\",\"error\":\x7b\"code\":" ++ code ++ ",\"message\":" ++
    jsonString message ++ "\x7d,\"id\":null\x7d"⟩

/-- What the guard writes to a request without the token, whatever it lacks. -/
def unauthorized : HttpResponse :=
  ⟨401, [("WWW-Authenticate", "Bearer")], "\x7b\"error\":\"unauthorized\"\x7d"⟩

variable {σ β δ : Type} [DecidableEq δ]

/-- The guard: a request goes on if it carries the token. -/
def createAuthMiddleware (sha256 : String → δ) (token : String) : Layer σ β :=
  fun _ request =>
    if bearerMatches sha256 request.authorization token then none else some ([], unauthorized)

namespace Libraries

variable (lib : Libraries σ β)

/-- `express.json()` as a layer. -/
def jsonLayer : Layer σ β := fun s request => (lib.json s request).map ([], ·)

/-- `POST /mcp`: a fresh server over the tools. -/
def postMcp (tools : List ToolDefinition) : Layer σ β := fun s request =>
  if lib.takes "POST" "/mcp" request then
    match lib.handleRequest tools s request with
    | (runs, .ok response) => some (runs, response)
    | (runs, .error (some sent)) => some (runs, sent)
    | (runs, .error none) => some (runs, jsonRpcError 500 "-32603" "Internal server error")
  else none

/-- `GET /mcp` and `DELETE /mcp`: there are no streams and no sessions. -/
def notAllowed (method : String) : Layer σ β := fun _ request =>
  if lib.takes method "/mcp" request then
    some ([], jsonRpcError 405 "-32000" "Method not allowed.")
  else none

/-- The layers of the app. -/
def createMcpApp (sha256 : String → δ) (tools : List ToolDefinition) (token : Option String) :
    List (Layer σ β) :=
  (token.map (createAuthMiddleware sha256)).toList ++
    [lib.jsonLayer, lib.postMcp tools, lib.notAllowed "GET", lib.notAllowed "DELETE"]

def handle : List (Layer σ β) → σ → HttpRequest β → Reply
  | [], _, request => ([], lib.notFound request)
  | layer :: layers, s, request => (layer s request).getD (handle layers s request)

/-- The app `main` starts: the tools and the guard from one host and one token. -/
def mcpApp (sha256 : String → δ) (host : String) (token : Option String) : List (Layer σ β) :=
  lib.createMcpApp sha256 (createMcpTools host token).1 token

/-! ### What the layers amount to -/

variable {lib}

/-- What every layer's reply satisfies, and the final one, a request's reply satisfies. -/
theorem handle_induction {P : Reply → Prop} {s : σ} {request : HttpRequest β}
    {layers : List (Layer σ β)}
    (hlayer : ∀ layer ∈ layers, ∀ reply ∈ layer s request, P reply)
    (hnone : P ([], lib.notFound request)) : P (lib.handle layers s request) := by
  induction layers with
  | nil => exact hnone
  | cons layer layers ih =>
      unfold handle
      cases hl : layer s request with
      | none => exact ih fun l hmem => hlayer l (List.mem_cons_of_mem layer hmem)
      | some reply => exact hlayer layer List.mem_cons_self reply hl

theorem tool_of_postMcp {tools : List ToolDefinition} {s : σ} {request : HttpRequest β}
    {reply : Reply} (h : lib.postMcp tools s request = some reply) :
    ∀ run ∈ reply.1, run.tool ∈ tools := by
  have hregistered := lib.registered tools s request
  unfold postMcp at h
  split_ifs at h
  split at h
  case h_1 runs response heq =>
    obtain rfl := Option.some.inj h
    rwa [heq] at hregistered
  case h_2 runs sent heq =>
    obtain rfl := Option.some.inj h
    rwa [heq] at hregistered
  case h_3 runs heq =>
    obtain rfl := Option.some.inj h
    rwa [heq] at hregistered

theorem runs_of_notAllowed {method : String} {s : σ} {request : HttpRequest β} {reply : Reply}
    (h : lib.notAllowed method s request = some reply) : reply.1 = [] := by
  unfold notAllowed at h
  split_ifs at h
  obtain rfl := Option.some.inj h
  rfl

/-- Only registered tools run. -/
theorem tool_of_run (sha256 : String → δ) (tools : List ToolDefinition) (token : Option String)
    (s : σ) (request : HttpRequest β) :
    ∀ run ∈ (lib.handle (lib.createMcpApp sha256 tools token) s request).1, run.tool ∈ tools := by
  apply handle_induction (P := fun reply => ∀ run ∈ reply.1, run.tool ∈ tools)
  · intro layer hlayer reply hreply
    simp only [createMcpApp, List.mem_append, Option.mem_toList, Option.map_eq_some_iff,
      List.mem_cons, List.not_mem_nil, or_false] at hlayer
    rcases hlayer with ⟨t, -, rfl⟩ | rfl | rfl | rfl | rfl
    · simp only [createAuthMiddleware] at hreply
      split_ifs at hreply
      · cases hreply
      · obtain rfl := Option.some.inj hreply
        simp
    · obtain ⟨response, -, rfl⟩ := Option.map_eq_some_iff.mp hreply
      simp
    · exact tool_of_postMcp hreply
    · rw [runs_of_notAllowed hreply]
      simp
    · rw [runs_of_notAllowed hreply]
      simp
  · intro run hrun
    cases hrun

theorem handle_of_not_bears (sha256 : String → δ) (tools : List ToolDefinition) {token : String}
    (s : σ) {request : HttpRequest β} (hsha : NoCollision sha256 token request.authorization)
    (h : ¬ Bears token request.authorization) :
    lib.handle (lib.createMcpApp sha256 tools (some token)) s request = ([], unauthorized) := by
  have hguard : createAuthMiddleware sha256 token s request = some ([], unauthorized) := by
    unfold createAuthMiddleware
    rw [if_neg]
    intro hmatch
    exact h (bears_of_bearerMatches hsha hmatch)
  simp only [createMcpApp, Option.map_some, Option.toList_some, List.cons_append,
    List.nil_append, handle, hguard, Option.getD_some]

end Libraries

theorem registered_of_action {host : String} {token : Option String} {tool : ToolDefinition}
    (hmem : tool ∈ (createMcpTools host token).1) (hkind : tool.kind = .action) :
    actionToolsAllowed host token = .ok () := by
  unfold createMcpTools at hmem
  cases hpolicy : actionToolsAllowed host token with
  | ok _ => rfl
  | error reason =>
      rw [hpolicy] at hmem
      simp only [createReadTools, List.mem_cons, List.not_mem_nil, or_false] at hmem
      rcases hmem with rfl | rfl | rfl | rfl <;> cases hkind

/-! ### Any sequence of requests -/

/-- A request and what became of it. -/
structure McpExchange (β : Type) where
  request : HttpRequest β
  reply : Reply

/-- The requests of a run, each with the state of the process it arrives in. -/
def Libraries.serve (lib : Libraries σ β) (layers : List (Layer σ β))
    (arrivals : List (σ × HttpRequest β)) : List (McpExchange β) :=
  arrivals.map fun (s, request) => ⟨request, lib.handle layers s request⟩

/-- What entitles a request to an action: the token, or a loopback bind without one. -/
def Authority (host : String) (token : Option String) (header : Option String) : Prop :=
  (∃ t, token = some t ∧ Bears t header) ∨ (token = none ∧ isLoopbackHost host = true)

/-- An exchange in which no action was run without authority, and in which a request without
the token got the one answer there is for it. -/
structure Guarded (host : String) (token : Option String) (x : McpExchange β) : Prop where
  action : ∀ run ∈ x.reply.1, run.tool.kind = .action →
    Authority host token x.request.authorization
  refused : ∀ t, token = some t → ¬ Bears t x.request.authorization →
    x.reply = ([], unauthorized)

/-- **No action without authority**: for every host, every token and every sequence of requests,
if what they present does not collide with the token. -/
theorem no_action_without_authority (lib : Libraries σ β) (sha256 : String → δ) (host : String)
    (token : Option String) (arrivals : List (σ × HttpRequest β))
    (hsha : ∀ x ∈ arrivals, ∀ t ∈ token, NoCollision sha256 t x.2.authorization) :
    ∀ x ∈ lib.serve (lib.mcpApp sha256 host token) arrivals, Guarded host token x := by
  intro x hx
  obtain ⟨⟨s, request⟩, harrival, rfl⟩ := List.mem_map.mp hx
  have hrefused : ∀ t, token = some t → ¬ Bears t request.authorization →
      lib.handle (lib.mcpApp sha256 host token) s request = ([], unauthorized) := by
    rintro t rfl hbears
    exact Libraries.handle_of_not_bears sha256 _ s (hsha _ harrival t rfl) hbears
  refine ⟨?_, hrefused⟩
  intro run hrun hkind
  have hmem := Libraries.tool_of_run sha256 _ token s request run hrun
  have hallowed := registered_of_action hmem hkind
  cases token with
  | none => exact Or.inr ⟨rfl, loopback_of_actionToolsAllowed hallowed⟩
  | some t =>
      refine Or.inl ⟨t, rfl, ?_⟩
      by_contra hbears
      have hnone : run ∈ (lib.handle (lib.mcpApp sha256 host (some t)) s request).1 := hrun
      rw [hrefused t rfl hbears] at hnone
      cases hnone

/-- An SDK that runs the registered tool a request names. -/
def namedTool : Libraries Unit String where
  json _ _ := none
  takes method path request := decide (request.method = method ∧ request.path = path)
  notFound _ := ⟨404, [], ""⟩
  handleRequest tools _ request :=
    ((tools.filter (·.name = request.rest)).map (⟨·, ""⟩), .ok ⟨200, [], ""⟩)
  registered tools _ request run hrun := by
    obtain ⟨tool, htool, rfl⟩ := List.mem_map.mp hrun
    exact (List.mem_filter.mp htool).1

/-- On an open bind with a token, the first of two drains carries it. -/
theorem no_action_without_authority_openBind :
    let arrivals := [((), ⟨"POST", "/mcp", some "BEARER correct-horse-battery-staple",
        "drain_replica"⟩), ((), ⟨"POST", "/mcp", some "Bearer wrong", "drain_replica"⟩)]
    let exchanges := namedTool.serve (namedTool.mcpApp id "0.0.0.0"
      (some "correct-horse-battery-staple")) arrivals
    (∀ x ∈ exchanges, Guarded "0.0.0.0" (some "correct-horse-battery-staple") x) ∧
      exchanges.map (fun x => (x.reply.1.length, x.reply.2.status)) = [(1, 200), (0, 401)] := by
  refine ⟨no_action_without_authority namedTool id "0.0.0.0" _ _ ?_, by decide⟩
  intro x _ t _ text _ credentials _ h
  exact h

end WhyRouted
