import WhyRouted.Engine
import WhyRouted.Execution
import WhyRouted.Hysteresis
import WhyRouted.JsText

/-! # Configuration

`src/config.ts`: the settings read from the environment, their checks, and the fleet they
describe.  `Number` and the printing of a number belong to the language, so they are a
parameter (`Numerals`); an integer setting is an integer whatever it was written as.

`problems` is the list of messages `validate` collects, one `report` for each check, and
`problems_eq_nil_iff` is what it means that there are none. -/

namespace WhyRouted

variable {ν : Type}

/-- What the language does with the numbers of a setting. -/
structure Numerals (ν : Type) where
  /-- `Number(raw)`. -/
  read : String → ν
  /-- The integer a number is, if `Number.isInteger` holds of it. -/
  integer : ν → Option ℤ
  /-- What a template literal prints for an integer. -/
  text : ℤ → String

/-- The environment variables that are set. -/
abbrev Env := String → Option String

/-- The validated settings. -/
structure Config (ν : Type) where
  host : String
  fleetSize : ℤ
  basePort : ℤ
  statusPort : ℤ
  mcpToken : Option String
  mcpPort : ℤ
  healthIntervalMs : ℤ
  healthTimeoutMs : ℤ
  unhealthyThreshold : ℤ
  healthyThreshold : ℤ
  routingStrategy : StrategyName
  scoringWeights : ScoringWeights ν
  maxRetries : ℤ

/-- `MIN_TOKEN_LENGTH`. -/
def minTokenLength : ℕ := 16

/-! ### Reading -/

section read

variable [JsNumber ν] (numerals : Numerals ν) (env : Env)

/-- `DEFAULT_CONFIG`. -/
def defaultConfig : Config ν where
  host := "127.0.0.1"
  fleetSize := 4
  basePort := 8001
  statusPort := 8080
  mcpToken := none
  mcpPort := 8090
  healthIntervalMs := 500
  healthTimeoutMs := 200
  unhealthyThreshold := 3
  healthyThreshold := 2
  routingStrategy := .leastLoaded
  scoringWeights := ⟨JsNumber.ofNat 1, JsNumber.ofNat 1⟩
  maxRetries := 2

/-- `env[name]?.trim() || undefined`: a blank setting is no setting. -/
def readText (name : String) : Option String :=
  (env name).bind fun raw => if jsTrim raw = "" then none else some (jsTrim raw)

/-- A setting read as a number, checked and converted by `accept`. -/
def readSetting {α : Type} (accept : ν → Option α) (expected name : String) (fallback : α) :
    Except String α :=
  match env name with
  | none => .ok fallback
  | some raw =>
      if jsTrim raw = "" then .ok fallback
      else match accept (numerals.read raw) with
        | some value => .ok value
        | none => .error (name ++ " must be " ++ expected ++ ", got " ++ jsonString raw)

def readInt (name : String) (fallback : ℤ) : Except String ℤ :=
  readSetting numerals env numerals.integer "an integer" name fallback

def readNumber (name : String) (fallback : ν) : Except String ν :=
  readSetting numerals env (fun n => if JsNumber.isFinite n then some n else none)
    "a finite number" name fallback

def readStrategy (name : String) (fallback : StrategyName) : Except String StrategyName :=
  match readText env name with
  | none => .ok fallback
  | some raw => match parseStrategyName raw with
    | some strategy => .ok strategy
    | none => .error (name ++ " must be one of " ++
        ", ".intercalate (strategyNames.map StrategyName.text) ++ ", got " ++ jsonString raw)

end read

/-! ### Checking -/

/-- One check: its message, when something is wrong. -/
def report (wrong : Bool) (message : String) : List String := if wrong then [message] else []

@[simp] theorem report_eq_nil_iff {wrong : Bool} {message : String} :
    report wrong message = [] ↔ wrong = false := by
  unfold report
  cases wrong <;> simp

namespace Config

section validate

variable [JsNumber ν] (numerals : Numerals ν) (c : Config ν)

/-- The last port of the fleet. -/
def topPort : ℤ := c.basePort + max c.fleetSize 1 - 1

/-- A port outside the range of ports. -/
def portProblems (name : String) (port : ℤ) : List String :=
  report (decide (port < 1) || decide (65535 < port)) (name ++ " must be between 1 and 65535")

/-- A server's port among the fleet's. -/
def collisionProblems (name : String) (port : ℤ) : List String :=
  report (decide (c.basePort ≤ port) && decide (port ≤ c.topPort))
    (name ++ " " ++ numerals.text port ++ " collides with the replica port range " ++
      numerals.text c.basePort ++ "-" ++ numerals.text c.topPort)

/-- The messages `validate` collects, in its order. -/
def problems : List String :=
  report (c.fleetSize < 1) "WR_FLEET_SIZE must be >= 1" ++
  portProblems "WR_BASE_PORT" c.basePort ++
  portProblems "WR_STATUS_PORT" c.statusPort ++
  portProblems "WR_MCP_PORT" c.mcpPort ++
  report (65535 < c.topPort)
    ("WR_BASE_PORT + WR_FLEET_SIZE - 1 = " ++ numerals.text c.topPort ++ " exceeds 65535") ++
  c.collisionProblems numerals "WR_STATUS_PORT" c.statusPort ++
  c.collisionProblems numerals "WR_MCP_PORT" c.mcpPort ++
  report (c.mcpPort = c.statusPort)
    ("WR_MCP_PORT " ++ numerals.text c.mcpPort ++ " collides with WR_STATUS_PORT") ++
  report (c.mcpToken.any fun token => jsLength token < minTokenLength)
    ("WR_MCP_TOKEN must be at least " ++ toString minTokenLength ++ " characters") ++
  report (c.healthIntervalMs < 1) "WR_HEALTH_INTERVAL_MS must be >= 1" ++
  report (c.healthTimeoutMs < 1) "WR_HEALTH_TIMEOUT_MS must be >= 1" ++
  report (c.healthIntervalMs ≤ c.healthTimeoutMs)
    ("WR_HEALTH_TIMEOUT_MS (" ++ numerals.text c.healthTimeoutMs ++
      ") must be < WR_HEALTH_INTERVAL_MS (" ++ numerals.text c.healthIntervalMs ++ ")") ++
  report (c.unhealthyThreshold < 1) "WR_UNHEALTHY_THRESHOLD must be >= 1" ++
  report (c.healthyThreshold < 1) "WR_HEALTHY_THRESHOLD must be >= 1" ++
  report (c.maxRetries < 0) "WR_MAX_RETRIES must be >= 0" ++
  report (JsNumber.lt c.scoringWeights.loadWeight (JsNumber.ofNat 0))
    "WR_LOAD_WEIGHT must be >= 0" ++
  report (JsNumber.lt c.scoringWeights.latencyWeight (JsNumber.ofNat 0))
    "WR_LATENCY_WEIGHT must be >= 0"

/-- Throws one error that lists every problem. -/
def validate : Except String Unit :=
  if c.problems numerals = [] then .ok ()
  else .error ("invalid configuration:\n  - " ++ "\n  - ".intercalate (c.problems numerals))

/-- What `validate` asks of the settings. -/
structure Valid : Prop where
  fleetSize : 1 ≤ c.fleetSize
  basePort : 1 ≤ c.basePort ∧ c.basePort ≤ 65535
  statusPort : 1 ≤ c.statusPort ∧ c.statusPort ≤ 65535
  mcpPort : 1 ≤ c.mcpPort ∧ c.mcpPort ≤ 65535
  topPort : c.topPort ≤ 65535
  statusPort_free : c.basePort ≤ c.statusPort → c.topPort < c.statusPort
  mcpPort_free : c.basePort ≤ c.mcpPort → c.topPort < c.mcpPort
  servers_differ : c.mcpPort ≠ c.statusPort
  mcpToken : ∀ token, c.mcpToken = some token → minTokenLength ≤ jsLength token
  healthIntervalMs : 1 ≤ c.healthIntervalMs
  healthTimeoutMs : 1 ≤ c.healthTimeoutMs
  timeout_lt_interval : c.healthTimeoutMs < c.healthIntervalMs
  unhealthyThreshold : 1 ≤ c.unhealthyThreshold
  healthyThreshold : 1 ≤ c.healthyThreshold
  maxRetries : 0 ≤ c.maxRetries
  loadWeight : JsNumber.lt c.scoringWeights.loadWeight (JsNumber.ofNat 0) = false
  latencyWeight : JsNumber.lt c.scoringWeights.latencyWeight (JsNumber.ofNat 0) = false

/-- **The checks are complete**: there is no message exactly when the settings are valid. -/
theorem problems_eq_nil_iff : c.problems numerals = [] ↔ c.Valid := by
  simp only [problems, portProblems, collisionProblems, List.append_eq_nil_iff,
    report_eq_nil_iff, decide_eq_false_iff_not, Bool.or_eq_false_iff, Bool.and_eq_false_iff,
    not_lt, not_le, Option.any_eq_false]
  constructor
  · rintro ⟨⟨⟨⟨⟨⟨⟨⟨⟨⟨⟨⟨⟨⟨⟨⟨hfleet, hbase⟩, hstatus⟩, hmcp⟩, htop⟩, hstatusFree⟩, hmcpFree⟩,
      hdiffer⟩, htoken⟩, hinterval⟩, htimeout⟩, hless⟩, hunhealthy⟩, hhealthy⟩, hretries⟩,
      hload⟩, hlatency⟩
    exact {
      fleetSize := hfleet, basePort := hbase, statusPort := hstatus, mcpPort := hmcp
      topPort := htop
      statusPort_free := fun hle => hstatusFree.resolve_left (not_lt.mpr hle)
      mcpPort_free := fun hle => hmcpFree.resolve_left (not_lt.mpr hle)
      servers_differ := hdiffer
      mcpToken := htoken
      healthIntervalMs := hinterval, healthTimeoutMs := htimeout, timeout_lt_interval := hless
      unhealthyThreshold := hunhealthy, healthyThreshold := hhealthy, maxRetries := hretries
      loadWeight := hload, latencyWeight := hlatency }
  · intro hv
    have hfree : ∀ port, (c.basePort ≤ port → c.topPort < port) →
        port < c.basePort ∨ c.topPort < port := by
      intro port h
      rcases lt_or_ge port c.basePort with hlt | hge
      · exact .inl hlt
      · exact .inr (h hge)
    exact ⟨⟨⟨⟨⟨⟨⟨⟨⟨⟨⟨⟨⟨⟨⟨⟨hv.fleetSize, hv.basePort⟩, hv.statusPort⟩, hv.mcpPort⟩, hv.topPort⟩,
      hfree _ hv.statusPort_free⟩, hfree _ hv.mcpPort_free⟩, hv.servers_differ⟩, hv.mcpToken⟩,
      hv.healthIntervalMs⟩, hv.healthTimeoutMs⟩, hv.timeout_lt_interval⟩,
      hv.unhealthyThreshold⟩, hv.healthyThreshold⟩, hv.maxRetries⟩, hv.loadWeight⟩,
      hv.latencyWeight⟩

theorem validate_ok_iff : c.validate numerals = .ok () ↔ c.Valid := by
  rw [← problems_eq_nil_iff numerals]
  unfold validate
  split_ifs with h <;> simp [h]

variable {c} in
def thresholds (hv : c.Valid) : Thresholds where
  unhealthyThreshold := c.unhealthyThreshold.toNat
  healthyThreshold := c.healthyThreshold.toNat
  unhealthy_pos := by
    have hpos := hv.unhealthyThreshold
    omega
  healthy_pos := by
    have hpos := hv.healthyThreshold
    omega

end validate

end Config

/-- The object `loadConfig` builds, before `validate` has seen it. -/
def readConfig [JsNumber ν] (numerals : Numerals ν) (env : Env) : Except String (Config ν) := do
  let default : Config ν := defaultConfig
  return {
    host := (readText env "WR_HOST").getD default.host
    fleetSize := ← readInt numerals env "WR_FLEET_SIZE" default.fleetSize
    basePort := ← readInt numerals env "WR_BASE_PORT" default.basePort
    statusPort := ← readInt numerals env "WR_STATUS_PORT" default.statusPort
    mcpPort := ← readInt numerals env "WR_MCP_PORT" default.mcpPort
    mcpToken := readText env "WR_MCP_TOKEN"
    healthIntervalMs := ← readInt numerals env "WR_HEALTH_INTERVAL_MS" default.healthIntervalMs
    healthTimeoutMs := ← readInt numerals env "WR_HEALTH_TIMEOUT_MS" default.healthTimeoutMs
    unhealthyThreshold :=
      ← readInt numerals env "WR_UNHEALTHY_THRESHOLD" default.unhealthyThreshold
    healthyThreshold := ← readInt numerals env "WR_HEALTHY_THRESHOLD" default.healthyThreshold
    routingStrategy := ← readStrategy env "WR_ROUTING_STRATEGY" default.routingStrategy
    maxRetries := ← readInt numerals env "WR_MAX_RETRIES" default.maxRetries
    scoringWeights := {
      loadWeight := ← readNumber numerals env "WR_LOAD_WEIGHT" default.scoringWeights.loadWeight
      latencyWeight :=
        ← readNumber numerals env "WR_LATENCY_WEIGHT" default.scoringWeights.latencyWeight } }

/-- The settings of an environment, with defaults, checked. -/
def loadConfig [JsNumber ν] (numerals : Numerals ν) (env : Env) : Except String (Config ν) := do
  let config ← readConfig numerals env
  config.validate numerals
  return config

theorem valid_of_loadConfig [JsNumber ν] {numerals : Numerals ν} {env : Env} {c : Config ν}
    (h : loadConfig numerals env = .ok c) : c.Valid := by
  obtain ⟨c', -, h⟩ := ok_of_bind h
  obtain ⟨⟨⟩, hvalid, h⟩ := ok_of_bind h
  obtain rfl := Except.ok.inj h
  exact (Config.validate_ok_iff numerals _).mp hvalid

/-- The fleet: ids from `replica-1` on, ports from `basePort` on. -/
def fleetReplicas (numerals : Numerals ν) (c : Config ν) : List Replica :=
  (List.range c.fleetSize.toNat).map fun (i : ℕ) =>
    { id := "replica-" ++ toString (i + 1)
      url := "http://" ++ c.host ++ ":" ++ numerals.text (c.basePort + (i : ℤ)) }

theorem nodup_fleetReplicas (numerals : Numerals ν) (c : Config ν) :
    ((fleetReplicas numerals c).map (·.id)).Nodup := by
  unfold fleetReplicas
  rw [List.map_map]
  apply List.nodup_range.map
  intro i j h
  have hid : "replica-" ++ toString (i + 1) = "replica-" ++ toString (j + 1) := h
  have hlists := congrArg String.toList hid
  rw [String.toList_append, String.toList_append] at hlists
  have htail := String.toList_injective (List.append_cancel_left hlists)
  exact Nat.succ_injective (natText_injective htail)

end WhyRouted
