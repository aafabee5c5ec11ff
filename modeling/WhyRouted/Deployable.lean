import Mathlib.Algebra.Order.Ring.Nat
import WhyRouted.Config

/-! # Accepted settings can be deployed

What the rest of the process relies on when `loadConfig` has returned: ports that exist and do not
collide, a fleet with distinct ids and urls, a probe that ends before the next one starts, and a
strategy and weights that the routing config accepts.  `validate` checks about as many things one
by one; `deployable_iff_valid` says that they come to the same. -/

namespace WhyRouted

variable {ν : Type} [JsNumber ν]

/-- `createRoutingConfig`: the holder's startup values, checked. -/
def createRoutingConfig (strategy : String) (weights : ScoringWeights ν) :
    Except String (RoutingConfig ν) := do
  let strategyName ← assertValidStrategyName strategy
  assertValidWeights weights
  return ⟨strategyName, weights⟩

/-- What the numbers of a setting owe the language. -/
structure Numerals.Lawful (numerals : Numerals ν) : Prop where
  /-- A port prints as its decimal digits. -/
  text : ∀ n : ℕ, n ≤ 65535 → numerals.text n = toString n
  /-- The default weight is a finite number. -/
  one : JsNumber.isFinite (JsNumber.ofNat 1 : ν) = true

/-! ### What reading gives -/

omit [JsNumber ν] in
theorem accepted_of_readSetting {α : Type} {numerals : Numerals ν} {env : Env}
    {accept : ν → Option α} {expected name : String} {fallback value : α}
    (h : readSetting numerals env accept expected name fallback = .ok value) :
    value = fallback ∨ ∃ n, accept n = some value := by
  unfold readSetting at h
  cases hraw : env name with
  | none =>
      rw [hraw] at h
      exact Or.inl (Except.ok.inj h).symm
  | some raw =>
      simp only [hraw] at h
      split_ifs at h
      · exact Or.inl (Except.ok.inj h).symm
      · cases haccept : accept (numerals.read raw) with
        | none => simp [haccept] at h
        | some value' =>
            simp only [haccept] at h
            obtain rfl := Except.ok.inj h
            exact Or.inr ⟨_, haccept⟩

theorem finite_of_readNumber {numerals : Numerals ν} {env : Env} {name : String}
    {fallback value : ν} (hfallback : JsNumber.isFinite fallback = true)
    (h : readNumber numerals env name fallback = .ok value) : JsNumber.isFinite value = true := by
  rcases accepted_of_readSetting h with rfl | ⟨n, hn⟩
  · exact hfallback
  · split_ifs at hn with hfinite
    obtain rfl := Option.some.inj hn
    exact hfinite

theorem trimmed_of_readText {env : Env} {name text : String} (h : readText env name = some text) :
    Trimmed text := by
  obtain ⟨raw, -, hraw⟩ := Option.bind_eq_some_iff.mp h
  split_ifs at hraw
  obtain rfl := Option.some.inj hraw
  exact trimmed_jsTrim raw

/-- What reading alone guarantees: finite weights and a trimmed token. -/
structure Config.Parsed (c : Config ν) : Prop where
  loadWeight : JsNumber.isFinite c.scoringWeights.loadWeight = true
  latencyWeight : JsNumber.isFinite c.scoringWeights.latencyWeight = true
  mcpToken : ∀ token, c.mcpToken = some token → Trimmed token

theorem parsed_of_readConfig {numerals : Numerals ν} {env : Env} {c : Config ν}
    (hone : JsNumber.isFinite (JsNumber.ofNat 1 : ν) = true)
    (h : readConfig numerals env = .ok c) : c.Parsed := by
  simp only [readConfig] at h
  obtain ⟨_, -, h⟩ := ok_of_bind h
  obtain ⟨_, -, h⟩ := ok_of_bind h
  obtain ⟨_, -, h⟩ := ok_of_bind h
  obtain ⟨_, -, h⟩ := ok_of_bind h
  obtain ⟨_, -, h⟩ := ok_of_bind h
  obtain ⟨_, -, h⟩ := ok_of_bind h
  obtain ⟨_, -, h⟩ := ok_of_bind h
  obtain ⟨_, -, h⟩ := ok_of_bind h
  obtain ⟨_, -, h⟩ := ok_of_bind h
  obtain ⟨_, -, h⟩ := ok_of_bind h
  obtain ⟨_, hload, h⟩ := ok_of_bind h
  obtain ⟨_, hlatency, h⟩ := ok_of_bind h
  obtain rfl := Except.ok.inj h
  exact ⟨finite_of_readNumber hone hload, finite_of_readNumber hone hlatency,
    fun _ htoken => trimmed_of_readText htoken⟩

/-! ### What deployment needs -/

omit [JsNumber ν] in
/-- The ports `launchFleet` starts the replicas on, in order. -/
def fleetPorts (c : Config ν) : List ℤ :=
  (List.range c.fleetSize.toNat).map fun (i : ℕ) => c.basePort + (i : ℤ)

/-- The ports the process opens or probes. -/
def ports (c : Config ν) : List ℤ := fleetPorts c ++ [c.statusPort, c.mcpPort]

/-- What everything behind the configuration relies on. -/
structure Deployable (numerals : Numerals ν) (c : Config ν) : Prop where
  ports_distinct : (ports c).Nodup
  ports_exist : ∀ port ∈ ports c, 1 ≤ port ∧ port ≤ 65535
  fleet : fleetReplicas numerals c ≠ []
  /-- Each replica is looked for at its port. -/
  listens : (fleetReplicas numerals c).map (·.url) =
    (fleetPorts c).map fun port => "http://" ++ c.host ++ ":" ++ toString port
  ids : ((fleetReplicas numerals c).map (·.id)).Nodup
  urls : ((fleetReplicas numerals c).map (·.url)).Nodup
  timing : 1 ≤ c.healthTimeoutMs ∧ c.healthTimeoutMs < c.healthIntervalMs
  unhealthyThreshold : 1 ≤ c.unhealthyThreshold
  healthyThreshold : 1 ≤ c.healthyThreshold
  maxRetries : 0 ≤ c.maxRetries
  /-- The routing config takes the strategy and the weights. -/
  routing : createRoutingConfig c.routingStrategy.text c.scoringWeights =
    .ok ⟨c.routingStrategy, c.scoringWeights⟩
  token : ∀ token, c.mcpToken = some token → minTokenLength ≤ jsLength token ∧ Trimmed token

omit [JsNumber ν] in
theorem urls_fleetReplicas (numerals : Numerals ν) (c : Config ν) :
    (fleetReplicas numerals c).map (·.url) =
      (fleetPorts c).map fun port => "http://" ++ c.host ++ ":" ++ numerals.text port := by
  unfold fleetReplicas fleetPorts
  rw [List.map_map, List.map_map]
  rfl

omit [JsNumber ν] in
theorem mem_fleetPorts {c : Config ν} {port : ℤ} :
    port ∈ fleetPorts c ↔ c.basePort ≤ port ∧ port < c.basePort + c.fleetSize.toNat := by
  simp only [fleetPorts, List.mem_map, List.mem_range]
  constructor
  · rintro ⟨i, hi, rfl⟩
    omega
  · rintro ⟨hlow, hhigh⟩
    refine ⟨(port - c.basePort).toNat, ?_, ?_⟩ <;> omega

omit [JsNumber ν] in
theorem nodup_fleetPorts (c : Config ν) : (fleetPorts c).Nodup := by
  apply List.nodup_range.map
  intro i j h
  have hij : c.basePort + (i : ℤ) = c.basePort + (j : ℤ) := h
  omega

omit [JsNumber ν] in
theorem listens_fleetReplicas {numerals : Numerals ν} {c : Config ν}
    (htext : ∀ n : ℕ, n ≤ 65535 → numerals.text n = toString n)
    (hexist : ∀ port ∈ fleetPorts c, 1 ≤ port ∧ port ≤ 65535) :
    (fleetReplicas numerals c).map (·.url) =
      (fleetPorts c).map fun port => "http://" ++ c.host ++ ":" ++ toString port := by
  rw [urls_fleetReplicas]
  refine List.map_congr_left fun port hport => ?_
  have hport := hexist port hport
  lift port to ℕ using by omega
  rw [htext port (by omega)]
  rfl

omit [JsNumber ν] in
theorem nodup_urls {host : String} {c : Config ν}
    (hexist : ∀ port ∈ fleetPorts c, 1 ≤ port ∧ port ≤ 65535) :
    ((fleetPorts c).map fun port => "http://" ++ host ++ ":" ++ toString port).Nodup := by
  apply (nodup_fleetPorts c).map_on
  intro port hport port' hport' h
  have hlists := congrArg String.toList h
  simp only [String.toList_append] at hlists
  have htexts := String.toList_injective (List.append_cancel_left hlists)
  have hn := hexist port hport
  have hm := hexist port' hport'
  lift port to ℕ using by omega
  lift port' to ℕ using by omega
  rw [natText_injective htexts]

theorem createRoutingConfig_eq_ok_iff (strategyName : StrategyName) (weights : ScoringWeights ν) :
    createRoutingConfig strategyName.text weights = .ok ⟨strategyName, weights⟩ ↔
      (JsNumber.isFinite weights.loadWeight = true ∧
        JsNumber.lt weights.loadWeight (JsNumber.ofNat 0) = false) ∧
      (JsNumber.isFinite weights.latencyWeight = true ∧
        JsNumber.lt weights.latencyWeight (JsNumber.ofNat 0) = false) := by
  have hname : assertValidStrategyName strategyName.text = .ok strategyName := by
    cases strategyName <;> rfl
  have hweight : ∀ (key : String) (value : ν), assertValidWeight key value = .ok () ↔
      JsNumber.isFinite value = true ∧ JsNumber.lt value (JsNumber.ofNat 0) = false := by
    intro key value
    unfold assertValidWeight
    split_ifs with h
    · simp only [false_iff, not_and, Bool.not_eq_false]
      intro hfinite
      simpa [hfinite] using h
    · simpa using h
  rw [createRoutingConfig, hname, ← hweight "loadWeight", ← hweight "latencyWeight"]
  unfold assertValidWeights
  cases assertValidWeight "loadWeight" weights.loadWeight with
  | error message => simp [bind, Except.bind]
  | ok _ =>
      cases assertValidWeight "latencyWeight" weights.latencyWeight with
      | error message => simp [bind, Except.bind]
      | ok _ => simp [bind, Except.bind, pure, Except.pure]

omit [JsNumber ν] in
theorem mem_fleetPorts_iff_le {c : Config ν} (hsize : 1 ≤ c.fleetSize) {port : ℤ} :
    port ∈ fleetPorts c ↔ c.basePort ≤ port ∧ port ≤ c.topPort := by
  rw [mem_fleetPorts, Config.topPort, max_eq_left hsize]
  omega

theorem Deployable.valid {numerals : Numerals ν} {c : Config ν} (h : Deployable numerals c) :
    c.Valid := by
  have hsize : 1 ≤ c.fleetSize := by
    by_contra hlt
    have hzero : c.fleetSize.toNat = 0 := by omega
    exact h.fleet (by rw [fleetReplicas, hzero]; rfl)
  have htop : c.topPort = c.basePort + c.fleetSize - 1 := by
    rw [Config.topPort, max_eq_left hsize]
  have hbase : c.basePort ∈ fleetPorts c := (mem_fleetPorts_iff_le hsize).mpr ⟨le_rfl, by omega⟩
  have hlast : c.topPort ∈ fleetPorts c := (mem_fleetPorts_iff_le hsize).mpr ⟨by omega, le_rfl⟩
  obtain ⟨-, hservers, hapart⟩ := List.nodup_append.mp h.ports_distinct
  have hexist : ∀ port ∈ fleetPorts c, 1 ≤ port ∧ port ≤ 65535 :=
    fun port hport => h.ports_exist port (List.mem_append_left _ hport)
  -- a server's port is outside the fleet's
  have hfree : ∀ port ∈ [c.statusPort, c.mcpPort], c.basePort ≤ port → c.topPort < port := by
    intro port hport hle
    by_contra hin
    exact hapart _ ((mem_fleetPorts_iff_le hsize).mpr ⟨hle, not_lt.mp hin⟩) _ hport rfl
  obtain ⟨hload, hlatency⟩ := (createRoutingConfig_eq_ok_iff _ _).mp h.routing
  exact {
    fleetSize := hsize
    basePort := hexist _ hbase
    statusPort := h.ports_exist _ (by simp [ports])
    mcpPort := h.ports_exist _ (by simp [ports])
    topPort := (hexist _ hlast).2
    statusPort_free := hfree _ (by simp)
    mcpPort_free := hfree _ (by simp)
    servers_differ := by
      intro heq
      simp [heq] at hservers
    mcpToken := fun token htoken => (h.token token htoken).1
    healthIntervalMs := by have := h.timing; omega
    healthTimeoutMs := h.timing.1
    timeout_lt_interval := h.timing.2
    unhealthyThreshold := h.unhealthyThreshold
    healthyThreshold := h.healthyThreshold
    maxRetries := h.maxRetries
    loadWeight := hload.2
    latencyWeight := hlatency.2 }

/-- Settings that have been read and pass the checks can be deployed. -/
theorem Config.Valid.deployable {numerals : Numerals ν} {c : Config ν}
    (htext : ∀ n : ℕ, n ≤ 65535 → numerals.text n = toString n) (hc : c.Parsed) (hv : c.Valid) :
    Deployable numerals c := by
  have hin : ∀ port ∈ fleetPorts c, c.basePort ≤ port ∧ port ≤ c.topPort :=
    fun port hport => (mem_fleetPorts_iff_le hv.fleetSize).mp hport
  have hexist : ∀ port ∈ fleetPorts c, 1 ≤ port ∧ port ≤ 65535 :=
    fun port hport => ⟨hv.basePort.1.trans (hin port hport).1,
      (hin port hport).2.trans hv.topPort⟩
  have hstatus : c.statusPort ∉ fleetPorts c := fun hmem =>
    not_lt.mpr (hin _ hmem).2 (hv.statusPort_free (hin _ hmem).1)
  have hmcp : c.mcpPort ∉ fleetPorts c := fun hmem =>
    not_lt.mpr (hin _ hmem).2 (hv.mcpPort_free (hin _ hmem).1)
  have hsize : c.fleetSize.toNat ≠ 0 := by
    have := hv.fleetSize
    omega
  have hlistens := listens_fleetReplicas htext hexist
  exact {
    ports_distinct := by
      refine List.nodup_append'.mpr ⟨nodup_fleetPorts c, ?_, ?_⟩
      · simpa using hv.servers_differ.symm
      · simp [hstatus, hmcp]
    ports_exist := by
      intro port hport
      rcases List.mem_append.mp hport with hfleet | hserver
      · exact hexist port hfleet
      · rcases List.mem_pair.mp hserver with rfl | rfl
        · exact hv.statusPort
        · exact hv.mcpPort
    fleet := by simpa [fleetReplicas] using hsize
    ids := nodup_fleetReplicas numerals c
    listens := hlistens
    urls := by
      rw [hlistens]
      exact nodup_urls hexist
    timing := ⟨hv.healthTimeoutMs, hv.timeout_lt_interval⟩
    unhealthyThreshold := hv.unhealthyThreshold
    healthyThreshold := hv.healthyThreshold
    maxRetries := hv.maxRetries
    routing := (createRoutingConfig_eq_ok_iff _ _).mpr
      ⟨⟨hc.loadWeight, hv.loadWeight⟩, ⟨hc.latencyWeight, hv.latencyWeight⟩⟩
    token := fun token htoken => ⟨hv.mcpToken token htoken, hc.mcpToken token htoken⟩ }

/-- **The checks are what deployment needs**, once the settings have been read. -/
theorem deployable_iff_valid {numerals : Numerals ν} {c : Config ν}
    (htext : ∀ n : ℕ, n ≤ 65535 → numerals.text n = toString n) (hc : c.Parsed) :
    Deployable numerals c ↔ c.Valid :=
  ⟨Deployable.valid, Config.Valid.deployable htext hc⟩

/-- **Every accepted configuration is deployable**, and settings that can be read are refused only
when they are not. -/
theorem accepted_deployable {numerals : Numerals ν} (hlawful : numerals.Lawful) (env : Env) :
    (∀ c, loadConfig numerals env = .ok c → Deployable numerals c) ∧
      ∀ c, readConfig numerals env = .ok c →
        ∀ message, loadConfig numerals env = .error message → ¬ Deployable numerals c := by
  have hread : ∀ c, readConfig numerals env = .ok c →
      (Deployable numerals c ↔ c.validate numerals = .ok ()) := by
    intro c hc
    rw [Config.validate_ok_iff]
    exact deployable_iff_valid hlawful.text (parsed_of_readConfig hlawful.one hc)
  constructor
  · intro c h
    obtain ⟨c', hc, h⟩ := ok_of_bind h
    obtain ⟨⟨⟩, hvalid, h⟩ := ok_of_bind h
    obtain rfl := Except.ok.inj h
    exact (hread c' hc).mpr hvalid
  · intro c hc message h hdeployable
    have hvalid := (hread c hc).mp hdeployable
    simp [loadConfig, hc, hvalid, bind, Except.bind, pure, Except.pure] at h

/-- Settings written in hexadecimal, with blanks, and with a token. -/
def Env.written : Env := fun name =>
  if name = "WR_BASE_PORT" then some "0x2328"
  else if name = "WR_FLEET_SIZE" then some " 2 "
  else if name = "WR_MCP_TOKEN" then some " a-token-of-some-length "
  else none

/-- How those numbers read. -/
def Numerals.written : Numerals ℕ :=
  ⟨fun raw => if raw = "0x2328" then 9000 else 2, fun n => some n, toString⟩

theorem accepted_deployable_written : ∃ c, loadConfig Numerals.written Env.written = .ok c ∧
    c.mcpToken = some "a-token-of-some-length" ∧ ports c = [9000, 9001, 8080, 8090] ∧
    Deployable Numerals.written c := by
  have hlawful : Numerals.written.Lawful := ⟨fun _ _ => rfl, rfl⟩
  obtain ⟨c, h, hc⟩ := exists_of_check (loadConfig Numerals.written Env.written) (fun c =>
    decide (c.mcpToken = some "a-token-of-some-length") &&
      decide (ports c = [9000, 9001, 8080, 8090])) (by decide +kernel)
  simp only [Bool.and_eq_true, decide_eq_true_eq] at hc
  exact ⟨c, h, hc.1, hc.2, (accepted_deployable hlawful Env.written).1 c h⟩

end WhyRouted
