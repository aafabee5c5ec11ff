import WhyRouted.KeyedList
import WhyRouted.Types

/-! # The service registry

`src/registry/registry.ts`: the in-memory record of every replica, keyed by id, in
registration order.  The keys being distinct is part of the type.  An operation on an unknown
id throws, modelled by `Except` with the message as the error.

Each operation has one lemma that says what it does to a lookup, and one that says the ids
stay; nothing later unfolds an operation. -/

namespace WhyRouted

/-- The registry: a `Map` from id to state, iterated in registration order. -/
abbrev Registry (ν : Type) := KeyedList (fun state : ReplicaState ν => state.id)

/-- `Partial<ReplicaRuntime>`: the fields a caller of `updateRuntime` writes. -/
structure RuntimePatch (ν : Type) where
  health : Option ReplicaHealth := none
  inFlight : Option ν := none
  latencyMs : Option (Option ν) := none
  consecFailures : Option ℕ := none
  consecSuccesses : Option ℕ := none
  lastCheckedAt : Option (Option String) := none

/-- `{ ...runtime, ...patch }`. -/
def ReplicaRuntime.merge {ν : Type} (runtime : ReplicaRuntime ν) (patch : RuntimePatch ν) :
    ReplicaRuntime ν where
  health := patch.health.getD runtime.health
  inFlight := patch.inFlight.getD runtime.inFlight
  latencyMs := patch.latencyMs.getD runtime.latencyMs
  consecFailures := patch.consecFailures.getD runtime.consecFailures
  consecSuccesses := patch.consecSuccesses.getD runtime.consecSuccesses
  lastCheckedAt := patch.lastCheckedAt.getD runtime.lastCheckedAt

namespace Registry

variable {ν : Type}

/-- Add a replica with a fresh runtime; throws if its id is taken. -/
def register [JsNumber ν] (registry : Registry ν) (replica : Replica) :
    Except String (Registry ν) :=
  let state : ReplicaState ν :=
    { id := replica.id, url := replica.url, runtime := initialRuntime, admin := .active }
  if h : registry.get? state.id = none then .ok (registry.push state h)
  else .error ("replica \"" ++ replica.id ++ "\" is already registered")

/-- Rewrite the state under `id`; throws on an unknown id (the private `require`). -/
def update (registry : Registry ν) (id : String) (f : ReplicaState ν → ReplicaState ν)
    (hf : ∀ state, (f state).id = state.id) : Except String (Registry ν) :=
  if registry.has id then .ok (registry.modify id f hf)
  else .error ("replica \"" ++ id ++ "\" is not registered")

/-- Merge a partial runtime update into a replica's runtime. -/
def updateRuntime (registry : Registry ν) (id : String) (patch : RuntimePatch ν) :
    Except String (Registry ν) :=
  registry.update id (fun state => { state with runtime := state.runtime.merge patch })
    (fun _ => rfl)

def setHealth (registry : Registry ν) (id : String) (health : ReplicaHealth) :
    Except String (Registry ν) :=
  registry.update id (fun state => { state with runtime := { state.runtime with health } })
    (fun _ => rfl)

def setAdmin (registry : Registry ν) (id : String) (admin : ReplicaAdmin) :
    Except String (Registry ν) :=
  registry.update id (fun state => { state with admin }) (fun _ => rfl)

def getSnapshot (registry : Registry ν) (generatedAt : String) : RegistrySnapshot ν :=
  ⟨generatedAt, registry.items⟩

/-! ### What an update does -/

variable {registry registry' : Registry ν} {id : String}
  {f : ReplicaState ν → ReplicaState ν} {hf : ∀ state, (f state).id = state.id}

theorem update_ok_iff : registry.update id f hf = .ok registry' ↔
    (∃ state, registry.get? id = some state) ∧ registry' = registry.modify id f hf := by
  unfold update KeyedList.has
  rw [← Option.isSome_iff_exists]
  cases (registry.get? id).isSome <;> simp [eq_comm]

theorem update_ok (h : ∃ state, registry.get? id = some state) :
    registry.update id f hf = .ok (registry.modify id f hf) :=
  update_ok_iff.mpr ⟨h, rfl⟩

/-- An update rewrites the state under its id and no other. -/
theorem get?_of_update (h : registry.update id f hf = .ok registry') (r : String) :
    registry'.get? r = if r = id then (registry.get? id).map f else registry.get? r := by
  obtain ⟨_, rfl⟩ := update_ok_iff.mp h
  split_ifs with hr
  · rw [hr, KeyedList.get?_modify_self]
  · exact registry.get?_modify_ne id f hf hr

theorem keys_of_update (h : registry.update id f hf = .ok registry') :
    registry'.keys = registry.keys := by
  obtain ⟨_, rfl⟩ := update_ok_iff.mp h
  exact registry.keys_modify id f hf

theorem get?_of_register [JsNumber ν] {replica : Replica}
    (h : registry.register replica = .ok registry') (r : String) :
    registry'.get? r = if r = replica.id then
      some { id := replica.id, url := replica.url, runtime := initialRuntime, admin := .active }
      else registry.get? r := by
  simp only [register] at h
  split at h
  · obtain rfl := Except.ok.inj h
    exact registry.get?_push _ _ r
  · cases h

/-- The runtime updates the scheduler makes throw nothing on a registered id. -/
theorem updateRuntime_spec (h : ∃ state, registry.get? id = some state) (patch : RuntimePatch ν) :
    ∃ registry', registry.updateRuntime id patch = .ok registry' ∧
      (∀ r, registry'.get? r = if r = id then (registry.get? id).map (fun state =>
        { state with runtime := state.runtime.merge patch }) else registry.get? r) ∧
      registry'.keys = registry.keys := by
  have hu : registry.updateRuntime id patch = .ok _ := update_ok h
  exact ⟨_, hu, get?_of_update hu, keys_of_update hu⟩

theorem setHealth_spec (h : ∃ state, registry.get? id = some state) (health : ReplicaHealth) :
    ∃ registry', registry.setHealth id health = .ok registry' ∧
      (∀ r, registry'.get? r = if r = id then (registry.get? id).map (fun state =>
        { state with runtime := { state.runtime with health } }) else registry.get? r) ∧
      registry'.keys = registry.keys := by
  have hu : registry.setHealth id health = .ok _ := update_ok h
  exact ⟨_, hu, get?_of_update hu, keys_of_update hu⟩

end Registry

end WhyRouted
