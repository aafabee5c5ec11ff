import Mathlib.Data.Int.CardIntervalMod
import WhyRouted.Rotation

/-! # Round-robin's fairness

The cursor is never reset while round-robin stays configured, and it is taken modulo whatever pool
a call finds.  While the calls find the same replicas, whatever their number was before, the picks
go round them in registration order, and no replica gets more than one pick ahead of another
(`round_robin_fair`). -/

namespace WhyRouted

/-! ### Going round a list -/

section walk

variable {α : Type*}

/-- The first `k` elements met going round a list from the place `start`. -/
def goRound (l : List α) (start k : ℕ) : List (Option α) :=
  (List.range k).map fun j => l[(start + j) % l.length]?

@[simp] theorem length_goRound (l : List α) (start k : ℕ) : (goRound l start k).length = k := by
  simp [goRound]

theorem goRound_succ (l : List α) (start k : ℕ) :
    goRound l start (k + 1) = goRound l start k ++ [l[(start + k) % l.length]?] := by
  simp [goRound, List.range_succ]

theorem getElem?_goRound {l : List α} {start k j : ℕ} (hj : j < k) :
    (goRound l start k)[j]? = some l[(start + j) % l.length]? := by
  simp [goRound, hj]

/-- Once round, the same elements come again. -/
theorem goRound_periodic {l : List α} {start k j : ℕ} (hj : j + l.length < k) :
    (goRound l start k)[j + l.length]? = (goRound l start k)[j]? := by
  rw [getElem?_goRound hj, getElem?_goRound (by omega), ← Nat.add_assoc, Nat.add_mod_right]

variable [DecidableEq α]

theorem count_goRound (l : List α) (start k : ℕ) (a : α) :
    (goRound l start k).count (some a) =
      Nat.count (fun j => l[(start + j) % l.length]? = some a) k := by
  induction k with
  | zero => rfl
  | succ k ih =>
      rw [goRound_succ, List.count_append, ih, Nat.count_succ]
      congr 1
      simp [List.count_singleton]

/-- Going round a list without repetitions meets each of its elements equally often, up to the
round that is not finished. -/
theorem count_goRound_eq {l : List α} (hl : l.Nodup) {a : α} (ha : a ∈ l) (start k : ℕ) :
    (goRound l start k).count (some a) = k / l.length ∨
      (goRound l start k).count (some a) = (k + l.length - 1) / l.length := by
  obtain ⟨i, hi, rfl⟩ := List.mem_iff_getElem.mp ha
  have hpos : 0 < l.length := by omega
  have hstart : start % l.length < l.length := Nat.mod_lt _ hpos
  -- the element at `i` is met at the places congruent to `i - start`
  have hplace : ∀ j, l[(start + j) % l.length]? = some l[i] ↔
      j ≡ i + l.length - start % l.length [MOD l.length] := by
    intro j
    have hlt : (start + j) % l.length < l.length := Nat.mod_lt _ hpos
    rw [List.getElem?_eq_getElem hlt, Option.some.injEq, hl.getElem_inj_iff]
    have hshift : start % l.length + (i + l.length - start % l.length) = i + l.length := by omega
    constructor
    · intro h
      apply Nat.ModEq.add_left_cancel' (start % l.length)
      rw [hshift]
      unfold Nat.ModEq
      rw [Nat.mod_add_mod, h, Nat.add_mod_right, Nat.mod_eq_of_lt hi]
    · intro h
      have hsum := h.add_left (start % l.length)
      rw [hshift] at hsum
      unfold Nat.ModEq at hsum
      rwa [Nat.mod_add_mod, Nat.add_mod_right, Nat.mod_eq_of_lt hi] at hsum
  rw [count_goRound]
  simp only [hplace]
  rw [Nat.count_modEq_card _ hpos]
  split_ifs with hround
  · right
    have hsplit := Nat.div_add_mod k l.length
    symm
    apply Nat.div_eq_of_lt_le
    · rw [Nat.add_mul, Nat.one_mul, Nat.mul_comm]
      omega
    · have hlast := Nat.mod_lt k hpos
      rw [Nat.add_mul, Nat.add_mul, Nat.one_mul, Nat.mul_comm]
      omega
  · exact .inl rfl

end walk

/-! ### The members of the rotation -/

variable {ν : Type}

section members

variable {cp : ControlPlane ν} {members : Finset String}

theorem inService_iff {id : String} :
    InService cp id ↔ id ∈ (keptReplicas cp.registry.items).map (·.id) := by
  rw [List.mem_map]
  constructor
  · rintro ⟨state, hget, hadmin, hhealth⟩
    obtain ⟨hmem, hid⟩ := cp.registry.get?_eq_some_iff.mp hget
    exact ⟨state, mem_keptReplicas.mpr ⟨hmem, hadmin, hhealth⟩, hid⟩
  · rintro ⟨state, hstate, hid⟩
    obtain ⟨hmem, hadmin, hhealth⟩ := mem_keptReplicas.mp hstate
    exact ⟨state, cp.registry.get?_eq_some_iff.mpr ⟨hmem, hid⟩, hadmin, hhealth⟩

theorem kept_ids (h : ∀ id, InService cp id ↔ id ∈ members) :
    (keptReplicas cp.registry.items).map (·.id) = cp.registry.keys.filter (· ∈ members) := by
  unfold KeyedList.keys
  rw [List.filter_map]
  congr 1
  unfold keptReplicas
  apply List.filter_congr
  intro state hstate
  rw [Function.comp, ← Bool.decide_and, decide_eq_decide, ← h, inService_iff]
  constructor
  · intro hkept
    exact List.mem_map_of_mem (List.mem_filter.mpr ⟨hstate, by simpa using hkept⟩)
  · intro hid
    obtain ⟨other, hother, hsame⟩ := List.mem_map.mp hid
    obtain ⟨hmem, hkept⟩ := List.mem_filter.mp hother
    rw [cp.registry.eq_of_mem_of_key_eq hstate hmem hsame.symm]
    simpa using hkept

theorem poolReplicas_of_getD {exclude : Option (List String)} (h : exclude.getD [] = [])
    (replicas : List (ReplicaState ν)) : poolReplicas replicas exclude = keptReplicas replicas := by
  unfold poolReplicas
  rw [List.filter_eq_self]
  intro state _
  have hnot : ¬ alreadyTried exclude state = true := by
    rw [alreadyTried_eq_true, h]
    exact List.not_mem_nil
  simpa using hnot

end members

/-! ### The cursor -/

/-- The cursor round-robin would start its next pick from. -/
def Engine.cursor (engine : Engine) : ℕ :=
  match engine.active with
  | some (.roundRobin cursor) => cursor
  | _ => 0

theorem Engine.strategyFor_roundRobin (engine : Engine) :
    engine.strategyFor .roundRobin = .roundRobin engine.cursor := by
  unfold strategyFor cursor
  rcases engine.active with _ | _ | _ | _ <;> rfl

variable [JsNumber ν]

/-- A call without exclude, under round-robin, of a fleet with replicas in service: the one under
the cursor, and the cursor moves on. -/
theorem route_roundRobin (engine : Engine) {replicas : List (ReplicaState ν)}
    {config : RoutingConfig ν} (hname : config.strategyName = .roundRobin)
    {exclude : Option (List String)} (hexclude : exclude.getD [] = [])
    (hkept : keptReplicas replicas ≠ []) :
    (engine.route replicas config exclude).1.outcome.toOption =
        ((keptReplicas replicas).map (·.id))[engine.cursor % (keptReplicas replicas).length]? ∧
      (engine.route replicas config exclude).2.cursor = engine.cursor + 1 := by
  have hpos : 0 < (keptReplicas replicas).length := List.length_pos_iff.mpr hkept
  have hlt : engine.cursor % (keptReplicas replicas).length < (keptReplicas replicas).length :=
    Nat.mod_lt _ hpos
  simp only [Engine.route, hname, Engine.strategyFor_roundRobin, poolReplicas_of_getD hexclude,
    Strategy.pick, RoundRobin.pick, hpos.ne', if_false, List.getElem?_map,
    List.getElem?_eq_getElem hlt, Option.map_some]
  exact ⟨rfl, rfl⟩

/-! ### Runs of calls -/

/-- The round an operation returned, if it was a call of the engine. -/
def Output.decision {ν : Type} : Output ν → Option (RouteResult ν)
  | .routed decision => some decision
  | _ => none

namespace ControlPlane

variable {th : Thresholds} {cp cp' cp₀ s t : ControlPlane ν} {out : Output ν} {tr tr₁ tr₂ : Trace ν}
  {replicas : List Replica} {config : RoutingConfig ν} {members : Finset String}

omit [JsNumber ν] in
theorem keys_setReplicaAdmin {registry registry' : Registry ν} {id : String}
    {target : ReplicaAdmin} {output : ActionOutput ReplicaAdminState}
    (h : setReplicaAdmin registry id target = .ok (output, registry')) :
    registry'.keys = registry.keys := by
  rcases setReplicaAdmin_cases registry id target with
    ⟨-, reason, hok⟩ | ⟨before, after, notes, registry'', hset, hok⟩
  · rw [(Prod.mk.inj (Except.ok.inj (h.symm.trans hok))).2]
  · rw [(Prod.mk.inj (Except.ok.inj (h.symm.trans hok))).2, Registry.keys_of_update hset]

/-- No operation registers a replica or takes one out, and only a call of the engine moves the
cursor. -/
theorem keys_of_act (hm : cp.health.Mirrors) {a : Action ν} (h : cp.act th a = .ok (cp', out)) :
    cp'.registry.keys = cp.registry.keys ∧
      ((∀ exclude, a ≠ .route exclude) → cp'.engine = cp.engine ∧ out.decision = none) := by
  cases a with
  | probed id result now eventId =>
      cases hid : cp.health.record id with
      | none =>
          simp only [act, HealthState.pollOne_of_unknown th hid result now, bind, Except.bind,
            pure, Except.pure] at h
          obtain ⟨rfl, rfl⟩ := Prod.mk.inj (Except.ok.inj h)
          exact ⟨rfl, fun _ => ⟨rfl, rfl⟩⟩
      | some before =>
          obtain ⟨s', hs, hw⟩ := act_probed th hm hid result now eventId
          obtain ⟨rfl, rfl⟩ := Prod.mk.inj (Except.ok.inj (h.symm.trans hs))
          exact ⟨hw.keys, fun _ => ⟨rfl, rfl⟩⟩
  | eject id reason now eventId =>
      cases hid : cp.health.record id with
      | none => simp [act, HealthState.eject, hid, bind, Except.bind] at h
      | some before =>
          obtain ⟨s', hs, hw⟩ := act_eject th hm hid reason now eventId
          obtain ⟨rfl, rfl⟩ := Prod.mk.inj (Except.ok.inj (h.symm.trans hs))
          exact ⟨hw.keys, fun _ => ⟨rfl, rfl⟩⟩
  | route exclude =>
      obtain ⟨rfl, rfl⟩ := Prod.mk.inj (Except.ok.inj h)
      exact ⟨rfl, fun hne => absurd rfl (hne exclude)⟩
  | recordEvent event =>
      obtain ⟨rfl, rfl⟩ := Prod.mk.inj (Except.ok.inj h)
      exact ⟨rfl, fun _ => ⟨rfl, rfl⟩⟩
  | recordDecision decision =>
      obtain ⟨rfl, rfl⟩ := Prod.mk.inj (Except.ok.inj h)
      exact ⟨rfl, fun _ => ⟨rfl, rfl⟩⟩
  | tool call =>
      cases call with
      | drainReplica id =>
          obtain ⟨_, hs, h⟩ := ok_of_bind h
          obtain ⟨rfl, rfl⟩ := Prod.mk.inj (Except.ok.inj h)
          exact ⟨keys_setReplicaAdmin hs, fun _ => ⟨rfl, rfl⟩⟩
      | restoreReplica id =>
          obtain ⟨_, hs, h⟩ := ok_of_bind h
          obtain ⟨rfl, rfl⟩ := Prod.mk.inj (Except.ok.inj h)
          exact ⟨keys_setReplicaAdmin hs, fun _ => ⟨rfl, rfl⟩⟩
      | setRoutingStrategy name =>
          obtain ⟨_, -, h⟩ := ok_of_bind h
          obtain ⟨rfl, rfl⟩ := Prod.mk.inj (Except.ok.inj h)
          exact ⟨rfl, fun _ => ⟨rfl, rfl⟩⟩
      | setScoringWeights weights =>
          obtain ⟨_, -, h⟩ := ok_of_bind h
          obtain ⟨rfl, rfl⟩ := Prod.mk.inj (Except.ok.inj h)
          exact ⟨rfl, fun _ => ⟨rfl, rfl⟩⟩

theorem keys_of_exec (hm : s.health.Mirrors) (h : Exec (Step th) s tr t) :
    t.health.Mirrors ∧ t.registry.keys = s.registry.keys := by
  induction h with
  | nil => exact ⟨hm, rfl⟩
  | snoc _ hs ih =>
      obtain ⟨hm', hkeys⟩ := ih
      exact ⟨(act_touches hm' hs).1, (keys_of_act hm' hs).1.trans hkeys⟩

theorem keys_of_wire (h : wire replicas config = .ok cp) :
    cp.registry.keys = replicas.map (·.id) := by
  obtain ⟨registry, hr, h⟩ := ok_of_bind h
  obtain rfl := Except.ok.inj h
  have hfold : ∀ (fleet : List Replica) (registry registry' : Registry ν),
      fleet.foldlM Registry.register registry = .ok registry' →
        registry'.keys = registry.keys ++ fleet.map (·.id) := by
    intro fleet
    induction fleet with
    | nil =>
        intro registry registry' h
        obtain rfl := Except.ok.inj h
        simp
    | cons replica fleet ih =>
        intro registry registry' h
        obtain ⟨registry₁, h₁, h₂⟩ := ok_of_bind h
        rw [ih _ _ h₂, List.map_cons, List.append_cons]
        congr 1
        simp only [Registry.register] at h₁
        split at h₁
        · obtain rfl := Except.ok.inj h₁
          simp [KeyedList.keys, KeyedList.push]
        · cases h₁
  exact hfold replicas KeyedList.empty registry hr

/-- What the route calls of a run picked, in order. -/
def picks (tr : Trace ν) : List (Option String) :=
  tr.filterMap fun x => x.label.2.decision.map (·.outcome.toOption)

/-- Every route call of a run is made without exclude, under round-robin, and finds the same
replicas active and healthy. -/
structure Rotates (members : Finset String) (tr : Trace ν) : Prop where
  exclude : ∀ x ∈ tr, ∀ exclude, x.label.1 = .route exclude → exclude.getD [] = []
  strategy : ∀ x ∈ tr, ∀ exclude, x.label.1 = .route exclude →
    x.pre.config.strategyName = .roundRobin
  inService : ∀ x ∈ tr, ∀ exclude, x.label.1 = .route exclude →
    ∀ id, InService x.pre id ↔ id ∈ members

/-- The picks of such a run go round its members, from where the cursor stood. -/
theorem picks_eq_goRound (hm : s.health.Mirrors) (h : Exec (Step th) s tr t)
    (hne : members.Nonempty) (hr : Rotates members tr) :
    picks tr = goRound (s.registry.keys.filter (· ∈ members)) s.engine.cursor (picks tr).length ∧
      t.engine.cursor = s.engine.cursor + (picks tr).length := by
  induction h with
  | nil => exact ⟨rfl, rfl⟩
  | @snoc tr u t a hexec hs ih =>
      obtain ⟨ihpicks, ihcursor⟩ := ih ⟨fun x hx => hr.exclude x (List.mem_append_left _ hx),
        fun x hx => hr.strategy x (List.mem_append_left _ hx),
        fun x hx => hr.inService x (List.mem_append_left _ hx)⟩
      obtain ⟨hm', hkeys⟩ := keys_of_exec hm hexec
      have hx : ⟨u, a, t⟩ ∈ tr ++ [⟨u, a, t⟩] := by simp
      have hpicks : picks (tr ++ [⟨u, a, t⟩]) =
          picks tr ++ (a.2.decision.map (·.outcome.toOption)).toList := by
        unfold picks
        rw [List.filterMap_append]
        cases ha : a.2.decision <;> simp [ha]
      by_cases hroute : ∃ exclude, a.1 = .route exclude
      · obtain ⟨exclude, ha⟩ := hroute
        have hservice := kept_ids (hr.inService _ hx exclude ha)
        rw [hkeys] at hservice
        have hkept : keptReplicas u.registry.items ≠ [] := by
          obtain ⟨id, hid⟩ := hne
          have hmem := inService_iff.mp ((hr.inService _ hx exclude ha id).mpr hid)
          exact List.ne_nil_of_mem (List.mem_map.mp hmem).choose_spec.1
        obtain ⟨hpicked, hmoved⟩ := route_roundRobin u.engine
          (hr.strategy _ hx exclude ha) (hr.exclude _ hx exclude ha) hkept
        obtain ⟨op, out⟩ := a
        obtain rfl : op = .route exclude := ha
        obtain ⟨rfl, rfl⟩ := Prod.mk.inj (Except.ok.inj hs)
        have hlength : (keptReplicas u.registry.items).length =
            (s.registry.keys.filter (· ∈ members)).length := by
          rw [← hservice, List.length_map]
        rw [hpicks]
        simp only [Output.decision, Option.map_some, Option.toList_some, List.length_append,
          List.length_singleton]
        refine ⟨?_, ?_⟩
        · rw [goRound_succ, ← ihpicks, ← ihcursor, ← hservice, List.length_map]
          exact congrArg (fun o => picks tr ++ [o]) hpicked
        · rw [← Nat.add_assoc, ← ihcursor]
          exact hmoved
      · have hother := (keys_of_act hm' hs).2 fun exclude ha => hroute ⟨exclude, ha⟩
        rw [hpicks, hother.2, hother.1]
        simpa using ⟨ihpicks, ihcursor⟩

theorem registered_of_rotates (hm : s.health.Mirrors) (h : Exec (Step th) s tr t)
    (hr : Rotates members tr) (hpicks : picks tr ≠ []) :
    ∀ id ∈ members, id ∈ s.registry.keys := by
  intro id hid
  obtain ⟨o, ho⟩ := List.exists_mem_of_ne_nil _ hpicks
  obtain ⟨x, hx, hdecision⟩ := List.mem_filterMap.mp ho
  obtain ⟨tr', hpre⟩ := h.pre_of_mem hx
  obtain ⟨hm', hkeys⟩ := keys_of_exec hm hpre
  by_cases hroute : ∃ exclude, x.label.1 = .route exclude
  · obtain ⟨exclude, ha⟩ := hroute
    obtain ⟨state, hget, -⟩ := (hr.inService x hx exclude ha id).mpr hid
    rw [← hkeys]
    by_contra hnot
    rw [x.pre.registry.get?_eq_none_iff.mpr hnot] at hget
    cases hget
  · have hnone := ((keys_of_act hm' (h.step_of_mem hx)).2 fun exclude ha =>
      hroute ⟨exclude, ha⟩).2
    rw [hnone] at hdecision
    cases hdecision

/-- **Round-robin is fair.**  After any run and with any engine, while every call finds the same
`n ≥ 1` replicas active and healthy under round-robin: the picks go round these replicas in
registration order, so they come again after `n` calls, and of `k` picks each replica gets
`k / n`, rounded down or up. -/
theorem round_robin_fair (h₀ : wire replicas config = .ok cp₀) (h₁ : Exec (Step th) cp₀ tr₁ s)
    (engine : Engine) (h₂ : Exec (Step th) { s with engine } tr₂ t) (hne : members.Nonempty)
    (hr : Rotates members tr₂) :
    (∃ start, picks tr₂ =
      goRound ((replicas.map (·.id)).filter (· ∈ members)) start (picks tr₂).length) ∧
    (∀ j < (picks tr₂).length, ∃ id ∈ members, (picks tr₂)[j]? = some (some id)) ∧
    (∀ j, j + members.card < (picks tr₂).length →
      (picks tr₂)[j + members.card]? = (picks tr₂)[j]?) ∧
    ∀ id ∈ members, (picks tr₂).count (some id) = (picks tr₂).length / members.card ∨
      (picks tr₂).count (some id) =
        ((picks tr₂).length + members.card - 1) / members.card := by
  obtain ⟨hm, hkeys⟩ := keys_of_exec (wire_spec h₀).1 h₁
  rw [keys_of_wire h₀] at hkeys
  have hround := (picks_eq_goRound (s := { s with engine }) hm h₂ hne hr).1
  change picks tr₂ = goRound (s.registry.keys.filter _) engine.cursor _ at hround
  have hregistered := registered_of_rotates (s := { s with engine }) hm h₂ hr
  change picks tr₂ ≠ [] → ∀ id ∈ members, id ∈ s.registry.keys at hregistered
  have hnodup : (replicas.map (·.id)).Nodup := hkeys ▸ s.registry.nodup
  rw [hkeys] at hround hregistered
  generalize hids : (replicas.map (·.id)).filter (· ∈ members) = ids at hround ⊢
  have hidsNodup : ids.Nodup := hids ▸ hnodup.filter _
  refine ⟨⟨engine.cursor, hround⟩, ?_⟩
  by_cases hnil : picks tr₂ = []
  · simp [hnil]
  · have hmem : ∀ id, id ∈ ids ↔ id ∈ members := by
      intro id
      rw [← hids, List.mem_filter, decide_eq_true_eq]
      exact ⟨fun h => h.2, fun h => ⟨hregistered hnil id h, h⟩⟩
    have hcard : ids.length = members.card := by
      rw [← List.toFinset_card_of_nodup hidsNodup]
      congr 1
      ext id
      rw [List.mem_toFinset, hmem]
    have hpos : 0 < ids.length := hcard ▸ hne.card_pos
    rw [← hcard, hround, length_goRound]
    refine ⟨?_, fun j hj => goRound_periodic hj, fun id hid => ?_⟩
    · intro j hj
      have hlt : (engine.cursor + j) % ids.length < ids.length := Nat.mod_lt _ hpos
      refine ⟨ids[(engine.cursor + j) % ids.length], (hmem _).mp (List.getElem_mem hlt), ?_⟩
      rw [getElem?_goRound hj, List.getElem?_eq_getElem hlt]
    · exact count_goRound_eq hidsNodup ((hmem id).mpr hid) _ _

/-! ### Two replicas -/

/-- Two replicas come up; a call and its retry leave the cursor at two; then three calls, with a
probe between them. -/
def threeCalls : Except String (ControlPlane ℕ × (Trace ℕ × ControlPlane ℕ) ×
    (Trace ℕ × ControlPlane ℕ)) := do
  let cp₀ ← wire [⟨"replica-1", ""⟩, ⟨"replica-2", ""⟩] ⟨.roundRobin, ⟨1, 1⟩⟩
  let up ← replay (act .twoOne) cp₀ [
    .probed "replica-1" ⟨true, 5, 0⟩ "t0" "e0", .probed "replica-2" ⟨true, 5, 0⟩ "t1" "e1",
    .route none, .route (some ["replica-1"])]
  let calls ← replay (act .twoOne) up.2 [
    .route none, .probed "replica-1" ⟨true, 9, 4⟩ "t2" "e2", .route (some []), .route none]
  return (cp₀, up, calls)

/-- A check that a transition is no call of the engine, or one in the rotation of `ids`. -/
def inRotation (ids : List String)
    (x : Transition (ControlPlane ν) (Action ν × Output ν)) : Bool :=
  match x.label.1 with
  | .route exclude => decide (exclude.getD [] = []) &&
      decide (x.pre.config.strategyName = .roundRobin) &&
      decide ((keptReplicas x.pre.registry.items).map (·.id) = ids)
  | _ => true

omit [JsNumber ν] in
theorem rotates_of_all {ids : List String} (h : tr.all (inRotation ids) = true) :
    Rotates ids.toFinset tr := by
  have hcall : ∀ x ∈ tr, ∀ exclude, x.label.1 = .route exclude → exclude.getD [] = [] ∧
      x.pre.config.strategyName = .roundRobin ∧
      (keptReplicas x.pre.registry.items).map (·.id) = ids := by
    intro x hx exclude ha
    have hcheck := List.all_eq_true.mp h x hx
    simpa [inRotation, ha, and_assoc] using hcheck
  refine ⟨fun x hx exclude ha => (hcall x hx exclude ha).1,
    fun x hx exclude ha => (hcall x hx exclude ha).2.1, fun x hx exclude ha id => ?_⟩
  rw [inService_iff, (hcall x hx exclude ha).2.2, List.mem_toFinset]

/-- Three calls of two replicas give one of them two picks and the other one. -/
theorem round_robin_fair_threeCalls : ∃ (cp₀ s t : ControlPlane ℕ) (tr₁ tr₂ : Trace ℕ),
    wire [⟨"replica-1", ""⟩, ⟨"replica-2", ""⟩] ⟨.roundRobin, ⟨1, 1⟩⟩ = .ok cp₀ ∧
    Exec (Step .twoOne) cp₀ tr₁ s ∧ Exec (Step .twoOne) s tr₂ t ∧
    Rotates ["replica-1", "replica-2"].toFinset tr₂ ∧ (picks tr₂).length = 3 ∧
    ∀ id ∈ ["replica-1", "replica-2"].toFinset,
      (picks tr₂).count (some id) = 1 ∨ (picks tr₂).count (some id) = 2 := by
  obtain ⟨⟨cp₀, ⟨tr₁, s⟩, tr₂, t⟩, h, hc⟩ := exists_of_check threeCalls (fun run =>
    run.2.2.1.all (inRotation ["replica-1", "replica-2"]) &&
    decide ((picks run.2.2.1).length = 3)) (by decide)
  obtain ⟨_, h₀, h⟩ := ok_of_bind h
  obtain ⟨_, h₁, h⟩ := ok_of_bind h
  obtain ⟨_, h₂, h⟩ := ok_of_bind h
  cases Except.ok.inj h
  rw [Bool.and_eq_true, decide_eq_true_eq] at hc
  have hr := rotates_of_all hc.1
  obtain ⟨-, -, -, hcount⟩ := round_robin_fair h₀ (exec_of_replay h₁).1 s.engine
    (exec_of_replay h₂).1 ⟨"replica-1", by decide⟩ hr
  refine ⟨cp₀, s, t, tr₁, tr₂, h₀, (exec_of_replay h₁).1, (exec_of_replay h₂).1, hr, hc.2, ?_⟩
  intro id hid
  have := hcount id hid
  rw [hc.2] at this
  exact this

end ControlPlane

end WhyRouted
