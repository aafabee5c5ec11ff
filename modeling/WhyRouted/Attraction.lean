import WhyRouted.Ranking
import WhyRouted.Runs

/-! # What a failed probe does to a replica's attraction

A failed probe that leaves its replica healthy writes "no latency" and a load of `0` into the
registry.  A missing latency takes the replica out of what latency-weighted scores, and
round-robin looks at neither; but to least-loaded the replica now shows the smallest load there
is.  So a replica that fails its probe can be picked where it was not picked before, and
`failed_probe_attracts_iff` says exactly when it is not. -/

namespace WhyRouted

open JsNumber

variable {ν : Type} [Semiring ν] [LinearOrder ν] [ToString ν]

/-! ### The pool after the probe -/

section pool

omit [Semiring ν] [LinearOrder ν] [ToString ν]

variable {f : ReplicaState ν → ReplicaState ν} {replicas : List (ReplicaState ν)}

theorem poolReplicas_map (hid : ∀ s, (f s).id = s.id) (hadmin : ∀ s, (f s).admin = s.admin)
    (hhealth : ∀ s ∈ replicas, (f s).runtime.health = s.runtime.health)
    (exclude : Option (List String)) :
    poolReplicas (replicas.map f) exclude = (poolReplicas replicas exclude).map f := by
  have hkept : keptReplicas (replicas.map f) = (keptReplicas replicas).map f := by
    unfold keptReplicas
    rw [List.filter_map]
    congr 1
    apply List.filter_congr
    intro s hs
    simp [hadmin, hhealth s hs]
  unfold poolReplicas
  rw [hkept, List.filter_map]
  congr 1
  apply List.filter_congr
  intro s _
  simp [alreadyTried, hid]

theorem RoundRobin.pick_map (hid : ∀ s, (f s).id = s.id) (cursor : ℕ) :
    RoundRobin.pick cursor (replicas.map f) = RoundRobin.pick cursor replicas := by
  unfold RoundRobin.pick
  rw [List.length_map, List.getElem?_map, Option.map_map]
  have hcomp : ((fun s : ReplicaState ν => s.id) ∘ f) = fun s => s.id := funext hid
  rw [hcomp]

end pool

theorem route_ok_iff (engine : Engine) (replicas : List (ReplicaState ν))
    (config : RoutingConfig ν) (exclude : Option (List String)) (id : String) :
    (engine.route replicas config exclude).1.outcome = .ok id ↔
      roundPick engine replicas config exclude = some id := by
  rw [route_outcome]
  split_ifs with hkept
  · have hpool : poolReplicas replicas exclude = [] := by
      rw [poolReplicas, hkept, List.filter_nil]
    have hnone : roundPick engine replicas config exclude = none := by
      rw [roundPick, pick_eq_none_iff, hpool, List.filter_nil]
    rw [hnone]
    simp
  · cases roundPick engine replicas config exclude <;> simp

namespace ControlPlane

variable {th : Thresholds} {cp cp' : ControlPlane ν} {out : Output ν} {r now eventId : String}
  {result : HealthResult ν} {state : ReplicaState ν}

/-- After a probe of a registered replica the registry lists the same replicas in the same
order; neither the engine nor the config has changed. -/
theorem items_of_probed (hm : cp.health.Mirrors) (hget : cp.registry.get? r = some state)
    (h : cp.act th (.probed r result now eventId) = .ok (cp', out)) :
    cp'.registry.items = cp.registry.items.map
        (fun s => touch th s.id (.probed r result now eventId) s) ∧
      cp'.engine = cp.engine ∧ cp'.config = cp.config := by
  have hrecord : cp.health.record r = some state.runtime.hysteresis := hm.record_eq hget
  obtain ⟨s', hs, hw⟩ := act_probed th hm hrecord result now eventId
  have htouch := (act_touches hm h).2
  obtain ⟨rfl, -⟩ := Prod.mk.inj (Except.ok.inj (h.symm.trans hs))
  refine ⟨?_, rfl, rfl⟩
  apply KeyedList.items_eq_map
  · exact hw.keys
  · intro k
    rw [htouch]
    apply Option.map_congr
    intro s hs
    rw [((cp.registry.get?_eq_some_iff).mp hs).2]

/-! ### One failed probe -/

/-- `c` goes before a candidate with this load and this id, as least-loaded compares. -/
def GoesBefore (c : ReplicaState ν) (inFlight : ν) (id : String) : Prop :=
  c.runtime.inFlight < inFlight ∨ (c.runtime.inFlight = inFlight ∧ codeUnitLt c.id id = true)

omit [Semiring ν] [ToString ν] in
theorem rankKey_lt_iff {c d : ReplicaState ν} :
    rankKey (·.runtime.inFlight) c < rankKey (·.runtime.inFlight) d ↔
      GoesBefore c d.runtime.inFlight d.id := by
  unfold GoesBefore rankKey
  rw [Prod.Lex.toLex_lt_toLex]
  simp [codeUnitLt_iff]

/-- Where a failed probe makes its replica no more attractive: least-loaded is not in use, or the
replica has been tried, or it was the least loaded already, or a candidate goes before it even
when it shows no load. -/
def Unattractive (cp : ControlPlane ν) (exclude : Option (List String))
    (state : ReplicaState ν) : Prop :=
  cp.config.strategyName ≠ .leastLoaded ∨ state.id ∈ exclude.getD [] ∨
    (∀ c ∈ poolReplicas cp.registry.items exclude,
      ¬ GoesBefore c state.runtime.inFlight state.id) ∨
    ∃ c ∈ poolReplicas cp.registry.items exclude, c.id ≠ state.id ∧ GoesBefore c 0 state.id

/-- What a failed probe leaves of a replica it does not take down: no load, no latency. -/
structure AfterFailure (th : Thresholds) (now : String) (state after : ReplicaState ν) :
    Prop where
  id : after.id = state.id
  admin : after.admin = state.admin
  health : after.runtime.health = state.runtime.health
  inFlight : after.runtime.inFlight = 0
  latencyMs : after.runtime.latencyMs = none

theorem afterFailure_touch (hfail : result.alive = false)
    (hstays : state.runtime.consecFailures + 1 < th.unhealthyThreshold) (now eventId : String) :
    AfterFailure th now state
      (touch th state.id (.probed state.id result now eventId) state) := by
  have hevent : result.event = .failed := by simp [HealthResult.event, hfail]
  have hbelow : ¬ th.unhealthyThreshold ≤ state.runtime.consecFailures + 1 := by omega
  constructor <;> simp [touch, hevent, ReplicaRuntime.setHysteresis, ReplicaRuntime.measure,
    ReplicaHysteresis.next, ReplicaRuntime.hysteresis, hfail, hbelow, ofNat]

theorem touch_of_ne {s : ReplicaState ν} (hs : s.id ≠ r) :
    touch th s.id (.probed r result now eventId) s = s := by
  simp [touch, Ne.symm hs]

/-- Least-loaded picks the candidate no other goes before. -/
theorem leastLoaded_pick_iff {pool : List (ReplicaState ν)} (hids : (pool.map (·.id)).Nodup)
    {s : ReplicaState ν} (hs : s ∈ pool) (weights : ScoringWeights ν) :
    (Strategy.leastLoaded.pick pool weights).1 = some s.id ↔
      ∀ c ∈ pool, ¬ GoesBefore c s.runtime.inFlight s.id := by
  rw [pick_loadAware_iff (by simp [Strategy.name]) hids]
  simp only [Strategy.name, filter_scores_leastLoaded]
  constructor
  · rintro ⟨d, hd, hid, hleast⟩ c hc hbefore
    obtain rfl : d = s := List.inj_on_of_nodup_map hids hd hs hid
    exact not_lt_of_ge (hleast c hc) (rankKey_lt_iff.mpr hbefore)
  · intro hnone
    refine ⟨s, hs, rfl, fun c hc => ?_⟩
    apply not_lt.mp
    exact fun hlt => hnone c hc (rankKey_lt_iff.mp hlt)

/-- The registry lists `f s` in place of each `s`: one replica shows no load and no latency, and
nothing else that a round reads has changed. -/
structure ShowsIdle (f : ReplicaState ν → ReplicaState ν) (state : ReplicaState ν) : Prop where
  other : ∀ s, s.id ≠ state.id → f s = s
  id : ∀ s, (f s).id = s.id
  admin : ∀ s, (f s).admin = s.admin
  health : (f state).runtime.health = state.runtime.health
  inFlight : (f state).runtime.inFlight = 0
  latencyMs : (f state).runtime.latencyMs = none

theorem showsIdle_touch (hfail : result.alive = false)
    (hstays : state.runtime.consecFailures + 1 < th.unhealthyThreshold) (now eventId : String) :
    ShowsIdle (fun s => touch th s.id (.probed state.id result now eventId) s) state := by
  have hafter := afterFailure_touch hfail hstays now eventId
  refine ⟨fun s hs => touch_of_ne hs, ?_, ?_, hafter.health, hafter.inFlight, hafter.latencyMs⟩
  · intro s
    simp only [touch]
    split_ifs <;> rfl
  · intro s
    simp only [touch]
    split_ifs <;> rfl

namespace ShowsIdle

variable {f : ReplicaState ν → ReplicaState ν} {pool : List (ReplicaState ν)}

omit [LinearOrder ν] [ToString ν] in
theorem nodup_map (hf : ShowsIdle f state) (hids : (pool.map (·.id)).Nodup) :
    ((pool.map f).map (·.id)).Nodup := by
  rw [List.map_map]
  exact (List.map_congr_left fun s _ => hf.id s) ▸ hids

theorem not_latencyWeighted (hf : ShowsIdle f state)
    (hone : ∀ s ∈ pool, s.id = state.id → s = state) (weights : ScoringWeights ν) :
    (Strategy.latencyWeighted.pick (pool.map f) weights).1 ≠ some state.id := by
  intro hpick
  obtain ⟨c, hc, hid⟩ := pick_mem hpick
  obtain ⟨hc, hscores⟩ := List.mem_filter.mp hc
  obtain ⟨s, hs, rfl⟩ := List.mem_map.mp hc
  obtain rfl := hone s hs ((hf.id s).symm.trans hid)
  exact (scores_eq_true_iff _ _).mp hscores rfl hf.latencyMs

theorem not_picked (hf : ShowsIdle f state) (hout : ∀ s ∈ pool, s.id ≠ state.id)
    (strategy : Strategy) (weights : ScoringWeights ν) :
    (strategy.pick (pool.map f) weights).1 ≠ some state.id := by
  intro hpick
  obtain ⟨c, hc, hid⟩ := pick_mem hpick
  obtain ⟨s, hs, rfl⟩ := List.mem_map.mp (List.mem_filter.mp hc).1
  exact hout s hs ((hf.id s).symm.trans hid)

theorem leastLoaded_pick_iff (hf : ShowsIdle f state) (hids : (pool.map (·.id)).Nodup)
    (hstate : state ∈ pool) (weights : ScoringWeights ν) :
    (Strategy.leastLoaded.pick (pool.map f) weights).1 = some state.id ↔
      ¬ ∃ c ∈ pool, c.id ≠ state.id ∧ GoesBefore c 0 state.id := by
  have hpick := ControlPlane.leastLoaded_pick_iff (hf.nodup_map hids)
    (List.mem_map_of_mem (f := f) hstate) weights
  rw [hf.id, hf.inFlight] at hpick
  rw [hpick]
  constructor
  · rintro hnone ⟨c, hc, hid, hbefore⟩
    apply hnone c _ hbefore
    rw [← hf.other c hid]
    exact List.mem_map_of_mem hc
  · intro hnone c hc hbefore
    obtain ⟨s, hs, rfl⟩ := List.mem_map.mp hc
    by_cases hid : s.id = state.id
    · obtain rfl : s = state := List.inj_on_of_nodup_map hids hs hstate hid
      rcases hbefore with hlt | ⟨-, hlt⟩
      · exact absurd hf.inFlight hlt.ne
      · rw [hf.id, codeUnitLt_irrefl] at hlt
        cases hlt
    · rw [hf.other s hid] at hbefore
      exact hnone ⟨s, hs, hid, hbefore⟩

end ShowsIdle

/-- **A failed probe's attraction**: it makes its replica no more attractive exactly when the
state before it was `Unattractive`. -/
theorem failed_probe_attracts_iff (hm : cp.health.Mirrors)
    (hget : cp.registry.get? r = some state) (hadmin : state.admin = .active)
    (hhealth : state.runtime.health = .healthy)
    (hstays : state.runtime.consecFailures + 1 < th.unhealthyThreshold)
    (hfail : result.alive = false)
    (h : cp.act th (.probed r result now eventId) = .ok (cp', out))
    (exclude : Option (List String)) :
    ((cp.engine.route cp.registry.items cp.config exclude).1.outcome ≠ .ok r →
      (cp'.engine.route cp'.registry.items cp'.config exclude).1.outcome ≠ .ok r) ↔
      cp.Unattractive exclude state := by
  obtain ⟨hmem, rfl⟩ := cp.registry.get?_eq_some_iff.mp hget
  obtain ⟨hitems, hengine, hconfig⟩ := items_of_probed hm hget h
  have hf := showsIdle_touch hfail hstays now eventId
  set f := fun s => touch th s.id (.probed state.id result now eventId) s
  have hone : ∀ s ∈ cp.registry.items, s.id = state.id → s = state := fun s hs hid =>
    cp.registry.eq_of_mem_of_key_eq hs hmem hid
  have hfhealth : ∀ s ∈ cp.registry.items, (f s).runtime.health = s.runtime.health := by
    intro s hs
    by_cases hid : s.id = state.id
    · rw [hone s hs hid]
      exact hf.health
    · rw [hf.other s hid]
  have hpool := poolReplicas_map hf.id hf.admin hfhealth exclude
  have hids := nodup_poolReplicas cp.registry exclude
  rw [ne_eq, ne_eq, route_ok_iff, route_ok_iff, roundPick, roundPick, hitems, hengine, hconfig,
    hpool]
  have hname := Engine.name_strategyFor cp.engine cp.config.strategyName
  unfold Unattractive
  cases hs : cp.engine.strategyFor cp.config.strategyName with
  | roundRobin cursor =>
      -- the cursor points at the same id in both
      rw [hs] at hname
      have hpick : (Strategy.roundRobin cursor).pick
          ((poolReplicas cp.registry.items exclude).map f) cp.config.weights =
          (Strategy.roundRobin cursor).pick (poolReplicas cp.registry.items exclude)
            cp.config.weights := by
        simp only [Strategy.pick, RoundRobin.pick_map hf.id]
      rw [hpick]
      simp [← hname, Strategy.name]
  | latencyWeighted =>
      rw [hs] at hname
      have honePool : ∀ s ∈ poolReplicas cp.registry.items exclude, s.id = state.id → s = state :=
        fun s hs => hone s (mem_keptReplicas.mp (mem_poolReplicas.mp hs).1).1
      have hnever := hf.not_latencyWeighted honePool cp.config.weights
      simp [← hname, Strategy.name, hnever]
  | leastLoaded =>
      -- two comparisons: the load it had before the probe, and none after it
      rw [hs] at hname
      by_cases hexcluded : state.id ∈ exclude.getD []
      · have hout : ∀ s ∈ poolReplicas cp.registry.items exclude, s.id ≠ state.id :=
          fun s hs hid => (mem_poolReplicas.mp hs).2 (hid ▸ hexcluded)
        have hnever := hf.not_picked hout .leastLoaded cp.config.weights
        simp [hnever, hexcluded]
      · have hstate : state ∈ poolReplicas cp.registry.items exclude :=
          mem_poolReplicas.mpr ⟨mem_keptReplicas.mpr ⟨hmem, hadmin, hhealth⟩, hexcluded⟩
        rw [leastLoaded_pick_iff hids hstate cp.config.weights,
          hf.leastLoaded_pick_iff hids hstate cp.config.weights, not_not]
        simp only [← hname, Strategy.name, hexcluded, ne_eq, not_true_eq_false, false_or]
        exact or_iff_not_imp_left.symm

/-! ### A failing replica overtakes -/

/-- Two replicas under least-loaded, the first with more in flight; then its probe fails. -/
def overtake : Except String (ControlPlane ℕ × (Trace ℕ × ControlPlane ℕ) ×
    ControlPlane ℕ × Output ℕ) := do
  let cp₀ ← wire [⟨"replica-1", ""⟩, ⟨"replica-2", ""⟩] ⟨.leastLoaded, ⟨1, 1⟩⟩
  let up ← replay (act .twoOne) cp₀ [
    .probed "replica-1" ⟨true, 5, 3⟩ "t0" "e0",
    .probed "replica-2" ⟨true, 5, 1⟩ "t1" "e1"]
  let down ← up.2.act .twoOne (.probed "replica-1" ⟨false, 500, 0⟩ "t2" "e2")
  return (cp₀, up, down)

theorem overtake_run : ∃ (cp₀ s t : ControlPlane ℕ) (tr : Trace ℕ) (out : Output ℕ)
    (state : ReplicaState ℕ),
    wire [⟨"replica-1", ""⟩, ⟨"replica-2", ""⟩] ⟨.leastLoaded, ⟨1, 1⟩⟩ = .ok cp₀ ∧
    Exec (Step .twoOne) cp₀ tr s ∧
    s.registry.get? "replica-1" = some state ∧ state.admin = .active ∧
    state.runtime.health = .healthy ∧ state.runtime.consecFailures + 1 < 2 ∧
    s.act .twoOne (.probed "replica-1" ⟨false, 500, 0⟩ "t2" "e2") = .ok (t, out) ∧
    (s.route none).1.outcome = .ok "replica-2" ∧ (t.route none).1.outcome = .ok "replica-1" := by
  obtain ⟨⟨cp₀, ⟨tr, s⟩, t, out⟩, h, hc⟩ := exists_of_check overtake (fun run =>
    (run.2.1.2.registry.get? "replica-1").any (fun state : ReplicaState ℕ =>
      decide (state.admin = .active) && decide (state.runtime.health = .healthy) &&
      decide (state.runtime.consecFailures + 1 < 2)) &&
    (match (run.2.1.2.route none).1.outcome with
      | .ok id => decide (id = "replica-2")
      | .error _ => false) &&
    (match (run.2.2.1.route none).1.outcome with
      | .ok id => decide (id = "replica-1")
      | .error _ => false)) (by decide)
  obtain ⟨_, h₀, h⟩ := ok_of_bind h
  obtain ⟨_, h₁, h⟩ := ok_of_bind h
  obtain ⟨_, h₂, h⟩ := ok_of_bind h
  cases Except.ok.inj h
  simp only [Bool.and_eq_true, Option.any_eq_true, decide_eq_true_eq] at hc
  obtain ⟨⟨⟨state, hget, ⟨hadmin, hhealth⟩, hcount⟩, hbefore⟩, hafter⟩ := hc
  refine ⟨cp₀, s, t, tr, out, state, h₀, (exec_of_replay h₁).1, hget, hadmin, hhealth, hcount,
    h₂, ?_, ?_⟩
  · split at hbefore
    · rename_i id heq
      rw [heq, of_decide_eq_true hbefore]
    · cases hbefore
  · split at hafter
    · rename_i id heq
      rw [heq, of_decide_eq_true hafter]
    · cases hafter

/-- One failed probe, far from the threshold, moves the next request to the replica that failed
it. -/
theorem failing_replica_overtakes : ∃ (cp₀ s t : ControlPlane ℕ) (tr : Trace ℕ) (out : Output ℕ)
    (state : ReplicaState ℕ),
    wire [⟨"replica-1", ""⟩, ⟨"replica-2", ""⟩] ⟨.leastLoaded, ⟨1, 1⟩⟩ = .ok cp₀ ∧
    Exec (Step .twoOne) cp₀ tr s ∧
    s.registry.get? "replica-1" = some state ∧ state.admin = .active ∧
    state.runtime.health = .healthy ∧ state.runtime.consecFailures + 1 < 2 ∧
    s.act .twoOne (.probed "replica-1" ⟨false, 500, 0⟩ "t2" "e2") = .ok (t, out) ∧
    ¬ ((s.engine.route s.registry.items s.config none).1.outcome ≠ .ok "replica-1" →
      (t.engine.route t.registry.items t.config none).1.outcome ≠ .ok "replica-1") := by
  obtain ⟨cp₀, s, t, tr, out, state, h₀, h, hget, hadmin, hhealth, hcount, hact, hbefore,
    hafter⟩ := overtake_run
  refine ⟨cp₀, s, t, tr, out, state, h₀, h, hget, hadmin, hhealth, hcount, hact, ?_⟩
  intro hclaim
  have hother : (s.engine.route s.registry.items s.config none).1.outcome ≠ .ok "replica-1" := by
    rw [show (s.engine.route s.registry.items s.config none).1.outcome = _ from hbefore]
    simp
  exact hclaim hother hafter

/-- The condition sees it coming. -/
theorem failed_probe_attracts_iff_overtake : ∃ (s : ControlPlane ℕ) (state : ReplicaState ℕ),
    s.registry.get? "replica-1" = some state ∧ ¬ s.Unattractive none state := by
  obtain ⟨cp₀, s, t, tr, out, state, h₀, h, hget, hadmin, hhealth, hcount, hact, hbefore,
    hafter⟩ := overtake_run
  refine ⟨s, state, hget, ?_⟩
  have hm := (record_of_exec h₀ h).1
  rw [← failed_probe_attracts_iff hm hget hadmin hhealth hcount rfl hact none]
  intro hclaim
  refine hclaim ?_ hafter
  rw [show (s.engine.route s.registry.items s.config none).1.outcome = _ from hbefore]
  simp

end ControlPlane

end WhyRouted
