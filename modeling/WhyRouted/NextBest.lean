import WhyRouted.Attraction
import WhyRouted.Fairness
import WhyRouted.OrderStatistics
import WhyRouted.SystemSteps

/-! # Where a retry goes

A round records a ranking of its whole pool.  When its pick fails, the pick is ejected and the
engine asked again, with the pick excluded.  A load-aware strategy then picks the second of the
recorded ranking.  Round-robin need not: its cursor has moved on by one and the pool has lost a
replica, so the place it points at is the second's only for some cursors (`retry_next_best_iff`).
With three replicas and a fresh cursor it passes over the one the record calls next. -/

namespace WhyRouted

open JsNumber

variable {ν : Type}

/-! ### The ranking a round records -/

section ranking

variable [LinearOrder ν]

/-- A score and then the id by code units. -/
def CandidateScore.rankKey (c : CandidateScore ν) : ν ×ₗ List ℕ :=
  toLex (c.score, codeUnits c.replicaId)

/-- The replica a round ranks second. -/
def RouteResult.rankedNext (decision : RouteResult ν) : Option String :=
  ((decision.candidates.insertionSort fun c d => c.rankKey ≤ d.rankKey)[1]?).map (·.replicaId)

omit [LinearOrder ν] in
theorem CandidateScore.rankKey_inj {candidates : List (CandidateScore ν)}
    (hids : (candidates.map (·.replicaId)).Nodup) :
    ∀ c ∈ candidates, ∀ d ∈ candidates, c.rankKey = d.rankKey → c = d := by
  intro c hc d hd h
  have hpair : (c.score, codeUnits c.replicaId) = (d.score, codeUnits d.replicaId) :=
    toLex.injective h
  exact List.inj_on_of_nodup_map hids hc hd (codeUnits_injective (Prod.mk.inj hpair).2)

end ranking

/-! ### The pool after the ejection -/

section pool

variable {f : ReplicaState ν → ReplicaState ν} {replicas : List (ReplicaState ν)} {id : String}

/-- What an ejection of `id` does to the fleet, as far as a round can see. -/
structure Ejects (f : ReplicaState ν → ReplicaState ν) (id : String) : Prop where
  keeps_id : ∀ s, (f s).id = s.id
  others : ∀ s, s.id ≠ id → f s = s
  down : ∀ s, s.id = id → (f s).runtime.health = .unhealthy

theorem Ejects.pool (hf : Ejects f id) (replicas : List (ReplicaState ν)) (exclude : List String) :
    poolReplicas (replicas.map f) (some (exclude ++ [id])) =
      (poolReplicas replicas (some exclude)).filter fun s => decide (s.id ≠ id) := by
  have hsame : ∀ s ∈ (poolReplicas replicas (some exclude)).filter fun s => decide (s.id ≠ id),
      f s = s := by
    intro s hs
    exact hf.others s (of_decide_eq_true (List.mem_filter.mp hs).2)
  have hmap := List.map_congr_left hsame
  rw [List.map_id'] at hmap
  rw [← hmap]
  unfold poolReplicas keptReplicas
  rw [List.filter_filter, List.filter_map, List.filter_filter, List.filter_filter]
  congr 1
  apply List.filter_congr
  intro s _
  by_cases hs : s.id = id
  · simp [hs, hf.down s hs]
  · simp [hs, hf.others s hs, alreadyTried]

/-- With distinct ids, leaving out the id at an index leaves out that index. -/
theorem filter_ne_eq_eraseIdx (hids : (replicas.map (·.id)).Nodup) {p : ℕ}
    (hp : p < replicas.length) :
    (replicas.filter fun s => decide (s.id ≠ replicas[p].id)) = replicas.eraseIdx p := by
  have hsplit := List.take_append_drop p replicas
  rw [List.drop_eq_getElem_cons hp] at hsplit
  rw [List.eraseIdx_eq_take_drop_succ]
  generalize replicas[p] = s at hsplit ⊢
  rw [← hsplit, List.map_append, List.map_cons, List.nodup_append'] at hids
  obtain ⟨-, htail, hdisjoint⟩ := hids
  have htake : ∀ r ∈ replicas.take p, r.id ≠ s.id := by
    intro r hr heq
    exact hdisjoint (List.mem_map_of_mem hr) (by rw [heq]; exact List.mem_cons_self)
  have hdrop : ∀ r ∈ replicas.drop (p + 1), r.id ≠ s.id := by
    intro r hr heq
    exact (List.nodup_cons.mp htail).1 (List.mem_map.mpr ⟨r, hr, heq⟩)
  conv_lhs => rw [← hsplit]
  rw [List.filter_append, List.filter_cons_of_neg (by simp)]
  congr 1
  · exact List.filter_eq_self.mpr fun r hr => decide_eq_true (htake r hr)
  · exact List.filter_eq_self.mpr fun r hr => decide_eq_true (hdrop r hr)

end pool

/-! ### A load-aware strategy goes on to the second -/

variable [Semiring ν] [LinearOrder ν] [ToString ν]

theorem next_loadAware {strategy : Strategy} {pool : List (ReplicaState ν)}
    {weights : ScoringWeights ν} {id : String} (hname : strategy.name ≠ .roundRobin)
    (hids : (pool.map (·.id)).Nodup) (hpick : (strategy.pick pool weights).1 = some id) :
    (strategy.pick (pool.filter fun s => decide (s.id ≠ id)) weights).1 =
      (((strategy.score pool weights).insertionSort fun c d => c.rankKey ≤ d.rankKey)[1]?).map
        (·.replicaId) := by
  obtain ⟨first, hfirst, rfl, hleast⟩ := (pick_loadAware_iff hname hids).mp hpick
  have hscored : ((pool.filter strategy.name.scores).map (·.id)).Nodup :=
    hids.sublist (List.filter_sublist.map _)
  have hrest : ((pool.filter fun s => decide (s.id ≠ first.id)).map (·.id)).Nodup :=
    hids.sublist (List.filter_sublist.map _)
  have hmem : ∀ c, c ∈ (pool.filter fun s => decide (s.id ≠ first.id)).filter
      strategy.name.scores ↔ c ∈ pool.filter strategy.name.scores ∧ c.id ≠ first.id := by
    intro c
    simp only [List.mem_filter, decide_eq_true_eq]
    tauto
  rw [score_loadAware hname]
  set entry : ReplicaState ν → CandidateScore ν :=
    fun c => scoreEntry c (strategy.name.rank weights c) with hentry
  have hentries : (((pool.filter strategy.name.scores).map entry).map (·.replicaId)).Nodup := by
    rw [List.map_map]
    exact hscored
  have hne : ∀ c ∈ pool.filter strategy.name.scores, entry c ≠ entry first ↔ c.id ≠ first.id := by
    intro c hc
    refine not_congr ⟨fun h => congrArg (·.replicaId) h, fun h => ?_⟩
    rw [List.inj_on_of_nodup_map hscored hc hfirst h]
  apply Option.ext
  intro next
  rw [pick_loadAware_iff hname hrest, Option.map_eq_some_iff]
  have hsecond := fun b => OrderStatistics.second_iff (b := b) hentries.of_map
    (CandidateScore.rankKey_inj hentries) (List.mem_map_of_mem hfirst) (by
      intro e he
      obtain ⟨d, hd, rfl⟩ := List.mem_map.mp he
      exact hleast d hd)
  constructor
  · rintro ⟨c, hc, rfl, hc_least⟩
    obtain ⟨hc, hother⟩ := (hmem c).mp hc
    refine ⟨entry c, (hsecond _).mpr ⟨List.mem_map_of_mem hc, (hne c hc).mpr hother, ?_⟩, rfl⟩
    intro e he hne_first
    obtain ⟨d, hd, rfl⟩ := List.mem_map.mp he
    exact hc_least d ((hmem d).mpr ⟨hd, (hne d hd).mp hne_first⟩)
  · rintro ⟨e, he, rfl⟩
    obtain ⟨he, hne_first, he_least⟩ := (hsecond e).mp he
    obtain ⟨c, hc, rfl⟩ := List.mem_map.mp he
    refine ⟨c, (hmem c).mpr ⟨hc, (hne c hc).mp hne_first⟩, rfl, fun d hd => ?_⟩
    obtain ⟨hd, hother⟩ := (hmem d).mp hd
    exact he_least _ (List.mem_map_of_mem hd) ((hne d hd).mpr hother)

/-! ### Round-robin may not -/

section roundRobin

omit [Semiring ν] [LinearOrder ν] [ToString ν] in
theorem RoundRobin.distance_succ (cursor : ℕ) {n : ℕ} (hn : 2 ≤ n) :
    ((cursor + 1) % n + n - cursor % n) % n = 1 := by
  have hcursor : cursor % n < n := Nat.mod_lt cursor (by omega)
  have hsum : (cursor + 1) % n + n - cursor % n + cursor % n ≡ 1 + cursor % n [MOD n] := by
    rw [Nat.sub_add_cancel (by omega)]
    unfold Nat.ModEq
    rw [Nat.add_mod_right, Nat.mod_mod, Nat.add_comm 1, Nat.mod_add_mod]
  have hone : (cursor + 1) % n + n - cursor % n ≡ 1 [MOD n] := Nat.ModEq.add_right_cancel' _ hsum
  unfold Nat.ModEq at hone
  rw [hone, Nat.mod_eq_of_lt (by omega)]

variable [IsStrictOrderedRing ν] {pool : List (ReplicaState ν)} {cursor : ℕ}

/-- The entry of the replica at an index of the pool. -/
def rotationEntry (cursor : ℕ) (pool : List (ReplicaState ν)) (i : ℕ) (h : i < pool.length) :
    CandidateScore ν :=
  scoreEntry pool[i] (ofNat ((i + pool.length - cursor % pool.length) % pool.length))

omit [IsStrictOrderedRing ν] in
theorem mem_score_roundRobin (hpos : 0 < pool.length) {e : CandidateScore ν} :
    e ∈ RoundRobin.score cursor pool ↔
      ∃ i, ∃ h : i < pool.length, rotationEntry cursor pool i h = e := by
  unfold RoundRobin.score
  rw [if_neg hpos.ne', List.mem_mapIdx]
  exact Iff.rfl

theorem rankKey_rotationEntry_le {i j : ℕ} (hi : i < pool.length) (hj : j < pool.length)
    (h : (i + pool.length - cursor % pool.length) % pool.length ≤
      (j + pool.length - cursor % pool.length) % pool.length) :
    (rotationEntry cursor pool i hi).rankKey ≤ (rotationEntry cursor pool j hj).rankKey := by
  rcases Nat.lt_or_eq_of_le h with hlt | heq
  · exact Prod.Lex.toLex_le_toLex.mpr (.inl (Nat.cast_lt.mpr hlt))
  · obtain rfl := RoundRobin.distance_inj hi hj heq
    exact le_rfl

/-- Round-robin ranks second the place after the cursor's. -/
theorem ranked_roundRobin (hids : (pool.map (·.id)).Nodup) (hn : 2 ≤ pool.length) :
    (((RoundRobin.score cursor pool).insertionSort fun c d => c.rankKey ≤ d.rankKey)[1]?).map
        (·.replicaId) =
      (pool[(cursor + 1) % pool.length]?).map (·.id) := by
  have hpos : 0 < pool.length := by omega
  have hcursor : cursor % pool.length < pool.length := Nat.mod_lt _ hpos
  have hnext : (cursor + 1) % pool.length < pool.length := Nat.mod_lt _ hpos
  have hentries : ((RoundRobin.score cursor pool).map (·.replicaId)).Nodup := by
    have hmeasured := congrArg (List.map (·.replicaId))
      (measured_score (.roundRobin cursor) pool ⟨0, 0⟩)
    simp only [List.map_map, Strategy.name, filter_scores_roundRobin] at hmeasured
    exact hmeasured ▸ hids
  have hfirst : (cursor % pool.length + pool.length - cursor % pool.length) % pool.length = 0 :=
    (RoundRobin.distance_eq_zero_iff hcursor).mpr rfl
  have hsecond := RoundRobin.distance_succ cursor hn
  have hranked := (OrderStatistics.second_iff (b := rotationEntry cursor pool _ hnext)
    hentries.of_map (CandidateScore.rankKey_inj hentries)
    ((mem_score_roundRobin hpos).mpr ⟨_, hcursor, rfl⟩) ?_).mpr
    ⟨(mem_score_roundRobin hpos).mpr ⟨_, hnext, rfl⟩, ?_, ?_⟩
  · rw [hranked, List.getElem?_eq_getElem hnext]
    rfl
  · intro e he
    obtain ⟨i, hi, rfl⟩ := (mem_score_roundRobin hpos).mp he
    exact rankKey_rotationEntry_le hcursor hi (by rw [hfirst]; exact Nat.zero_le _)
  · intro heq
    have hid : pool[(cursor + 1) % pool.length].id = pool[cursor % pool.length].id :=
      congrArg (·.replicaId) heq
    have hsame := List.inj_on_of_nodup_map hids (List.getElem_mem hnext) (List.getElem_mem hcursor)
      hid
    have hindex := (hids.of_map _).getElem_inj_iff.mp hsame
    rw [hindex, hfirst] at hsecond
    cases hsecond
  · intro e he hne
    obtain ⟨i, hi, rfl⟩ := (mem_score_roundRobin hpos).mp he
    apply rankKey_rotationEntry_le hnext hi
    rw [hsecond]
    apply Nat.one_le_iff_ne_zero.mpr
    intro hzero
    obtain rfl := (RoundRobin.distance_eq_zero_iff hi).mp hzero
    exact hne rfl

omit [Semiring ν] [LinearOrder ν] [ToString ν] [IsStrictOrderedRing ν] in
/-- The cursor, moved on by one over a pool one shorter, points at the second exactly when the
rounds it has made so far, and one more, are a multiple of the shorter pool. -/
theorem next_cursor_iff {n : ℕ} (hn : 2 ≤ n) :
    (cursor + 1) % (n - 1) = cursor % n % (n - 1) ↔ (n - 1) ∣ cursor / n + 1 := by
  have hsplit := Nat.div_add_mod cursor n
  have hsum : cursor + 1 = (n - 1) * (cursor / n) + (cursor / n + 1 + cursor % n) := by
    have hmul : n * (cursor / n) = (n - 1) * (cursor / n) + cursor / n := by
      obtain ⟨m, rfl⟩ : ∃ m, n = m + 1 := ⟨n - 1, by omega⟩
      rw [Nat.add_sub_cancel, Nat.add_mul, Nat.one_mul]
    omega
  rw [hsum, Nat.mul_add_mod, ← Nat.modEq_zero_iff_dvd]
  constructor
  · intro h
    apply Nat.ModEq.add_right_cancel' (cursor % n)
    rw [Nat.zero_add]
    exact h
  · intro h
    have hadd := h.add_right (cursor % n)
    rwa [Nat.zero_add] at hadd

omit [Semiring ν] [LinearOrder ν] [ToString ν] [IsStrictOrderedRing ν] in
/-- Without the replica under the cursor, the second stands at the cursor's place in the shorter
pool, taken round. -/
theorem getElem?_eraseIdx_cursor (cursor : ℕ) {ids : List String} (hids : ids.Nodup)
    (hn : 2 ≤ ids.length) {j : ℕ} (hj : j < ids.length - 1) :
    (ids.eraseIdx (cursor % ids.length))[j]? = ids[(cursor + 1) % ids.length]? ↔
      j = cursor % ids.length % (ids.length - 1) := by
  have hcursor : cursor % ids.length < ids.length := Nat.mod_lt _ (by omega)
  have hnext : (cursor + 1) % ids.length =
      if cursor % ids.length + 1 < ids.length then cursor % ids.length + 1 else 0 := by
    rw [← Nat.mod_add_mod]
    split_ifs with h
    · exact Nat.mod_eq_of_lt h
    · rw [show cursor % ids.length + 1 = ids.length by omega, Nat.mod_self]
  have hplace : cursor % ids.length % (ids.length - 1) =
      if cursor % ids.length + 1 < ids.length then cursor % ids.length else 0 := by
    split_ifs with h
    · exact Nat.mod_eq_of_lt (by omega)
    · rw [show cursor % ids.length = ids.length - 1 by omega, Nat.mod_self]
  rw [List.getElem?_eraseIdx, hnext, hplace]
  generalize cursor % ids.length = p at hcursor ⊢
  have hindex : ∀ {i k : ℕ}, i < ids.length → k < ids.length → (ids[i]? = ids[k]? ↔ i = k) := by
    intro i k hi hk
    rw [List.getElem?_eq_getElem hi, List.getElem?_eq_getElem hk, Option.some.injEq,
      hids.getElem_inj_iff]
  split_ifs <;> rw [hindex (by omega) (by omega)] <;> omega

/-- **Round-robin's next pick** after its pick is gone. -/
theorem next_roundRobin (hids : (pool.map (·.id)).Nodup) {id : String}
    (hpick : (RoundRobin.pick cursor pool).1 = some id) :
    (RoundRobin.pick (cursor + 1) (pool.filter fun s => decide (s.id ≠ id))).1 =
        (((RoundRobin.score cursor pool).insertionSort fun c d => c.rankKey ≤ d.rankKey)[1]?).map
          (·.replicaId) ↔
      pool.length ≤ 1 ∨ (pool.length - 1) ∣ cursor / pool.length + 1 := by
  unfold RoundRobin.pick at hpick
  split_ifs at hpick with hempty
  have hcursor : cursor % pool.length < pool.length := Nat.mod_lt _ (by omega)
  rw [List.getElem?_eq_getElem hcursor, Option.map_some] at hpick
  obtain rfl := Option.some.inj hpick
  rw [filter_ne_eq_eraseIdx hids hcursor]
  have hlength : (pool.eraseIdx (cursor % pool.length)).length = pool.length - 1 :=
    List.length_eraseIdx_of_lt hcursor
  rcases Nat.lt_or_ge 1 pool.length with hn | hn
  · have hnot : ¬ pool.length ≤ 1 := by omega
    have hpos : ¬ pool.length - 1 = 0 := by omega
    have hidslen : (pool.map (·.id)).length = pool.length := List.length_map _
    have hplace := getElem?_eraseIdx_cursor cursor hids (by omega)
      (j := (cursor + 1) % (pool.length - 1)) (by rw [hidslen]; exact Nat.mod_lt _ (by omega))
    rw [hidslen, List.eraseIdx_map, List.getElem?_map, List.getElem?_map, next_cursor_iff hn]
      at hplace
    rw [ranked_roundRobin hids hn, RoundRobin.pick, hlength, if_neg hpos]
    rw [hplace]
    simp [hnot]
  · have hone : pool.length = 1 := by omega
    have hscored : (RoundRobin.score cursor pool).length = 1 := by
      simp [RoundRobin.score, hone]
    have hnone : ((RoundRobin.score cursor pool).insertionSort
        fun c d => c.rankKey ≤ d.rankKey)[1]? = none := by
      rw [List.getElem?_eq_none_iff, List.length_insertionSort, hscored]
    rw [hnone, RoundRobin.pick, if_pos (by rw [hlength, hone])]
    simp [hn]

end roundRobin

/-! ### The next round -/

/-- Where the round after a failed one goes by its ranking: under a load-aware strategy always,
under round-robin only if the pool has no choice to offer or the cursor's rounds fit it. -/
def FollowsRanking (engine : Engine) (strategy : StrategyName) (n : ℕ) : Prop :=
  strategy ≠ .roundRobin ∨ n ≤ 1 ∨ (n - 1) ∣ engine.cursor / n + 1

instance (engine : Engine) (strategy : StrategyName) (n : ℕ) :
    Decidable (FollowsRanking engine strategy n) :=
  inferInstanceAs (Decidable (_ ∨ _))

theorem toOption_outcome (engine : Engine) (replicas : List (ReplicaState ν))
    (config : RoutingConfig ν) (exclude : Option (List String)) :
    (engine.route replicas config exclude).1.outcome.toOption =
      roundPick engine replicas config exclude := by
  apply Option.ext
  intro id
  rw [← route_ok_iff]
  cases (engine.route replicas config exclude).1.outcome <;> simp [Except.toOption]

variable [IsStrictOrderedRing ν] {engine : Engine} {replicas : List (ReplicaState ν)}
  {config : RoutingConfig ν} {exclude : List String} {id : String}
  {f : ReplicaState ν → ReplicaState ν}

theorem next_round_iff (hids : (replicas.map (·.id)).Nodup) (hf : Ejects f id)
    (hpick : (engine.route replicas config (some exclude)).1.outcome = .ok id) :
    ((engine.route replicas config (some exclude)).2.route (replicas.map f) config
          (some (exclude ++ [id]))).1.outcome.toOption =
        (engine.route replicas config (some exclude)).1.rankedNext ↔
      FollowsRanking engine config.strategyName (poolReplicas replicas (some exclude)).length := by
  obtain ⟨hpicked, hleft, hscored⟩ := route_picked hpick
  have hname := Engine.name_strategyFor engine config.strategyName
  have hpool : ((poolReplicas replicas (some exclude)).map (·.id)).Nodup :=
    hids.sublist ((List.filter_sublist.trans List.filter_sublist).map _)
  rw [toOption_outcome, roundPick, hleft, hf.pool, RouteResult.rankedNext, hscored]
  unfold FollowsRanking
  by_cases hround : config.strategyName = .roundRobin
  · rw [hround, Engine.strategyFor_roundRobin] at hpicked ⊢
    have hmoved : ((Strategy.roundRobin engine.cursor).pick (poolReplicas replicas (some exclude))
        config.weights).2 = .roundRobin (engine.cursor + 1) := by
      simp only [Strategy.pick, RoundRobin.pick] at hpicked ⊢
      split_ifs at hpicked ⊢
      rfl
    rw [hmoved]
    exact (next_roundRobin hpool hpicked).trans (by simp)
  · have hstays : ((engine.strategyFor config.strategyName).pick
        (poolReplicas replicas (some exclude)) config.weights).2 =
        engine.strategyFor config.strategyName := by
      cases hs : engine.strategyFor config.strategyName with
      | roundRobin cursor =>
          rw [hs] at hname
          exact absurd hname.symm hround
      | leastLoaded => rfl
      | latencyWeighted => rfl
    rw [hstays]
    simp only [hround, ne_eq, not_false_eq_true, true_or, iff_true]
    exact next_loadAware (by rw [hname]; exact hround) hpool hpicked

/-! ### The handler's retry -/

/-- The round and the replica a send is for. -/
def Phase.sent? {ν β : Type} : Phase ν β → Option (RouteResult ν × String)
  | .routing => none
  | .sending decision replicaId => some (decision, replicaId)
  | .responded _ => none
  | .rejected _ => none

theorem Phase.sent?_eq_some_iff {ν β : Type} {phase : Phase ν β} {decision : RouteResult ν}
    {id : String} : phase.sent? = some (decision, id) ↔ phase = .sending decision id := by
  cases phase <;> simp [Phase.sent?]

namespace System

variable {β : Type} {th : Thresholds} {deps : RouteDeps ν β} {cp : ControlPlane ν}
  {s s₀ : System ν β} {h : Handler ν β} {decision : RouteResult ν} {err : ReplicaRequestError}
  {ambient ambient' : Ambient}

omit [IsStrictOrderedRing ν] in
/-- After an ejection the registry lists the same replicas in the same order, the ejected one
unhealthy; neither the engine nor the config has changed. -/
theorem ejects_of_act (th : Thresholds) (hm : cp.health.Mirrors) {state : ReplicaState ν}
    (hget : cp.registry.get? id = some state) (reason now eventId : String) :
    ∃ cp₁ f, cp.act th (.eject id reason now eventId) = .ok (cp₁, .done) ∧ Ejects f id ∧
      cp₁.registry.items = cp.registry.items.map f ∧ cp₁.engine = cp.engine ∧
      cp₁.config = cp.config := by
  obtain ⟨s', hs, hw⟩ := ControlPlane.act_eject th hm (hm.record_eq hget) reason now eventId
  refine ⟨_, fun s => ControlPlane.touch th s.id (.eject id reason now eventId) s, hs, ⟨?_, ?_, ?_⟩,
    ?_, rfl, rfl⟩
  · intro s
    simp only [ControlPlane.touch]
    split_ifs <;> rfl
  · intro s hne
    simp [ControlPlane.touch, Ne.symm hne]
  · intro s heq
    simp only [ControlPlane.touch, heq, if_true, ReplicaRuntime.setHysteresis,
      ReplicaHysteresis.next]
    split_ifs with hu
    · exact hu
    · rfl
  · apply KeyedList.items_eq_map
    · exact hw.keys
    · intro k
      rw [(ControlPlane.act_touches hm hs).2]
      apply Option.map_congr
      intro s hs
      rw [((cp.registry.get?_eq_some_iff).mp hs).2]

omit [IsStrictOrderedRing ν] in
/-- A retryable failure with retries left: the replica is ejected, the event recorded, and the
engine asked again with the replica excluded. -/
theorem resume_retries (decision : RouteResult ν) (ambient' : Ambient)
    (hretry : err.retryable = true) (hleft : h.attempts.length < deps.maxRetries)
    {cp₁ : ControlPlane ν}
    (heject : cp.act th (.eject id (Handler.ejectReason err) (ambient.clock 4) (ambient.uuid 4)) =
      .ok (cp₁, .done)) :
    ∃ cp' h' calls, resume th deps cp h decision id (.error (.request err)) ambient ambient' =
        .ok (cp', h', calls) ∧
      routedOf calls = [(cp₁.route (some (h.exclude ++ [id]))).1] := by
  have hlength : (h.pushFailure decision id err).attempts.length = h.attempts.length + 1 := by
    simp [Handler.pushFailure]
  have hnot : ¬ (h.pushFailure decision id err).attempts.length > deps.maxRetries := by omega
  obtain ⟨again, hagain, hphase, hexclude⟩ : ∃ again : Handler ν β,
      h.onSettled deps decision id (.error (.request err)) ambient = (again,
        [.eject id (Handler.ejectReason err),
          .recordEvent (h.ejectEvent id err (ambient.uuid 0) (ambient.clock 0))]) ∧
      again.phase = .routing ∧ again.exclude = h.exclude ++ [id] := by
    refine ⟨{ h.pushFailure decision id err with phase := .routing }, ?_, rfl, rfl⟩
    simp [Handler.onSettled, Handler.onRetryable, hretry, hnot]
  have hrecord : ∀ event, cp₁.act th (.recordEvent event) = .ok (cp₁.recordEvent event, .done) :=
    fun _ => rfl
  obtain ⟨cp', h', calls, hloop, hrouted⟩ : ∃ cp' h' calls, loopHead th deps
      (cp₁.recordEvent (h.ejectEvent id err (ambient.uuid 0) (ambient.clock 0))) again ambient' =
        .ok (cp', h', calls) ∧ routedOf calls = [(cp₁.route (some (h.exclude ++ [id]))).1] := by
    obtain ⟨decisions, hloop⟩ := loopHead_eq th deps
      (cp₁.recordEvent (h.ejectEvent id err (ambient.uuid 0) (ambient.clock 0))) again ambient'
    rw [hexclude] at hloop
    exact ⟨_, _, _, hloop, (onRouted_calls deps again _ ambient').2.1⟩
  refine ⟨cp', h', [.eject id (Handler.ejectReason err),
    .recordEvent (h.ejectEvent id err (ambient.uuid 0) (ambient.clock 0))] ++ calls, ?_, ?_⟩
  · simp only [resume, hagain, ControlPlane.performAll, List.foldlM_cons, List.foldlM_nil,
      ControlPlane.perform, heject, hrecord, bind, Except.bind, pure, Except.pure, hphase, hloop]
  · rw [routedOf_append]
    exact hrouted

/-- **Where a retry goes.**  A request's last round was made on the present registry and config,
and its pick fails retryably with retries left: then the next round picks what that round ranked
second, or reports an error if there was none, exactly when the strategy is load-aware or the
cursor fits.  Scores are comparable here: the numbers are those of an ordered ring, so none of them
is `NaN`. -/
theorem retry_next_best_iff {replicas₀ : List Replica} {config₀ : RoutingConfig ν} {tr : Trace ν β}
    (h₀ : boot replicas₀ config₀ = .ok s₀) (hexec : Exec (Step th deps) s₀ tr s) {i : ℕ}
    (hi : s.handlers[i]? = some h) (hphase : h.phase = .sending decision id)
    (hround : engine.route s.control.registry.items s.control.config (some h.exclude) =
      (decision, s.control.engine))
    (hpick : decision.outcome = .ok id) (hretry : err.retryable = true)
    (hleft : h.attempts.length < deps.maxRetries) (ambient ambient' : Ambient) :
    ∃ s' report next,
      s.step th deps (.settle i (.error (.request err)) ambient ambient') = .ok (s', report) ∧
      routedOf report.calls = [next] ∧
      (next.outcome.toOption = decision.rankedNext ↔
        FollowsRanking engine s.control.config.strategyName
          (poolReplicas s.control.registry.items (some h.exclude)).length) := by
  have hm := mirrors_of_exec h₀ hexec
  have hdecision : (engine.route s.control.registry.items s.control.config
      (some h.exclude)).1 = decision := congrArg Prod.fst hround
  have hengine : (engine.route s.control.registry.items s.control.config
      (some h.exclude)).2 = s.control.engine := congrArg Prod.snd hround
  rw [← hdecision] at hpick
  obtain ⟨state, hstate, rfl⟩ := route_ok engine _ _ _ hpick
  have hget : s.control.registry.get? state.id = some state :=
    (s.control.registry.get?_eq_some_iff).mpr ⟨((mem_scoredReplicas _ _ _).mp hstate).1, rfl⟩
  obtain ⟨cp₁, f, heject, hf, hitems, hengine₁, hconfig₁⟩ :=
    ejects_of_act th hm hget (Handler.ejectReason err) (ambient.clock 4) (ambient.uuid 4)
  obtain ⟨cp', h', calls, hresume, hrouted⟩ := resume_retries decision ambient' hretry hleft heject
  refine ⟨⟨cp', s.handlers.set i h'⟩, { calls }, _, ?_, hrouted, ?_⟩
  · simp only [step, hi, hphase, hresume, bind, Except.bind, pure, Except.pure]
  · rw [← hdecision, ← next_round_iff s.control.registry.nodup hf hpick, hengine]
    simp only [ControlPlane.route, hitems, hengine₁, hconfig₁]

/-! ### A fresh cursor and three replicas -/

deriving instance DecidableEq for RouteResult

/-- Three replicas come up and a first request is sent; then its send times out. -/
def firstRetry : Except String (System ℕ Unit × (Trace ℕ Unit × System ℕ Unit) ×
    System ℕ Unit × Report ℕ Unit) := do
  let s₀ ← boot [⟨"replica-1", ""⟩, ⟨"replica-2", ""⟩, ⟨"replica-3", ""⟩] ⟨.roundRobin, ⟨1, 1⟩⟩
  let sent ← replay (step .twoOne .oneRetry) s₀ [
    .probed "replica-1" ⟨true, 5, 0⟩ "t0" "e0", .probed "replica-2" ⟨true, 5, 0⟩ "t1" "e1",
    .probed "replica-3" ⟨true, 5, 0⟩ "t2" "e2", .request "request" () .still]
  let retried ← sent.2.step .twoOne .oneRetry (.settle 0 timedOut .still .still)
  return (s₀, sent, retried)

theorem firstRetry_run : ∃ (s₀ s s' : System ℕ Unit) (tr : Trace ℕ Unit) (h : Handler ℕ Unit)
    (decision next : RouteResult ℕ) (report : Report ℕ Unit),
    boot [⟨"replica-1", ""⟩, ⟨"replica-2", ""⟩, ⟨"replica-3", ""⟩] ⟨.roundRobin, ⟨1, 1⟩⟩ = .ok s₀ ∧
    Exec (Step .twoOne .oneRetry) s₀ tr s ∧ s.handlers[0]? = some h ∧
    h.phase = .sending decision "replica-1" ∧
    (⟨none⟩ : Engine).route s.control.registry.items s.control.config (some h.exclude) =
      (decision, s.control.engine) ∧
    decision.outcome = .ok "replica-1" ∧ h.attempts.length < 1 ∧
    s.control.config.strategyName = .roundRobin ∧
    (poolReplicas s.control.registry.items (some h.exclude)).length = 3 ∧
    decision.rankedNext = some "replica-2" ∧
    s.step .twoOne .oneRetry (.settle 0 timedOut .still .still) = .ok (s', report) ∧
    routedOf report.calls = [next] ∧ next.outcome = .ok "replica-3" := by
  obtain ⟨⟨s₀, ⟨tr, s⟩, s', report⟩, hrun, hc⟩ := exists_of_check firstRetry (fun run =>
    (run.2.1.2.handlers[0]?).any (fun h : Handler ℕ Unit =>
      h.phase.sent?.any (fun sent : RouteResult ℕ × String =>
        decide (sent.2 = "replica-1") &&
        decide ((⟨none⟩ : Engine).route run.2.1.2.control.registry.items
          run.2.1.2.control.config (some h.exclude) = (sent.1, run.2.1.2.control.engine)) &&
        decide (sent.1.outcome = .ok "replica-1") &&
        decide (sent.1.rankedNext = some "replica-2")) &&
      decide (h.attempts.length < 1) &&
      decide ((poolReplicas run.2.1.2.control.registry.items (some h.exclude)).length = 3)) &&
    decide (run.2.1.2.control.config.strategyName = .roundRobin) &&
    decide ((routedOf run.2.2.2.calls).map (·.outcome) = [.ok "replica-3"])) (by decide)
  obtain ⟨_, h₀, hrun⟩ := ok_of_bind hrun
  obtain ⟨_, hsent, hrun⟩ := ok_of_bind hrun
  obtain ⟨_, hretried, hrun⟩ := ok_of_bind hrun
  cases Except.ok.inj hrun
  simp only [Bool.and_eq_true, Option.any_eq_true, decide_eq_true_eq] at hc
  obtain ⟨⟨⟨h, hi, ⟨⟨⟨decision, id⟩, hphase, ⟨⟨hid, hround⟩, hpick⟩, hranked⟩, hattempts⟩, hpool⟩,
    hstrategy⟩, hnext⟩ := hc
  subst hid
  obtain ⟨next, hrouted, hnext⟩ := List.map_eq_singleton_iff.mp hnext
  exact ⟨s₀, s, s', tr, h, decision, next, report, h₀, (exec_of_replay hsent).1, hi,
    Phase.sent?_eq_some_iff.mp hphase, hround, hpick, hattempts, hstrategy, hpool, hranked,
    hretried, hrouted, hnext⟩

/-- The retry passes over the replica the record calls next in rotation. -/
theorem retry_skips_next : ∃ (s₀ s s' : System ℕ Unit) (tr : Trace ℕ Unit) (h : Handler ℕ Unit)
    (decision next : RouteResult ℕ) (report : Report ℕ Unit),
    boot [⟨"replica-1", ""⟩, ⟨"replica-2", ""⟩, ⟨"replica-3", ""⟩] ⟨.roundRobin, ⟨1, 1⟩⟩ = .ok s₀ ∧
    Exec (Step .twoOne .oneRetry) s₀ tr s ∧ s.handlers[0]? = some h ∧
    h.phase = .sending decision "replica-1" ∧
    (⟨none⟩ : Engine).route s.control.registry.items s.control.config (some h.exclude) =
      (decision, s.control.engine) ∧
    decision.outcome = .ok "replica-1" ∧
    s.step .twoOne .oneRetry (.settle 0 timedOut .still .still) = .ok (s', report) ∧
    routedOf report.calls = [next] ∧
    decision.rankedNext = some "replica-2" ∧ next.outcome = .ok "replica-3" := by
  obtain ⟨s₀, s, s', tr, h, decision, next, report, h₀, hexec, hi, hphase, hround, hpick, -, -, -,
    hranked, hstep, hrouted, hnext⟩ := firstRetry_run
  exact ⟨s₀, s, s', tr, h, decision, next, report, h₀, hexec, hi, hphase, hround, hpick, hstep,
    hrouted, hranked, hnext⟩

theorem retry_next_best_iff_firstRetry : ∃ (s s' : System ℕ Unit) (decision next : RouteResult ℕ)
    (report : Report ℕ Unit),
    s.step .twoOne .oneRetry (.settle 0 timedOut .still .still) = .ok (s', report) ∧
    routedOf report.calls = [next] ∧ next.outcome.toOption ≠ decision.rankedNext := by
  obtain ⟨s₀, s, _, tr, h, decision, _, _, h₀, hexec, hi, hphase, hround, hpick, hleft, hstrategy,
    hpool, -⟩ := firstRetry_run
  let err : ReplicaRequestError := { kind := .timeout, message := "timed out" }
  have hretry : err.retryable = true := rfl
  obtain ⟨s', report, next, hstep, hrouted, hiff⟩ := retry_next_best_iff h₀ hexec hi hphase hround
    hpick hretry hleft .still .still
  refine ⟨s, s', decision, next, report, hstep, hrouted, ?_⟩
  rw [Ne, hiff, hstrategy, hpool]
  decide

end System

end WhyRouted
