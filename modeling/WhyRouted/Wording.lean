import WhyRouted.DecisionRecord
import WhyRouted.Phrases
import WhyRouted.Ranking
import WhyRouted.RoundAccount

/-! # Explanations are true of the fleet

The line of a round that records an engine's answer, against the fleet the engine was asked about:
what it says of a replica's health and drain, of who was picked, of who could have been and of why
nobody was (`TrueOf`).  All of it is so whatever the numbers are.

How the scores it states compare is another matter.  A load is whatever number `/health` answers
with, and JSON can write infinity (`1e999`).  Weighed with a load weight of zero it makes a score of
`NaN`, which nothing is below: a candidate that comes first with it is picked, and keeps the place.
No stated score is below the pick's exactly when there is nothing to compare or the strategy
compared numbers (`explanation_true_iff`). -/

namespace WhyRouted

open JsNumber

variable {ν κ : Type}

/-- Open to a request: in service, healthy and not tried yet. -/
structure Offered (exclude : Option (List String)) (r : ReplicaState ν) : Prop where
  active : r.admin = .active
  healthy : r.runtime.health = .healthy
  untried : r.id ∉ exclude.getD []

/-- What stands against a replica, when a round can pick none. -/
inductive Barred (config : RoutingConfig ν) (exclude : Option (List String))
    (r : ReplicaState ν) : Prop where
  | drained (hadmin : r.admin = .drained)
  | unhealthy (hhealth : r.runtime.health ≠ .healthy)
  | tried (hmem : r.id ∈ exclude.getD [])
  | unmeasured (hstrategy : config.strategyName = .latencyWeighted)
      (hlatency : r.runtime.latencyMs = none)

/-- What a line says of a fleet is so. -/
structure TrueOf (registry : Registry ν) (config : RoutingConfig ν)
    (exclude : Option (List String)) (phrases : List (Phrase ν)) : Prop where
  noHealthy : ∀ i, .noHealthy i ∈ phrases → ∀ r ∈ registry.items, r.runtime.health ≠ .healthy
  noneAvailable : ∀ i, .noneAvailable i ∈ phrases →
    ∀ r ∈ registry.items, r.admin = .drained ∨ r.runtime.health ≠ .healthy
  notPicked : ∀ i strategy n, .notPicked i strategy n ∈ phrases →
    strategy = config.strategyName.text ∧ n = 0 ∧ ∀ r ∈ registry.items, Barred config exclude r
  unhealthy : ∀ lead id, .excluded lead id .unhealthy ∈ phrases →
    ∃ r ∈ registry.items, r.id = id ∧ r.admin ≠ .drained ∧ r.runtime.health ≠ .healthy
  drained : ∀ lead id, .excluded lead id .drained ∈ phrases →
    ∃ r ∈ registry.items, r.id = id ∧ r.admin = .drained
  everyDrained : ∀ r ∈ registry.items, r.admin = .drained →
    ∃ lead, .excluded lead r.id .drained ∈ phrases
  alreadyTried : ∀ lead id, .excluded lead id .alreadyTried ∈ phrases →
    ∃ r ∈ registry.items, r.id = id ∧ r.admin = .active ∧ r.runtime.health = .healthy ∧
      id ∈ exclude.getD []
  picked : ∀ i strategy id word score, .picked i strategy id word score ∈ phrases →
    strategy = config.strategyName.text ∧ ∃ r ∈ registry.items, r.id = id ∧ Offered exclude r
  candidate : ∀ lead id word score, .candidate lead id word score ∈ phrases →
    ∃ r ∈ registry.items, r.id = id ∧ Offered exclude r

section round

variable [JsNumber ν] {engine : Engine} {registry : Registry ν} {config : RoutingConfig ν}
  {exclude : Option (List String)} {round : DecisionRound ν} {i : ℕ} {id : String}

/-- The pick's score is stated, and no stated score is below it. -/
def PickLeast (phrases : List (Phrase ν)) : Prop :=
  ∀ i strategy id word score, .picked i strategy id word score ∈ phrases →
    ∃ x, score = some x ∧ ∀ lead id' word' y, .candidate lead id' word' y ∈ phrases → le x y = true

/-- The round's strategy compares nothing, or numbers: distances, one candidate alone, or loads or
weighted sums none of which is `NaN`. -/
def Comparable (registry : Registry ν) (config : RoutingConfig ν)
    (exclude : Option (List String)) : Prop :=
  config.strategyName = .roundRobin ∨
    (scoredReplicas registry.items config exclude).length ≤ 1 ∨
    ∀ r ∈ scoredReplicas registry.items config exclude,
      isNaN (config.strategyName.rank config.weights r) = false

/-! ### The replicas a line names -/

omit [JsNumber ν] in
theorem offered_of_scored {r : ReplicaState ν}
    (hr : r ∈ scoredReplicas registry.items config exclude) : r ∈ registry.items ∧
      Offered exclude r := by
  obtain ⟨hmem, hactive, hhealthy, huntried, -⟩ := (mem_scoredReplicas _ _ _).mp hr
  exact ⟨hmem, hactive, hhealthy, huntried⟩

omit [JsNumber ν] in
theorem barred_of_not_scored {r : ReplicaState ν} (hr : r ∈ registry.items)
    (hnot : r ∉ scoredReplicas registry.items config exclude) : Barred config exclude r := by
  by_contra hfree
  refine hnot ((mem_scoredReplicas _ _ _).mpr ⟨hr, ?_, ?_, fun hmem => hfree (.tried hmem), ?_⟩)
  · cases hadmin : r.admin with
    | active => rfl
    | drained => exact absurd (.drained hadmin) hfree
  · by_contra hhealth
    exact hfree (.unhealthy hhealth)
  · exact (scores_eq_true_iff _ _).mpr fun hstrategy hlatency =>
      hfree (.unmeasured hstrategy hlatency)

theorem offered_of_candidate {c : CandidateScore ν}
    (hc : c ∈ (engine.route registry.items config exclude).1.candidates) :
    ∃ r ∈ registry.items, r.id = c.replicaId ∧ Offered exclude r := by
  have hid : c.replicaId ∈ (scoredReplicas registry.items config exclude).map (·.id) := by
    rw [← candidates_replicaId engine]
    exact List.mem_map_of_mem hc
  obtain ⟨r, hr, hrid⟩ := List.mem_map.mp hid
  obtain ⟨hmem, hoffered⟩ := offered_of_scored hr
  exact ⟨r, hmem, hrid, hoffered⟩

theorem none_healthy
    (hnone : (engine.route registry.items config exclude).1.outcome = .error .noHealthyReplicas)
    (hdrained : ∀ e ∈ (engine.route registry.items config exclude).1.excluded,
      e.reason ≠ .drained) : ∀ r ∈ registry.items, r.runtime.health ≠ .healthy := by
  intro r hr hhealthy
  rw [route_noHealthy_iff, keptReplicas_eq_nil_iff] at hnone
  cases hadmin : r.admin with
  | active => exact hnone r hr ⟨hadmin, hhealthy⟩
  | drained =>
      exact hdrained ⟨r.id, .drained⟩
        ((mem_route_excluded engine registry config exclude _).mpr ⟨r, hr, rfl, hadmin⟩) rfl

omit [JsNumber ν] in
theorem outcome_of_reports {decision : RouteResult ν} (hround : Reports round decision) :
    (round.outcome = .noHealthyReplicas → decision.outcome = .error .noHealthyReplicas) ∧
    (round.outcome = .noRoutableReplica → decision.outcome = .error .noRoutableReplica) ∧
    (round.outcome = .picked → ∃ id, decision.outcome = .ok id) := by
  rw [hround.outcome]
  unfold RouteResult.roundOutcome
  split
  next id hid => exact ⟨nofun, nofun, fun _ => ⟨id, hid⟩⟩
  next hnone => exact ⟨fun _ => hnone, nofun, nofun⟩
  next hnone => exact ⟨nofun, fun _ => hnone, nofun⟩

theorem trueOf_round (hround : Reports round (engine.route registry.items config exclude).1)
    (hpicked : round.pickedReplicaId =
      (engine.route registry.items config exclude).1.outcome.toOption) (i : ℕ) :
    TrueOf registry config exclude (roundTold i round) := by
  have hexcluded : ∀ id reason, ⟨id, reason⟩ ∈ round.excluded ↔
      ∃ r ∈ registry.items, r.id = id ∧ ExcludedFor exclude r reason := by
    intro id reason
    rw [hround.excluded]
    exact mem_route_excluded engine registry config exclude ⟨id, reason⟩
  have hstrategy : round.strategy = config.strategyName.text := by
    rw [hround.strategy, route_strategy]
  obtain ⟨hnoHealthy, hnoRoutable, hok⟩ := outcome_of_reports hround
  constructor
  · intro j h
    obtain ⟨ho, hdrained⟩ := noHealthy_of_told h
    rw [hround.excluded] at hdrained
    exact none_healthy (hnoHealthy ho) hdrained
  · intro j h r hr
    have hnone := hnoHealthy (noneAvailable_of_told h)
    rw [route_noHealthy_iff, keptReplicas_eq_nil_iff] at hnone
    by_contra hup
    obtain ⟨hactive, hhealth⟩ := not_or.mp hup
    refine hnone r hr ⟨?_, not_not.mp hhealth⟩
    cases hadmin : r.admin with
    | active => rfl
    | drained => exact absurd hadmin hactive
  · intro j strategy n h
    obtain ⟨ho, rfl, rfl⟩ := notPicked_of_told h
    obtain ⟨-, hnone⟩ := (route_noRoutable_iff _ _ _ _).mp (hnoRoutable ho)
    refine ⟨hstrategy, ?_, fun r hr => barred_of_not_scored hr (by simp [hnone])⟩
    have hids := candidates_replicaId engine registry config exclude
    rw [hnone, List.map_nil, List.map_eq_nil_iff] at hids
    rw [hround.candidates, hids, List.length_nil]
  · intro lead id h
    obtain ⟨r, hr, hid, hactive, hhealth⟩ := (hexcluded _ _).mp (excluded_of_told h)
    exact ⟨r, hr, hid, by simp [hactive], hhealth⟩
  · intro lead id h
    exact (hexcluded _ _).mp (excluded_of_told h)
  · intro r hr hdrained
    exact told_of_excluded i ((hexcluded r.id .drained).mpr ⟨r, hr, rfl, hdrained⟩)
  · intro lead id h
    obtain ⟨r, hr, rfl, hactive, hhealthy, htried⟩ := (hexcluded _ _).mp (excluded_of_told h)
    exact ⟨r, hr, rfl, hactive, hhealthy, htried⟩
  · intro j strategy id word score h
    obtain ⟨ho, rfl, rfl, -⟩ := picked_of_told h
    obtain ⟨id, hid⟩ := hok ho
    obtain ⟨r, hr, hrid⟩ := route_ok engine registry.items config exclude hid
    obtain ⟨hmem, hoffered⟩ := offered_of_scored hr
    refine ⟨hstrategy, r, hmem, ?_, hoffered⟩
    rw [hpicked, hid, hrid]
    rfl
  · intro lead id word score h
    obtain ⟨e, he, rfl, -⟩ := candidate_of_told h
    have hc := List.mem_of_getElem? (mem_othersOf he)
    rw [hround.candidates] at hc
    exact offered_of_candidate hc

/-! ### The scores a line states -/

theorem nodup_candidates (engine : Engine) (registry : Registry ν) (config : RoutingConfig ν)
    (exclude : Option (List String)) :
    ((engine.route registry.items config exclude).1.candidates.map (·.replicaId)).Nodup :=
  (List.nodup_append.mp (route_once engine registry config exclude)).1

theorem winnerOf_of_pick (hround : Reports round (engine.route registry.items config exclude).1)
    (ho : (engine.route registry.items config exclude).1.outcome = .ok id)
    (hpicked : round.pickedReplicaId = some id) : ∃ w, winnerOf round = some w ∧
      round.candidates[w.index]? = some w.candidate ∧
      ∀ c ∈ round.candidates, c.replicaId = id → c = w.candidate := by
  obtain ⟨r, hr, rfl⟩ := route_ok engine registry.items config exclude ho
  have hids := candidates_replicaId engine registry config exclude
  have hnodup := nodup_candidates engine registry config exclude
  rw [← hround.candidates] at hids hnodup
  have hscored : r.id ∈ round.candidates.map (·.replicaId) := by
    rw [hids]
    exact List.mem_map_of_mem hr
  obtain ⟨c, hc, hcid⟩ := List.mem_map.mp hscored
  obtain ⟨j, hj⟩ := List.getElem?_of_mem hc
  have hfound : (winnerOf round).isSome := by
    unfold winnerOf
    rw [List.find?_isSome]
    exact ⟨_, mem_ranking_of_getElem? hj, decide_eq_true (by rw [hpicked, hcid])⟩
  obtain ⟨w, hw⟩ := Option.isSome_iff_exists.mp hfound
  obtain ⟨hwc, hwid⟩ := winnerOf_spec hw
  refine ⟨w, hw, hwc, fun d hd hdid => ?_⟩
  rw [hpicked] at hwid
  exact List.inj_on_of_nodup_map hnodup hd (List.mem_of_getElem? hwc)
    (hdid.trans (Option.some.inj hwid).symm)

theorem mem_othersOf_iff {w : Ranked ν} (hw : winnerOf round = some w) {e : Ranked ν} :
    e ∈ othersOf round ↔ round.candidates[e.index]? = some e.candidate ∧ e.index ≠ w.index := by
  unfold othersOf
  rw [List.mem_filter, hw]
  constructor
  · rintro ⟨he, hne⟩
    exact ⟨mem_ranking he, by simpa using hne⟩
  · rintro ⟨he, hne⟩
    exact ⟨mem_ranking_of_getElem? he, by simpa using hne⟩

/-- Where numbers were compared, no candidate's score is below the pick's. -/
theorem least_of_number [LinearOrder κ] (law : Lawful ν κ)
    (hnumber : config.strategyName = .roundRobin ∨
      ∀ r ∈ scoredReplicas registry.items config exclude,
        isNaN (config.strategyName.rank config.weights r) = false)
    (ho : (engine.route registry.items config exclude).1.outcome = .ok id) :
    ∃ c ∈ (engine.route registry.items config exclude).1.candidates, c.replicaId = id ∧
      ∀ d ∈ (engine.route registry.items config exclude).1.candidates,
        le c.score d.score = true := by
  obtain ⟨hpick, -, hscored⟩ := route_picked ho
  rw [hscored]
  refine least_of_pick law (nodup_poolReplicas registry exclude) ?_ hpick
  rw [Engine.name_strategyFor]
  exact hnumber

theorem candidates_length (engine : Engine) (registry : Registry ν) (config : RoutingConfig ν)
    (exclude : Option (List String)) :
    (engine.route registry.items config exclude).1.candidates.length =
      (scoredReplicas registry.items config exclude).length := by
  have hlength := congrArg List.length (candidates_replicaId engine registry config exclude)
  rwa [List.length_map, List.length_map] at hlength

theorem candidate_of_scored (hname : config.strategyName ≠ .roundRobin)
    (ho : (engine.route registry.items config exclude).1.outcome = .ok id) {r : ReplicaState ν}
    (hr : r ∈ scoredReplicas registry.items config exclude) :
    ∃ c ∈ (engine.route registry.items config exclude).1.candidates,
      c.score = config.strategyName.rank config.weights r := by
  obtain ⟨-, -, hscored⟩ := route_picked ho
  rw [hscored, score_loadAware (by rwa [Engine.name_strategyFor]), Engine.name_strategyFor]
  exact ⟨_, List.mem_map_of_mem hr, rfl⟩

/-- The winner was compared with a candidate at another place as a number with a number. -/
theorem numbers_of_pickLeast [LinearOrder κ] (law : Lawful ν κ) (hout : round.outcome = .picked)
    {w : Ranked ν} (hw : winnerOf round = some w) (hleast : PickLeast (roundTold i round)) {j : ℕ}
    {c : CandidateScore ν} (hc : round.candidates[j]? = some c) (hj : j ≠ w.index) :
    isNaN w.candidate.score = false ∧ isNaN c.score = false := by
  obtain ⟨x, hx, hle⟩ := hleast _ _ _ _ _ (told_of_picked hout i)
  rw [hw] at hx
  obtain rfl := Option.some.inj hx
  obtain ⟨lead, htold⟩ := told_of_other hout i ((mem_othersOf_iff hw (e := ⟨c, j⟩)).mpr ⟨hc, hj⟩)
  exact law.toComparison.not_isNaN_of_le (hle _ _ _ _ htold)

theorem comparable_of_pickLeast [LinearOrder κ] (law : Lawful ν κ)
    (hround : Reports round (engine.route registry.items config exclude).1)
    (hpicked : round.pickedReplicaId =
      (engine.route registry.items config exclude).1.outcome.toOption)
    (hleast : PickLeast (roundTold i round)) : Comparable registry config exclude := by
  by_cases hname : config.strategyName = .roundRobin
  · exact .inl hname
  rcases Nat.lt_or_ge 1 (scoredReplicas registry.items config exclude).length with hmany | hfew
  · refine .inr (.inr fun r hr => ?_)
    obtain ⟨id, ho⟩ := route_picks engine _ _ _ (List.ne_nil_of_mem hr)
    have hout : round.outcome = .picked := by
      rw [hround.outcome, RouteResult.roundOutcome, ho]
    obtain ⟨w, hw, hwc, -⟩ := winnerOf_of_pick hround ho (by rw [hpicked, ho]; rfl)
    -- the winner is compared with each candidate at another place, and there is one
    have hothers := fun (j : ℕ) (c : CandidateScore ν) =>
      numbers_of_pickLeast (j := j) (c := c) law hout hw hleast
    have hlength : 1 < round.candidates.length := by
      rwa [hround.candidates, candidates_length]
    obtain ⟨j, hj, hne⟩ : ∃ j, j < round.candidates.length ∧ j ≠ w.index := by
      by_cases h0 : w.index = 0
      · exact ⟨1, hlength, by omega⟩
      · exact ⟨0, by omega, Ne.symm h0⟩
    obtain ⟨hwinner, -⟩ := hothers j _ (List.getElem?_eq_getElem hj) hne
    obtain ⟨c, hc, hscore⟩ := candidate_of_scored hname ho hr
    rw [← hround.candidates] at hc
    rw [← hscore]
    obtain ⟨k, hk⟩ := List.getElem?_of_mem hc
    by_cases hkw : k = w.index
    · rw [hkw, hwc] at hk
      rwa [← Option.some.inj hk]
    · exact (hothers k c hk hkw).2
  · exact .inr (.inl hfew)

theorem pickLeast_of_comparable [LinearOrder κ] (law : Lawful ν κ)
    (hround : Reports round (engine.route registry.items config exclude).1)
    (hpicked : round.pickedReplicaId =
      (engine.route registry.items config exclude).1.outcome.toOption)
    (hcomparable : Comparable registry config exclude) (i : ℕ) :
    PickLeast (roundTold i round) := by
  intro j strategy id word score h
  obtain ⟨hout, -, -, rfl⟩ := picked_of_told h
  obtain ⟨-, -, hok⟩ := outcome_of_reports hround
  obtain ⟨id, ho⟩ := hok hout
  obtain ⟨w, hw, hwc, hunique⟩ := winnerOf_of_pick hround ho (by rw [hpicked, ho]; rfl)
  refine ⟨w.candidate.score, by rw [hw]; rfl, fun lead id' word' y h' => ?_⟩
  obtain ⟨e, he, -, rfl⟩ := candidate_of_told h'
  obtain ⟨hec, hne⟩ := (mem_othersOf_iff hw).mp he
  have hnumber : ∀ h : config.strategyName = .roundRobin ∨
      ∀ r ∈ scoredReplicas registry.items config exclude,
        isNaN (config.strategyName.rank config.weights r) = false,
      le w.candidate.score e.candidate.score = true := by
    intro hnumber
    obtain ⟨c, hc, hcid, hle⟩ := least_of_number law hnumber ho
    rw [← hround.candidates] at hc hle
    rw [← hunique c hc hcid]
    exact hle _ (List.mem_of_getElem? hec)
  rcases hcomparable with hname | hfew | hnumbers
  · exact hnumber (.inl hname)
  · -- there is no other place
    obtain ⟨hlt, -⟩ := List.getElem?_eq_some_iff.mp hec
    obtain ⟨hlt', -⟩ := List.getElem?_eq_some_iff.mp hwc
    rw [hround.candidates, candidates_length] at hlt hlt'
    omega
  · exact hnumber (.inr hnumbers)

theorem stated_of_candidate (hround : Reports round
      (engine.route registry.items config exclude).1)
    (ho : (engine.route registry.items config exclude).1.outcome = .ok id)
    (hpicked : round.pickedReplicaId = some id) (i : ℕ) {c : CandidateScore ν}
    (hc : c ∈ round.candidates) :
    ∃ phrase ∈ roundTold i round, ∃ named, phrase.scores = some (named, c.score) := by
  have hout : round.outcome = .picked := by
    rw [hround.outcome, RouteResult.roundOutcome, ho]
  obtain ⟨w, hw, hwc, -⟩ := winnerOf_of_pick hround ho hpicked
  obtain ⟨k, hk⟩ := List.getElem?_of_mem hc
  by_cases hkw : k = w.index
  · rw [hkw, hwc] at hk
    obtain rfl := Option.some.inj hk
    exact ⟨_, told_of_picked hout i, _, by rw [hw]; rfl⟩
  · obtain ⟨lead, htold⟩ :=
      told_of_other hout i ((mem_othersOf_iff hw (e := ⟨c, k⟩)).mpr ⟨hk, hkw⟩)
    exact ⟨_, htold, _, rfl⟩

/-- Where no score is stated as `NaN`, none is below the pick's. -/
theorem pickLeast_of_stated [LinearOrder κ] (law : Lawful ν κ)
    (hround : Reports round (engine.route registry.items config exclude).1)
    (hpicked : round.pickedReplicaId =
      (engine.route registry.items config exclude).1.outcome.toOption) (i : ℕ)
    (hstated : ∀ phrase ∈ roundTold i round, ∀ p, phrase.scores = some p → isNaN p.2 = false) :
    PickLeast (roundTold i round) := by
  refine pickLeast_of_comparable law hround hpicked ?_ i
  by_cases hname : config.strategyName = .roundRobin
  · exact .inl hname
  refine .inr (.inr fun r hr => ?_)
  obtain ⟨id, ho⟩ := route_picks engine _ _ _ (List.ne_nil_of_mem hr)
  obtain ⟨c, hc, hscore⟩ := candidate_of_scored hname ho hr
  rw [← hround.candidates] at hc
  obtain ⟨phrase, htold, named, hscores⟩ :=
    stated_of_candidate hround ho (by rw [hpicked, ho]; rfl) i hc
  rw [← hscore]
  exact hstated phrase htold _ hscores

end round

/-! ### Truth -/

/-- The round built from an answer, with the reason its pick failed for, if it did. -/
def recordedRound (decision : RouteResult ν) (reason : Option FailureReason) : DecisionRound ν :=
  { roundFor decision with failureReason := reason }

theorem pickedReplicaId_recordedRound (decision : RouteResult ν) (reason : Option FailureReason) :
    (recordedRound decision reason).pickedReplicaId = decision.outcome.toOption := by
  unfold recordedRound roundFor
  cases decision.outcome <;> rfl

/-- **When explanations are true of the fleet they describe.**  Whatever the engine has answered
before and whatever the numbers are, the line of the round built from its answer says what is so of
the registry it was asked about.  Where numbers compare as the language's do, no score it states is
below the pick's exactly when the round's strategy compared nothing, or numbers. -/
theorem explanation_true_iff [JsNumber ν] (engine : Engine) (registry : Registry ν)
    (config : RoutingConfig ν) (exclude : Option (List String)) (reason : Option FailureReason)
    (i : ℕ) :
    (∀ decision : Decision ν, decision.rounds[i]? =
        some (recordedRound (engine.route registry.items config exclude).1 reason) →
      (explainDecision decision).lines[i + 1]? =
        some (roundLine i (recordedRound (engine.route registry.items config exclude).1 reason))) ∧
    (roundLine i (recordedRound (engine.route registry.items config exclude).1 reason)).text =
      written (roundTold i (recordedRound (engine.route registry.items config exclude).1 reason)) ∧
    TrueOf registry config exclude
      (roundTold i (recordedRound (engine.route registry.items config exclude).1 reason)) ∧
    ∀ (κ : Type) [LinearOrder κ], Lawful ν κ →
      (PickLeast (roundTold i
          (recordedRound (engine.route registry.items config exclude).1 reason)) ↔
        Comparable registry config exclude) := by
  have hpicked := pickedReplicaId_recordedRound
    (engine.route registry.items config exclude).1 reason
  refine ⟨fun decision hi => ?_, round_text i _, trueOf_round (reports_roundFor _ reason) hpicked i,
    fun _ _ law => ⟨comparable_of_pickLeast law (reports_roundFor _ reason) hpicked, fun h => ?_⟩⟩
  · simp [explainDecision, hi]
  · exact pickLeast_of_comparable law (reports_roundFor _ reason) hpicked h i

/-! ### A fleet of four -/

/-- Two replicas that serve, one that is down and one that is drained. -/
def fourReplicas : List (ReplicaState Extended) :=
  [⟨⟨"replica-1", "http://a"⟩, { initialRuntime with health := .healthy, inFlight := .infinity },
      .active⟩,
    ⟨⟨"replica-2", "http://b"⟩, { initialRuntime with health := .unhealthy }, .active⟩,
    ⟨⟨"replica-3", "http://c"⟩, { initialRuntime with health := .healthy }, .drained⟩,
    ⟨⟨"replica-4", "http://d"⟩, { initialRuntime with health := .healthy, inFlight := .nat 1 },
      .active⟩]

theorem nodup_fourReplicas : (fourReplicas.map (·.id)).Nodup := by decide

/-- Infinity can be compared. -/
theorem explanation_true_iff_fourReplicas :
    TrueOf ⟨fourReplicas, nodup_fourReplicas⟩ ⟨.leastLoaded, ⟨.nat 1, .nat 1⟩⟩ none
        (roundTold 0 (recordedRound ((⟨none⟩ : Engine).route fourReplicas
          ⟨.leastLoaded, ⟨.nat 1, .nat 1⟩⟩ none).1 none)) ∧
      PickLeast (roundTold 0 (recordedRound ((⟨none⟩ : Engine).route fourReplicas
        ⟨.leastLoaded, ⟨.nat 1, .nat 1⟩⟩ none).1 none)) := by
  obtain ⟨-, -, htrue, hleast⟩ := explanation_true_iff (⟨none⟩ : Engine)
    ⟨fourReplicas, nodup_fourReplicas⟩ ⟨.leastLoaded, ⟨.nat 1, .nat 1⟩⟩ none none 0
  exact ⟨htrue, (hleast _ Extended.lawful).mpr (.inr (.inr (by decide)))⟩

/-! ### A load of infinity -/

/-- What a probe has left of a healthy replica. -/
def measuredRuntime (inFlight latencyMs : Extended) : ReplicaRuntime Extended :=
  { (initialRuntime : ReplicaRuntime Extended) with
    health := .healthy, inFlight, latencyMs := some latencyMs }

/-- Two healthy replicas; the first has answered `{"inFlight":1e999}`. -/
def infiniteLoad : List (ReplicaState Extended) :=
  [⟨⟨"replica-1", "http://a"⟩, measuredRuntime .infinity (.nat 5), .active⟩,
    ⟨⟨"replica-2", "http://b"⟩, measuredRuntime (.nat 0) (.nat 3), .active⟩]

/-- What the line of the round says, with a load weight of zero. -/
def infiniteLoadTold : List (Phrase Extended) :=
  roundTold 0 (recordedRound ((⟨none⟩ : Engine).route infiniteLoad
    ⟨.latencyWeighted, ⟨.nat 0, .nat 1⟩⟩ none).1 none)

/-- The first is picked with a score of `NaN`, over the second with a score of 3. -/
theorem infiniteLoad_not_least : infiniteLoadTold =
      [.picked 0 "latency-weighted" "replica-1" "score" (some .nan),
        .candidate " over " "replica-2" "score" (.nat 3), .stop] ∧
    ¬ PickLeast infiniteLoadTold := by
  have htold : infiniteLoadTold =
      [.picked 0 "latency-weighted" "replica-1" "score" (some .nan),
        .candidate " over " "replica-2" "score" (.nat 3), .stop] := by rfl
  refine ⟨htold, fun hleast => ?_⟩
  rw [htold] at hleast
  obtain ⟨x, hx, hle⟩ := hleast 0 "latency-weighted" "replica-1" "score" (some .nan) (by simp)
  obtain rfl := Option.some.inj hx
  exact absurd (hle " over " "replica-2" "score" (.nat 3) (by simp)) (by decide)

end WhyRouted
