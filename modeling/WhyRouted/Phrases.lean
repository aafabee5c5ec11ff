import WhyRouted.Explain

/-! # What an explanation says

The lines of an explanation are strings.  Here they are phrases: each says one thing about a round
or about the decision, and is written in pieces, which are words of the explanation or values taken
from the record.  `explainDecision_text`: the lines of `explainDecision` are the phrases of `told`,
written out. -/

namespace WhyRouted

variable {ν : Type}

/-! ### Pieces -/

/-- A part of a sentence: words of the explanation, or what a template literal interpolates. -/
inductive Piece (ν : Type) where
  | words (s : String)
  /-- Where the line's round is among the rounds. -/
  | label (i : ℕ)
  | replicaId (id : String)
  | strategy (name : String)
  | score (x : ν)
  | reason (r : ExclusionReason)
  | kind (k : ReplicaErrorKind)
  | status (code : ℕ)
  /-- The length of an array. -/
  | count (n : ℕ)

def Piece.text [JsNumber ν] : Piece ν → String
  | .words s => s
  | .label i => "Round " ++ toString (i + 1)
  | .replicaId id => id
  | .strategy name => name
  | .score x => JsNumber.text x
  | .reason r => if r = .drained then "drained by operator" else r.text
  | .kind k => k.text
  | .status code => toString code
  | .count n => toString n

/-! ### Phrases -/

/-- One thing a line says.  A `lead` is what stands before the phrase, a `word` the word for a
score. -/
inductive Phrase (ν : Type) where
  | noRounds
  | served (id : String) (rounds : ℕ)
  | unserved (rounds : ℕ)
  | noHealthy (i : ℕ)
  | noneAvailable (i : ℕ)
  | notPicked (i : ℕ) (strategy : String) (candidates : ℕ)
  | picked (i : ℕ) (strategy id word : String) (score : Option ν)
  | candidate (lead id word : String) (score : ν)
  | excluded (lead id : String) (reason : ExclusionReason)
  | failed (kind : ReplicaErrorKind) (status : Option ℕ)
  | stop

namespace Phrase

/-- `plural`, in pieces. -/
def counted (n : ℕ) (word : String) : List (Piece ν) :=
  [.count n, .words (" " ++ word ++ if n = 1 then "" else "s")]

def scored (word : String) (score : ν) : List (Piece ν) :=
  [.words (" (" ++ word ++ " "), .score score, .words ")"]

def pieces : Phrase ν → List (Piece ν)
  | noRounds => [.words "The record contains no rounds."]
  | served id n => [.words "Served by ", .replicaId id, .words " after "] ++
      (counted n "round" ++ [.words "."])
  | unserved n => .words "No replica returned a usable response, after " ::
      (counted n "round" ++ [.words "."])
  | noHealthy i => [.label i, .words ": the registry had no healthy replica."]
  | noneAvailable i => [.label i, .words ": no replica was available to route to."]
  | notPicked i strategy n =>
      [.label i, .words " (", .strategy strategy, .words "): no replica could be picked; "] ++
        (counted n "candidate" ++ [.words " scored."])
  | picked i strategy id word score =>
      [.label i, .words " (", .strategy strategy, .words "): picked ", .replicaId id] ++
        score.elim [] (scored word)
  | candidate lead id word score => [.words lead, .replicaId id] ++ scored word score
  | excluded lead id reason =>
      [.words lead, .replicaId id, .words " (", .reason reason, .words ")"]
  | failed kind status => [.words " It then failed with ", .kind kind] ++
      (status.elim [] (fun status => [.words " ", .status status]) ++ [.words "."])
  | stop => [.words "."]

def round : Phrase ν → Option ℕ
  | noHealthy i => some i
  | noneAvailable i => some i
  | notPicked i _ _ => some i
  | picked i _ _ _ _ => some i
  | _ => none

/-- The replica a score is printed beside, with the score. -/
def scores : Phrase ν → Option (String × ν)
  | picked _ _ id _ (some score) => some (id, score)
  | candidate _ id _ score => some (id, score)
  | _ => none

end Phrase

def written [JsNumber ν] (phrases : List (Phrase ν)) : String :=
  String.join ((phrases.flatMap (·.pieces)).map (·.text))

/-- A phrase for each item, the first after `lead` and the others after `sep`. -/
def listed {α : Type} (phrase : String → α → Phrase ν) (lead sep : String) :
    List α → List (Phrase ν)
  | [] => []
  | a :: rest => phrase lead a :: rest.map (phrase sep)

/-! ### What is told -/

section told

variable [JsNumber ν]

def excludedTold (round : DecisionRound ν) : List (Phrase ν) :=
  if round.excluded.length = 0 then []
  else
    listed (fun lead e => .excluded lead e.replicaId e.reason) " Excluded: " ", " round.excluded ++
      [.stop]

def failureTold (round : DecisionRound ν) : List (Phrase ν) :=
  (round.failureReason.map fun f => Phrase.failed f.kind f.status).toList

/-- The entry of the pick in the ranking. -/
def winnerOf (round : DecisionRound ν) : Option (Ranked ν) :=
  (ranking round).find? fun e => some e.candidate.replicaId = round.pickedReplicaId

/-- The other entries. -/
def othersOf (round : DecisionRound ν) : List (Ranked ν) :=
  (ranking round).filter fun e => (winnerOf round).all fun w => e.index ≠ w.index

def scoreWord (round : DecisionRound ν) : String :=
  if round.strategy = "round-robin" then "rotation position" else "score"

/-- What stands before the other candidates. -/
def restLead (round : DecisionRound ν) : String :=
  if round.strategy = "round-robin" then ", then in rotation: " else " over "

def pickedTold (i : ℕ) (round : DecisionRound ν) : List (Phrase ν) :=
  .picked i round.strategy (round.pickedReplicaId.getD "undefined") (scoreWord round)
      ((winnerOf round).map (·.candidate.score)) ::
    listed (fun lead e => .candidate lead e.candidate.replicaId (scoreWord round) e.candidate.score)
      (restLead round) ", " (othersOf round) ++ [.stop]

/-- What the line of a round says. -/
def roundTold (i : ℕ) (round : DecisionRound ν) : List (Phrase ν) :=
  match round.outcome with
  | .noHealthyReplicas =>
      (if round.excluded.any fun e => e.reason = .drained then .noneAvailable i
        else .noHealthy i) :: excludedTold round
  | .noRoutableReplica =>
      .notPicked i round.strategy round.candidates.length ::
        (excludedTold round ++ failureTold round)
  | .picked => pickedTold i round ++ (excludedTold round ++ failureTold round)

/-- What the first line says. -/
def overviewTold (decision : Decision ν) : List (Phrase ν) :=
  if decision.rounds.length = 0 then [.noRounds]
  else match decision.chosenReplicaId with
    | some id => [.served id decision.rounds.length]
    | none => [.unserved decision.rounds.length]

/-- What an explanation says, line by line. -/
def told (decision : Decision ν) : List (List (Phrase ν)) :=
  overviewTold decision :: decision.rounds.mapIdx roundTold

end told

/-! ### Which phrases a round tells -/

section tells

variable [JsNumber ν] {round : DecisionRound ν} {i : ℕ} {phrase : Phrase ν}

/-- What a phrase about a round takes from it, phrase by phrase. -/
inductive Tells (i : ℕ) (round : DecisionRound ν) : Phrase ν → Prop where
  | noHealthy (ho : round.outcome = .noHealthyReplicas)
      (hdrained : ∀ e ∈ round.excluded, e.reason ≠ .drained) : Tells i round (.noHealthy i)
  | noneAvailable (ho : round.outcome = .noHealthyReplicas) : Tells i round (.noneAvailable i)
  | notPicked (ho : round.outcome = .noRoutableReplica) :
      Tells i round (.notPicked i round.strategy round.candidates.length)
  | picked (ho : round.outcome = .picked) :
      Tells i round (.picked i round.strategy (round.pickedReplicaId.getD "undefined")
        (scoreWord round) ((winnerOf round).map (·.candidate.score)))
  | candidate (ho : round.outcome = .picked) (lead : String) {e : Ranked ν}
      (he : e ∈ othersOf round) : Tells i round
        (.candidate lead e.candidate.replicaId (scoreWord round) e.candidate.score)
  | excluded (lead : String) {e : ExcludedCandidate} (he : e ∈ round.excluded) :
      Tells i round (.excluded lead e.replicaId e.reason)
  | failed {f : FailureReason} (hf : round.failureReason = some f) :
      Tells i round (.failed f.kind f.status)
  | stop : Tells i round .stop

theorem mem_ranking {e : Ranked ν} (he : e ∈ ranking round) :
    round.candidates[e.index]? = some e.candidate := by
  unfold ranking at he
  obtain ⟨k, hk, rfl⟩ := List.mem_mapIdx.mp ((List.mem_insertionSort _).mp he)
  exact List.getElem?_eq_getElem hk

theorem winnerOf_spec {w : Ranked ν} (h : winnerOf round = some w) :
    round.candidates[w.index]? = some w.candidate ∧
      some w.candidate.replicaId = round.pickedReplicaId := by
  have hpicked := List.find?_some h
  exact ⟨mem_ranking (List.mem_of_find?_eq_some h), of_decide_eq_true hpicked⟩

theorem mem_othersOf {e : Ranked ν} (he : e ∈ othersOf round) :
    round.candidates[e.index]? = some e.candidate :=
  mem_ranking (List.mem_of_mem_filter he)

omit [JsNumber ν] in
theorem mem_listed {α : Type} {told : String → α → Phrase ν} {lead sep : String} {items : List α}
    (h : phrase ∈ listed told lead sep items) : ∃ l, ∃ a ∈ items, phrase = told l a := by
  cases items with
  | nil => cases h
  | cons a rest =>
      rcases List.mem_cons.mp h with rfl | h
      · exact ⟨lead, a, List.mem_cons_self, rfl⟩
      · obtain ⟨b, hb, rfl⟩ := List.mem_map.mp h
        exact ⟨sep, b, List.mem_cons_of_mem a hb, rfl⟩

theorem tells_excluded (h : phrase ∈ excludedTold round) : Tells i round phrase := by
  unfold excludedTold at h
  split_ifs at h
  · cases h
  · rcases List.mem_append.mp h with hlisted | hstop
    · obtain ⟨lead, e, he, rfl⟩ := mem_listed hlisted
      exact .excluded lead he
    · obtain rfl := List.mem_singleton.mp hstop
      exact .stop

theorem tells_failure (h : phrase ∈ failureTold round) : Tells i round phrase := by
  unfold failureTold at h
  rw [Option.mem_toList, Option.map_eq_some_iff] at h
  obtain ⟨f, hf, rfl⟩ := h
  exact .failed hf

theorem tells_picked (ho : round.outcome = .picked) (h : phrase ∈ pickedTold i round) :
    Tells i round phrase := by
  unfold pickedTold at h
  rcases List.mem_append.mp h with hlisted | hstop
  · rcases List.mem_cons.mp hlisted with rfl | hlisted
    · exact .picked ho
    · obtain ⟨lead, e, he, rfl⟩ := mem_listed hlisted
      exact .candidate ho lead he
  · obtain rfl := List.mem_singleton.mp hstop
    exact .stop

/-- **The phrases of a round's line.** -/
theorem tells_of_mem (h : phrase ∈ roundTold i round) : Tells i round phrase := by
  unfold roundTold at h
  cases ho : round.outcome with
  | noHealthyReplicas =>
      simp only [ho, List.mem_cons] at h
      rcases h with rfl | h
      · split_ifs with hdrained
        · exact .noneAvailable ho
        · refine .noHealthy ho fun e he hreason => hdrained ?_
          exact List.any_eq_true.mpr ⟨e, he, decide_eq_true hreason⟩
      · exact tells_excluded h
  | noRoutableReplica =>
      simp only [ho, List.mem_cons, List.mem_append] at h
      rcases h with rfl | h | h
      · exact .notPicked ho
      · exact tells_excluded h
      · exact tells_failure h
  | picked =>
      simp only [ho, List.mem_append] at h
      rcases h with h | h | h
      · exact tells_picked ho h
      · exact tells_excluded h
      · exact tells_failure h

theorem round_of_told {j : ℕ} (h : phrase ∈ roundTold i round) (hj : phrase.round = some j) :
    j = i := by
  cases tells_of_mem h with
  | noHealthy _ _ => exact (Option.some.inj hj).symm
  | noneAvailable _ => exact (Option.some.inj hj).symm
  | notPicked _ => exact (Option.some.inj hj).symm
  | picked _ => exact (Option.some.inj hj).symm
  | _ => cases hj

theorem noHealthy_of_told {j : ℕ} (h : .noHealthy j ∈ roundTold i round) :
    round.outcome = .noHealthyReplicas ∧ ∀ e ∈ round.excluded, e.reason ≠ .drained := by
  cases tells_of_mem h with
  | noHealthy ho hdrained => exact ⟨ho, hdrained⟩

theorem noneAvailable_of_told {j : ℕ} (h : .noneAvailable j ∈ roundTold i round) :
    round.outcome = .noHealthyReplicas := by
  cases tells_of_mem h with
  | noneAvailable ho => exact ho

theorem notPicked_of_told {j n : ℕ} {strategy : String}
    (h : .notPicked j strategy n ∈ roundTold i round) : round.outcome = .noRoutableReplica ∧
      strategy = round.strategy ∧ n = round.candidates.length := by
  generalize hp : (Phrase.notPicked j strategy n : Phrase ν) = p at h
  cases tells_of_mem h with
  | notPicked ho =>
      obtain ⟨-, rfl, rfl⟩ := Phrase.notPicked.inj hp
      exact ⟨ho, rfl, rfl⟩
  | _ => cases hp

theorem failed_of_told {kind : ReplicaErrorKind} {status : Option ℕ}
    (h : .failed kind status ∈ roundTold i round) : round.failureReason = some ⟨kind, status⟩ := by
  generalize hp : (Phrase.failed kind status : Phrase ν) = p at h
  cases tells_of_mem h with
  | failed hf =>
      obtain ⟨rfl, rfl⟩ := Phrase.failed.inj hp
      exact hf
  | _ => cases hp

theorem excluded_of_told {lead id : String} {reason : ExclusionReason}
    (h : .excluded lead id reason ∈ roundTold i round) : ⟨id, reason⟩ ∈ round.excluded := by
  generalize hp : (Phrase.excluded lead id reason : Phrase ν) = p at h
  cases tells_of_mem h with
  | excluded _ he =>
      obtain ⟨-, rfl, rfl⟩ := Phrase.excluded.inj hp
      exact he
  | _ => cases hp

theorem picked_of_told {j : ℕ} {strategy id word : String} {score : Option ν}
    (h : .picked j strategy id word score ∈ roundTold i round) :
    round.outcome = .picked ∧ strategy = round.strategy ∧
      id = round.pickedReplicaId.getD "undefined" ∧
      score = (winnerOf round).map (·.candidate.score) := by
  generalize hp : Phrase.picked j strategy id word score = p at h
  cases tells_of_mem h with
  | picked ho =>
      obtain ⟨-, rfl, rfl, -, rfl⟩ := Phrase.picked.inj hp
      exact ⟨ho, rfl, rfl, rfl⟩
  | _ => cases hp

theorem candidate_of_told {lead id word : String} {score : ν}
    (h : .candidate lead id word score ∈ roundTold i round) :
    ∃ e ∈ othersOf round, e.candidate.replicaId = id ∧ e.candidate.score = score := by
  generalize hp : Phrase.candidate lead id word score = p at h
  cases tells_of_mem h with
  | candidate _ _ he =>
      obtain ⟨-, rfl, -, rfl⟩ := Phrase.candidate.inj hp
      exact ⟨_, he, rfl, rfl⟩
  | _ => cases hp

/-! ### Which phrases it cannot leave out -/

omit [JsNumber ν] in
theorem listed_of_mem {α : Type} (told : String → α → Phrase ν) {items : List α} {a : α}
    (ha : a ∈ items) (lead sep : String) : ∃ l, told l a ∈ listed told lead sep items := by
  cases items with
  | nil => cases ha
  | cons b rest =>
      rcases List.mem_cons.mp ha with rfl | hrest
      · exact ⟨lead, List.mem_cons_self⟩
      · exact ⟨sep, List.mem_cons_of_mem _ (List.mem_map_of_mem hrest)⟩

theorem excludedTold_subset (i : ℕ) (round : DecisionRound ν) :
    ∀ p ∈ excludedTold round, p ∈ roundTold i round := by
  intro p hp
  unfold roundTold
  cases round.outcome with
  | noHealthyReplicas => exact List.mem_cons_of_mem _ hp
  | noRoutableReplica => exact List.mem_cons_of_mem _ (List.mem_append_left _ hp)
  | picked => exact List.mem_append_right _ (List.mem_append_left _ hp)

theorem told_of_excluded (i : ℕ) {e : ExcludedCandidate} (he : e ∈ round.excluded) :
    ∃ lead, .excluded lead e.replicaId e.reason ∈ roundTold i round := by
  have hne : ¬ round.excluded.length = 0 :=
    fun h => List.ne_nil_of_mem he (List.length_eq_zero_iff.mp h)
  obtain ⟨lead, hmem⟩ := listed_of_mem
    (fun lead (e : ExcludedCandidate) => (.excluded lead e.replicaId e.reason : Phrase ν)) he
    " Excluded: " ", "
  refine ⟨lead, excludedTold_subset i round _ ?_⟩
  unfold excludedTold
  rw [if_neg hne]
  exact List.mem_append_left _ hmem

theorem pickedTold_subset (ho : round.outcome = .picked) :
    ∀ p ∈ pickedTold i round, p ∈ roundTold i round := by
  intro p hp
  unfold roundTold
  rw [ho]
  exact List.mem_append_left _ hp

theorem told_of_picked (ho : round.outcome = .picked) (i : ℕ) :
    .picked i round.strategy (round.pickedReplicaId.getD "undefined") (scoreWord round)
      ((winnerOf round).map (·.candidate.score)) ∈ roundTold i round := by
  refine pickedTold_subset ho _ ?_
  unfold pickedTold
  exact List.mem_append_left _ List.mem_cons_self

theorem told_of_other (ho : round.outcome = .picked) (i : ℕ) {e : Ranked ν}
    (he : e ∈ othersOf round) : ∃ lead,
      .candidate lead e.candidate.replicaId (scoreWord round) e.candidate.score ∈
        roundTold i round := by
  obtain ⟨lead, hmem⟩ := listed_of_mem
    (fun lead (e : Ranked ν) =>
      Phrase.candidate lead e.candidate.replicaId (scoreWord round) e.candidate.score) he
    (restLead round) ", "
  refine ⟨lead, pickedTold_subset ho _ ?_⟩
  unfold pickedTold
  exact List.mem_append_left _ (List.mem_cons_of_mem _ hmem)

theorem mem_ranking_of_getElem? {j : ℕ} {c : CandidateScore ν}
    (hc : round.candidates[j]? = some c) : (⟨c, j⟩ : Ranked ν) ∈ ranking round := by
  obtain ⟨hj, rfl⟩ := List.getElem?_eq_some_iff.mp hc
  unfold ranking
  rw [List.mem_insertionSort, List.mem_mapIdx]
  exact ⟨j, hj, rfl⟩

end tells

/-! ### The lines are the phrases, written out -/

section written

variable [JsNumber ν]

theorem written_cons (phrase : Phrase ν) (rest : List (Phrase ν)) :
    written (phrase :: rest) = written [phrase] ++ written rest := by
  simp [written]

theorem written_append (l l' : List (Phrase ν)) : written (l ++ l') = written l ++ written l' := by
  simp [written]

theorem written_stop : written [(.stop : Phrase ν)] = "." := by
  simp [written, Phrase.pieces, Piece.text]

/-- A list of phrases with a separator reads as the joined list of what they say. -/
theorem written_listed {α : Type} {phrase : String → α → Phrase ν} {body : α → String}
    (h : ∀ lead a, written [phrase lead a] = lead ++ body a) (lead sep : String) {items : List α}
    (hne : items ≠ []) :
    written (listed phrase lead sep items) = lead ++ sep.intercalate (items.map body) := by
  have hcons : ∀ (rest : List α) (lead : String) (a : α),
      written (phrase lead a :: rest.map (phrase sep)) =
        lead ++ sep.intercalate ((a :: rest).map body) := by
    intro rest
    induction rest with
    | nil =>
        intro lead a
        simp [h]
    | cons b rest ih =>
        intro lead a
        rw [List.map_cons, written_cons, h, ih sep b]
        simp only [List.map_cons, String.intercalate_cons_cons, String.append_assoc]
  cases items with
  | nil => exact absurd rfl hne
  | cons a rest => exact hcons rest lead a

theorem excluded_text (round : DecisionRound ν) (base : String) :
    (excludedPart round base).text = written (excludedTold round) := by
  unfold excludedPart excludedTold
  split_ifs with hnil
  · rfl
  · have hbody : ∀ (lead : String) (e : ExcludedCandidate),
        written [(.excluded lead e.replicaId e.reason : Phrase ν)] = lead ++ (e.replicaId ++ " (" ++
          (if e.reason = .drained then "drained by operator" else e.reason.text) ++ ")") := by
      intro lead e
      simp [written, Phrase.pieces, Piece.text, String.append_assoc]
    have hne : round.excluded ≠ [] := fun h => hnil (by rw [h]; rfl)
    rw [written_append, written_listed hbody _ _ hne, written_stop]

theorem failure_text (round : DecisionRound ν) (base : String) :
    (failurePart round base).text = written (failureTold round) := by
  unfold failurePart failureTold
  cases round.failureReason with
  | none => rfl
  | some f =>
      cases hstatus : f.status <;>
        simp [written, Phrase.pieces, Piece.text, hstatus, String.append_assoc]

def wonPart (round : DecisionRound ν) (base : String) : ExplanationLine :=
  match winnerOf round with
  | none => ⟨"", []⟩
  | some w => ⟨" (" ++ (scoreDetail base (scoreWord round) w).text ++ ")",
      (scoreDetail base (scoreWord round) w).cites⟩

def restParts (round : DecisionRound ν) (base : String) : List ExplanationLine :=
  (othersOf round).map (describeRanked base (scoreWord round))

theorem pickedPart_eq (round : DecisionRound ν) (base label : String) :
    pickedPart round base label =
      ⟨label ++ " (" ++ round.strategy ++ "): picked " ++ round.pickedReplicaId.getD "undefined" ++
          (wonPart round base).text ++ (if (othersOf round).length = 0 then "" else
            restLead round ++ ", ".intercalate ((restParts round base).map (·.text))) ++ ".",
        (wonPart round base).cites ++ ((restParts round base).map (·.cites)).flatten⟩ := rfl

theorem picked_text (i : ℕ) (round : DecisionRound ν) (base : String) :
    (pickedPart round base ("Round " ++ toString (i + 1))).text = written (pickedTold i round) := by
  have hbody : ∀ (lead : String) (e : Ranked ν),
      written [(.candidate lead e.candidate.replicaId (scoreWord round) e.candidate.score :
        Phrase ν)] = lead ++ (describeRanked base (scoreWord round) e).text := by
    intro lead e
    simp [written, Phrase.pieces, Phrase.scored, Piece.text, describeRanked, scoreDetail,
      String.append_assoc]
  have hrest : written (listed
      (fun lead e => .candidate lead e.candidate.replicaId (scoreWord round) e.candidate.score)
      (restLead round) ", " (othersOf round)) =
        if (othersOf round).length = 0 then "" else
          restLead round ++ ", ".intercalate ((restParts round base).map (·.text)) := by
    split_ifs with hnil
    · rw [List.length_eq_zero_iff.mp hnil]
      rfl
    · rw [written_listed hbody _ _ (fun h => hnil (by rw [h]; rfl)), restParts, List.map_map]
      rfl
  have hown : written [(.picked i round.strategy (round.pickedReplicaId.getD "undefined")
      (scoreWord round) ((winnerOf round).map (·.candidate.score)) : Phrase ν)] =
        "Round " ++ toString (i + 1) ++ " (" ++ round.strategy ++ "): picked " ++
          round.pickedReplicaId.getD "undefined" ++ (wonPart round base).text := by
    unfold wonPart
    cases winnerOf round <;>
      simp [written, Phrase.pieces, Phrase.scored, Piece.text, scoreDetail, String.append_assoc]
  rw [pickedTold, List.cons_append, written_cons, hown, written_append, hrest, written_stop,
    pickedPart_eq]
  simp only [String.append_assoc]

theorem round_text (i : ℕ) (round : DecisionRound ν) :
    (roundLine i round).text = written (roundTold i round) := by
  unfold roundLine roundTold
  cases round.outcome with
  | noHealthyReplicas =>
      simp only [excluded_text]
      rw [written_cons]
      split_ifs <;> simp [written, Phrase.pieces, Piece.text]
  | noRoutableReplica =>
      simp only [excluded_text, failure_text]
      rw [written_cons, written_append]
      simp [written, Phrase.pieces, Phrase.counted, Piece.text, plural, String.append_assoc]
  | picked =>
      simp only [picked_text, excluded_text, failure_text]
      rw [written_append, written_append, String.append_assoc]

theorem overview_text (decision : Decision ν) :
    (overview decision).text = written (overviewTold decision) := by
  unfold overview overviewTold
  simp only
  split_ifs
  · rfl
  · cases decision.chosenReplicaId <;>
      simp [written, Phrase.pieces, Phrase.counted, Piece.text, plural, String.append_assoc]

/-- **An explanation is what it tells**, written out line by line. -/
theorem explainDecision_text (decision : Decision ν) :
    (explainDecision decision).lines.map (·.text) = (told decision).map written := by
  have hround : ∀ i, written ∘ roundTold i = (·.text) ∘ roundLine (ν := ν) i :=
    fun i => funext fun round => (round_text i round).symm
  unfold explainDecision told
  rw [List.map_cons, List.map_cons, overview_text]
  congr 1
  apply List.ext_getElem?
  intro i
  rw [List.getElem?_map, List.getElem?_mapIdx, List.getElem?_map, List.getElem?_mapIdx,
    Option.map_map, Option.map_map, hround]

end written

end WhyRouted
