import Mathlib.Algebra.Order.Ring.Nat
import WhyRouted.Cites
import WhyRouted.Phrases

/-! # Every explanation is cited

Each piece of a line that is no word of the explanation is the value, or the length of the array, at
one of the line's own cites, and every cite resolves.  The parts of a line are backed one by one
(`Backs`), and parts that are backed make a line that is.

The proof uses of the ranking only that its entries are candidates under their indices
(`mem_ranking`), so it does not depend on how the scores compare. -/

namespace WhyRouted

variable {ν : Type} {inherited : Value ν → String → Value ν} {decision : Decision ν}
  {round : DecisionRound ν} {i : ℕ}

/-! ### Backed parts -/

/-- What a piece prints is among some values: itself, or the array it counts. -/
def Piece.Backed (values : List (Value ν)) : Piece ν → Prop
  | .words _ => True
  | .label _ => True
  | .replicaId id => .string id ∈ values
  | .strategy name => .string name ∈ values
  | .score x => .number x ∈ values
  | .reason r => .string r.text ∈ values
  | .kind k => .string k.text ∈ values
  | .status code => .counter code ∈ values
  | .count n => ∃ items, .array items ∈ values ∧ items.length = n

/-- The values at some cites. -/
def valuesAt (inherited : Value ν → String → Value ν) (decision : Decision ν)
    (cites : List String) : List (Value ν) :=
  cites.map (resolveCite inherited decision)

/-- Some cites back some phrases: each cite resolves, and each piece is at one of them. -/
structure Backs (inherited : Value ν → String → Value ν) (decision : Decision ν)
    (cites : List String) (phrases : List (Phrase ν)) : Prop where
  defined : .undefined ∉ valuesAt inherited decision cites
  backed : ∀ phrase ∈ phrases, ∀ piece ∈ phrase.pieces,
    piece.Backed (valuesAt inherited decision cites)

theorem Piece.Backed.mono {values values' : List (Value ν)} {piece : Piece ν}
    (h : piece.Backed values) (hsub : ∀ v ∈ values, v ∈ values') : piece.Backed values' := by
  cases piece with
  | words _ => trivial
  | label _ => trivial
  | replicaId _ => exact hsub _ h
  | strategy _ => exact hsub _ h
  | score _ => exact hsub _ h
  | reason _ => exact hsub _ h
  | kind _ => exact hsub _ h
  | status _ => exact hsub _ h
  | count _ =>
      obtain ⟨items, hitems, hlength⟩ := h
      exact ⟨items, hsub _ hitems, hlength⟩

theorem Backs.append {cites cites' : List String} {phrases phrases' : List (Phrase ν)}
    (h : Backs inherited decision cites phrases) (h' : Backs inherited decision cites' phrases') :
    Backs inherited decision (cites ++ cites') (phrases ++ phrases') := by
  have hvalues : valuesAt inherited decision (cites ++ cites') =
      valuesAt inherited decision cites ++ valuesAt inherited decision cites' := List.map_append
  constructor
  · rw [hvalues, List.mem_append, not_or]
    exact ⟨h.defined, h'.defined⟩
  · intro phrase hphrase piece hpiece
    rw [hvalues]
    rcases List.mem_append.mp hphrase with hleft | hright
    · exact (h.backed phrase hleft piece hpiece).mono fun v hv => List.mem_append_left _ hv
    · exact (h'.backed phrase hright piece hpiece).mono fun v hv => List.mem_append_right _ hv

theorem Backs.of_values {cites : List String} {phrases : List (Phrase ν)} (values : List (Value ν))
    (hvalues : valuesAt inherited decision cites = values) (hdefined : .undefined ∉ values)
    (hbacked : ∀ phrase ∈ phrases, ∀ piece ∈ phrase.pieces, piece.Backed values) :
    Backs inherited decision cites phrases := by
  subst hvalues
  exact ⟨hdefined, hbacked⟩

theorem Backs.nil : Backs inherited decision [] [] := ⟨by simp [valuesAt], by simp⟩

theorem Backs.stop : Backs inherited decision [] [(.stop : Phrase ν)] :=
  ⟨by simp [valuesAt], by simp [Phrase.pieces, Piece.Backed]⟩

theorem Backs.listed {α : Type} {phrase : String → α → Phrase ν} {cites : ℕ → α → List String}
    {items : List α} (h : ∀ k a, items[k]? = some a → ∀ lead,
      Backs inherited decision (cites k a) [phrase lead a]) (lead sep : String) :
    Backs inherited decision (items.mapIdx cites).flatten (listed phrase lead sep items) := by
  have hmap : ∀ (rest : List α) (cites : ℕ → α → List String),
      (∀ k a, rest[k]? = some a → Backs inherited decision (cites k a) [phrase sep a]) →
      Backs inherited decision (rest.mapIdx cites).flatten (rest.map (phrase sep)) := by
    intro rest
    induction rest with
    | nil => exact fun _ _ => .nil
    | cons a rest ih =>
        intro cites hrest
        rw [List.mapIdx_cons, List.flatten_cons, List.map_cons]
        exact (hrest 0 a rfl).append (ih _ fun k b hb => hrest (k + 1) b hb)
  cases items with
  | nil => exact .nil
  | cons a rest =>
      rw [List.mapIdx_cons, List.flatten_cons]
      exact (h 0 a rfl lead).append (hmap rest _ fun k b hb => h (k + 1) b hb sep)

/-! ### Parts without a ranking -/

theorem backs_excluded (hi : decision.rounds[i]? = some round) :
    Backs inherited decision (excludedPart round (roundPath i)).cites (excludedTold round) := by
  unfold excludedPart excludedTold
  split_ifs with hnil
  · exact .nil
  · have hitem : ∀ k e, round.excluded[k]? = some e → ∀ lead,
        Backs inherited decision [citeAt (roundPath i) "excluded" k "replicaId",
          citeAt (roundPath i) "excluded" k "reason"] [.excluded lead e.replicaId e.reason] := by
      intro k e hk lead
      have hname : IsName "excluded" := by decide
      have hexcluded : round.value.property inherited "excluded" =
          .array (round.excluded.map (·.value)) := rfl
      have hvalue : (round.excluded.map (·.value))[k]? = some (e.value : Value ν) := by
        simp [hk]
      have hid : resolveCite inherited decision (citeAt (roundPath i) "excluded" k "replicaId") =
          .string e.replicaId := resolve_item hi hname (by decide) hexcluded hvalue rfl
      have hreason : resolveCite inherited decision (citeAt (roundPath i) "excluded" k "reason") =
          .string e.reason.text := resolve_item hi hname (by decide) hexcluded hvalue rfl
      refine .of_values [.string e.replicaId, .string e.reason.text] ?_ ?_ ?_
      · simp [valuesAt, hid, hreason]
      · simp
      · simp [Phrase.pieces, Piece.Backed]
    have hall := (Backs.listed hitem " Excluded: " ", ").append .stop
    rwa [List.append_nil] at hall

theorem backs_failure (hi : decision.rounds[i]? = some round) :
    Backs inherited decision (failurePart round (roundPath i)).cites (failureTold round) := by
  unfold failurePart failureTold
  cases hf : round.failureReason with
  | none => exact .nil
  | some f =>
      have hkind : resolveCite inherited decision (roundPath i ++ ".failureReason.kind") =
          .string f.kind.text := by
        have hpath : ".failureReason.kind" = "." ++ ("failureReason" ++ "." ++ "kind") := rfl
        rw [hpath, resolve_failure hi hf (by decide)]
        rfl
      have hstatus : ∀ code, f.status = some code →
          resolveCite inherited decision (roundPath i ++ ".failureReason.status") =
            .counter code := by
        intro code hcode
        have hpath : ".failureReason.status" = "." ++ ("failureReason" ++ "." ++ "status") := rfl
        rw [hpath, resolve_failure hi hf (by decide), FailureReason.value, hcode]
        rfl
      cases hcode : f.status with
      | none =>
          refine .of_values [.string f.kind.text] ?_ ?_ ?_
          · simp [valuesAt, hkind, hcode]
          · simp
          · simp [Phrase.pieces, Piece.Backed, hcode]
      | some code =>
          refine .of_values [.string f.kind.text, .counter code] ?_ ?_ ?_
          · simp [valuesAt, hkind, hcode, hstatus code hcode]
          · simp
          · simp [Phrase.pieces, Piece.Backed, hcode]

theorem resolve_own (inherited : Value ν → String → Value ν)
    (hi : decision.rounds[i]? = some round) :
    resolveCite inherited decision (roundPath i ++ ".strategy") = .string round.strategy ∧
    resolveCite inherited decision (roundPath i ++ ".outcome") = .string round.outcome.text ∧
    resolveCite inherited decision (roundPath i ++ ".candidates") =
      .array (round.candidates.map (·.value)) ∧
    ∀ id, round.pickedReplicaId = some id →
      resolveCite inherited decision (roundPath i ++ ".pickedReplicaId") = .string id := by
  have hstrategy : ".strategy" = "." ++ "strategy" := rfl
  have houtcome : ".outcome" = "." ++ "outcome" := rfl
  have hcandidates : ".candidates" = "." ++ "candidates" := rfl
  have hpicked : ".pickedReplicaId" = "." ++ "pickedReplicaId" := rfl
  rw [hstrategy, houtcome, hcandidates, hpicked, resolve_roundField hi (by decide),
    resolve_roundField hi (by decide), resolve_roundField hi (by decide),
    resolve_roundField hi (by decide)]
  refine ⟨rfl, rfl, rfl, ?_⟩
  intro id hid
  unfold DecisionRound.value
  rw [hid]
  rfl

theorem resolve_candidate (inherited : Value ν → String → Value ν)
    (hi : decision.rounds[i]? = some round) {j : ℕ} {c : CandidateScore ν}
    (hj : round.candidates[j]? = some c) :
    resolveCite inherited decision (citeAt (roundPath i) "candidates" j "replicaId") =
        .string c.replicaId ∧
      resolveCite inherited decision (citeAt (roundPath i) "candidates" j "score") =
        .number c.score := by
  have hcandidates : round.value.property inherited "candidates" =
      .array (round.candidates.map (·.value)) := rfl
  have hvalue : (round.candidates.map (·.value))[j]? = some c.value := by simp [hj]
  have hname : IsName "candidates" := by decide
  exact ⟨resolve_item hi hname (by decide) hcandidates hvalue rfl,
    resolve_item hi hname (by decide) hcandidates hvalue rfl⟩

theorem backs_overview (decision : Decision ν) :
    Backs inherited decision (overview decision).cites (overviewTold decision) := by
  have hrounds : resolveCite inherited decision "rounds" =
      .array (decision.rounds.map (·.value)) := resolve_field (by decide)
  have hchosen : resolveCite inherited decision "chosenReplicaId" =
      decision.chosenReplicaId.elim .null .string := resolve_field (by decide)
  unfold overview overviewTold
  simp only
  split_ifs
  · refine .of_values [.array (decision.rounds.map (·.value))] ?_ ?_ ?_
    · simp [valuesAt, hrounds]
    · simp
    · simp [Phrase.pieces, Piece.Backed]
  · cases hc : decision.chosenReplicaId with
    | none =>
        rw [hc] at hchosen
        refine .of_values [.null, .array (decision.rounds.map (·.value))] ?_ ?_ ?_
        · simp [valuesAt, hrounds, hchosen]
        · simp
        · simp [Phrase.pieces, Phrase.counted, Piece.Backed]
    | some id =>
        rw [hc] at hchosen
        refine .of_values [.string id, .array (decision.rounds.map (·.value))] ?_ ?_ ?_
        · simp [valuesAt, hrounds, hchosen]
        · simp
        · simp [Phrase.pieces, Phrase.counted, Piece.Backed]

theorem cites_overview_ne_nil (decision : Decision ν) : (overview decision).cites ≠ [] := by
  unfold overview
  simp only
  split_ifs
  · simp
  · cases decision.chosenReplicaId <;> simp

/-! ### The candidates -/

variable [JsNumber ν]

theorem backs_rest (hi : decision.rounds[i]? = some round) (lead : String) :
    Backs inherited decision ((restParts round (roundPath i)).map (·.cites)).flatten
      (listed (fun lead e => .candidate lead e.candidate.replicaId (scoreWord round)
        e.candidate.score) lead ", " (othersOf round)) := by
  have hitem : ∀ (k : ℕ) (e : Ranked ν), (othersOf round)[k]? = some e → ∀ lead,
      Backs inherited decision (describeRanked (roundPath i) (scoreWord round) e).cites
        [.candidate lead e.candidate.replicaId (scoreWord round) e.candidate.score] := by
    intro k e hk lead
    obtain ⟨hid, hscore⟩ := resolve_candidate inherited hi
      (mem_othersOf (List.mem_of_getElem? hk))
    refine .of_values [.string e.candidate.replicaId, .number e.candidate.score] ?_ ?_ ?_
    · simp [valuesAt, describeRanked, scoreDetail, hid, hscore]
    · simp
    · simp [Phrase.pieces, Phrase.scored, Piece.Backed]
  have hcites : (othersOf round).mapIdx
      (fun _ e => (describeRanked (roundPath i) (scoreWord round) e).cites) =
        (restParts round (roundPath i)).map (·.cites) := by
    apply List.ext_getElem?
    intro k
    simp [restParts]
    rfl
  rw [← hcites]
  exact Backs.listed hitem lead ", "

theorem backs_picked (hi : decision.rounds[i]? = some round)
    (hpicked : round.pickedReplicaId ≠ none) :
    Backs inherited decision ([roundPath i ++ ".strategy", roundPath i ++ ".outcome",
        roundPath i ++ ".pickedReplicaId"] ++ (pickedPart round (roundPath i) "").cites)
      (pickedTold i round) := by
  obtain ⟨hstrategy, houtcome, -, hown⟩ := resolve_own inherited hi
  obtain ⟨id, hid⟩ := Option.ne_none_iff_exists'.mp hpicked
  have hfirst : Backs inherited decision ([roundPath i ++ ".strategy", roundPath i ++ ".outcome",
        roundPath i ++ ".pickedReplicaId"] ++ (wonPart round (roundPath i)).cites)
      [.picked i round.strategy (round.pickedReplicaId.getD "undefined") (scoreWord round)
        ((winnerOf round).map (·.candidate.score))] := by
    unfold wonPart
    cases hw : winnerOf round with
    | none =>
        refine .of_values [.string round.strategy, .string round.outcome.text, .string id] ?_ ?_ ?_
        · simp [valuesAt, hstrategy, houtcome, hown id hid]
        · simp
        · simp [Phrase.pieces, Piece.Backed, hid]
    | some w =>
        obtain ⟨-, hscore⟩ := resolve_candidate inherited hi (winnerOf_spec hw).1
        refine .of_values [.string round.strategy, .string round.outcome.text, .string id,
          .number w.candidate.score] ?_ ?_ ?_
        · simp [valuesAt, scoreDetail, hstrategy, houtcome, hown id hid, hscore]
        · simp
        · simp [Phrase.pieces, Phrase.scored, Piece.Backed, hid]
  have hall := (hfirst.append (backs_rest hi (restLead round))).append .stop
  rw [List.append_nil, List.append_assoc] at hall
  rw [pickedPart_eq]
  exact hall

/-! ### The lines -/

theorem cites_noHealthy (ho : round.outcome = .noHealthyReplicas) : (roundLine i round).cites =
    [roundPath i ++ ".outcome"] ++ (excludedPart round (roundPath i)).cites := by
  unfold roundLine
  rw [ho]
  rfl

theorem cites_noRoutable (ho : round.outcome = .noRoutableReplica) : (roundLine i round).cites =
    [roundPath i ++ ".strategy", roundPath i ++ ".outcome", roundPath i ++ ".candidates"] ++
      ((excludedPart round (roundPath i)).cites ++ (failurePart round (roundPath i)).cites) := by
  unfold roundLine
  rw [ho]
  exact List.append_assoc _ _ _

theorem cites_picked (ho : round.outcome = .picked) : (roundLine i round).cites =
    ([roundPath i ++ ".strategy", roundPath i ++ ".outcome", roundPath i ++ ".pickedReplicaId"] ++
        (pickedPart round (roundPath i) "").cites) ++
      ((excludedPart round (roundPath i)).cites ++ (failurePart round (roundPath i)).cites) := by
  unfold roundLine
  rw [ho]
  exact List.append_assoc _ _ _

theorem backs_round (hi : decision.rounds[i]? = some round)
    (hpicked : round.outcome = .picked → round.pickedReplicaId ≠ none) :
    Backs inherited decision (roundLine i round).cites (roundTold i round) := by
  obtain ⟨hstrategy, houtcome, hcandidates, -⟩ := resolve_own inherited hi
  unfold roundTold
  cases ho : round.outcome with
  | noHealthyReplicas =>
      have hsaid : Backs inherited decision [roundPath i ++ ".outcome"]
          [if round.excluded.any fun e => e.reason = .drained then .noneAvailable i
            else .noHealthy i] := by
        refine .of_values [.string round.outcome.text] ?_ ?_ ?_
        · simp [valuesAt, houtcome]
        · simp
        · split_ifs <;> simp [Phrase.pieces, Piece.Backed]
      rw [cites_noHealthy ho]
      exact hsaid.append (backs_excluded hi)
  | noRoutableReplica =>
      have hsaid : Backs inherited decision
          [roundPath i ++ ".strategy", roundPath i ++ ".outcome", roundPath i ++ ".candidates"]
          [.notPicked i round.strategy round.candidates.length] := by
        refine .of_values [.string round.strategy, .string round.outcome.text,
          .array (round.candidates.map (·.value))] ?_ ?_ ?_
        · simp [valuesAt, hstrategy, houtcome, hcandidates]
        · simp
        · simp [Phrase.pieces, Phrase.counted, Piece.Backed]
      rw [cites_noRoutable ho]
      exact hsaid.append ((backs_excluded hi).append (backs_failure hi))
  | picked =>
      rw [cites_picked ho]
      exact (backs_picked hi (hpicked ho)).append ((backs_excluded hi).append (backs_failure hi))

theorem cites_round_ne_nil (i : ℕ) (round : DecisionRound ν) : (roundLine i round).cites ≠ [] := by
  unfold roundLine
  cases round.outcome <;> simp

/-- A line that tells some phrases and cites them. -/
structure Cited (inherited : Value ν → String → Value ν) (decision : Decision ν)
    (line : ExplanationLine) (phrases : List (Phrase ν)) : Prop where
  text : line.text = written phrases
  nonempty : line.cites ≠ []
  backs : Backs inherited decision line.cites phrases

/-! ### Scores -/

theorem score_cited {phrase : Phrase ν} (hphrase : phrase ∈ roundTold i round) {id : String} {x : ν}
    (hscores : phrase.scores = some (id, x)) :
    ∃ j c, round.candidates[j]? = some c ∧ c.replicaId = id ∧ c.score = x ∧
      citeAt (roundPath i) "candidates" j "score" ∈ (roundLine i round).cites := by
  cases tells_of_mem hphrase with
  | noHealthy _ _ => cases hscores
  | noneAvailable _ => cases hscores
  | notPicked _ => cases hscores
  | excluded _ _ => cases hscores
  | failed _ => cases hscores
  | stop => cases hscores
  | picked ho =>
      cases hw : winnerOf round with
      | none =>
          rw [hw] at hscores
          cases hscores
      | some w =>
          obtain ⟨hj, hid⟩ := winnerOf_spec hw
          rw [hw, ← hid] at hscores
          obtain ⟨rfl, rfl⟩ := Prod.mk.inj (Option.some.inj hscores)
          refine ⟨w.index, w.candidate, hj, rfl, rfl, ?_⟩
          rw [cites_picked ho, pickedPart_eq]
          simp [wonPart, hw, scoreDetail]
  | @candidate ho _ e he =>
      obtain ⟨rfl, rfl⟩ := Prod.mk.inj (Option.some.inj hscores)
      have hcite : citeAt (roundPath i) "candidates" e.index "score" ∈
          ((restParts round (roundPath i)).map (·.cites)).flatten := by
        refine List.mem_flatten_of_mem (List.mem_map_of_mem (List.mem_map_of_mem he)) ?_
        simp [describeRanked, scoreDetail]
      refine ⟨e.index, e.candidate, mem_othersOf he, rfl, rfl, ?_⟩
      rw [cites_picked ho, pickedPart_eq]
      exact List.mem_append_left _ (List.mem_append_right _ (List.mem_append_right _ hcite))

/-! ### The explanation -/

/-- **Every explanation is cited.**  One line for the decision, one for each of its rounds in order;
each line has a cite, each cite resolves, each piece of a line is at one of its cites, and a score
is that of the candidate it is printed beside. -/
theorem explanation_cited (inherited : Value ν → String → Value ν) (decision : Decision ν)
    (hpicked : ∀ round ∈ decision.rounds, round.outcome = .picked → round.pickedReplicaId ≠ none) :
    (explainDecision decision).lines[0]? = some (overview decision) ∧
    (∀ i, (explainDecision decision).lines[i + 1]? = (decision.rounds[i]?).map (roundLine i)) ∧
    List.Forall₂ (Cited inherited decision) (explainDecision decision).lines (told decision) ∧
    ∀ i round, decision.rounds[i]? = some round → ∀ phrase ∈ roundTold i round, ∀ id x,
      phrase.scores = some (id, x) →
        ∃ j c, round.candidates[j]? = some c ∧ c.replicaId = id ∧ c.score = x ∧
          citeAt (roundPath i) "candidates" j "score" ∈ (roundLine i round).cites ∧
          resolveCite inherited decision (citeAt (roundPath i) "candidates" j "score") =
            .number x := by
  refine ⟨rfl, fun i => by simp [explainDecision], .cons ?_ ?_, ?_⟩
  · exact ⟨overview_text decision, cites_overview_ne_nil decision, backs_overview decision⟩
  · rw [List.forall₂_iff_get]
    refine ⟨by simp, fun k hk _ => ?_⟩
    have hk' : k < decision.rounds.length := by simpa using hk
    simp only [List.get_eq_getElem, List.getElem_mapIdx]
    exact ⟨round_text k _, cites_round_ne_nil k _, backs_round (List.getElem?_eq_getElem hk')
      (hpicked _ (List.getElem_mem hk'))⟩
  · intro i round hi phrase hphrase id x hscores
    obtain ⟨j, c, hj, hid, hx, hcite⟩ := score_cited hphrase hscores
    obtain ⟨-, hvalue⟩ := resolve_candidate inherited hi hj
    exact ⟨j, c, hj, hid, hx, hcite, hx ▸ hvalue⟩

/-! ### A retried request -/

/-- A request whose first replica answered 500 and whose second served it. -/
def retriedDecision : Decision ℕ where
  id := "decision-1"
  requestId := "request-1"
  atTime := "2025-10-11T12:00:00.000Z"
  rounds := [
    { candidates := [⟨"replica-2", 3, none, 3, true⟩, ⟨"replica-1", 0, none, 0, true⟩]
      excluded := []
      strategy := "least-loaded"
      outcome := .picked
      pickedReplicaId := some "replica-1"
      failureReason := some ⟨.httpStatus, some 500⟩ },
    { candidates := [⟨"replica-2", 3, none, 3, true⟩]
      excluded := [⟨"replica-1", .alreadyTried⟩]
      strategy := "least-loaded"
      outcome := .picked
      pickedReplicaId := some "replica-2" }]
  chosenReplicaId := some "replica-2"
  latencyMs := some 12

theorem explanation_cited_retried :
    List.Forall₂ (Cited (fun _ _ => .undefined) retriedDecision)
      (explainDecision retriedDecision).lines (told retriedDecision) :=
  (explanation_cited (fun _ _ => .undefined) retriedDecision (by simp [retriedDecision])).2.2.1

end WhyRouted
