import Mathlib.Data.List.Sort
import WhyRouted.HandleRoute

/-! # The explanation of one decision

`explainDecision` of `src/mcp/tools/explain-routing-decision.ts`: one overview line and one
line for each round, each with the paths into the record its text was taken from.  A picked
round ranks its candidates by score, and the cites keep the index a candidate has in the
record; the source pushes them while it writes the sentence, so a part of a line is a text
together with its cites, in the order they are pushed. -/

namespace WhyRouted

open JsNumber

variable {ν : Type} [JsNumber ν]

/-- A sentence and the paths that back it. -/
structure ExplanationLine where
  text : String
  cites : List String
deriving DecidableEq, Repr

structure ExplainRoutingDecisionData (ν : Type) where
  decision : Decision ν
  lines : List ExplanationLine

/-- `1 round`, `2 rounds`. -/
def plural (n : ℕ) (word : String) : String :=
  toString n ++ " " ++ word ++ if n = 1 then "" else "s"

/-- The name of a recorded reason. -/
def ExclusionReason.text : ExclusionReason → String
  | unhealthy => "unhealthy"
  | alreadyTried => "already_tried"
  | drained => "drained"

/-- The first line. -/
def overview (decision : Decision ν) : ExplanationLine :=
  let n := decision.rounds.length
  if n = 0 then ⟨"The record contains no rounds.", ["rounds"]⟩
  else match decision.chosenReplicaId with
    | some replicaId =>
        ⟨"Served by " ++ replicaId ++ " after " ++ plural n "round" ++ ".",
          ["chosenReplicaId", "rounds"]⟩
    | none =>
        ⟨"No replica returned a usable response, after " ++ plural n "round" ++ ".",
          ["chosenReplicaId", "rounds"]⟩

/-- The path of an element of an array of the record. -/
def citeAt (base field : String) (index : ℕ) (leaf : String) : String :=
  base ++ "." ++ field ++ "[" ++ toString index ++ "]." ++ leaf

/-! ### The parts of a round's line -/

/-- The sentence about the replicas a round excluded. -/
def excludedPart (round : DecisionRound ν) (base : String) : ExplanationLine :=
  if round.excluded.length = 0 then ⟨"", []⟩
  else
    let items := round.excluded.map fun e =>
      e.replicaId ++ " (" ++
        (if e.reason = .drained then "drained by operator" else e.reason.text) ++ ")"
    let cites := round.excluded.mapIdx fun k _ =>
      [citeAt base "excluded" k "replicaId", citeAt base "excluded" k "reason"]
    ⟨" Excluded: " ++ ", ".intercalate items ++ ".", cites.flatten⟩

/-- A candidate and its index in the record. -/
structure Ranked (ν : Type) where
  candidate : CandidateScore ν
  index : ℕ

/-- `a.c.score - b.c.score || a.j - b.j`, not positive. -/
def Ranked.before (a b : Ranked ν) : Prop :=
  lt a.candidate.score b.candidate.score = true ∨
    (lt b.candidate.score a.candidate.score = false ∧ a.index ≤ b.index)

instance : DecidableRel (Ranked.before (ν := ν)) := fun _ _ => inferInstanceAs (Decidable (_ ∨ _))

/-- The candidates by score, the earlier one first among equals.  With a `NaN` among the scores the
comparison is none, and the order of `sort` is the runtime's own. -/
def ranking (round : DecisionRound ν) : List (Ranked ν) :=
  (round.candidates.mapIdx fun index candidate => ⟨candidate, index⟩).insertionSort Ranked.before

/-- The score of a ranked candidate, in the word for its strategy. -/
def scoreDetail (base scoreWord : String) (e : Ranked ν) : ExplanationLine :=
  ⟨scoreWord ++ " " ++ text e.candidate.score, [citeAt base "candidates" e.index "score"]⟩

/-- A ranked candidate with its score. -/
def describeRanked (base scoreWord : String) (e : Ranked ν) : ExplanationLine :=
  let detail := scoreDetail base scoreWord e
  ⟨e.candidate.replicaId ++ " (" ++ detail.text ++ ")",
    citeAt base "candidates" e.index "replicaId" :: detail.cites⟩

/-- The sentence of a picked round, up to its full stop. -/
def pickedPart (round : DecisionRound ν) (base label : String) : ExplanationLine :=
  let ranked := ranking round
  let rotation := round.strategy = "round-robin"
  let scoreWord := if rotation then "rotation position" else "score"
  let winner := ranked.find? fun e => some e.candidate.replicaId = round.pickedReplicaId
  -- `r !== winner` compares entries, and an entry is told by its index
  let others := ranked.filter fun e => winner.all fun w => e.index ≠ w.index
  let won := match winner with
    | none => (⟨"", []⟩ : ExplanationLine)
    | some w => ⟨" (" ++ (scoreDetail base scoreWord w).text ++ ")",
        (scoreDetail base scoreWord w).cites⟩
  let rest := others.map (describeRanked base scoreWord)
  let listed := if others.length = 0 then "" else
    (if rotation then ", then in rotation: " else " over ") ++ ", ".intercalate (rest.map (·.text))
  ⟨label ++ " (" ++ round.strategy ++ "): picked " ++
      round.pickedReplicaId.getD "undefined" ++ won.text ++ listed ++ ".",
    won.cites ++ (rest.map (·.cites)).flatten⟩

def failurePart (round : DecisionRound ν) (base : String) : ExplanationLine :=
  match round.failureReason with
  | none => ⟨"", []⟩
  | some f =>
      ⟨" It then failed with " ++ f.kind.text ++
          f.status.elim "" (fun status => " " ++ toString status) ++ ".",
        (base ++ ".failureReason.kind") ::
          f.status.elim [] fun _ => [base ++ ".failureReason.status"]⟩

def roundLine (i : ℕ) (round : DecisionRound ν) : ExplanationLine :=
  let base := "rounds[" ++ toString i ++ "]"
  let label := "Round " ++ toString (i + 1)
  let ex := excludedPart round base
  match round.outcome with
  | .noHealthyReplicas =>
      -- the strategy of such a round is the configured name: nothing was scored
      let drained := round.excluded.any fun e => e.reason = .drained
      let said := if drained then label ++ ": no replica was available to route to."
        else label ++ ": the registry had no healthy replica."
      ⟨said ++ ex.text, (base ++ ".outcome") :: ex.cites⟩
  | .noRoutableReplica =>
      let failure := failurePart round base
      ⟨label ++ " (" ++ round.strategy ++ "): no replica could be picked; " ++
          plural round.candidates.length "candidate" ++ " scored." ++ ex.text ++ failure.text,
        [base ++ ".strategy", base ++ ".outcome", base ++ ".candidates"] ++ ex.cites ++
          failure.cites⟩
  | .picked =>
      let picked := pickedPart round base label
      let failure := failurePart round base
      ⟨picked.text ++ ex.text ++ failure.text,
        [base ++ ".strategy", base ++ ".outcome", base ++ ".pickedReplicaId"] ++ picked.cites ++
          ex.cites ++ failure.cites⟩

/-- Build the cited explanation of one recorded decision. -/
def explainDecision (decision : Decision ν) : ExplainRoutingDecisionData ν :=
  ⟨decision, overview decision :: decision.rounds.mapIdx roundLine⟩

end WhyRouted
