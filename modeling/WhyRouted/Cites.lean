import WhyRouted.Explain
import WhyRouted.TimeRange

/-! # Reading a cite

`resolveCite` of `src/mcp/tools/explain-routing-decision.ts`: a path such as
`rounds[0].candidates[1].score` is cut at its dots, and each part, a name with or without an index,
is one step into the record.

A step reads a property under the part's name, its own or an inherited one.  What is inherited is
not the record's, so it is a parameter. -/

namespace WhyRouted

open TextPattern

variable {ν : Type}

/-! ### Records as values -/

/-- A value of the language. -/
inductive Value (ν : Type) where
  | undefined
  | null
  | boolean (b : Bool)
  | string (s : String)
  | number (x : ν)
  /-- A number the model keeps as a natural one. -/
  | counter (n : ℕ)
  | function
  | array (items : List (Value ν))
  | object (fields : List (String × Value ν))

namespace Value

/-- `typeof v === "object" && v !== null` -/
def isObject : Value ν → Bool
  | array _ => true
  | object _ => true
  | _ => false

/-- `v[name]` of an object: its own property, else the one it inherits. -/
def property (inherited : Value ν → String → Value ν) (v : Value ν) (name : String) : Value ν :=
  match v with
  | array items => if name = "length" then counter items.length else inherited v name
  | object fields => (fields.lookup name).getD (inherited v name)
  | _ => inherited v name

/-- The element of an array at an index, and `undefined` past its end. -/
def element (items : List (Value ν)) (index : ℕ) : Value ν := (items[index]?).getD undefined

end Value

/-- The name of a recorded outcome. -/
def RoundOutcome.text : RoundOutcome → String
  | picked => "picked"
  | noRoutableReplica => "no_routable_replica"
  | noHealthyReplicas => "no_healthy_replicas"

def CandidateScore.value (c : CandidateScore ν) : Value ν :=
  .object [("replicaId", .string c.replicaId), ("inFlight", .number c.inFlight),
    ("latencyMs", c.latencyMs.elim .null .number), ("score", .number c.score),
    ("considered", .boolean c.considered)]

def ExcludedCandidate.value (e : ExcludedCandidate) : Value ν :=
  .object [("replicaId", .string e.replicaId), ("reason", .string e.reason.text)]

def FailureReason.value (f : FailureReason) : Value ν :=
  .object (("kind", .string f.kind.text) ::
    (f.status.map fun status => ("status", Value.counter status)).toList)

def DecisionRound.value (round : DecisionRound ν) : Value ν :=
  .object ([("candidates", .array (round.candidates.map (·.value))),
      ("excluded", .array (round.excluded.map (·.value))), ("strategy", .string round.strategy),
      ("outcome", .string round.outcome.text)] ++
    (round.pickedReplicaId.map fun id => ("pickedReplicaId", Value.string id)).toList ++
    (round.failureReason.map fun f => ("failureReason", f.value)).toList)

def Decision.value (decision : Decision ν) : Value ν :=
  .object ([("id", .string decision.id), ("requestId", .string decision.requestId),
      ("at", .string decision.atTime), ("rounds", .array (decision.rounds.map (·.value))),
      ("chosenReplicaId", decision.chosenReplicaId.elim .null .string)] ++
    (decision.latencyMs.map fun ms => ("latencyMs", Value.number ms)).toList)

/-! ### `resolveCite` -/

/-- `[A-Za-z_]` -/
def isNameStart (c : Char) : Bool :=
  decide ('a' ≤ c ∧ c ≤ 'z') || decide ('A' ≤ c ∧ c ≤ 'Z') || c == '_'

/-- The pattern of a part of a path: a name, and an index in brackets. -/
def citePart : Pattern :=
  .all [.start, .group 1 (.seq (.char isNameStart) (.many isWord)),
    .optional (.all [.char (· == '['), .group 2 (.many1 Char.isDigit), .char (· == ']')]), .finish]

variable (inherited : Value ν → String → Value ν)

/-- The steps the parts of a path make from a value. -/
def resolveParts : Value ν → List (List Char) → Value ν
  | cur, [] => cur
  | cur, part :: parts =>
      match citePart.exec part 0 with
      | none => .undefined
      | some m =>
          if cur.isObject then
            let cur := cur.property inherited ((m.group? 1 part).getD "")
            match m.group? 2 part with
            | none => resolveParts cur parts
            | some index =>
                match cur with
                | .array items => resolveParts (Value.element items (digitsValue index)) parts
                | _ => .undefined
          else .undefined

/-- Resolve a cite path against a decision. -/
def resolveCite (decision : Decision ν) (path : String) : Value ν :=
  resolveParts inherited decision.value (path.toList.splitOn '.')

/-! ### One part -/

structure IsName (name : String) : Prop where
  start : name.toList.head?.any isNameStart = true
  word : name.toList.all isWord = true

instance (name : String) : Decidable (IsName name) :=
  decidable_of_iff (name.toList.head?.any isNameStart = true ∧ name.toList.all isWord = true)
    ⟨fun h => ⟨h.1, h.2⟩, fun h => ⟨h.start, h.word⟩⟩

/-- An index in brackets. -/
def indexed (name : String) (k : ℕ) : String := name ++ "[" ++ toString k ++ "]"

theorem natText_toList (k : ℕ) : (toString k).toList = Nat.toDigits 10 k := by
  simp [Nat.repr_eq_ofList_toDigits]

theorem natText_isDigit {k : ℕ} : ∀ c ∈ (toString k).toList, c.isDigit = true := by
  intro c hc
  rw [natText_toList] at hc
  exact Nat.isDigit_of_mem_toDigits (by decide) (by decide) hc

theorem natText_ne_nil (k : ℕ) : (toString k).toList ≠ [] := by
  rw [natText_toList]
  exact Nat.toDigits_ne_nil

theorem digitsValue_natText (k : ℕ) : digitsValue (toString k) = k := by
  unfold digitsValue
  rw [natText_toList]
  simp

variable {name : String}

/-- The name of a part is taken whole. -/
theorem first_name (h : IsName name) {text rest : List Char} (htext : text = name.toList ++ rest)
    (hrest : ∀ c ∈ rest.head?, isWord c = false) :
    (Pattern.group 1 (.seq (.char isNameStart) (.many isWord))).first text ⟨0, []⟩ =
      some ⟨name.toList.length, [(1, ⟨0, name.toList.length⟩)]⟩ := by
  obtain ⟨hstart, hword⟩ := h
  rw [List.all_eq_true] at hword
  cases hname : name.toList with
  | nil =>
      rw [hname] at hstart
      cases hstart
  | cons c cs =>
      rw [hname] at hstart hword htext
      have hdrop : text.drop 0 = c :: (cs ++ rest) := htext
      have hrun : runLength isWord text 1 = cs.length :=
        runLength_of_drop (drop_of_cons hdrop) (fun d hd => hword d (.tail c hd)) hrest
      have hmany := first_many text isWord ⟨1, []⟩
      rw [hrun] at hmany
      rw [first_group (first_seq (first_char hdrop hstart []) hmany), List.length_cons,
        Nat.add_comm 1]

theorem exec_name (h : IsName name) :
    citePart.exec name.toList 0 =
      some ⟨⟨0, name.toList.length⟩, [(1, ⟨0, name.toList.length⟩)]⟩ := by
  have hname := first_name h (List.append_nil _).symm (by simp)
  have hnone : (Pattern.all [.char (· == '['), .group 2 (.many1 Char.isDigit),
      .char (· == ']')]).results name.toList ⟨name.toList.length, [(1, ⟨0, name.toList.length⟩)]⟩ =
        [] := by
    simp [Pattern.all, Pattern.results]
  exact exec_of_first (first_seq (first_start []) (first_seq hname
    (first_seq (first_optional_of_nil hnone) (first_seq (first_finish rfl _) (first_empty _)))))

theorem indexed_toList (name : String) (k : ℕ) :
    (indexed name k).toList = name.toList ++ '[' :: ((toString k).toList ++ [']']) := by
  simp [indexed, String.toList_append]

/-- A part with an index is a name, and digits between brackets. -/
theorem exec_indexed (h : IsName name) (k : ℕ) :
    citePart.exec (indexed name k).toList 0 =
      some ⟨⟨0, (indexed name k).toList.length⟩,
        [(2, ⟨name.toList.length + 1, name.toList.length + 1 + (toString k).toList.length⟩),
          (1, ⟨0, name.toList.length⟩)]⟩ := by
  have htext := indexed_toList name k
  have hlength : (indexed name k).toList.length =
      name.toList.length + 1 + (toString k).toList.length + 1 := by
    simp [htext]
    omega
  generalize (indexed name k).toList = text at htext hlength
  have hbracket : text.drop name.toList.length = '[' :: ((toString k).toList ++ [']']) := by
    rw [htext, List.drop_left]
  have hdigits := drop_of_cons hbracket
  have hname := first_name h htext (by simp [isWord])
  have hopen := first_char (p := (· == '[')) hbracket rfl [(1, ⟨0, name.toList.length⟩)]
  have hindex := first_group (i := 2) (first_many1 hdigits (natText_ne_nil k) natText_isDigit
    (by simp) [(1, ⟨0, name.toList.length⟩)])
  have hclose := first_char (p := (· == ']')) (drop_of_append hdigits) rfl
    [(2, ⟨name.toList.length + 1, name.toList.length + 1 + (toString k).toList.length⟩),
      (1, ⟨0, name.toList.length⟩)]
  have hbrackets := first_optional (first_seq hopen (first_seq hindex
    (first_seq hclose (first_empty _))))
  have hfinish := first_finish hlength.symm
    [(2, ⟨name.toList.length + 1, name.toList.length + 1 + (toString k).toList.length⟩),
      (1, ⟨0, name.toList.length⟩)]
  refine (exec_of_first (first_seq (first_start []) (first_seq hname
    (first_seq hbrackets (first_seq hfinish (first_empty _)))))).trans ?_
  rw [hlength]

/-! ### Steps -/

variable {inherited : Value ν → String → Value ν} {v : Value ν}

theorem resolveParts_name (hv : v.isObject = true) (h : IsName name) (parts : List (List Char)) :
    resolveParts inherited v (name.toList :: parts) =
      resolveParts inherited (v.property inherited name) parts := by
  have hname : (Span.mk 0 name.toList.length).of name.toList = name := by
    simp [Span.of]
  have hgroup : (Match.mk ⟨0, name.toList.length⟩ [(1, ⟨0, name.toList.length⟩)]).group? 1
      name.toList = some name := congrArg some hname
  have hnone : (Match.mk ⟨0, name.toList.length⟩ [(1, ⟨0, name.toList.length⟩)]).group? 2
      name.toList = none := rfl
  simp only [resolveParts, exec_name h, hv, hgroup, hnone, if_true, Option.getD_some]

theorem resolveParts_indexed (hv : v.isObject = true) (h : IsName name) {items : List (Value ν)}
    (hitems : v.property inherited name = .array items) (k : ℕ) (parts : List (List Char)) :
    resolveParts inherited v ((indexed name k).toList :: parts) =
      resolveParts inherited (Value.element items k) parts := by
  have hname : (Span.mk 0 name.toList.length).of (indexed name k).toList = name := by
    rw [indexed_toList]
    simp [Span.of]
  have hindex : (Span.mk (name.toList.length + 1)
      (name.toList.length + 1 + (toString k).toList.length)).of (indexed name k).toList =
        toString k := by
    rw [indexed_toList, ← List.singleton_append, ← List.append_assoc,
      of_append (by simp) (by simp), String.ofList_toList]
  have hexec := exec_indexed h k
  generalize (indexed name k).toList = text at hname hindex hexec
  generalize htext : (toString k).toList.length = n at hindex hexec
  have hgroup : (Match.mk ⟨0, text.length⟩ [(2, ⟨name.toList.length + 1,
      name.toList.length + 1 + n⟩), (1, ⟨0, name.toList.length⟩)]).group? 1 text = some name :=
    congrArg some hname
  have hgroup' : (Match.mk ⟨0, text.length⟩ [(2, ⟨name.toList.length + 1,
      name.toList.length + 1 + n⟩), (1, ⟨0, name.toList.length⟩)]).group? 2 text =
        some (toString k) := congrArg some hindex
  simp only [resolveParts, hexec, hv, hgroup, hgroup', if_true, Option.getD_some, hitems,
    digitsValue_natText]

theorem splitOn_dot {part : String} (h : '.' ∉ part.toList) (path : String) :
    (part ++ "." ++ path).toList.splitOn '.' = part.toList :: path.toList.splitOn '.' := by
  rw [String.toList_append, String.toList_append, List.append_assoc]
  exact List.splitOn_append_cons_self_of_not_mem h _

theorem splitOn_single {part : String} (h : '.' ∉ part.toList) :
    part.toList.splitOn '.' = [part.toList] :=
  List.splitOn_eq_singleton h

theorem not_mem_indexed (h : IsName name) (k : ℕ) : '.' ∉ (indexed name k).toList := by
  rw [indexed_toList]
  intro hmem
  rcases List.mem_append.mp hmem with hname | hrest
  · exact absurd (List.all_eq_true.mp h.word '.' hname) (by decide)
  · simp only [List.mem_cons, List.mem_append, List.not_mem_nil, or_false] at hrest
    rcases hrest with hopen | hdigit | hclose
    · exact absurd hopen (by decide)
    · exact absurd (natText_isDigit '.' hdigit) (by decide)
    · exact absurd hclose (by decide)

theorem not_mem_name (h : IsName name) : '.' ∉ name.toList :=
  fun hmem => absurd (List.all_eq_true.mp h.word '.' hmem) (by decide)

/-! ### The paths into a record -/

section paths

variable {decision : Decision ν} {round : DecisionRound ν} {i : ℕ} {leaf : String}

/-- The path of a round. -/
def roundPath (i : ℕ) : String := indexed "rounds" i

theorem isObject_decision (decision : Decision ν) : decision.value.isObject = true := rfl

theorem isObject_round (round : DecisionRound ν) : round.value.isObject = true := rfl

theorem resolve_field (hleaf : IsName leaf) : resolveCite inherited decision leaf =
    decision.value.property inherited leaf := by
  unfold resolveCite
  rw [splitOn_single (not_mem_name hleaf), resolveParts_name (isObject_decision decision) hleaf,
    resolveParts]

theorem resolve_roundPath (hi : decision.rounds[i]? = some round) (path : String) :
    resolveCite inherited decision (roundPath i ++ ("." ++ path)) =
      resolveParts inherited round.value (path.toList.splitOn '.') := by
  have hname : IsName "rounds" := by decide
  have hrounds : decision.value.property inherited "rounds" =
      .array (decision.rounds.map (·.value)) := rfl
  have helement : Value.element (decision.rounds.map (·.value)) i = round.value := by
    simp [Value.element, hi]
  unfold resolveCite roundPath
  rw [← String.append_assoc, splitOn_dot (not_mem_indexed hname i),
    resolveParts_indexed (isObject_decision decision) hname hrounds, helement]

theorem resolve_roundField (hi : decision.rounds[i]? = some round) (hleaf : IsName leaf) :
    resolveCite inherited decision (roundPath i ++ ("." ++ leaf)) =
      round.value.property inherited leaf := by
  rw [resolve_roundPath hi, splitOn_single (not_mem_name hleaf),
    resolveParts_name (isObject_round round) hleaf, resolveParts]

theorem resolve_item (hi : decision.rounds[i]? = some round) {field : String}
    (hfield : IsName field) (hleaf : IsName leaf) {items : List (Value ν)}
    (hitems : round.value.property inherited field = .array items) {k : ℕ} {item : Value ν}
    (hk : items[k]? = some item) (hitem : item.isObject = true) :
    resolveCite inherited decision (citeAt (roundPath i) field k leaf) =
      item.property inherited leaf := by
  have hpath : citeAt (roundPath i) field k leaf =
      roundPath i ++ ("." ++ (indexed field k ++ "." ++ leaf)) := by
    have hdot : "]." = "]" ++ "." := rfl
    simp only [citeAt, indexed, hdot, String.append_assoc]
  have helement : Value.element items k = item := by simp [Value.element, hk]
  rw [hpath, resolve_roundPath hi, splitOn_dot (not_mem_indexed hfield k),
    splitOn_single (not_mem_name hleaf),
    resolveParts_indexed (isObject_round round) hfield hitems, helement,
    resolveParts_name hitem hleaf, resolveParts]

theorem resolve_failure (hi : decision.rounds[i]? = some round) {f : FailureReason}
    (hf : round.failureReason = some f) (hleaf : IsName leaf) :
    resolveCite inherited decision (roundPath i ++ ("." ++ ("failureReason" ++ "." ++ leaf))) =
      (f.value : Value ν).property inherited leaf := by
  have hname : IsName "failureReason" := by decide
  have hreason : round.value.property inherited "failureReason" = f.value := by
    unfold DecisionRound.value
    rw [hf]
    cases round.pickedReplicaId <;> rfl
  rw [resolve_roundPath hi, splitOn_dot (not_mem_name hname), splitOn_single (not_mem_name hleaf),
    resolveParts_name (isObject_round round) hname, hreason, resolveParts_name rfl hleaf,
    resolveParts]

end paths

end WhyRouted
