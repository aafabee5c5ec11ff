import WhyRouted.ReadTools

/-! # Grounded answers

Every answer of a read tool names the records it was built from, and nothing else: whatever else
is deleted from the stores, the same call at the same clock gives the same answer.

Each tool computes its data from a selection of records and its record ids from the same
selection, so the argument is the same for all four (`Supported`): the selection is not empty, its
ids are ids of the store, and it does not change when records outside it go. -/

namespace WhyRouted

variable {ν : Type} [JsNumber ν]

/-! ### Deleting records -/

omit [JsNumber ν] in
/-- The ids of the records of a store. -/
def ControlPlane.recordIds (cp : ControlPlane ν) : GroundingSource → List String
  | .registry => cp.registry.items.map (·.id)
  | .failoverLog => cp.failover.map (·.id)
  | .decisionLog => cp.decisions.map (·.id)

/-- `l'` is `l` without some of its records, none of them named if `l` is the store in question. -/
def Deletes {α : Type} (id : α → String) (named : Prop) (ids : List String) (l l' : List α) :
    Prop :=
  ∃ keep : α → Bool, l' = l.filter keep ∧ (named → ∀ a ∈ l, id a ∈ ids → keep a = true)

omit [JsNumber ν] in
/-- The stores `cp'` are those of `cp` without any records that `ids` of `source` does not name. -/
structure DeletesUnnamed (source : GroundingSource) (ids : List String)
    (cp cp' : ControlPlane ν) : Prop where
  registry : Deletes (·.id) (source = .registry) ids cp.registry.items cp'.registry.items
  failover : Deletes (·.id) (source = .failoverLog) ids cp.failover cp'.failover
  decisions : Deletes (·.id) (source = .decisionLog) ids cp.decisions cp'.decisions

/-- An output of a handler that reads the stores is supported by what it names; `size` is the
number of records its data speaks of. -/
def Supported {T : Type} (size : T → ℕ) (cp : ControlPlane ν)
    (output : ControlPlane ν → Throws (ToolOutput T)) : Prop :=
  ∀ value source ids, output cp = .ok (.data value source ids) →
    0 < size value ∧ ids.length = size value ∧ (∀ id ∈ ids, id ∈ cp.recordIds source) ∧
      ∀ cp', DeletesUnnamed source ids cp cp' → output cp' = .ok (.data value source ids)

omit [JsNumber ν] in
theorem Supported.map {S T : Type} {size : S → ℕ} {size' : T → ℕ} {cp : ControlPlane ν}
    {output : ControlPlane ν → Throws (ToolOutput S)} (h : Supported size cp output) (f : S → T)
    (hf : ∀ v, size' (f v) = size v) :
    Supported size' cp fun cp => (output cp).map (·.map f) := by
  intro value source ids hout
  have hout : (output cp).map (·.map f) = .ok (.data value source ids) := hout
  cases ho : output cp with
  | error message => simp [ho, Except.map] at hout
  | ok out =>
      rw [ho] at hout
      have hout := Except.ok.inj hout
      cases out with
      | noData reason => cases hout
      | invalidInput reason => cases hout
      | data v src recordIds =>
          obtain ⟨rfl, rfl, rfl⟩ := ToolOutput.data.inj hout
          obtain ⟨hpos, hsize, hstored, hsame⟩ := h v src recordIds ho
          rw [hf]
          refine ⟨hpos, hsize, hstored, fun cp' hdel => ?_⟩
          show (output cp').map (·.map f) = _
          rw [hsame cp' hdel]
          rfl

omit [JsNumber ν] in
theorem Supported.of_read {Q T : Type} {size : T → ℕ} {cp : ControlPlane ν}
    {answer : ControlPlane ν → Q → ToolOutput T}
    (h : ∀ asked, Supported size cp fun cp => .ok (answer cp asked)) (reading : Throws Q) :
    Supported size cp fun cp => reading.map (answer cp) := by
  cases reading with
  | error message =>
      intro value source ids hout
      cases hout
  | ok asked => exact h asked

omit [JsNumber ν] in
theorem supported_of_invalid {T : Type} {size : T → ℕ} {cp : ControlPlane ν} (reason : String) :
    Supported size cp fun _ => .ok (.invalidInput reason) := by
  intro value source ids hout
  cases hout

/-! ### The four selections -/

omit [JsNumber ν] in
theorem supported_getFleetStatus (cp : ControlPlane ν) (generatedAt : String) :
    Supported (·.replicas.length) cp fun cp => .ok (getFleetStatus cp.registry generatedAt) := by
  intro value source ids hout
  have hout := Except.ok.inj hout
  simp only [getFleetStatus] at hout
  split_ifs at hout with hempty
  obtain ⟨rfl, rfl, rfl⟩ := ToolOutput.data.inj hout
  refine ⟨Nat.pos_of_ne_zero hempty, List.length_map _, fun id hid => hid, fun cp' hdel => ?_⟩
  obtain ⟨keep, hitems, hkeep⟩ := hdel.registry
  -- every replica is named, so none may be deleted
  have hall : cp'.registry.items = cp.registry.items := by
    rw [hitems, List.filter_eq_self]
    intro r hr
    exact hkeep rfl r hr (List.mem_map_of_mem hr)
  have hsnapshot : cp'.registry.getSnapshot generatedAt = cp.registry.getSnapshot generatedAt := by
    unfold Registry.getSnapshot
    rw [hall]
  simp only [getFleetStatus, hsnapshot, if_neg hempty]

theorem queryRange_of_deletes {α : Type} {stamp id : α → String} {log log' : List α}
    {range : Bounds} {named : Prop}
    (h : Deletes id named ((queryRange stamp log range).map id) log log') (hnamed : named) :
    queryRange stamp log' range = queryRange stamp log range := by
  obtain ⟨keep, rfl, hkeep⟩ := h
  apply queryRange_filter
  intro a ha hin
  apply hkeep hnamed a ha
  exact List.mem_map_of_mem (mem_queryRange_iff.mpr ⟨ha, hin⟩)

theorem map_id_queryRange_subset {α : Type} (stamp id : α → String) (log : List α)
    (range : Bounds) : ∀ i ∈ (queryRange stamp log range).map id, i ∈ log.map id := by
  intro i hi
  obtain ⟨a, ha, rfl⟩ := List.mem_map.mp hi
  exact List.mem_map_of_mem (mem_queryRange_iff.mp ha).1

omit [JsNumber ν] in
theorem supported_history (cp : ControlPlane ν) (asked : Except String Bounds) :
    Supported (·.events.length) cp fun cp => .ok (cp.failover.history asked) := by
  cases asked with
  | error reason => exact supported_of_invalid reason
  | ok range =>
      intro value source ids hout
      have hout := Except.ok.inj hout
      simp only [FailoverEvents.history] at hout
      split_ifs at hout with hempty
      obtain ⟨rfl, rfl, rfl⟩ := ToolOutput.data.inj hout
      refine ⟨Nat.pos_of_ne_zero hempty, List.length_map _, map_id_queryRange_subset _ _ _ _,
        fun cp' hdel => ?_⟩
      have hsame : cp'.failover.query range = cp.failover.query range :=
        queryRange_of_deletes hdel.failover rfl
      simp only [FailoverEvents.history, hsame, if_neg hempty]

theorem supported_window (cp : ControlPlane ν) (range : ResolvedRange) :
    Supported (·.total) cp fun cp => .ok (DecisionLog.window cp.decisions range) := by
  intro value source ids hout
  have hout := Except.ok.inj hout
  simp only [DecisionLog.window] at hout
  split_ifs at hout with hempty
  obtain ⟨rfl, rfl, rfl⟩ := ToolOutput.data.inj hout
  refine ⟨Nat.pos_of_ne_zero hempty, List.length_map _, map_id_queryRange_subset _ _ _ _,
    fun cp' hdel => ?_⟩
  have hsame : DecisionLog.query cp'.decisions ⟨some range.fromTime, some range.toTime⟩ =
      DecisionLog.query cp.decisions ⟨some range.fromTime, some range.toTime⟩ :=
    queryRange_of_deletes hdel.decisions rfl
  simp only [DecisionLog.window, hsame, if_neg hempty]

/-- The first record that answers a lookup still answers it when it is kept. -/
theorem find?_filter_of_keep {α : Type} {p keep : α → Bool} {l : List α} {a : α}
    (h : l.find? p = some a) (hk : keep a = true) : (l.filter keep).find? p = some a := by
  obtain ⟨hp, before, after, rfl, hbefore⟩ := List.find?_eq_some_iff_append.mp h
  rw [List.filter_append, List.filter_cons_of_pos hk]
  apply List.find?_eq_some_iff_append.mpr
  refine ⟨hp, before.filter keep, after.filter keep, rfl, ?_⟩
  intro b hb
  exact hbefore b (List.mem_filter.mp hb).1

theorem supported_lookup (cp : ControlPlane ν) (requestId : String) :
    Supported (fun _ => 1) cp fun cp => .ok (DecisionLog.lookup cp.decisions requestId) := by
  intro value source ids hout
  have hout := Except.ok.inj hout
  simp only [DecisionLog.lookup] at hout
  cases hget : DecisionLog.get? cp.decisions requestId with
  | none => simp [hget] at hout
  | some decision =>
      rw [hget] at hout
      obtain ⟨rfl, rfl, rfl⟩ := ToolOutput.data.inj hout
      have hmem : decision ∈ cp.decisions := List.mem_of_find?_eq_some hget
      refine ⟨Nat.one_pos, rfl, ?_, fun cp' hdel => ?_⟩
      · intro id hid
        rw [List.mem_singleton.mp hid]
        exact List.mem_map_of_mem hmem
      · obtain ⟨keep, hitems, hkeep⟩ := hdel.decisions
        have hkept : keep decision = true := hkeep rfl decision hmem List.mem_cons_self
        have hsame : DecisionLog.get? cp'.decisions requestId = some decision := by
          rw [hitems]
          exact find?_filter_of_keep hget hkept
        simp only [DecisionLog.lookup, hsame]

theorem supported_explainRoutingDecision (cp : ControlPlane ν) (requestId : Option String) :
    Supported (fun _ => 1) cp fun cp => .ok (explainRoutingDecision cp.decisions requestId) := by
  cases requestId with
  | none => exact supported_of_invalid _
  | some requestId =>
      simp only [explainRoutingDecision]
      split_ifs
      · exact supported_of_invalid _
      · exact supported_lookup cp requestId

/-- The number of records the data of a read tool speaks of. -/
def ReadData.size : ReadData ν → ℕ
  | fleet snapshot => snapshot.replicas.length
  | history data => data.events.length
  | explanation _ => 1
  | decisions (.explanation _) => 1
  | decisions (.aggregate data) => data.total

theorem supported_answer (cp : ControlPlane ν) (asked : Except String Question) :
    Supported (fun data => ReadData.size (.decisions data)) cp fun cp =>
      .ok (DecisionLog.answer cp.decisions asked) := by
  cases asked with
  | error reason => exact supported_of_invalid reason
  | ok asked =>
      cases asked with
      | point requestId =>
          exact (supported_lookup cp requestId).map QueryDecisionsData.explanation fun _ => rfl
      | window range =>
          exact (supported_window cp range).map QueryDecisionsData.aggregate fun _ => rfl

/-- **Every read tool is supported by what it names.** -/
theorem supported_readOutput (dates : Dates) (cp : ControlPlane ν) (clock : ReadClock)
    (call : ReadCall) : Supported ReadData.size cp fun cp => cp.readOutput dates clock call := by
  cases call with
  | fleetStatus =>
      exact (supported_getFleetStatus cp clock.generatedAt).map ReadData.fleet fun _ => rfl
  | failoverHistory fromTime toTime last =>
      have h := Supported.of_read (supported_history cp)
        (historyBounds dates fromTime toTime last clock.now)
      exact h.map ReadData.history fun _ => rfl
  | explainRoutingDecision requestId =>
      have h := supported_explainRoutingDecision cp requestId
      exact h.map ReadData.explanation fun _ => rfl
  | queryDecisions question =>
      have h := Supported.of_read (supported_answer cp) (readQuestion dates question clock.now)
      exact h.map ReadData.decisions fun _ => rfl

/-! ### Empty selections -/

/-- The call asks for records of which there are none: of an empty registry, of a window with no
entry in it, or of a request nothing was recorded for. -/
def SelectsNothing (dates : Dates) (cp : ControlPlane ν) (clock : ReadClock) :
    ReadCall → Prop
  | .fleetStatus => cp.registry.items = []
  | .failoverHistory fromTime toTime last => ∃ range,
      historyBounds dates fromTime toTime last clock.now = .ok (.ok range) ∧
        ∀ e ∈ cp.failover, range.contains e.atTime = false
  | .explainRoutingDecision requestId => ∃ id, requestId = some id ∧ jsTrim id ≠ "" ∧
      ∀ d ∈ cp.decisions, d.requestId ≠ id
  | .queryDecisions question =>
      (∃ id, readQuestion dates question clock.now = .ok (.ok (.point id)) ∧
        ∀ d ∈ cp.decisions, d.requestId ≠ id) ∨
      ∃ range, readQuestion dates question clock.now = .ok (.ok (.window range)) ∧
        ∀ d ∈ cp.decisions,
          Bounds.contains ⟨some range.fromTime, some range.toTime⟩ d.atTime = false

theorem lookup_eq_noData {log : DecisionLog ν} {requestId : String}
    (h : ∀ d ∈ log, d.requestId ≠ requestId) : ∃ reason, log.lookup requestId = .noData reason := by
  have hnone : log.get? requestId = none := by
    apply List.find?_eq_none.mpr
    intro d hd
    simpa using h d hd
  simp only [DecisionLog.lookup, hnone]
  exact ⟨_, rfl⟩

theorem window_eq_noData {log : DecisionLog ν} {range : ResolvedRange}
    (h : ∀ d ∈ log, Bounds.contains ⟨some range.fromTime, some range.toTime⟩ d.atTime = false) :
    ∃ reason, log.window range = .noData reason := by
  have hnil : log.query ⟨some range.fromTime, some range.toTime⟩ = [] :=
    queryRange_eq_nil_iff.mpr h
  simp only [DecisionLog.window, hnil]
  exact ⟨_, rfl⟩

theorem readOutput_of_selectsNothing {dates : Dates} {cp : ControlPlane ν} {clock : ReadClock}
    {call : ReadCall} (h : SelectsNothing dates cp clock call) :
    ∃ reason, cp.readOutput dates clock call = .ok (.noData reason) := by
  cases call with
  | fleetStatus =>
      have hnil : cp.registry.items = [] := h
      simp only [ControlPlane.readOutput, getFleetStatus, Registry.getSnapshot, hnil]
      exact ⟨_, rfl⟩
  | failoverHistory fromTime toTime last =>
      obtain ⟨range, hbounds, hnone⟩ := h
      have hnil : cp.failover.query range = [] := queryRange_eq_nil_iff.mpr hnone
      simp only [ControlPlane.readOutput, getFailoverHistory, hbounds, Except.map,
        FailoverEvents.history, hnil]
      exact ⟨_, rfl⟩
  | explainRoutingDecision requestId =>
      obtain ⟨id, rfl, hblank, hnone⟩ := h
      obtain ⟨reason, hlookup⟩ := lookup_eq_noData hnone
      refine ⟨reason, ?_⟩
      simp only [ControlPlane.readOutput, explainRoutingDecision, if_neg hblank, hlookup]
      rfl
  | queryDecisions question =>
      rcases h with ⟨id, hquestion, hnone⟩ | ⟨range, hquestion, hnone⟩
      · obtain ⟨reason, hlookup⟩ := lookup_eq_noData hnone
        refine ⟨reason, ?_⟩
        simp only [ControlPlane.readOutput, queryDecisions, hquestion, Except.map,
          DecisionLog.answer, hlookup]
        rfl
      · obtain ⟨reason, hwindow⟩ := window_eq_noData hnone
        refine ⟨reason, ?_⟩
        simp only [ControlPlane.readOutput, queryDecisions, hquestion, Except.map,
          DecisionLog.answer, hwindow]
        rfl

/-! ### What a client gets -/

/-- What a read tool owes its caller. -/
structure Grounded (dates : Dates) (cp : ControlPlane ν) (clock : ReadClock)
    (call : ReadCall) : Prop where
  /-- An answer names as many records as it speaks of, at least one, all of them in the store it
  names. -/
  named : ∀ value g, cp.read dates clock call = .ok value g →
    0 < value.size ∧ g.recordIds.length = value.size ∧
      ∀ id ∈ g.recordIds, id ∈ cp.recordIds g.source
  /-- It is the same without any records it does not name. -/
  supported : ∀ value g, cp.read dates clock call = .ok value g →
    ∀ cp', DeletesUnnamed g.source g.recordIds cp cp' →
      cp'.read dates clock call = .ok value g
  /-- Nothing selected is no answer. -/
  empty : SelectsNothing dates cp clock call →
    ∃ reason, cp.read dates clock call = .failed .noData reason

omit [JsNumber ν] in
theorem dispatch_eq_ok {T : Type} {now : String} {output : Throws (ToolOutput T)} {value : T}
    {g : Grounding} (h : dispatch now output = .ok value g) :
    output = .ok (.data value g.source g.recordIds) := by
  cases output with
  | error message => cases h
  | ok out =>
      cases out with
      | noData reason => cases h
      | invalidInput reason => cases h
      | data v source ids =>
          simp only [dispatch] at h
          split_ifs at h
          obtain ⟨rfl, rfl⟩ := ToolResult.ok.inj h
          rfl

/-- **Every answer is grounded**: for every read tool, every argument and all contents of the
stores. -/
theorem answers_grounded (dates : Dates) (cp : ControlPlane ν) (clock : ReadClock)
    (call : ReadCall) : Grounded dates cp clock call := by
  have hsupported := supported_readOutput dates cp clock call
  refine ⟨?_, ?_, ?_⟩
  · intro value g hok
    have hout := dispatch_eq_ok hok
    obtain ⟨hpos, hsize, hstored, -⟩ := hsupported value g.source g.recordIds hout
    exact ⟨hpos, hsize, hstored⟩
  · intro value g hok cp' hdel
    have hout := dispatch_eq_ok hok
    obtain ⟨-, -, -, hsame⟩ := hsupported value g.source g.recordIds hout
    have hout' : cp'.readOutput dates clock call = .ok (.data value g.source g.recordIds) :=
      hsame cp' hdel
    unfold ControlPlane.read at hok ⊢
    rw [hout']
    rwa [hout] at hok
  · intro hnothing
    obtain ⟨reason, hout⟩ := readOutput_of_selectsNothing hnothing
    refine ⟨reason, ?_⟩
    unfold ControlPlane.read
    rw [hout]
    rfl

end WhyRouted
