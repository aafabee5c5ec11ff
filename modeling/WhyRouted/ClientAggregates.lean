import WhyRouted.Answers
import WhyRouted.RegistryMirror
import WhyRouted.WindowQuestion

/-! # Aggregates equal what clients saw

The answer to an aggregate question crosses the retry loop's record points, the log's range
query and the aggregation, and none of them looks at a response.  The chain is closed by the
outcomes: what `aggregate` computes depends on the decisions through their outcomes only, the
query keeps those with a stamp in the window, and the outcomes of the log are those of the
answers (`AnswersLogged`).

Stamps are compared as strings and windows are meant as spans of time; for years of four digits
that is the same (`contains_toISOString`). -/

namespace WhyRouted

open IsoTime

variable {ν β : Type}

/-! ### Windows -/

theorem codeUnitLt_toISOString {s t : ℤ} (hs : FourDigitYear s) (ht : FourDigitYear t) :
    codeUnitLt (toISOString s) (toISOString t) = true ↔ s < t := by
  have hbasic : ∀ {t : ℤ}, FourDigitYear t → ∀ c ∈ (toISOString t).toList, c.toNat < 0x10000 :=
    fun ht c hc => (ascii_toISOString ht hc).trans (by omega)
  rw [codeUnitLt_iff_of_basic (hbasic hs) (hbasic ht), toISOString_lt_iff hs ht]

theorem contains_toISOString {lo hi t : ℤ} (hlo : FourDigitYear lo) (hhi : FourDigitYear hi)
    (ht : FourDigitYear t) :
    (⟨some (toISOString lo), some (toISOString hi)⟩ : Bounds).contains (toISOString t) =
      decide (lo ≤ t ∧ t ≤ hi) := by
  have hbefore := codeUnitLt_toISOString ht hlo
  have hafter := codeUnitLt_toISOString hhi ht
  rw [Bool.eq_iff_iff, decide_eq_true_iff]
  simp only [Bounds.contains, Option.all_some, Bool.and_eq_true, Bool.not_eq_true',
    ← Bool.not_eq_true, hbefore, hafter, not_lt]

/-! ### What the clients saw -/

/-- A request of a run, the instant it was resolved at, and its response. -/
structure Resolved (ν β : Type) where
  request : ℕ
  instant : ℤ
  res : RouteResponse ν β

/-- The answer, stamped. -/
def Resolved.answer (x : Resolved ν β) : ClientAnswer ν β :=
  ⟨x.request, toISOString x.instant, x.res⟩

def resolvedIn (lo hi : ℤ) (resolved : List (Resolved ν β)) : List (Resolved ν β) :=
  resolved.filter fun x => lo ≤ x.instant ∧ x.instant ≤ hi

def servedBodies (resolved : List (Resolved ν β)) : List (RouteBody ν β) :=
  (resolved.filter (·.res.status = 200)).map (·.res.body)

/-- An aggregate says of some resolved requests what their clients saw. -/
structure MatchesClients [JsNumber ν] (replicas : List Replica) (resolved : List (Resolved ν β))
    (data : AggregateData ν) : Prop where
  total : data.total = resolved.length
  served : data.served = resolved.countP (·.res.status = 200)
  failed : data.failed = resolved.countP fun x => x.res.status = 502 ∨ x.res.status = 503
  /-- A replica has its number of 200 bodies, and a key only if there are any. -/
  servedByReplica : ∀ r n, propertyOf data.servedByReplica r = some n ↔
    n = (servedBodies resolved).countP (·.replicaId = some r) ∧ 0 < n
  keys_nodup : (data.servedByReplica.map (·.1)).Nodup
  keys_fleet : ∀ key ∈ data.servedByReplica.map (·.1), key ∈ replicas.map (·.id)
  latency_none : data.latency = none ↔ data.served = 0
  /-- The percentiles are those of the latencies in the 200 bodies, in ascending order. -/
  latency : ∀ summary, data.latency = some summary → summary.sampleSize = data.served ∧
    ∃ sorted : List ν, sorted.Perm ((servedBodies resolved).filterMap (·.latencyMs)) ∧
      (Std.Total (@NotGreater ν _) → IsTrans ν NotGreater → sorted.Pairwise NotGreater) ∧
      summary.p50Ms = nearestRank sorted 50 ∧ summary.p95Ms = nearestRank sorted 95 ∧
      summary.p99Ms = nearestRank sorted 99 ∧ ∀ p ≤ 100, nearestRank sorted p ≠ none

/-! ### Counting responses -/

section counting

variable {resolved : List (Resolved ν β)}

theorem servedBy_eq_some_iff {res : RouteResponse ν β} {r : String} :
    res.servedBy = some r ↔ res.status = 200 ∧ res.body.replicaId = some r := by
  unfold RouteResponse.servedBy
  split_ifs with h <;> simp [h]

theorem isSome_servedBy {res : RouteResponse ν β} (h : res.Proper) :
    res.servedBy.isSome = true ↔ res.status = 200 := by
  unfold RouteResponse.servedBy
  rcases h with ⟨h200, hid, -⟩ | h
  · simp [h200, Option.isSome_iff_ne_none, hid]
  · have hnot : ¬ res.status = 200 := by omega
    simp [hnot]

theorem countP_servedBodies (r : String) :
    resolved.countP (fun x => x.res.servedBy = some r) =
      (servedBodies resolved).countP (·.replicaId = some r) := by
  unfold servedBodies
  rw [List.countP_map, List.countP_filter]
  apply List.countP_congr
  intro x _
  simp [servedBy_eq_some_iff, and_comm]

theorem filterMap_servedLatency : resolved.filterMap (·.res.servedLatency) =
    (servedBodies resolved).filterMap (·.latencyMs) := by
  unfold servedBodies
  rw [List.filterMap_map, List.filterMap_filter]
  apply List.filterMap_congr
  intro x _
  simp [RouteResponse.servedLatency]

theorem length_latencies (h : ∀ x ∈ resolved, x.res.Proper) :
    ((servedBodies resolved).filterMap (·.latencyMs)).length =
      resolved.countP (·.res.status = 200) := by
  have hall : ((servedBodies resolved).filterMap (·.latencyMs)).length =
      (servedBodies resolved).length := by
    rw [List.filterMap_length_eq_length]
    intro body hbody
    obtain ⟨x, hx, rfl⟩ := List.mem_map.mp hbody
    obtain ⟨hmem, hstatus⟩ := List.mem_filter.mp hx
    rcases h x hmem with ⟨-, -, hlatency⟩ | hfailed
    · exact Option.isSome_iff_ne_none.mpr hlatency
    · have h200 : x.res.status = 200 := of_decide_eq_true hstatus
      omega
  rw [hall, servedBodies, List.length_map, List.countP_eq_length_filter]

end counting

/-! ### The aggregate of matching decisions -/

section aggregate

variable {decisions : List (Decision ν)} {resolved : List (Resolved ν β)}

theorem countP_outcome
    (hperm : (decisions.map (·.outcome)).Perm (resolved.map (·.answer.outcome)))
    (p : Outcome ν → Bool) :
    decisions.countP (fun d => p d.outcome) = resolved.countP fun x => p x.answer.outcome := by
  have h := hperm.countP_eq p
  rwa [List.countP_map, List.countP_map] at h

theorem filterMap_outcome
    (hperm : (decisions.map (·.outcome)).Perm (resolved.map (·.answer.outcome))) :
    (decisions.filterMap (·.latencyMs)).Perm
      ((servedBodies resolved).filterMap (·.latencyMs)) := by
  have h := hperm.filterMap (·.latencyMs)
  rw [List.filterMap_map, List.filterMap_map] at h
  rw [← filterMap_servedLatency]
  exact h

/-- **The aggregation is about outcomes only**: over decisions with the outcomes of some responses
it says what the responses do. -/
theorem matchesClients_aggregate [JsNumber ν] {replicas : List Replica} (range : ResolvedRange)
    (hperm : (decisions.map (·.outcome)).Perm (resolved.map (·.answer.outcome)))
    (hproper : ∀ x ∈ resolved, x.res.Proper)
    (hfleet : ∀ x ∈ resolved, ∀ r, x.res.servedBy = some r → r ∈ replicas.map (·.id)) :
    MatchesClients replicas resolved (aggregate decisions range) := by
  have hlength : decisions.length = resolved.length := by
    simpa using hperm.length_eq
  have hserved : (tally decisions).served = resolved.countP (·.res.status = 200) := by
    rw [served_tally]
    refine (countP_outcome hperm (·.replicaId.isSome)).trans (List.countP_congr fun x hx => ?_)
    rw [decide_eq_true_iff]
    exact isSome_servedBy (hproper x hx)
  have hreplica : ∀ r, decisions.countP (·.chosenReplicaId = some r) =
      (servedBodies resolved).countP (·.replicaId = some r) := by
    intro r
    rw [← countP_servedBodies]
    exact countP_outcome hperm (·.replicaId = some r)
  have hlatencies := filterMap_outcome hperm
  have hsize := length_latencies hproper
  constructor
  · exact hlength
  · exact hserved
  · have hrest : resolved.countP (fun x => ¬ decide (x.res.status = 200) = true) =
        resolved.countP fun x => x.res.status = 502 ∨ x.res.status = 503 := by
      apply List.countP_congr
      intro x hx
      have hstatus : x.res.status = 200 ∨ x.res.status = 502 ∨ x.res.status = 503 :=
        (hproper x hx).imp_left (·.1)
      simp only [decide_eq_true_iff]
      omega
    have hsplit := resolved.length_eq_countP_add_countP (p := fun x => decide (x.res.status = 200))
    show decisions.length - (tally decisions).served = _
    rw [hlength, hserved, ← hrest]
    omega
  · intro r n
    show propertyOf (tally decisions).servedByReplica r = some n ↔ _
    rw [propertyOf_tally, hreplica, Option.ite_none_left_eq_some, Option.some.injEq]
    omega
  · exact nodup_keys_tally decisions
  · intro key hkey
    rw [show (aggregate decisions range).servedByReplica = (tally decisions).servedByReplica from
      rfl, mem_keys_iff, propertyOf_tally, hreplica, ← countP_servedBodies] at hkey
    have hpos : 0 < resolved.countP fun x => x.res.servedBy = some key := by
      by_contra hzero
      exact hkey (if_pos (by omega))
    obtain ⟨x, hx, hkey⟩ := List.countP_pos_iff.mp hpos
    exact hfleet x hx key (of_decide_eq_true hkey)
  · show latencySummary (tally decisions).latencies = none ↔ (tally decisions).served = 0
    rw [latencySummary_eq_none_iff, latencies_tally, hserved, ← hsize, ← hlatencies.length_eq,
      List.length_eq_zero_iff]
  · intro summary hsummary
    have hsome : summary = _ := latencySummary_eq_some hsummary
    have hsample : ((tally decisions).latencies.insertionSort NotGreater).Perm
        ((servedBodies resolved).filterMap (·.latencyMs)) := by
      rw [latencies_tally]
      exact (List.perm_insertionSort NotGreater _).trans hlatencies
    subst hsome
    refine ⟨?_, _, hsample, fun htotal htrans => List.pairwise_insertionSort _ _, rfl, rfl, rfl,
      fun p hp => nearestRank_ne_none ?_ hp⟩
    · show (tally decisions).latencies.length = (tally decisions).served
      rw [hserved, ← hsize, latencies_tally, hlatencies.length_eq]
    · intro hnil
      have hnone : latencySummary (tally decisions).latencies = none := by
        rw [latencySummary_eq_none_iff, ← List.length_eq_zero_iff,
          ← List.length_insertionSort NotGreater, hnil]
        rfl
      cases hnone.symm.trans hsummary

end aggregate

/-! ### The answer of the tool -/

variable [JsNumber ν]

omit [JsNumber ν] in
theorem outcomes_of_window {log : DecisionLog ν} {resolved : List (Resolved ν β)} {lo hi : ℤ}
    (houtcomes : log.map (·.outcome) = resolved.map (·.answer.outcome))
    (hyears : ∀ x ∈ resolved, FourDigitYear x.instant) (hlo : FourDigitYear lo)
    (hhi : FourDigitYear hi) :
    ((log.query ⟨some (toISOString lo), some (toISOString hi)⟩).map (·.outcome)).Perm
      ((resolvedIn lo hi resolved).map (·.answer.outcome)) := by
  generalize hrange : (⟨some (toISOString lo), some (toISOString hi)⟩ : Bounds) = range
  have hselected : (log.filter fun d => range.contains d.atTime).map (·.outcome) =
      (resolvedIn lo hi resolved).map (·.answer.outcome) := by
    calc (log.filter fun d => range.contains d.atTime).map (·.outcome)
        = (log.map (·.outcome)).filter fun o => range.contains o.atTime := by
          rw [List.filter_map]
          rfl
      _ = (resolved.filter fun x => range.contains x.answer.outcome.atTime).map
            (·.answer.outcome) := by
          rw [houtcomes, List.filter_map]
          rfl
      _ = (resolvedIn lo hi resolved).map (·.answer.outcome) := by
          unfold resolvedIn
          congr 1
          apply List.filter_congr
          intro x hx
          rw [← hrange]
          exact contains_toISOString hlo hhi (hyears x hx)
  rw [← hselected]
  exact (queryRange_perm _ log range).map _

theorem read_window {dates : Dates} {cp : ControlPlane ν} {clock : ReadClock}
    {question : Option String} {range : ResolvedRange}
    (hquestion : readQuestion dates question clock.now = .ok (.ok (.window range)))
    (hsome : (DecisionLog.query cp.decisions ⟨some range.fromTime, some range.toTime⟩) ≠ []) :
    ∃ g, cp.read dates clock (.queryDecisions question) = .ok (.decisions (.aggregate
      (aggregate (DecisionLog.query cp.decisions ⟨some range.fromTime, some range.toTime⟩)
        range))) g := by
  have hlen : ¬ (DecisionLog.query cp.decisions
      ⟨some range.fromTime, some range.toTime⟩).length = 0 :=
    fun hzero => hsome (List.length_eq_zero_iff.mp hzero)
  simp only [ControlPlane.read, ControlPlane.readOutput, queryDecisions, hquestion, Except.map,
    DecisionLog.answer, DecisionLog.window, if_neg hlen, ToolOutput.map, dispatch, List.length_map]
  exact ⟨_, rfl⟩

/-- **Aggregates equal what clients saw**: `resolved` is every response of the run, at most one
for each request, and the aggregate over a window says what those of the window do. -/
theorem aggregates_equal_answers {th : Thresholds} {deps : RouteDeps ν β}
    {numerals : Numerals ν} {c : Config ν} {s₀ s : System ν β} {tr : System.Trace ν β}
    (hw : ∀ res, deps.writeError res = none) (h₀ : start numerals c = .ok s₀)
    (h : Exec (System.Step th deps) s₀ tr s) {resolved : List (Resolved ν β)}
    (hresolved : System.answers tr = resolved.map (·.answer))
    (hyears : ∀ x ∈ resolved, FourDigitYear x.instant) {lo hi : ℤ} (hlo : FourDigitYear lo)
    (hhi : FourDigitYear hi)
    (hsome : ∃ d ∈ s.control.decisions, ∃ t, FourDigitYear t ∧ d.atTime = toISOString t ∧
      lo ≤ t ∧ t ≤ hi)
    (dates : Dates) (clock : ReadClock) {question : Option String}
    (hquestion : readQuestion dates question clock.now =
      .ok (.ok (.window ⟨toISOString lo, toISOString hi⟩))) :
    (tr.flatMap fun x => responsesOf x.label.2.calls) = resolved.map (·.res) ∧
      (resolved.map (·.request)).Nodup ∧
      ∃ data g, s.control.read dates clock (.queryDecisions question) =
          .ok (.decisions (.aggregate data)) g ∧
        MatchesClients (fleetReplicas numerals c) (resolvedIn lo hi resolved) data := by
  obtain ⟨hresponses, honce, -, houtcomes, hproper, hfleet⟩ := System.answers_logged hw h₀ h
  rw [hresolved, List.map_map] at hresponses honce houtcomes
  have hin : ∀ x ∈ resolvedIn lo hi resolved, x.answer ∈ System.answers tr := by
    intro x hx
    rw [hresolved]
    exact List.mem_map_of_mem (List.mem_of_mem_filter hx)
  -- the window is not empty, so the tool answers
  have hsome' : DecisionLog.query s.control.decisions
      ⟨some (toISOString lo), some (toISOString hi)⟩ ≠ [] := by
    obtain ⟨d, hd, t, ht, hstamp, hbounds⟩ := hsome
    apply List.ne_nil_of_mem
    refine mem_queryRange_iff.mpr ⟨hd, ?_⟩
    rw [hstamp, contains_toISOString hlo hhi ht]
    exact decide_eq_true hbounds
  obtain ⟨g, hread⟩ := read_window hquestion hsome'
  exact ⟨hresponses, honce, _, g, hread, matchesClients_aggregate _
    (outcomes_of_window houtcomes hyears hlo hhi) (fun x hx => hproper x.answer (hin x hx))
    fun x hx => hfleet x.answer (hin x hx)⟩

/-! ### One question -/

def noon : String := "2025-10-11T12:00:00.000Z"

def fivePast : String := "2025-10-11T12:05:00.000Z"

/-- Dates of a machine on UTC, which read these two stamps. -/
def Dates.noonToFivePast : Dates where
  parse s :=
    if s = noon then timeClip 1760184000000
    else if s = fivePast then timeClip 1760184300000
    else none
  setHours date hour minute second ms := timeClip (date.ms / 86400000 * 86400000 +
    (hour * 3600000 + minute * 60000 + second * 1000 + ms : ℕ))

/-- A request that is served at noon, and one that the replica refuses. -/
def servedAndRefused : Except String (System ℕ Unit × System.Trace ℕ Unit × System ℕ Unit) := do
  let clock : Ambient := ⟨fun _ => "id", fun _ => noon⟩
  let s₀ ← start Numerals.counters defaultConfig
  let run ← replay (System.step .twoOne .oneRetry) s₀ [
    .probed "replica-1" ⟨true, 5, 0⟩ noon "e0",
    .request "request-1" () clock,
    .request "request-2" () clock,
    .settle 1 (.error (.request ⟨.httpStatus, "bad request", some 400⟩)) clock clock,
    .settle 0 (.ok ⟨(), 7⟩) clock clock]
  return (s₀, run)

theorem aggregates_equal_answers_servedAndRefused :
    ∃ (s : System ℕ Unit) (resolved : List (Resolved ℕ Unit)) (data : AggregateData ℕ)
      (g : Grounding), (resolved.map (·.res.status)) = [502, 200] ∧
      s.control.read Dates.noonToFivePast ⟨⟨1760184400000, by decide⟩, noon, noon⟩
        (.queryDecisions (some (failedBetween 1760184000000 1760184300000))) =
          .ok (.decisions (.aggregate data)) g ∧
      MatchesClients (fleetReplicas Numerals.counters defaultConfig)
        (resolvedIn 1760184000000 1760184300000 resolved) data := by
  have hnoon : toISOString 1760184000000 = noon := by decide +kernel
  have hfivePast : toISOString 1760184300000 = fivePast := by decide +kernel
  have hyear : FourDigitYear 1760184000000 := by decide +kernel
  have hyear' : FourDigitYear 1760184300000 := by decide +kernel
  have hparse : Dates.noonToFivePast.parse (toISOString 1760184000000) =
      some ⟨1760184000000, hyear.inRange⟩ := by
    rw [hnoon]
    rfl
  have hparse' : Dates.noonToFivePast.parse (toISOString 1760184300000) =
      some ⟨1760184300000, hyear'.inRange⟩ := by
    rw [hfivePast]
    rfl
  obtain ⟨⟨s₀, tr, s⟩, h, hc⟩ := exists_of_check servedAndRefused (fun run =>
    (System.answers run.2.1).all (·.atTime = noon) &&
      decide ((System.answers run.2.1).map (·.res.status) = [502, 200]) &&
      run.2.2.control.decisions.any (·.atTime = noon)) (by decide +kernel)
  obtain ⟨_, h₀, h⟩ := ok_of_bind h
  obtain ⟨_, hr, h⟩ := ok_of_bind h
  cases Except.ok.inj h
  simp only [Bool.and_eq_true, List.all_eq_true, List.any_eq_true, decide_eq_true_eq] at hc
  obtain ⟨⟨hstamps, hstatus⟩, d, hd, hstamp⟩ := hc
  have hresolved : System.answers tr = ((System.answers tr).map fun a =>
      (⟨a.request, 1760184000000, a.res⟩ : Resolved ℕ Unit)).map (·.answer) := by
    rw [List.map_map, ← List.map_id (System.answers tr), List.map_map]
    apply List.map_congr_left
    intro a ha
    obtain ⟨request, atTime, res⟩ := a
    have ha : atTime = noon := hstamps _ ha
    rw [ha, ← hnoon]
    rfl
  have hin : (1760184000000 : ℤ) ≤ 1760184000000 ∧ (1760184000000 : ℤ) ≤ 1760184300000 := by decide
  obtain ⟨-, -, data, g, hread, hmatches⟩ := aggregates_equal_answers (fun _ => rfl) h₀
    (exec_of_replay hr).1 hresolved (by simp [hyear]) hyear hyear'
    ⟨d, hd, 1760184000000, hyear, hstamp.trans hnoon.symm, hin⟩ Dates.noonToFivePast
    ⟨⟨1760184400000, by decide⟩, noon, noon⟩
    (readQuestion_failedBetween hyear hyear' (by decide) hparse hparse' _)
  refine ⟨s, _, data, g, ?_, hread, hmatches⟩
  rw [List.map_map]
  exact hstatus

end WhyRouted
