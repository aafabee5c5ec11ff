import WhyRouted.Grounding
import WhyRouted.Reasons
import WhyRouted.Wording

/-! # Explanations are true of the run

An operator who asks why a request went where it did is answered from the decision log, in strings.
By then the fleet has changed, and the request may have been retried through several states of it.
What each line says was so at the step in which its round was decided: what it says of a drain, of
the drains asked for by then; what it says of health, of the probes and the sends by then; of a
replica it says was open to the request, that nothing of the request had been sent there; and of one
it says was tried, that something had, and had failed (`explanation_truthful`).  There is a line for
each answer of the engine, where every served response can be written; where one cannot, the log
holds an array that the handler still pushes to, and its lines tell of a round that never was.  A
request can be explained exactly once it is over (`explained_iff_finished`). -/

namespace WhyRouted

variable {ν β : Type}

/-! ### What a read tool explains -/

section read

variable [JsNumber ν] {dates : Dates} {cp : ControlPlane ν} {clock : ReadClock}

/-- The explanation in what a read tool returns. -/
def explanationOf : ReadData ν → Option (ExplainRoutingDecisionData ν)
  | .fleet _ => none
  | .history _ => none
  | .explanation e => some e
  | .decisions (.explanation e) => some e
  | .decisions (.aggregate _) => none

theorem data_of_map {S T : Type} {f : S → T} {output : ToolOutput S} {value : T}
    {source : GroundingSource} {ids : List String} (h : output.map f = .data value source ids) :
    ∃ v, output = .data v source ids ∧ value = f v := by
  cases output with
  | data v source' ids' =>
      obtain ⟨rfl, rfl, rfl⟩ := ToolOutput.data.inj h
      exact ⟨v, rfl, rfl⟩
  | noData reason => cases h
  | invalidInput reason => cases h

theorem ok_of_map {S T : Type} {f : S → T} {output : Throws S} {value : T}
    (h : output.map f = .ok value) : ∃ v, output = .ok v ∧ f v = value := by
  cases output with
  | error message => cases h
  | ok v => exact ⟨v, rfl, Except.ok.inj h⟩

/-- A lookup explains the first decision of the request. -/
theorem lookup_eq_data {log : DecisionLog ν} {requestId : String}
    {e : ExplainRoutingDecisionData ν} {source : GroundingSource} {ids : List String}
    (h : log.lookup requestId = .data e source ids) :
    ∃ d ∈ log, d.requestId = requestId ∧ e = explainDecision d ∧ ids = [d.id] := by
  unfold DecisionLog.lookup at h
  cases hget : log.get? requestId with
  | none => simp [hget] at h
  | some d =>
      rw [hget] at h
      obtain ⟨rfl, -, rfl⟩ := ToolOutput.data.inj h
      have hid := List.find?_some hget
      exact ⟨d, List.mem_of_find?_eq_some hget, of_decide_eq_true hid, rfl, rfl⟩

theorem explained_of_call {requestId : Option String} {e : ExplainRoutingDecisionData ν}
    {source : GroundingSource} {ids : List String}
    (h : explainRoutingDecision cp.decisions requestId = .data e source ids) :
    ∃ d ∈ cp.decisions, e = explainDecision d ∧ ids = [d.id] := by
  cases requestId with
  | none => cases h
  | some requestId =>
      simp only [explainRoutingDecision] at h
      split_ifs at h
      obtain ⟨d, hmem, -, he⟩ := lookup_eq_data h
      exact ⟨d, hmem, he⟩

theorem explained_of_answer {asked : Except String Question} {value : QueryDecisionsData ν}
    {e : ExplainRoutingDecisionData ν} {source : GroundingSource} {ids : List String}
    (h : DecisionLog.answer cp.decisions asked = .data value source ids)
    (he : explanationOf (.decisions value) = some e) :
    ∃ d ∈ cp.decisions, e = explainDecision d ∧ ids = [d.id] := by
  cases asked with
  | error reason => cases h
  | ok asked =>
      cases asked with
      | point requestId =>
          obtain ⟨v, hlookup, rfl⟩ := data_of_map h
          obtain rfl := Option.some.inj he
          obtain ⟨d, hmem, -, hd⟩ := lookup_eq_data hlookup
          exact ⟨d, hmem, hd⟩
      | window range =>
          obtain ⟨v, -, rfl⟩ := data_of_map h
          cases he

/-- **What a read tool explains is on record.** -/
theorem explained_of_read {call : ReadCall} {value : ReadData ν} {g : Grounding}
    {e : ExplainRoutingDecisionData ν} (hread : cp.read dates clock call = .ok value g)
    (he : explanationOf value = some e) :
    ∃ d ∈ cp.decisions, e = explainDecision d ∧ g.recordIds = [d.id] := by
  have hout := dispatch_eq_ok hread
  cases call with
  | fleetStatus =>
      obtain ⟨v, -, rfl⟩ := data_of_map (Except.ok.inj hout)
      cases he
  | failoverHistory fromTime toTime last =>
      obtain ⟨output, -, hmap⟩ := ok_of_map hout
      obtain ⟨v, -, rfl⟩ := data_of_map hmap
      cases he
  | explainRoutingDecision requestId =>
      obtain ⟨v, hexplain, rfl⟩ := data_of_map (Except.ok.inj hout)
      obtain rfl := Option.some.inj he
      exact explained_of_call hexplain
  | queryDecisions question =>
      obtain ⟨output, hquery, hmap⟩ := ok_of_map hout
      obtain ⟨v, rfl, rfl⟩ := data_of_map hmap
      obtain ⟨asked, -, hanswer⟩ := ok_of_map hquery
      exact explained_of_answer hanswer he

theorem read_of_mem {requestId : String} (hblank : jsTrim requestId ≠ "") {d : Decision ν}
    (hd : d ∈ cp.decisions) (hid : d.requestId = requestId) (dates : Dates) (clock : ReadClock) :
    ∃ e g, cp.read dates clock (.explainRoutingDecision (some requestId)) =
      .ok (.explanation e) g ∧ e.decision ∈ cp.decisions ∧ e.decision.requestId = requestId := by
  cases hget : DecisionLog.get? cp.decisions requestId with
  | none => exact absurd (decide_eq_true hid) (List.find?_eq_none.mp hget d hd)
  | some first =>
      have hfirst := List.find?_some hget
      refine ⟨explainDecision first, ⟨.decisionLog, clock.queriedAt, [first.id]⟩, ?_,
        List.mem_of_find?_eq_some hget, of_decide_eq_true hfirst⟩
      simp only [ControlPlane.read, ControlPlane.readOutput, explainRoutingDecision, if_neg hblank,
        DecisionLog.lookup, hget]
      rfl

end read

/-! ### What a line says of a fleet -/

namespace Fleet

/-- The engine's answer to request `i` in a step. -/
def answerTo (i : ℕ) (x : Stride ν β) : Option (RouteResult ν) :=
  x.label.2.main.bind fun label => System.answerIn i ⟨x.pre.main, label, x.post.main⟩

/-- The send request `i` goes on from in a step, and what it came to. -/
def settledTo (i : ℕ) (x : Stride ν β) : Option (String × Settled ν β) :=
  x.label.2.main.bind fun label => System.settledIn i ⟨x.pre.main, label, x.post.main⟩

section truth

variable (deps : FleetDeps ν β) (tr : Trace ν β)

/-- The probes of `r` and the sends to it have made it healthy. -/
def Healthy [JsNumber ν] (r : String) : Prop :=
  (ReplicaHysteresis.run deps.thresholds (history r tr)).health = .healthy

/-- After the run `tr`, whose last step was in `c`, replica `r` is open to request `i`. -/
structure Open [JsNumber ν] (c : Fleet ν β) (i : ℕ) (r : String) : Prop where
  known : r ∈ deps.adapter.replicas.map (·.id)
  undrained : ¬ Standing (Drains r) (Restores r) tr
  healthy : Healthy deps tr r
  untried : ∀ sent ∈ c.sent, sent.request = i → sent.replicaId ≠ r

/-- What the line of round `k` says to request `i` is so after the run `tr`, whose last step `x`
was. -/
structure LineTruth [JsNumber ν] (x : Stride ν β) (i k : ℕ) (phrases : List (Phrase ν)) :
    Prop where
  label : ∀ phrase ∈ phrases, ∀ j, phrase.round = some j → j = k
  noHealthy : ∀ j, .noHealthy j ∈ phrases →
    ∀ r ∈ deps.adapter.replicas.map (·.id), ¬ Healthy deps tr r
  noneAvailable : ∀ j, .noneAvailable j ∈ phrases →
    ∀ r ∈ deps.adapter.replicas.map (·.id), Down deps tr r
  notPicked : ∀ j strategy n, .notPicked j strategy n ∈ phrases →
    strategy = x.post.main.control.config.strategyName.text ∧ n = 0 ∧
      ∃ hd, x.post.main.handlers[i]? = some hd ∧
        ∀ r ∈ deps.adapter.replicas.map (·.id), Unpickable deps tr x.post i hd r
  unhealthy : ∀ lead r, .excluded lead r .unhealthy ∈ phrases →
    r ∈ deps.adapter.replicas.map (·.id) ∧ ¬ Standing (Drains r) (Restores r) tr ∧
      ¬ Healthy deps tr r
  drained : ∀ lead r, .excluded lead r .drained ∈ phrases →
    r ∈ deps.adapter.replicas.map (·.id) ∧ Standing (Drains r) (Restores r) tr
  everyDrained : ∀ r ∈ deps.adapter.replicas.map (·.id), Standing (Drains r) (Restores r) tr →
    ∃ lead, .excluded lead r .drained ∈ phrases
  /-- The request had been sent to it, and the send had failed. -/
  alreadyTried : ∀ lead r, .excluded lead r .alreadyTried ∈ phrases →
    r ∈ deps.adapter.replicas.map (·.id) ∧ ¬ Standing (Drains r) (Restores r) tr ∧
      Healthy deps tr r ∧ ∃ j err, Fared deps tr x.post i j r (.error (.request err))
  picked : ∀ j strategy r word score, .picked j strategy r word score ∈ phrases →
    strategy = x.post.main.control.config.strategyName.text ∧ Open deps tr x.pre i r
  candidate : ∀ lead r word score, .candidate lead r word score ∈ phrases →
    Open deps tr x.pre i r
  /-- Unless a stated score is `NaN`, none is below the pick's. -/
  least : (∀ phrase ∈ phrases, ∀ scored, phrase.scores = some scored →
    JsNumber.isNaN scored.2 = false) → PickLeast phrases

/-- What an explanation says of request `i` is so in the run `tr` to `c`. -/
structure Explained [JsNumber ν] (c : Fleet ν β) (i : ℕ) (e : ExplainRoutingDecisionData ν) :
    Prop where
  text : e.lines.map (·.text) = (told e.decision).map written
  noRounds : .noRounds ∉ overviewTold e.decision
  /-- The replica it says has served the request has, in the time on record. -/
  served : ∀ r n, .served r n ∈ overviewTold e.decision →
    n = (tr.filterMap (answerTo i)).length ∧
      ∃ j sent, Fared deps tr c i j r (.ok sent) ∧ e.decision.latencyMs = some sent.latencyMs
  /-- Where it says that none has, none has. -/
  unserved : ∀ n, .unserved n ∈ overviewTold e.decision →
    n = (tr.filterMap (answerTo i)).length ∧ ∀ j r sent, ¬ Fared deps tr c i j r (.ok sent)
  /-- There is a line for each answer of the engine. -/
  rounds : e.decision.rounds.length = (tr.filterMap (answerTo i)).length
  /-- It is true of the run up to the step of that answer. -/
  lines : ∀ k round, e.decision.rounds[k]? = some round → ∃ tr₁ x tr₂ decision,
    tr = tr₁ ++ x :: tr₂ ∧ answerTo i x = some decision ∧
      (tr₁.filterMap (answerTo i)).length = k ∧ RoundOf decision round ∧
        LineTruth deps (tr₁ ++ [x]) x i k (roundTold k round)
  /-- The pick it says has failed has, and so. -/
  failed : ∀ k round kind status, e.decision.rounds[k]? = some round →
    .failed kind status ∈ roundTold k round → ∃ strategy r word score j err,
      .picked k strategy r word score ∈ roundTold k round ∧ err.kind = kind ∧
        err.status = status ∧ Fared deps tr c i j r (.error (.request err))

end truth

variable {deps : FleetDeps ν β} {c₀ c c' : Fleet ν β} {tr : Trace ν β} {report : FleetReport ν β}
  {i : ℕ} {r : String}

/-! ### The registry a round was decided on -/

section registry

variable [JsNumber ν] {config : RoutingConfig ν}

theorem state_of_run (h₀ : boot deps config = .ok c₀) (h : Exec (Step deps) c₀ tr c)
    {state : ReplicaState ν} (hmem : state ∈ c.main.control.registry.items) :
    state.id ∈ deps.adapter.replicas.map (·.id) ∧
      (state.admin = .drained ↔ Standing (Drains state.id) (Restores state.id) tr) ∧
      (state.runtime.health = .healthy ↔ Healthy deps tr state.id) := by
  have hm := System.mirrors_of_exec (boot_spec h₀).1 (exec_main h)
  have hget := c.main.control.registry.get?_eq_some_iff.mpr ⟨hmem, rfl⟩
  have hr := System.mem_of_known (boot_spec h₀).1 (exec_main h) (hm.record_eq hget)
  refine ⟨hr, ?_, ?_⟩
  · rw [← drained_iff_standing h₀ h hr, System.adminOf_of_get hget]
    exact Option.some_inj.symm
  · have hhealth := health_of_run h₀ h hr
    rw [System.healthOf_of_get hm hget] at hhealth
    unfold Healthy
    rw [Option.some.inj hhealth]

theorem exists_state (h₀ : boot deps config = .ok c₀) (h : Exec (Step deps) c₀ tr c)
    (hr : r ∈ deps.adapter.replicas.map (·.id)) :
    ∃ state ∈ c.main.control.registry.items, state.id = r := by
  obtain ⟨state, hget⟩ := System.registered_of_exec (boot_spec h₀).1 (exec_main h) hr
  exact ⟨state, c.main.control.registry.get?_eq_some_iff.mp hget⟩

/-- What stands against a replica in a round stands against it in the run. -/
theorem unpickable_of_barred (h₀ : boot deps config = .ok c₀) (h : Exec (Step deps) c₀ tr c)
    {hd : Handler ν β} (hget : c.main.handlers[i]? = some hd) {state : ReplicaState ν}
    (hmem : state ∈ c.main.control.registry.items)
    (hbarred : Barred c.main.control.config (some hd.exclude) state) :
    Unpickable deps tr c i hd state.id := by
  obtain ⟨hr, -, -⟩ := state_of_run h₀ h hmem
  have hm := System.mirrors_of_exec (boot_spec h₀).1 (exec_main h)
  have hstate := c.main.control.registry.get?_eq_some_iff.mpr ⟨hmem, rfl⟩
  refine unpickable_of_run h₀ h hget hr ?_
  cases hbarred with
  | drained hadmin => exact .drained (by rw [System.adminOf_of_get hstate, hadmin])
  | unhealthy hhealth =>
      refine .unhealthy fun hhealthy => hhealth ?_
      rw [System.healthOf_of_get hm hstate] at hhealthy
      exact Option.some.inj hhealthy
  | tried hmem => exact .tried hmem
  | unmeasured hstrategy hlatency => exact .unmeasured hstrategy hstate hlatency

theorem sent_of_asks (h₀ : boot deps config = .ok c₀) (h : Exec (Step deps) c₀ tr c)
    {a : Input ν β} {exclude : List String} (hasks : System.Asks c.main i a exclude) :
    ∀ sent ∈ c.sent, sent.request = i → sent.replicaId ∈ exclude := by
  intro sent hmem hrequest
  obtain ⟨j, hget⟩ := List.getElem?_of_mem hmem
  have haccounts := accounted_of_exec h₀ h
  cases hasks with
  | begins hlast =>
      have hlt := haccounts.known j sent hget
      omega
  | @resumes hd decision replicaId _ _ _ hold hphase =>
      obtain ⟨js, last, haccount⟩ := haccounts.each i hd hold
      cases haccount.closing with
      | @awaiting j₀ _ id₀ sent₀ hphase₀ hget₀ _ hid₀ _ _ =>
          obtain ⟨-, rfl⟩ := Phase.sending.inj (hphase.symm.trans hphase₀)
          rcases List.mem_append.mp (haccount.complete j sent hget hrequest) with hj | hj
          · obtain ⟨attempt, hattempt, err, -, -, hspent⟩ :=
              attempted_of_mem haccount.attempts hj
            obtain ⟨sent', hget', -, hid', -⟩ := hspent.sent
            obtain rfl := Option.some.inj (hget.symm.trans hget')
            rw [haccount.exclude, hid']
            exact List.mem_append_left _ (List.mem_map_of_mem hattempt)
          · obtain rfl := List.mem_singleton.mp hj
            obtain rfl := Option.some.inj (hget.symm.trans hget₀)
            rw [hid₀]
            exact List.mem_append_right _ (List.mem_singleton_self _)
      | unserved hfinished _ => rw [hphase] at hfinished; cases hfinished
      | failed _ _ hfinished _ => rw [hphase] at hfinished; cases hfinished
      | served _ hfinished _ => rw [hphase] at hfinished; cases hfinished

end registry

/-! ### What a record rests on -/

section records

variable [JsNumber ν] {config : RoutingConfig ν}

omit [JsNumber ν] in
/-- The evidence of a request is shown in steps of the fleet. -/
theorem evidence_mainTrace (tr : Trace ν β) (i : ℕ) : System.evidence (mainTrace tr) i =
    ⟨tr.filterMap (answerTo i), tr.filterMap (settledTo i)⟩ := by
  rw [System.evidence, filterMap_mainTrace, filterMap_mainTrace]
  rfl

theorem settled_of_step {a : FleetInput ν β} (h : c.step deps a = .ok (c', report)) {j : ℕ}
    {sent' : Sent ν β} (hget : c'.sent[j]? = some sent') (hresumed : sent'.resumed = true) :
    (∃ sent, c.sent[j]? = some sent ∧ sent.resumed = true) ∨
      ∃ id settled, settledTo sent'.request ⟨c, (a, report), c'⟩ = some (id, settled) ∧
        ∃ id' x, c.transport.sends[j]? = some (id', x) ∧ x.wait = .settled settled := by
  have hold : ∀ (d : Fleet ν β) (i : ℕ) (sends : List (String × β)),
      (dispatch deps d i sends).sent[j]? = some sent' → d.sent[j]? = some sent' := by
    intro d i sends hget
    rw [dispatch_sent, List.getElem?_append] at hget
    split_ifs at hget
    · exact hget
    · obtain ⟨call, -, rfl⟩ := List.mem_map.mp (List.mem_of_getElem? hget)
      cases hresumed
  cases step_cases h with
  | @began _ _ _ main report _ =>
      exact .inl ⟨sent', hold { c with main } _ (sendsOf report.calls) hget, hresumed⟩
  | @resumed k _ _ id x sent settled main mainReport hsend hsettled hsent _ hmain =>
      replace hget : (c.sent.set k { sent with resumed := true })[j]? = some sent' :=
        hold _ _ _ hget
      rw [List.getElem?_set] at hget
      split_ifs at hget with hk
      · subst hk
        obtain rfl := Option.some.inj hget
        obtain ⟨hd, replicaId, -, hto, -⟩ := System.settle_step hmain
        refine .inr ⟨replicaId, settled, ?_, id, x, hsend, hsettled⟩
        simp [settledTo, System.settledIn, hto]
      · exact .inl ⟨sent', hget, hresumed⟩
  | arrived hsent _ _ =>
      obtain ⟨sent, hget', hsame⟩ := resumed_of_set hsent hget
      exact .inl ⟨sent, hget', hsame.symm.trans hresumed⟩
  | woke hsent _ _ =>
      obtain ⟨sent, hget', hsame⟩ := resumed_of_set hsent hget
      exact .inl ⟨sent, hget', hsame.symm.trans hresumed⟩
  | _ => exact .inl ⟨sent', hget, hresumed⟩

theorem settled_of_resumed (h₀ : boot deps config = .ok c₀) (h : Exec (Step deps) c₀ tr c) {j : ℕ}
    {sent : Sent ν β} (hget : c.sent[j]? = some sent) (hresumed : sent.resumed = true) :
    ∃ id settled, (id, settled) ∈ tr.filterMap (settledTo sent.request) ∧
      ∃ id' x, c.transport.sends[j]? = some (id', x) ∧ x.wait = .settled settled := by
  induction h generalizing sent with
  | nil =>
      obtain ⟨-, -, -, -, hnone, -⟩ := boot_spec h₀
      simp [hnone] at hget
  | @snoc tr c₁ c₂ label hexec hs ih =>
      obtain ⟨a, report⟩ := label
      have hkeeps := keeps_of_step hs
      rw [List.filterMap_append]
      rcases settled_of_step hs hget hresumed with
        ⟨before, hbefore, hover⟩ | ⟨id, settled, hstep, id', x, hsend, hwait⟩
      · obtain ⟨after, hafter, hrequest, -⟩ := hkeeps.sent j before hbefore
        obtain rfl := Option.some.inj (hget.symm.trans hafter)
        obtain ⟨id, settled, hmem, id', x, hsend, hwait⟩ := ih hbefore hover
        rw [hrequest]
        exact ⟨id, settled, List.mem_append_left _ hmem, id', x,
          hkeeps.settled j id' x settled hsend hwait, hwait⟩
      · refine ⟨id, settled, List.mem_append_right _ ?_, id', x,
          hkeeps.settled j id' x settled hsend hwait, hwait⟩
        exact List.mem_filterMap.mpr ⟨_, List.mem_singleton_self _, hstep⟩

omit [JsNumber ν] in
theorem resumed_of_finished {hd : Handler ν β} {js : List ℕ} {last : Option (ℕ × String)}
    (ha : Account c i hd js last) (hfinished : hd.phase.finished = true) {j : ℕ} {sent : Sent ν β}
    (hget : c.sent[j]? = some sent) (hrequest : sent.request = i) : sent.resumed = true := by
  have hspent : ∀ {id : String} {settled : Settled ν β}, Spent c i j id hd.payload settled →
      sent.resumed = true := by
    rintro id settled ⟨⟨sent', hget', -, -, -, hresumed⟩, -⟩
    obtain rfl := Option.some.inj (hget.symm.trans hget')
    exact hresumed
  rcases List.mem_append.mp (ha.complete j sent hget hrequest) with hj | hj
  · obtain ⟨attempt, -, err, -, -, htried⟩ := attempted_of_mem ha.attempts hj
    exact hspent htried
  · cases ha.closing with
    | unserved _ _ => cases hj
    | awaiting hphase _ _ _ _ _ =>
        rw [hphase] at hfinished
        cases hfinished
    | failed hlast _ _ _ =>
        obtain rfl := List.mem_singleton.mp hj
        exact hspent hlast
    | served hlast _ _ =>
        obtain rfl := List.mem_singleton.mp hj
        exact hspent hlast

theorem told_of_fared (h₀ : boot deps config = .ok c₀) (h : Exec (Step deps) c₀ tr c)
    {hd : Handler ν β} (hget : c.main.handlers[i]? = some hd) (hfinished : hd.phase.finished = true)
    {j : ℕ} {settled : Settled ν β} (hfared : Fared deps tr c i j r settled) :
    ∃ id, (id, settled) ∈ (System.evidence (mainTrace tr) i).settled := by
  obtain ⟨⟨id, x, hsend, hwait⟩, sent, hsent, rfl, -, -⟩ := hfared
  obtain ⟨js, last, haccount⟩ := (accounted_of_exec h₀ h).each _ hd hget
  obtain ⟨id', settled', hmem, id'', x', hsend', hwait'⟩ := settled_of_resumed h₀ h hsent
    (resumed_of_finished haccount hfinished hsent rfl)
  obtain ⟨-, rfl⟩ := Prod.mk.inj (Option.some.inj (hsend.symm.trans hsend'))
  obtain rfl := Wait.settled.inj (hwait.symm.trans hwait')
  rw [evidence_mainTrace]
  exact ⟨id', hmem⟩

theorem fared_of_told (h₀ : boot deps config = .ok c₀) (h : Exec (Step deps) c₀ tr c)
    {settled : Settled ν β} (hmem : (r, settled) ∈ (System.evidence (mainTrace tr) i).settled) :
    ∃ j, Fared deps tr c i j r settled := by
  obtain ⟨y, hy, hsettled⟩ := List.mem_filterMap.mp hmem
  obtain ⟨x, hx, label, hlabel, rfl⟩ := mem_mainTrace.mp hy
  obtain ⟨tr₁, tr₂, rfl⟩ := List.append_of_mem hx
  obtain ⟨hpre, hstep, hafter⟩ := h.split
  obtain ⟨j, hfared⟩ := fared_of_goesOn h₀ hpre hstep hlabel (System.goesOn_of_settledIn hsettled)
  have hfared' := hfared.since h₀ (hpre.snoc hstep) hafter
  rw [List.append_assoc] at hfared'
  exact ⟨j, hfared'⟩

/-! ### What a record tells -/

theorem lineTruth_of_trueOf (h₀ : boot deps config = .ok c₀) (h : Exec (Step deps) c₀ tr c)
    {x : Stride ν β} (hpost : x.post = c) {hd : Handler ν β} (hget : c.main.handlers[i]? = some hd)
    (hsent : ∀ sent ∈ x.pre.sent, sent.request = i → sent.replicaId ∈ hd.exclude) {k : ℕ}
    {phrases : List (Phrase ν)} (hlabel : ∀ phrase ∈ phrases, ∀ j, phrase.round = some j → j = k)
    (hleast : (∀ phrase ∈ phrases, ∀ scored, phrase.scores = some scored →
      JsNumber.isNaN scored.2 = false) → PickLeast phrases)
    (htrue : TrueOf c.main.control.registry c.main.control.config (some hd.exclude) phrases) :
    LineTruth deps tr x i k phrases := by
  subst hpost
  have hopen : ∀ {r : String}, (∃ state ∈ x.post.main.control.registry.items, state.id = r ∧
      Offered (some hd.exclude) state) → Open deps tr x.pre i r := by
    rintro _ ⟨state, hmem, rfl, hactive, hhealthy, huntried⟩
    obtain ⟨hr, hdrained, hup⟩ := state_of_run h₀ h hmem
    refine ⟨hr, fun hstanding => ?_, hup.mp hhealthy, fun sent hmem hrequest hid => ?_⟩
    · cases hactive.symm.trans (hdrained.mpr hstanding)
    · exact huntried (hid ▸ hsent sent hmem hrequest)
  constructor
  · exact hlabel
  · intro j hphrase r hr hhealthy
    obtain ⟨state, hmem, rfl⟩ := exists_state h₀ h hr
    obtain ⟨-, -, hup⟩ := state_of_run h₀ h hmem
    exact htrue.noHealthy j hphrase state hmem (hup.mpr hhealthy)
  · intro j hphrase r hr
    obtain ⟨state, hmem, rfl⟩ := exists_state h₀ h hr
    obtain ⟨-, hdrained, hup⟩ := state_of_run h₀ h hmem
    exact (htrue.noneAvailable j hphrase state hmem).imp hdrained.mp (mt hup.mpr)
  · intro j strategy n hphrase
    obtain ⟨hstrategy, hnone, hbarred⟩ := htrue.notPicked j strategy n hphrase
    refine ⟨hstrategy, hnone, hd, hget, fun r hr => ?_⟩
    obtain ⟨state, hmem, rfl⟩ := exists_state h₀ h hr
    exact unpickable_of_barred h₀ h hget hmem (hbarred state hmem)
  · intro lead r hphrase
    obtain ⟨state, hmem, rfl, hactive, hhealth⟩ := htrue.unhealthy lead r hphrase
    obtain ⟨hr, hdrained, hup⟩ := state_of_run h₀ h hmem
    exact ⟨hr, fun hstanding => hactive (hdrained.mpr hstanding),
      fun hhealthy => hhealth (hup.mpr hhealthy)⟩
  · intro lead r hphrase
    obtain ⟨state, hmem, rfl, hadmin⟩ := htrue.drained lead r hphrase
    obtain ⟨hr, hdrained, -⟩ := state_of_run h₀ h hmem
    exact ⟨hr, hdrained.mp hadmin⟩
  · intro r hr hstanding
    obtain ⟨state, hmem, rfl⟩ := exists_state h₀ h hr
    obtain ⟨-, hdrained, -⟩ := state_of_run h₀ h hmem
    exact htrue.everyDrained state hmem (hdrained.mpr hstanding)
  · intro lead r hphrase
    obtain ⟨state, hmem, rfl, hactive, hhealthy, htried⟩ := htrue.alreadyTried lead r hphrase
    obtain ⟨hr, hdrained, hup⟩ := state_of_run h₀ h hmem
    obtain ⟨j, err, -, hfared⟩ := tried_of_mem h₀ h hget htried
    refine ⟨hr, fun hstanding => ?_, hup.mp hhealthy, j, err, hfared⟩
    cases hactive.symm.trans (hdrained.mpr hstanding)
  · intro j strategy r word score hphrase
    obtain ⟨hstrategy, hoffered⟩ := htrue.picked j strategy r word score hphrase
    exact ⟨hstrategy, hopen hoffered⟩
  · intro lead r word score hphrase
    exact hopen (htrue.candidate lead r word score hphrase)
  · exact hleast

variable {κ : Type} [LinearOrder κ]

/-- The line of an answer is true of the run up to it. -/
theorem lineTruth_of_answer (law : JsNumber.Lawful ν κ) (h₀ : boot deps config = .ok c₀)
    {x : Stride ν β} (hpre : Exec (Step deps) c₀ tr x.pre) (hstep : Step deps x.pre x.label x.post)
    {decision : RouteResult ν} (hanswer : answerTo i x = some decision) {round : DecisionRound ν}
    (hround : RoundOf decision round) (k : ℕ) :
    LineTruth deps (tr ++ [x]) x i k (roundTold k round) := by
  obtain ⟨label, hlabel, hanswer⟩ := Option.bind_eq_some_iff.mp hanswer
  have hmain : System.Step deps.thresholds deps.route x.pre.main label x.post.main :=
    (exec_main (Exec.single hstep)).step_of_mem
      (mem_mainTrace.mpr ⟨x, List.mem_singleton_self x, label, hlabel, rfl⟩)
  obtain ⟨_, hasks, ⟨hd, hget, rfl⟩, engine, hdecision⟩ := System.asked_of_answer hmain hanswer
  obtain ⟨reason, rfl⟩ := hround
  have hreports := reports_roundFor decision reason
  have hpicked := pickedReplicaId_recordedRound decision reason
  rw [hdecision] at hreports
  refine lineTruth_of_trueOf h₀ (hpre.snoc hstep) rfl hget (sent_of_asks h₀ hpre hasks)
    (fun phrase hphrase j => round_of_told hphrase) ?_ ?_
  · rw [hdecision]
    exact pickLeast_of_stated law hreports (hdecision ▸ hpicked) k
  · rw [hdecision]
    exact trueOf_round hreports (hdecision ▸ hpicked) k

/-- **An explanation of what is on record is true.** -/
theorem explained_of_recorded (law : JsNumber.Lawful ν κ) (hwrites : WritesServed deps.route)
    (h₀ : boot deps config = .ok c₀) (h : Exec (Step deps) c₀ tr c) {hd : Handler ν β}
    (hget : c.main.handlers[i]? = some hd) (hfinished : hd.phase.finished = true) {d : Decision ν}
    (hd : Recorded deps.route (System.evidence (mainTrace tr) i) d) :
    Explained deps tr c i (explainDecision d) := by
  have hinOrder : List.Forall₂ RoundOf (tr.filterMap (answerTo i)) d.rounds := by
    have h := hd.inOrder hwrites
    rwa [evidence_mainTrace] at h
  have hlength : d.rounds.length = (tr.filterMap (answerTo i)).length := hinOrder.length_eq.symm
  have hnonempty : ¬ d.rounds.length = 0 := fun h => hd.nonempty (List.length_eq_zero_iff.mp h)
  have hoverview : overviewTold d = d.chosenReplicaId.elim [.unserved d.rounds.length]
      fun id => [.served id d.rounds.length] := by
    unfold overviewTold
    rw [if_neg hnonempty]
    cases d.chosenReplicaId <;> rfl
  refine ⟨explainDecision_text d, ?_, fun r n hserved => ?_, fun n hunserved => ?_, hlength,
    fun k round hround => ?_, fun k round kind status hround htold => ?_⟩
  · change .noRounds ∉ overviewTold d
    rw [hoverview]
    cases d.chosenReplicaId <;> simp
  · change .served r n ∈ overviewTold d at hserved
    rw [hoverview] at hserved
    cases hchosen : d.chosenReplicaId with
    | none => simp [hchosen] at hserved
    | some id =>
        rw [hchosen, Option.elim_some, List.mem_singleton] at hserved
        obtain ⟨rfl, rfl⟩ := Phrase.served.inj hserved
        obtain ⟨sent, hsettled, hlatency⟩ := hd.chosen r hchosen
        obtain ⟨j, hfared⟩ := fared_of_told h₀ h hsettled
        exact ⟨hlength, j, sent, hfared, hlatency⟩
  · change .unserved n ∈ overviewTold d at hunserved
    rw [hoverview] at hunserved
    cases hchosen : d.chosenReplicaId with
    | some id => simp [hchosen] at hunserved
    | none =>
        rw [hchosen, Option.elim_none, List.mem_singleton] at hunserved
        obtain rfl := Phrase.unserved.inj hunserved
        refine ⟨hlength, fun j r sent hfared => ?_⟩
        obtain ⟨id, hmem⟩ := told_of_fared h₀ h hget hfinished hfared
        exact hd.unserved hwrites hchosen id sent hmem
  · obtain ⟨decision, hanswer, hof⟩ := exists_getElem?_of_forall₂ hinOrder.flip hround
    obtain ⟨tr₁, x, tr₂, rfl, hx, hcount⟩ := exists_of_getElem?_filterMap hanswer
    obtain ⟨hpre, hstep, -⟩ := h.split
    exact ⟨tr₁, x, tr₂, decision, rfl, hx, hcount, hof,
      lineTruth_of_answer law h₀ hpre hstep hx hof k⟩
  · obtain ⟨decision, -, reason, hreason, rfl⟩ := hd.rounds round (List.mem_of_getElem? hround)
    obtain ⟨id, err, ho, hsettled, hf⟩ := hreason _ (failed_of_told htold)
    obtain ⟨rfl, rfl⟩ := FailureReason.mk.inj hf
    obtain ⟨j, hfared⟩ := fared_of_told h₀ h hsettled
    have hout : DecisionRound.outcome { roundFor decision with failureReason := reason } =
        .picked := outcome_roundFor ho
    have hpicked := told_of_picked hout k
    rw [pickedReplicaId_roundFor ho] at hpicked
    exact ⟨_, id, _, _, j, err, hpicked, rfl, rfl, hfared⟩

/-! ### What the operator is told -/

variable {dates : Dates} {clock : ReadClock}

/-- **Explanations are true of the run.**  In every run in which served responses can be written,
whatever is asked of a read tool, an explanation it returns is of a request that is over, names the
one record it is of, and says of that request what was so: in the line of a round, at the step in
which the round was decided. -/
theorem explanation_truthful (law : JsNumber.Lawful ν κ) (hwrites : WritesServed deps.route)
    (h₀ : boot deps config = .ok c₀) (h : Exec (Step deps) c₀ tr c) {call : ReadCall}
    {value : ReadData ν} {g : Grounding} {e : ExplainRoutingDecisionData ν}
    (hread : c.main.control.read dates clock call = .ok value g)
    (he : explanationOf value = some e) : ∃ i hd, c.main.handlers[i]? = some hd ∧
      hd.requestId = e.decision.requestId ∧ hd.phase.finished = true ∧
      g.recordIds = [e.decision.id] ∧ Explained deps tr c i e := by
  obtain ⟨d, hd, rfl, hids⟩ := explained_of_read hread he
  obtain ⟨i, handler, hget, hid, hfinished, hrecorded⟩ :=
    (System.heard_of_exec (boot_spec h₀).1 (exec_main h)).decisions d hd
  exact ⟨i, handler, hget, hid, hfinished, hids,
    explained_of_recorded law hwrites h₀ h hget hfinished hrecorded⟩

/-- A lost try and a served one are told of as they were. -/
theorem explanation_truthful_runTwice : ∃ (tr : Trace ℕ (Option (ReplicaReply ℕ)))
    (c : Fleet ℕ (Option (ReplicaReply ℕ))) (i : ℕ) (e : ExplainRoutingDecisionData ℕ),
    e.decision.rounds.length = 2 ∧ Explained .pair tr c i e := by
  obtain ⟨⟨c₀, tr, c⟩, hrun, hc⟩ := exists_of_check runTwice (fun run =>
    decide (run.2.2.main.control.decisions.map (fun d => (d.requestId, d.rounds.length)) =
      [("request-1", 2)])) (by decide)
  obtain ⟨h₀, h⟩ := exec_of_perform hrun
  obtain ⟨d, hdecisions, hd⟩ := List.map_eq_singleton_iff.mp (of_decide_eq_true hc)
  obtain ⟨hid, hrounds⟩ := Prod.mk.inj hd
  obtain ⟨e, g, hread, hmem, -⟩ := read_of_mem (by decide : jsTrim "request-1" ≠ "")
    (hdecisions ▸ List.mem_singleton_self d) hid
    ⟨fun _ => none, fun _ _ _ _ _ => none⟩ ⟨⟨1760184000000, by decide⟩, "t3", "t3"⟩
  obtain ⟨i, hd, -, -, -, -, hexplained⟩ :=
    explanation_truthful (JsNumber.Lawful.exact ℕ) (fun _ _ => rfl) h₀ h hread rfl
  rw [hdecisions] at hmem
  rw [← List.mem_singleton.mp hmem] at hrounds
  exact ⟨tr, c, i, e, hrounds, hexplained⟩

/-- **A request can be explained exactly when it is over.**  In every run,
`explain_routing_decision` explains a request id if a request with that id is over, however it
ended; and finds nothing until then. -/
theorem explained_iff_finished (h₀ : boot deps config = .ok c₀)
    (h : Exec (Step deps) c₀ tr c) {requestId : String} (hblank : jsTrim requestId ≠ "") :
    (∃ e g, c.main.control.read dates clock (.explainRoutingDecision (some requestId)) =
      .ok (.explanation e) g ∧ e.decision.requestId = requestId) ↔
    ∃ hd ∈ c.main.handlers, hd.requestId = requestId ∧ hd.phase.finished = true := by
  have hheard := System.heard_of_exec (boot_spec h₀).1 (exec_main h)
  constructor
  · rintro ⟨e, g, hread, hid⟩
    obtain ⟨d, hd, rfl, -⟩ := explained_of_read hread rfl
    obtain ⟨i, handler, hget, hsame, hfinished, -⟩ := hheard.decisions d hd
    exact ⟨handler, List.mem_of_getElem? hget, hsame.trans hid, hfinished⟩
  · rintro ⟨handler, hmem, rfl, hfinished⟩
    obtain ⟨d, hd, hid⟩ := hheard.told handler hmem hfinished
    obtain ⟨e, g, hread, -, he⟩ := read_of_mem hblank hd hid dates clock
    exact ⟨e, g, hread, he⟩

/-- A replica is probed, and a request is sent to it. -/
def waitingRequest : Except String (Fleet ℕ (Option (ReplicaReply ℕ)) ×
    Trace ℕ (Option (ReplicaReply ℕ)) × Fleet ℕ (Option (ReplicaReply ℕ))) :=
  perform .small ⟨.roundRobin, ⟨1, 1⟩⟩ [.pollAll, .health 0 0, .probeEvent 0 (.headers 5) "t0" "e0",
    .probeEvent 0 .bodyComplete "t0" "e0", .request "request-1" none .still]

/-- It waits, and has no explanation yet. -/
theorem explained_iff_finished_waitingRequest : ∃ c : Fleet ℕ (Option (ReplicaReply ℕ)),
    c.main.handlers.map (fun hd => (hd.requestId, hd.phase.finished)) = [("request-1", false)] ∧
      ∀ (dates : Dates) (clock : ReadClock), ¬ ∃ e g, c.main.control.read dates clock
        (.explainRoutingDecision (some "request-1")) = .ok (.explanation e) g ∧
          e.decision.requestId = "request-1" := by
  obtain ⟨⟨c₀, tr, c⟩, hrun, hc⟩ := exists_of_check waitingRequest (fun run =>
    decide (run.2.2.main.handlers.map (fun hd => (hd.requestId, hd.phase.finished)) =
      [("request-1", false)])) (by decide)
  obtain ⟨h₀, h⟩ := exec_of_perform hrun
  have hhandlers := of_decide_eq_true hc
  refine ⟨c, hhandlers, fun dates clock hread => ?_⟩
  obtain ⟨hd, hmem, hid, hfinished⟩ :=
    (explained_iff_finished h₀ h (by decide : jsTrim "request-1" ≠ "")).mp hread
  have hpair := List.mem_map_of_mem (f := fun hd => (hd.requestId, hd.phase.finished)) hmem
  rw [hhandlers, hid, hfinished] at hpair
  simp at hpair

end records

end Fleet

end WhyRouted
