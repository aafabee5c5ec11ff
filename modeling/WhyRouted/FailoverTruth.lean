import WhyRouted.DecisionTruth
import WhyRouted.FailoverHistory
import WhyRouted.RequestCalls
import WhyRouted.Sampling

/-! # The failover history is true of the fleet

An entry of the failover log says why a replica went down or came back: so many failed probes in a
row, so many healthy ones, or the failure of a request.  The log's two writers see neither the
replica nor the network, only what the adapter makes of them.  All the same each entry is true
(`failover_truthful`): the probes it counts are the replica's last ones, each lost or answered while
it was killed, or answered while it was up; and the request it names had been sent to that replica,
and the send had failed in the way it says. -/

namespace WhyRouted

namespace Fleet

variable {ν β : Type} [JsNumber ν] {deps : FleetDeps ν β} {c₀ c c' : Fleet ν β} {tr : Trace ν β}
  {report : FleetReport ν β} {config : RoutingConfig ν} {r : String}

/-! ### The last probes -/

omit [JsNumber ν] in
theorem event_ne_ejected (result : HealthResult ν) : result.event ≠ .ejected := by
  unfold HealthResult.event
  split_ifs <;> simp

omit [JsNumber ν] in
theorem probesOf_eventOf (s : System ν β) (r : String) (b : Input ν β) :
    probesOf (s.eventOf r b).toList = ((System.probeOf r b).map (·.event)).toList := by
  cases b with
  | probed id result now eventId =>
      by_cases hid : id = r
      · simp [System.eventOf, System.probeOf, hid, probesOf, event_ne_ejected]
      · simp [System.eventOf, System.probeOf, hid, probesOf]
  | _ =>
      simp only [System.eventOf, System.probeOf]
      split_ifs <;> rfl

omit [JsNumber ν] in
theorem probesOf_history (r : String) (tr : Trace ν β) :
    probesOf (history r tr) = (tr.filterMap (probedBy r)).map (·.event) := by
  induction tr using List.reverseRecOn with
  | nil => rfl
  | append_singleton tr x ih =>
      have hx : probesOf (eventOf r x).toList = ((probedBy r x).map (·.event)).toList := by
        unfold eventOf probedBy
        cases x.label.2.main with
        | none => rfl
        | some label => exact probesOf_eventOf x.pre.main r label.1
      rw [history_concat, probesOf_append, ih, hx, List.filterMap_append, List.map_append]
      cases h : probedBy r x <;> simp [h]

/-- The last `n` probes of `r` applied in the run all show `e`, and each of them what was so. -/
def LastProbes (deps : FleetDeps ν β) (tr : Trace ν β) (r : String) (n : ℕ) (e : HealthEvent) :
    Prop :=
  ∃ u w, tr = u ++ w ∧ (w.filterMap (probedBy r)).length = n ∧
    ∀ w₁ x w₂ result, w = w₁ ++ x :: w₂ → probedBy r x = some result →
      result.event = e ∧ Truth deps (u ++ w₁) r x result

theorem lastProbes_of_history (h₀ : boot deps config = .ok c₀) (h : Exec (Step deps) c₀ tr c)
    {n : ℕ} {e : HealthEvent}
    (hlast : ∃ earlier, probesOf (history r tr) = earlier ++ List.replicate n e) :
    LastProbes deps tr r n e := by
  obtain ⟨earlier, hprobes⟩ := hlast
  rw [probesOf_history, List.map_eq_append_iff] at hprobes
  obtain ⟨before, after, hsplit, -, hafter⟩ := hprobes
  obtain ⟨u, w, rfl, -, hw⟩ := List.filterMap_eq_append_iff.mp hsplit
  refine ⟨u, w, rfl, ?_, ?_⟩
  · have hlength := congrArg List.length hafter
    rwa [List.length_map, List.length_replicate, ← hw] at hlength
  · rintro w₁ x w₂ result rfl hx
    have hmem : result ∈ after := by
      rw [← hw]
      exact List.mem_filterMap.mpr ⟨x, by simp, hx⟩
    have hevent : result.event ∈ List.replicate n e := hafter ▸ List.mem_map_of_mem hmem
    rw [← List.append_assoc] at h
    obtain ⟨hpre, hstep, -⟩ := h.split
    exact ⟨List.eq_of_mem_replicate hevent,
      truth_of_step h₀ hpre hstep (probedBy_eq_some_iff.mp hx)⟩

/-! ### Entries -/

/-- What an entry says, when step `x` appended it after the run `tr`. -/
inductive EntryTruth (deps : FleetDeps ν β) (tr : Trace ν β) (x : Stride ν β) :
    FailoverEvent → Prop where
  /-- A send of the request to the replica had failed, and the request goes on from that. -/
  | request {j : ℕ} {sent : Sent ν β} {err : ReplicaRequestError} {hd : Handler ν β}
      {ambient ambient' : Ambient} (hx : x.label.1 = .resume j ambient ambient')
      (hresumed : resumedBy x = some (j, .error (.request err)))
      (hsent : x.pre.sent[j]? = some sent) (hget : x.pre.main.handlers[sent.request]? = some hd)
      (hretry : err.retryable = true) (htruth : SendTruth deps tr j sent (.error (.request err))) :
      EntryTruth deps tr x (hd.ejectEvent sent.replicaId err (ambient.uuid 0) (ambient.clock 0))
  /-- The replica's last probes had failed, as many as the entry says, with the one applied. -/
  | ejected {k : ℕ} {event : WireEvent ν} {id now eventId : String} {result : HealthResult ν}
      (hx : x.label.1 = .probeEvent k event now eventId) (hprobed : probedBy id x = some result)
      (hprobes : LastProbes deps (tr ++ [x]) id deps.thresholds.unhealthyThreshold .failed) :
      EntryTruth deps tr x { id := eventId, replicaId := id, kind := .ejected, atTime := now
                             trigger := .healthCheck, requestId := none
                             reason := FailoverEvents.failedProbes deps.thresholds }
  /-- They had succeeded. -/
  | recovered {k : ℕ} {event : WireEvent ν} {id now eventId : String} {result : HealthResult ν}
      (hx : x.label.1 = .probeEvent k event now eventId) (hprobed : probedBy id x = some result)
      (hprobes : LastProbes deps (tr ++ [x]) id deps.thresholds.healthyThreshold .succeeded) :
      EntryTruth deps tr x { id := eventId, replicaId := id, kind := .recovered, atTime := now
                             trigger := .healthCheck, requestId := none
                             reason := FailoverEvents.healthyProbes deps.thresholds }

/-- What a probe that changes a replica's health ends. -/
theorem lastProbes_of_change (h₀ : boot deps config = .ok c₀) (h : Exec (Step deps) c₀ tr c)
    {x : Stride ν β} (hpre : x.pre = c) (hstep : Step deps x.pre x.label x.post)
    {result : HealthResult ν} (hx : eventOf r x = some result.event) :
    ((ReplicaHysteresis.run deps.thresholds (history r tr)).health ≠ .unhealthy →
      ((ReplicaHysteresis.run deps.thresholds (history r tr)).next deps.thresholds
        result.event).health = .unhealthy →
      LastProbes deps (tr ++ [x]) r deps.thresholds.unhealthyThreshold .failed) ∧
    ((ReplicaHysteresis.run deps.thresholds (history r tr)).health ≠ .healthy →
      ((ReplicaHysteresis.run deps.thresholds (history r tr)).next deps.thresholds
        result.event).health = .healthy →
      LastProbes deps (tr ++ [x]) r deps.thresholds.healthyThreshold .succeeded) := by
  subst hpre
  have hhistory : history r (tr ++ [x]) = history r tr ++ [result.event] := by
    rw [history_concat, hx, Option.toList_some]
  refine ⟨fun hbefore hafter => ?_, fun hbefore hafter => ?_⟩
  · rw [← ReplicaHysteresis.run_concat] at hafter
    rcases (becomes_unhealthy_iff _ _ _ hbefore).mp hafter with ⟨-, hcount⟩ | hejected
    · rw [← hhistory] at hcount
      exact lastProbes_of_history h₀ (h.snoc hstep) (probesOf_of_failRun hcount)
    · exact absurd hejected (event_ne_ejected result)
  · rw [← ReplicaHysteresis.run_concat] at hafter
    obtain ⟨-, hcount⟩ := (becomes_healthy_iff _ _ _ hbefore).mp hafter
    rw [← hhistory] at hcount
    exact lastProbes_of_history h₀ (h.snoc hstep) (probesOf_of_okRun hcount)

theorem entry_of_probe (h₀ : boot deps config = .ok c₀) (h : Exec (Step deps) c₀ tr c)
    {x : Stride ν β} (hpre : x.pre = c) (hstep : Step deps x.pre x.label x.post) {k : ℕ}
    {wire : WireEvent ν} {id now eventId : String}
    (hlabel : x.label.1 = .probeEvent k wire now eventId) {result : HealthResult ν}
    (hprobed : probedBy id x = some result) (hx : eventOf id x = some result.event)
    {before : ReplicaHysteresis} (hrecord : c.main.control.health.record id = some before)
    {event : FailoverEvent} (hevent : ControlPlane.probeEvent deps.thresholds id before.health
      (before.next deps.thresholds result.event).health now eventId = some event) :
    EntryTruth deps tr x event := by
  rw [record_of_run h₀ h] at hrecord
  split_ifs at hrecord
  obtain rfl := Option.some.inj hrecord
  obtain ⟨hdown, hup⟩ := lastProbes_of_change h₀ h hpre hstep hx
  unfold ControlPlane.probeEvent at hevent
  split_ifs at hevent with hsame hunhealthy hhealthy
  · obtain rfl := Option.some.inj hevent
    refine .ejected hlabel hprobed (hdown (fun hbefore => ?_) hunhealthy)
    exact hsame (hbefore.trans hunhealthy.symm)
  · obtain rfl := Option.some.inj hevent
    refine .recovered hlabel hprobed (hup (fun hbefore => ?_) hhealthy.1)
    cases hbefore.symm.trans hhealthy.2

/-- **What one step appends** is one entry at most, and true. -/
theorem entry_of_step (h₀ : boot deps config = .ok c₀) (h : Exec (Step deps) c₀ tr c)
    {a : FleetInput ν β} (hs : c.step deps a = .ok (c', report)) :
    ∃ added : Option FailoverEvent,
      c'.main.control.failover = c.main.control.failover ++ added.toList ∧
      ∀ event, added = some event → EntryTruth deps tr ⟨c, (a, report), c'⟩ event := by
  have hmirrors := System.mirrors_of_exec (boot_spec h₀).1 (exec_main h)
  have hstep : Step deps c (a, report) c' := hs
  cases step_cases hs with
  | began hmain =>
      obtain ⟨added, hadded, hlogs⟩ := System.step_logs hmirrors hmain
      cases hlogs with
      | nothing _ => exact ⟨none, by rw [dispatch_main]; exact hadded, by simp⟩
  | tooled hmain =>
      obtain ⟨added, hadded, hlogs⟩ := System.step_logs hmirrors hmain
      cases hlogs with
      | nothing _ => exact ⟨none, hadded, by simp⟩
  | @resumed j ambient ambient' _ _ sent settled _ _ hsend hsettled hsent hnot hmain =>
      obtain ⟨added, hadded, hlogs⟩ := System.step_logs hmirrors hmain
      refine ⟨added, by rw [dispatch_main]; exact hadded, ?_⟩
      rintro event rfl
      cases hlogs with
      | @request _ err _ _ hd id hget hto hretry =>
          obtain ⟨sent', hsent', htruth⟩ := sendTruth_of_step h₀ h hs
            (show resumedBy _ = some (j, .error (.request err)) from rfl)
          obtain rfl := Option.some.inj (hsent.symm.trans hsent')
          -- the handler awaits the send it goes on with
          obtain ⟨hd', decision, hget', hphase⟩ := System.sendingTo_eq_some_iff.mp hto
          obtain rfl := Option.some.inj (hget.symm.trans hget')
          obtain ⟨js, last, haccount⟩ := (accounted_of_exec h₀ h).each _ hd hget
          obtain ⟨-, rfl, -⟩ := haccount.awaited hphase hsent rfl hnot
          exact .request rfl rfl hsent hget hretry htruth
  | @probed k event now eventId id _ _ _ _ _ result _ _ _ _ _ _ _ hmain =>
      obtain ⟨added, hadded, hlogs⟩ := System.step_logs hmirrors hmain
      refine ⟨added, hadded, fun entry hentry => ?_⟩
      cases hlogs with
      | nothing _ => cases hentry
      | probe _ _ _ _ =>
          obtain ⟨before, hrecord, hevent⟩ := Option.bind_eq_some_iff.mp hentry
          exact entry_of_probe h₀ h rfl hstep rfl (by simp [probedBy, System.probeOf])
            (by simp [eventOf, System.eventOf]) hrecord hevent
  | _ => exact ⟨none, (List.append_nil _).symm, by simp⟩

/-! ### Truth -/

/-- **The failover history is true.**  In every run, each entry of the log was appended in one step
of the run and says what happened: an ejection by health checks that the last probes of the replica
had failed, as many as its reason says, each lost or answered while the replica was killed; a
recovery that they had succeeded, each answered while it was up; and an ejection by a request that
a send of that request to the replica had failed in the way its reason says. -/
theorem failover_truthful (h₀ : boot deps config = .ok c₀) (h : Exec (Step deps) c₀ tr c) :
    ∀ event ∈ c.main.control.failover, ∃ tr₁ x tr₂, tr = tr₁ ++ x :: tr₂ ∧
      x.post.main.control.failover = x.pre.main.control.failover ++ [event] ∧
      EntryTruth deps tr₁ x event := by
  induction h with
  | nil =>
      obtain ⟨hwire, -⟩ := System.wire_of_boot (boot_spec h₀).1
      obtain ⟨_, _, hcp⟩ := ok_of_bind hwire
      have hempty : c₀.main.control.failover = [] := by rw [← Except.ok.inj hcp]
      simp [hempty]
  | @snoc tr c₁ c₂ label hexec hs ih =>
      obtain ⟨added, hadded, htruth⟩ := entry_of_step h₀ hexec hs
      intro event hmem
      rw [hadded] at hmem
      rcases List.mem_append.mp hmem with hold | hnew
      · obtain ⟨tr₁, x, tr₂, rfl, hentry⟩ := ih event hold
        exact ⟨tr₁, x, tr₂ ++ [⟨c₁, label, c₂⟩], by simp, hentry⟩
      · obtain rfl := Option.mem_toList.mp hnew
        exact ⟨tr, _, [], rfl, hadded, htruth event rfl⟩

/-- Two probes fail, one given up and one refused by the killed replica; it is revived, and one
succeeds; then a request to it is given up. -/
def downAndUp : Except String (Fleet ℕ (Option (ReplicaReply ℕ)) ×
    Trace ℕ (Option (ReplicaReply ℕ)) × Fleet ℕ (Option (ReplicaReply ℕ))) :=
  perform .small ⟨.roundRobin, ⟨1, 1⟩⟩ [.pollAll, .probeEvent 0 .timerFired "t0" "e0",
    .probeEvent 0 .abortDelivered "t0" "e0", .operator "replica-1" .kill, .pollAll, .health 0 0,
    .probeEvent 0 (.headers 5) "t1" "e1", .operator "replica-1" .revive, .pollAll, .health 0 0,
    .probeEvent 0 (.headers 5) "t2" "e2", .probeEvent 0 .bodyComplete "t2" "e2",
    .request "request-1" none .still, .infer 0, .sendEvent 0 .timerFired,
    .sendEvent 0 .abortDelivered, .resume 0 .still .still]

/-- All three entries are true. -/
theorem failover_truthful_downAndUp : ∃ (c : Fleet ℕ (Option (ReplicaReply ℕ))),
    c.main.control.failover.map (fun event => (event.kind, event.reason)) =
      [(.ejected, "2 consecutive failed probes"), (.recovered, "1 consecutive healthy probes"),
        (.ejected, "request failed: timeout")] ∧
    ∀ event ∈ c.main.control.failover, ∃ (tr₁ : Trace ℕ (Option (ReplicaReply ℕ)))
      (x : Stride ℕ (Option (ReplicaReply ℕ))),
      x.post.main.control.failover = x.pre.main.control.failover ++ [event] ∧
      EntryTruth .small tr₁ x event := by
  obtain ⟨⟨c₀, tr, c⟩, h, hc⟩ := exists_of_check downAndUp (fun run =>
    decide (run.2.2.main.control.failover.map (fun event => (event.kind, event.reason)) =
      [(.ejected, "2 consecutive failed probes"), (.recovered, "1 consecutive healthy probes"),
        (.ejected, "request failed: timeout")])) (by decide)
  obtain ⟨hboot, hexec⟩ := exec_of_perform h
  refine ⟨c, of_decide_eq_true hc, fun event hevent => ?_⟩
  obtain ⟨tr₁, x, -, -, hadded, hentry⟩ := failover_truthful hboot hexec event hevent
  exact ⟨tr₁, x, hadded, hentry⟩

end Fleet

end WhyRouted
