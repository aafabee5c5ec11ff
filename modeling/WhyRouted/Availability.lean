import WhyRouted.Completion
import WhyRouted.Detection
import WhyRouted.FailoverTruth
import WhyRouted.Reasons
import WhyRouted.RequestEndings

/-! # One good replica is enough

A request is only refused with 503 when no replica is left for it or its tries are used up.  So a
replica that is up, in reach and not drained keeps the service up, once health checking has seen it:
whatever happens to the others, a request is then refused only after as many failed tries as it has,
each at another replica (`available`).  In a fleet with no more replicas than tries that cannot
happen. -/

namespace WhyRouted

variable {ν β : Type} [JsNumber ν]

/-! ### What a request has tried it has ejected -/

namespace System

variable {th : Thresholds} {deps : RouteDeps ν β} {s s' : System ν β} {tr : Trace ν β} {i : ℕ}
  {hd : Handler ν β}

/-- A request that began in a stretch has ejected in it what it has tried. -/
theorem ejected_of_tried (h : Exec (Step th deps) s tr s') (hnew : s.handlers.length ≤ i)
    (hget : s'.handlers[i]? = some hd) :
    ∀ attempt ∈ hd.attempts, .ejected ∈ history attempt.replicaId tr := by
  induction h generalizing hd with
  | nil =>
      obtain ⟨hlt, -⟩ := List.getElem?_eq_some_iff.mp hget
      omega
  | @snoc tr s₁ s₂ label _ hs ih =>
      intro attempt hmem
      obtain ⟨a, report⟩ := label
      rw [history_concat]
      have hbefore : ∀ {old : Handler ν β}, s₁.handlers[i]? = some old → attempt ∈ old.attempts →
          .ejected ∈ history attempt.replicaId tr ++
            (s₁.eventOf attempt.replicaId a).toList :=
        fun hold hmem => List.mem_append_left _ (ih hold attempt hmem)
      cases handler_step hs with
      | @began h _ _ _ _ _ hattempts _ _ _ hset =>
          rw [hset, List.getElem?_append] at hget
          split_ifs at hget with hlt
          · exact hbefore hget hmem
          · obtain rfl := List.mem_singleton.mp (List.mem_of_getElem? hget)
            rw [hattempts] at hmem
            cases hmem
      | @resumed j old new decision replicaId settled _ _ _ hold hphase hwent _ hset =>
          rw [hset, List.getElem?_set] at hget
          split_ifs at hget with hj
          · subst hj
            obtain rfl := Option.some.inj hget
            cases hwent with
            | @retried err hretry _ hattempts _ _ =>
                rw [hattempts] at hmem
                rcases List.mem_append.mp hmem with hmem | hmem
                · exact hbefore hold hmem
                · obtain rfl := List.mem_singleton.mp hmem
                  have hsending : s₁.sendingTo j = some replicaId :=
                    sendingTo_eq_some_iff.mpr ⟨old, decision, hold, hphase⟩
                  refine List.mem_append_right _ ?_
                  simp [eventOf, failing, hretry, hsending]
            | failed _ hsame _ _ =>
                rw [hsame.attempts] at hmem
                exact hbefore hold hmem
            | served hsame _ _ =>
                rw [hsame.attempts] at hmem
                exact hbefore hold hmem
          · exact hbefore hget hmem
      | probed hset =>
          rw [hset] at hget
          exact hbefore hget hmem
      | tool hset =>
          rw [hset] at hget
          exact hbefore hget hmem

end System

namespace Fleet

variable {deps : FleetDeps ν β} {c₀ c c₁ c' : Fleet ν β} {tr w w' : Trace ν β}
  {config : RoutingConfig ν} {i : ℕ} {r : String} {hd : Handler ν β} {res : RouteResponse ν β}

theorem ejected_of_tried (hw : Exec (Step deps) c w c') (hnew : c.main.handlers.length ≤ i)
    (hget : c'.main.handlers[i]? = some hd) (hmem : r ∈ hd.attempts.map (·.replicaId)) :
    .ejected ∈ history r w := by
  obtain ⟨attempt, hattempt, rfl⟩ := List.mem_map.mp hmem
  rw [← history_mainTrace]
  exact System.ejected_of_tried (exec_main hw) hnew hget attempt hattempt

/-! ### What a good replica has -/

theorem measured_of_last (h₀ : boot deps config = .ok c₀) (h : Exec (Step deps) c₀ tr c)
    (hlast : (probesOf (history r tr)).getLast? = some .succeeded) {state : ReplicaState ν}
    (hget : c.main.control.registry.get? r = some state) : state.runtime.latencyMs ≠ none := by
  have hfigures := System.figures_of_run (boot_spec h₀).1 (exec_main h) hget
  rw [lastProbe_mainTrace] at hfigures
  rw [probesOf_history, List.getLast?_map] at hlast
  obtain ⟨result, hresult, hevent⟩ := Option.map_eq_some_iff.mp hlast
  rw [hresult] at hfigures
  have hlatency : state.runtime.latencyMs = result.measurement := congrArg Prod.snd hfigures
  rw [hlatency]
  unfold HealthResult.event at hevent
  split_ifs at hevent with halive
  simp [HealthResult.measurement, halive]

theorem last_of_alive (h₀ : boot deps config = .ok c₀) (hpre : Exec (Step deps) c₀ tr c)
    (hw : Exec (Step deps) c w c') (hs : Steady false r c w)
    (hM : deps.thresholds.healthyThreshold < (probesOf (history r w)).length) :
    (probesOf (history r (tr ++ w))).getLast? = some .succeeded := by
  obtain ⟨old, n, hprobes, hlen, -⟩ := (sampled_of_steady h₀ hpre hw hs).probes
  have hpos := deps.thresholds.healthy_pos
  have hn : n = n - 1 + 1 := by
    rw [hprobes, List.length_append, List.length_replicate] at hM
    omega
  rw [history_append, probesOf_append, hprobes, hn, List.replicate_succ', ← List.append_assoc,
    ← List.append_assoc, List.getLast?_concat]
  rfl

theorem attempts_lt (h₀ : boot deps config = .ok c₀) (h : Exec (Step deps) c₀ tr c)
    (hget : c.main.handlers[i]? = some hd) (hr : r ∈ deps.adapter.replicas.map (·.id))
    (huntried : r ∉ hd.attempts.map (·.replicaId)) :
    hd.attempts.length < deps.adapter.replicas.length := by
  obtain ⟨js, last, haccount⟩ := (accounted_of_exec h₀ h).each i hd hget
  have hdistinct := (List.nodup_append.mp haccount.distinct).1
  rw [haccount.exclude] at hdistinct
  have hle := (List.subperm_of_subset (List.nodup_cons.mpr ⟨huntried, hdistinct⟩)
    (List.cons_subset.mpr ⟨hr, tried_subset h₀ h hget⟩)).length_le
  rw [List.length_cons, List.length_map, List.length_map] at hle
  exact hle

/-- Nothing but its own tries keeps a request from a replica that is known to be up. -/
theorem tried_of_unpickable (h₀ : boot deps config = .ok c₀) (h : Exec (Step deps) c₀ tr c)
    (hr : r ∈ deps.adapter.replicas.map (·.id)) (hhealthy : healthOf c r = some .healthy)
    (hlast : (probesOf (history r tr)).getLast? = some .succeeded)
    (hactive : ¬ Standing (Drains r) (Restores r) tr) (hun : Unpickable deps tr c i hd r) :
    r ∈ hd.attempts.map (·.replicaId) := by
  cases hun with
  | drained hstanding => exact absurd hstanding hactive
  | unhealthy hhealth =>
      rw [healthOf_of_run h₀ h hr] at hhealthy
      exact absurd (Option.some.inj hhealthy) hhealth
  | tried hlisted _ => exact List.mem_map_of_mem hlisted
  | unmeasured _ hget hlatency _ => exact absurd hlatency (measured_of_last h₀ h hlast hget)

theorem not_drained (h₀ : boot deps config = .ok c₀) (h : Exec (Step deps) c₀ tr c)
    (hr : r ∈ deps.adapter.replicas.map (·.id)) (hactive : c.main.adminOf r ≠ some .drained)
    (hdrain : ∀ x ∈ w, x.label.1 ≠ .tool (.drainReplica r)) :
    ¬ Standing (Drains r) (Restores r) (tr ++ w) :=
  fun hstanding => hactive ((drained_iff_standing h₀ h hr).mpr (hstanding.of_append hdrain))

/-- **One good replica is enough.**  In every run, over a stretch in which a replica is not killed,
loses no probe and is not ejected, once more probes of it have been applied than its threshold of
successes and while it is not drained, a request that came in the stretch is answered 503 only when
its tries are used up, each at another replica: never, in a fleet of no more replicas than tries. -/
theorem available (h₀ : boot deps config = .ok c₀) (hpre : Exec (Step deps) c₀ tr c)
    (hw : Exec (Step deps) c w c₁) (hw' : Exec (Step deps) c₁ w' c')
    (hr : r ∈ deps.adapter.replicas.map (·.id)) (hs : Steady false r c (w ++ w'))
    (hejected : .ejected ∉ history r (w ++ w'))
    (hM : deps.thresholds.healthyThreshold < (probesOf (history r w)).length)
    (hactive : c₁.main.adminOf r ≠ some .drained)
    (hdrain : ∀ x ∈ w', x.label.1 ≠ .tool (.drainReplica r))
    (hnew : c.main.handlers.length ≤ i)
    (hopen : ∀ hd, c₁.main.handlers[i]? = some hd → hd.phase.finished = false)
    (hget : c'.main.handlers[i]? = some hd) (hphase : hd.phase = .responded res)
    (h503 : res.status = 503) : hd.attempts.length = deps.route.maxRetries + 1 ∧
      r ∉ hd.attempts.map (·.replicaId) ∧
      deps.route.maxRetries + 1 < deps.adapter.replicas.length := by
  have huntried : r ∉ hd.attempts.map (·.replicaId) :=
    fun hmem => hejected (ejected_of_tried (hw.trans hw') hnew hget hmem)
  have hlt := attempts_lt h₀ (hpre.trans (hw.trans hw')) hget hr huntried
  obtain ⟨w₁, x, w₂, rfl, -, -, hreason⟩ := explained_since h₀ (hpre.trans hw) hw' hopen hget hphase
  -- the replica could have been picked until the answer
  have hpickable : ¬ ∀ r ∈ deps.adapter.replicas.map (·.id),
      Unpickable deps (tr ++ w ++ (w₁ ++ [x])) x.post i hd r := by
    intro hfleet
    obtain ⟨hbefore, hstep, -⟩ := hw'.split
    have hupto : Exec (Step deps) c (w ++ (w₁ ++ [x])) x.post := hw.trans (hbefore.snoc hstep)
    have hsub : ∀ y ∈ w₁ ++ [x], y ∈ w₁ ++ x :: w₂ := by
      rw [List.append_cons w₁ x w₂]
      exact fun y hy => List.mem_append_left _ hy
    have hs' : Steady false r c (w ++ (w₁ ++ [x])) := hs.mono fun y hy => by
      rcases List.mem_append.mp hy with hy | hy
      · exact List.mem_append_left _ hy
      · exact List.mem_append_right _ (hsub y hy)
    have hungone : .ejected ∉ history r (w ++ (w₁ ++ [x])) := by
      rw [List.append_cons, ← List.append_assoc, history_append] at hejected
      exact fun hmem => hejected (List.mem_append_left _ hmem)
    have hM' := lt_probes_append hM (w₁ ++ [x])
    have hstanding := not_drained h₀ (hpre.trans hw) hr hactive fun y hy => hdrain y (hsub y hy)
    have hun := hfleet r hr
    rw [List.append_assoc] at hun hstanding
    exact huntried (tried_of_unpickable h₀ (hpre.trans hupto) hr
      (healthy_of_alive h₀ hpre hupto hr hs' hungone hM')
      (last_of_alive h₀ hpre hupto hs' hM') hstanding hun)
  cases hreason with
  | unpicked _ hfleet _ => exact absurd hfleet hpickable
  | abandoned _ hfleet => exact absurd hfleet hpickable
  | exhausted hlength => exact ⟨hlength, huntried, hlength ▸ hlt⟩
  | failed _ _ => cases h503
  | unwritten _ _ => cases h503
  | served _ => cases h503

def triple : FleetDeps ℕ (Option (ReplicaReply ℕ)) :=
  .of [⟨"replica-1", "http://127.0.0.1:8001"⟩, ⟨"replica-2", "http://127.0.0.1:8002"⟩,
    ⟨"replica-3", "http://127.0.0.1:8003"⟩]

/-- All are probed, and the second once more; a request is given up at the first and the third. -/
def secondUntried : Except String (Stretch ℕ (Option (ReplicaReply ℕ))) :=
  performThen triple ⟨.roundRobin, ⟨1, 1⟩⟩ [.pollAll, .health 0 0, .health 1 0, .health 2 0,
    .probeEvent 0 (.headers 5) "t0" "e0", .probeEvent 0 .bodyComplete "t0" "e0",
    .probeEvent 1 (.headers 5) "t1" "e1", .probeEvent 1 .bodyComplete "t1" "e1",
    .probeEvent 2 (.headers 5) "t2" "e2", .probeEvent 2 .bodyComplete "t2" "e2",
    .pollAll, .health 1 0, .probeEvent 1 (.headers 5) "t3" "e3",
    .probeEvent 1 .bodyComplete "t3" "e3"]
    [.request "request-1" none .still, .sendEvent 0 .timerFired, .sendEvent 0 .abortDelivered,
    .resume 0 .still .still, .sendEvent 1 .timerFired, .sendEvent 1 .abortDelivered,
    .resume 1 .still .still]

/-- Two tries were not enough for a fleet of three. -/
theorem available_secondUntried : ∃ hd : Handler ℕ (Option (ReplicaReply ℕ)),
    hd.attempts.length = 2 ∧ "replica-2" ∉ hd.attempts.map (·.replicaId) := by
  obtain ⟨run, hrun, hc⟩ := exists_of_check secondUntried (fun run =>
    decide ((run.start.replicas "replica-2").killed = false) &&
      decide (∀ x ∈ run.earlier ++ run.window, injectedBy x ≠ some ("replica-2", .kill)) &&
      decide (∀ x ∈ run.earlier ++ run.window, lostBy x ≠ some "replica-2") &&
      decide (.ejected ∉ history "replica-2" (run.earlier ++ run.window)) &&
      decide (1 < (probesOf (history "replica-2" run.earlier)).length) &&
      decide (run.before.main.adminOf "replica-2" ≠ some .drained) &&
      decide (∀ x ∈ run.window, asks "replica-2" x.label.1 = none) &&
      decide (run.start.main.handlers.length = 0) && decide (run.before.main.handlers.length = 0) &&
      (run.after.main.handlers[0]?).any fun hd => match hd.phase with
        | .responded res => decide (res.status = 503)
        | .routing => false
        | .sending _ _ => false
        | .rejected _ => false) (by decide)
  simp only [Bool.and_eq_true, decide_eq_true_eq] at hc
  obtain ⟨⟨⟨⟨⟨⟨⟨⟨⟨halive, hstays⟩, hkept⟩, hejected⟩, hprobes⟩, hactive⟩, hasks⟩, hnew⟩, hopen⟩,
    hres⟩ := hc
  obtain ⟨hd, hget, hres⟩ := (Option.any_eq_true _ _).mp hres
  obtain ⟨h₀, h, hw⟩ := exec_of_performThen hrun
  cases hphase : hd.phase with
  | responded res =>
      simp only [hphase, decide_eq_true_eq] at hres
      obtain ⟨hlength, huntried, -⟩ := available h₀ Exec.nil h hw (by decide)
        ⟨halive, hstays, fun _ => hkept⟩ hejected hprobes hactive
        (fun x hx hlabel => by
          have hdrains : asks "replica-2" x.label.1 = some .drained :=
            asks_eq_some_iff.mpr hlabel
          cases (hasks x hx).symm.trans hdrains)
        (by omega) (fun hd hbefore => by
          obtain ⟨hlt, -⟩ := List.getElem?_eq_some_iff.mp hbefore
          omega)
        hget hphase hres
      exact ⟨hd, hlength, huntried⟩
  | _ => simp [hphase] at hres

/-! ### A fleet nothing is wrong with -/

theorem served_of_untroubled (h₀ : boot deps config = .ok c₀) (h : Exec (Step deps) c₀ tr c)
    (hwell : ∀ r ∈ deps.adapter.replicas.map (·.id), Untroubled r tr) {j : ℕ} {sent : Sent ν β}
    {id : String} {x : Exchange ν (Settled ν β)} {settled : Settled ν β}
    (hsent : c.sent[j]? = some sent) (hparsed : deps.unparsed sent.payload = none)
    (hsend : c.transport.sends[j]? = some (id, x)) (hsettled : x.wait = .settled settled) :
    ∃ result, settled = .ok result := by
  have hr := mem_of_sent h₀ h sent (List.mem_of_getElem? hsent)
  obtain ⟨replica, hmem, hid⟩ := List.mem_map.mp hr
  obtain ⟨url, hurl⟩ := deps.adapter.resolve_of_mem hmem
  rw [hid] at hurl
  rcases settled_of_untroubled h₀ h hurl (hwell _ hr) hsent rfl hsend hsettled with
    hok | ⟨status, -, hstatus, -⟩
  · exact hok
  · cases hparsed.symm.trans hstatus

theorem attempts_of_untroubled (h₀ : boot deps config = .ok c₀) (h : Exec (Step deps) c₀ tr c)
    (hwell : ∀ r ∈ deps.adapter.replicas.map (·.id), Untroubled r tr)
    (hget : c.main.handlers[i]? = some hd) (hparsed : deps.unparsed hd.payload = none) :
    hd.attempts = [] := by
  obtain ⟨js, last, haccount⟩ := (accounted_of_exec h₀ h).each i hd hget
  refine List.eq_nil_iff_forall_not_mem.mpr fun attempt hattempt => ?_
  obtain ⟨j, -, err, -, -, ⟨sent, hsent, -, -, hpayload, -⟩, id, x, hsend, hsettled⟩ :=
    send_of_attempt haccount.attempts hattempt
  rw [← hpayload] at hparsed
  obtain ⟨result, hok⟩ := served_of_untroubled h₀ h hwell hsent hparsed hsend hsettled
  cases hok

/-- **A fleet nothing is wrong with serves every request.**  In every run in which no replica is
given a fault and no call is lost, once as many probes of one of them have been applied as its
threshold of successes and while that one is not drained, every request that is answered is served
by its first send, unless `express.json()` rejects its payload. -/
theorem well_served
    (hunparsed : ∀ payload status, deps.unparsed payload = some status → status < 500)
    (hwrites : WritesServed deps.route) (h₀ : boot deps config = .ok c₀)
    (hpre : Exec (Step deps) c₀ tr c) (hw : Exec (Step deps) c w c')
    (hwell : ∀ r ∈ deps.adapter.replicas.map (·.id), Untroubled r (tr ++ w))
    (hr : r ∈ deps.adapter.replicas.map (·.id))
    (hM : deps.thresholds.healthyThreshold ≤ (history r tr).length)
    (hactive : c.main.adminOf r ≠ some .drained)
    (hdrain : ∀ x ∈ w, x.label.1 ≠ .tool (.drainReplica r))
    (hopen : ∀ hd, c.main.handlers[i]? = some hd → hd.phase.finished = false)
    (hget : c'.main.handlers[i]? = some hd) (hphase : hd.phase = .responded res)
    (hparsed : deps.unparsed hd.payload = none) :
    ∃ replicaId strategy response latencyMs,
      res = ⟨200, .served replicaId strategy response latencyMs [] hd.requestId⟩ := by
  obtain ⟨w₁, x, w₂, rfl, -, hpost, hreason⟩ := explained_since h₀ hpre hw hopen hget hphase
  -- the run up to the answer
  obtain ⟨hbefore, hstep, -⟩ := hw.split
  have hupto : Exec (Step deps) c₀ (tr ++ (w₁ ++ [x])) x.post := hpre.trans (hbefore.snoc hstep)
  have hsub : ∀ y ∈ w₁ ++ [x], y ∈ w₁ ++ x :: w₂ := by
    rw [List.append_cons w₁ x w₂]
    exact fun y hy => List.mem_append_left _ hy
  have hwell' : ∀ r ∈ deps.adapter.replicas.map (·.id), Untroubled r (tr ++ (w₁ ++ [x])) :=
    fun r hr => (hwell r hr).mono fun y hy => by
      rcases List.mem_append.mp hy with hy | hy
      · exact List.mem_append_left _ hy
      · exact List.mem_append_right _ (hsub y hy)
  have hnone := attempts_of_untroubled h₀ hupto hwell' hpost hparsed
  cases hreason with
  | abandoned hsome _ => exact absurd hnone hsome
  | unpicked _ hfleet _ =>
      obtain ⟨hprobes, n, hhistory⟩ :=
        succeeded_of_untroubled hunparsed h₀ hupto hr (hwell' r hr)
      have hlength : deps.thresholds.healthyThreshold ≤ (history r (tr ++ (w₁ ++ [x]))).length := by
        rw [history_append, List.length_append]
        omega
      have hhealthy : healthOf x.post r = some .healthy := by
        rw [hhistory, List.length_replicate] at hlength
        rw [healthOf_of_run h₀ hupto hr, hhistory,
          ReplicaHysteresis.run_replicate_succeeded deps.thresholds n]
        exact congrArg some (if_pos hlength)
      have hpos := deps.thresholds.healthy_pos
      have hn : n = n - 1 + 1 := by
        rw [hhistory, List.length_replicate] at hlength
        omega
      have hlast : (probesOf (history r (tr ++ (w₁ ++ [x])))).getLast? = some .succeeded := by
        rw [hprobes, hhistory, hn, List.replicate_succ', List.getLast?_concat]
      have htried := tried_of_unpickable h₀ hupto hr hhealthy hlast
        (not_drained h₀ hpre hr hactive fun y hy => hdrain y (hsub y hy)) (hfleet r hr)
      rw [hnone] at htried
      cases htried
  | exhausted hlength =>
      rw [hnone] at hlength
      cases hlength
  | failed _ hfared =>
      obtain ⟨sent, hsent, hrequest, -, -⟩ := hfared.truth
      obtain ⟨id, exchange, hsend, hsettled⟩ := hfared.ended
      obtain ⟨js, last, haccount⟩ := (accounted_of_exec h₀ hupto).each i hd hpost
      rw [← haccount.payload hsent hrequest] at hparsed
      obtain ⟨result, hok⟩ := served_of_untroubled h₀ hupto hwell' hsent hparsed hsend hsettled
      cases hok
  | unwritten _ hwrite => cases (hwrites _ rfl).symm.trans hwrite
  | served _ =>
      rw [hnone]
      exact ⟨_, _, _, _, rfl⟩

/-- A replica is probed; then a request comes. -/
def probedThenAsked : Except String (Stretch ℕ (Option (ReplicaReply ℕ))) :=
  performThen .small ⟨.latencyWeighted, ⟨1, 1⟩⟩ [.pollAll, .health 0 0,
    .probeEvent 0 (.headers 5) "t0" "e0", .probeEvent 0 .bodyComplete "t0" "e0"]
    [.request "request-1" none .still, .infer 0, .wake 0 "t1" 7, .sendEvent 0 (.headers 8),
    .sendEvent 0 .bodyComplete, .resume 0 .still .still]

theorem well_served_probedThenAsked : ∃ (hd : Handler ℕ (Option (ReplicaReply ℕ)))
    (res : RouteResponse ℕ (Option (ReplicaReply ℕ))), hd.phase = .responded res ∧
      ∃ replicaId strategy response latencyMs,
        res = ⟨200, .served replicaId strategy response latencyMs [] hd.requestId⟩ := by
  obtain ⟨run, hrun, hc⟩ := exists_of_check probedThenAsked (fun run =>
    decide (∀ x ∈ run.earlier ++ run.window, ∀ mode ∈ [FaultMode.kill, .failInfer],
        injectedBy x ≠ some ("replica-1", mode)) &&
      decide (∀ x ∈ run.earlier ++ run.window, lostBy x ≠ some "replica-1") &&
      decide (∀ x ∈ run.earlier ++ run.window, lostSendBy x ≠ some "replica-1") &&
      decide (1 ≤ (history "replica-1" run.earlier).length) &&
      decide (run.before.main.adminOf "replica-1" ≠ some .drained) &&
      decide (∀ x ∈ run.window, asks "replica-1" x.label.1 = none) &&
      decide (run.before.main.handlers.length = 0) &&
      (run.after.main.handlers[0]?).any fun hd => match hd.phase with
        | .responded _ => true
        | .routing => false
        | .sending _ _ => false
        | .rejected _ => false) (by decide)
  simp only [Bool.and_eq_true, decide_eq_true_eq] at hc
  obtain ⟨⟨⟨⟨⟨⟨⟨hfaults, hprobes⟩, hsends⟩, hhistory⟩, hactive⟩, hasks⟩, hopen⟩, hres⟩ := hc
  obtain ⟨hd, hget, hres⟩ := (Option.any_eq_true _ _).mp hres
  obtain ⟨h₀, h, hw⟩ := exec_of_performThen hrun
  have hu : Untroubled "replica-1" (run.earlier ++ run.window) := by
    refine ⟨fun x hx mode hinjected => ?_, hprobes, hsends⟩
    cases mode with
    | kill => exact absurd hinjected (hfaults x hx .kill (by simp))
    | failInfer => exact absurd hinjected (hfaults x hx .failInfer (by simp))
    | revive => rfl
  cases hphase : hd.phase with
  | responded res =>
      refine ⟨hd, res, hphase, well_served (fun _ _ hnone => by cases hnone) (fun _ _ => rfl)
        h₀ h hw (fun r hr => ?_) (by decide : "replica-1" ∈ _) hhistory hactive
        (fun x hx hlabel => ?_) (fun hd hbefore => ?_) hget hphase rfl⟩
      · obtain rfl : r = "replica-1" := List.mem_singleton.mp hr
        exact hu
      · have hdrains : asks "replica-1" x.label.1 = some .drained := asks_eq_some_iff.mpr hlabel
        cases (hasks x hx).symm.trans hdrains
      · obtain ⟨hlt, -⟩ := List.getElem?_eq_some_iff.mp hbefore
        omega
  | _ => simp [hphase] at hres

end Fleet

end WhyRouted
