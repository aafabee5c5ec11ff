import WhyRouted.RequestCalls
import WhyRouted.Sampling

/-! # Health checking as a failure detector

What the record of a replica says of the replica.  A killed replica is found out after one probe
more than the threshold, and from then on is sent nothing until it is revived, whatever else
happens (`kill_detected`); a replica that is up is found to be up after one probe more than the
other threshold, unless a request ejects it meanwhile (`recovery_detected`).  The probe more is the
one that may lag behind.  And a replica that was never given a fault, and that no call has been lost
to, is never marked down (`no_false_alarm`). -/

namespace WhyRouted

/-! ### Successes alone -/

namespace ReplicaHysteresis

theorem run_replicate_succeeded (th : Thresholds) (n : ℕ) : run th (List.replicate n .succeeded) =
    ⟨if th.healthyThreshold ≤ n then .healthy else .unknown, 0, n⟩ := by
  have hM := th.healthy_pos
  induction n with
  | zero =>
      rw [if_neg (by omega)]
      rfl
  | succ n ih =>
      rw [List.replicate_succ', run_concat, ih]
      simp only [next]
      by_cases hn : th.healthyThreshold ≤ n
      · simp [hn, Nat.le_succ_of_le hn]
      · by_cases hn' : th.healthyThreshold ≤ n + 1 <;> simp [hn, hn']

end ReplicaHysteresis

namespace Fleet

variable {ν β : Type} [JsNumber ν] {deps : FleetDeps ν β} {c₀ c c' : Fleet ν β}
  {tr w w' : Trace ν β} {report : FleetReport ν β} {config : RoutingConfig ν} {r : String}

/-- The health the process has for a replica. -/
def healthOf (c : Fleet ν β) (r : String) : Option ReplicaHealth :=
  (c.main.control.health.record r).map (·.health)

/-- The replicas a step sends to. -/
def sendsBy (x : Stride ν β) : List String :=
  (x.label.2.main.map fun label => sentOf label.2.calls).getD []

/-! ### Nothing is sent to a replica that is not healthy -/

theorem healthy_of_sent (h₀ : boot deps config = .ok c₀) (h : Exec (Step deps) c₀ tr c)
    {a : FleetInput ν β} (hs : c.step deps a = .ok (c', report))
    (hr : r ∈ sendsBy (⟨c, (a, report), c'⟩ : Stride ν β)) : healthOf c' r = some .healthy := by
  have hmain' := exec_main (h.snoc (a := (a, report)) hs)
  have hmirrors := System.mirrors_of_exec (boot_spec h₀).1 hmain'
  have hsystem : ∀ {b : Input ν β} {main : System ν β} {mainReport : Report ν β},
      c.main.step deps.thresholds deps.route b = .ok (main, mainReport) → c'.main = main →
      r ∈ sentOf mainReport.calls → healthOf c' r = some .healthy := by
    rintro b _ mainReport hmain rfl hsent
    obtain ⟨-, hasked, -⟩ := System.step_case hmain
    obtain ⟨decision, hmem, hok⟩ := hasked.sent r hsent
    obtain ⟨engine, exclude, rfl⟩ := hasked.routed decision hmem
    obtain ⟨state, hscored, hid⟩ := route_ok engine _ _ _ hok
    obtain ⟨hitem, -, hhealthy, -⟩ := (mem_scoredReplicas _ _ _).mp hscored
    have hget : c'.main.control.registry.get? r = some state :=
      c'.main.control.registry.get?_eq_some_iff.mpr ⟨hitem, hid⟩
    unfold healthOf
    rw [hmirrors.record_eq hget]
    exact congrArg some hhealthy
  cases step_cases hs with
  | began hmain => exact hsystem hmain (dispatch_main ..) hr
  | tooled hmain => exact hsystem hmain rfl hr
  | resumed _ _ _ _ hmain => exact hsystem hmain (dispatch_main ..) hr
  | probed _ _ _ _ _ hmain => exact hsystem hmain rfl hr
  | _ => cases hr

/-! ### From a stretch of probes to the record -/

omit [JsNumber ν] in
/-- A stretch of probes cut where they are up to date. -/
theorem split_of_sampled {killed : Bool} (hsampled : Sampled killed r c c' w) {n : ℕ}
    (hn : n < (probesOf (history r w)).length) : ∃ old new, history r w = old ++ new ∧
      (∀ e ∈ probesOf new, e = showing killed) ∧ n ≤ (probesOf new).length := by
  obtain ⟨stale, m, hprobes, hlen, -⟩ := hsampled.probes
  rw [hprobes, List.length_append, List.length_replicate] at hn
  obtain ⟨old, new, hsplit, -, hnew⟩ := List.filter_eq_append_iff.mp hprobes
  have hnew : probesOf new = List.replicate m (showing killed) := hnew
  refine ⟨old, new, hsplit, fun e he => ?_, ?_⟩
  · rw [hnew] at he
    exact (List.mem_replicate.mp he).2
  · rw [hnew, List.length_replicate]
    omega

theorem healthOf_of_run (h₀ : boot deps config = .ok c₀) (h : Exec (Step deps) c₀ tr c)
    (hr : r ∈ deps.adapter.replicas.map (·.id)) :
    healthOf c r = some (ReplicaHysteresis.run deps.thresholds (history r tr)).health := by
  unfold healthOf
  rw [record_of_run h₀ h r, if_pos hr]
  rfl

/-- At the end of a stretch with enough probes a killed replica is known to be down. -/
theorem unhealthy_of_killed (h₀ : boot deps config = .ok c₀) (hpre : Exec (Step deps) c₀ tr c)
    (hw : Exec (Step deps) c w c') (hr : r ∈ deps.adapter.replicas.map (·.id))
    (hs : Steady true r c w)
    (hN : deps.thresholds.unhealthyThreshold < (probesOf (history r w)).length) :
    healthOf c' r = some .unhealthy := by
  obtain ⟨old, new, hsplit, hfailed, hlen⟩ := split_of_sampled (sampled_of_steady h₀ hpre hw hs) hN
  rw [healthOf_of_run h₀ (hpre.trans hw) hr, history_append, hsplit, ← List.append_assoc]
  exact congrArg some (unhealthy_of_failures _ _ hfailed hlen)

/-- At the end of one without an ejection a replica that is up is known to be up. -/
theorem healthy_of_alive (h₀ : boot deps config = .ok c₀) (hpre : Exec (Step deps) c₀ tr c)
    (hw : Exec (Step deps) c w c') (hr : r ∈ deps.adapter.replicas.map (·.id))
    (hs : Steady false r c w) (hejected : .ejected ∉ history r w)
    (hM : deps.thresholds.healthyThreshold < (probesOf (history r w)).length) :
    healthOf c' r = some .healthy := by
  obtain ⟨old, new, hsplit, hup, hlen⟩ := split_of_sampled (sampled_of_steady h₀ hpre hw hs) hM
  have hnot : ∀ e ∈ new, e ≠ .ejected := by
    rintro e he rfl
    exact hejected (by rw [hsplit]; exact List.mem_append_right _ he)
  rw [healthOf_of_run h₀ (hpre.trans hw) hr, history_append, hsplit, ← List.append_assoc]
  refine congrArg some (healthy_of_successes _ _ (fun e he hfailed => ?_) ?_ hlen)
  · have hprobe : e ∈ probesOf new := List.mem_filter.mpr ⟨he, by simp [hfailed]⟩
    rw [hup e hprobe] at hfailed
    cases hfailed
  · rintro w₁ w₂ rfl
    exact absurd rfl (hnot .ejected (by simp))

/-! ### Detection -/

omit [JsNumber ν] in
theorem lt_probes_append {n : ℕ} (hn : n < (probesOf (history r w)).length) (u : Trace ν β) :
    n < (probesOf (history r (w ++ u))).length := by
  rw [history_append, probesOf_append, List.length_append]
  omega

/-- **A killed replica is found out.**  In every run, from the moment a replica is killed until it
is revived, once more probes of it have been applied than its threshold of failures it is marked
unhealthy in every state and is sent nothing; whatever requests, operators and the network do. -/
theorem kill_detected (h₀ : boot deps config = .ok c₀) (hpre : Exec (Step deps) c₀ tr c)
    (hw : Exec (Step deps) c (w ++ w') c') (hr : r ∈ deps.adapter.replicas.map (·.id))
    (hs : Steady true r c (w ++ w'))
    (hN : deps.thresholds.unhealthyThreshold < (probesOf (history r w)).length) :
    ∀ x ∈ w', healthOf x.pre r = some .unhealthy ∧ healthOf x.post r = some .unhealthy ∧
      r ∉ sendsBy x := by
  intro x hx
  obtain ⟨u, v, rfl, hbefore, hstep, hafter⟩ := hw.split_of_mem hx
  have hs₁ : Steady true r c (w ++ u) := hs.mono (by simp; tauto)
  have hs₂ : Steady true r c (w ++ (u ++ [x])) := hs.mono (by simp; tauto)
  have hpost := unhealthy_of_killed h₀ hpre hafter hr hs₂ (lt_probes_append hN _)
  refine ⟨unhealthy_of_killed h₀ hpre hbefore hr hs₁ (lt_probes_append hN u), hpost,
    fun hsent => ?_⟩
  have hhealthy := healthy_of_sent h₀ (hpre.trans hbefore) hstep hsent
  rw [hpost] at hhealthy
  cases hhealthy

/-- A replica is killed; three probes of it fail, and a request comes. -/
def killedAndProbed : Except String (Stretch ℕ (Option (ReplicaReply ℕ))) :=
  performThen .small ⟨.roundRobin, ⟨1, 1⟩⟩
    [.pollAll, .health 0 0, .probeEvent 0 (.headers 5) "t0" "e0",
      .probeEvent 0 .bodyComplete "t0" "e0", .operator "replica-1" .kill]
    [.pollAll, .health 0 0, .probeEvent 0 (.headers 5) "t1" "e1", .pollAll, .health 0 0,
      .probeEvent 0 (.headers 5) "t2" "e2", .pollAll, .health 0 0,
      .probeEvent 0 (.headers 5) "t3" "e3", .request "request-1" none .still]

theorem kill_detected_killedAndProbed : ∃ x : Stride ℕ (Option (ReplicaReply ℕ)),
    x.pre.main.handlers.length = 0 ∧ x.post.main.handlers.length = 1 ∧
      healthOf x.post "replica-1" = some .unhealthy ∧ "replica-1" ∉ sendsBy x := by
  obtain ⟨run, h, hc⟩ := exists_of_check killedAndProbed (fun run =>
    (run.before.replicas "replica-1").killed &&
      decide (∀ x ∈ run.window, injectedBy x ≠ some ("replica-1", .revive)) &&
      decide (2 < (probesOf (history "replica-1" (run.window.take 9))).length) &&
      (run.window.drop 9).any fun x => decide (x.pre.main.handlers.length = 0) &&
        decide (x.post.main.handlers.length = 1)) (by decide)
  simp only [Bool.and_eq_true, decide_eq_true_eq, List.any_eq_true] at hc
  obtain ⟨⟨⟨hkilled, hstays⟩, hprobes⟩, x, hx, hpre, hpost⟩ := hc
  obtain ⟨hboot, hexec, hwindow⟩ := exec_of_performThen h
  rw [← List.take_append_drop 9 run.window] at hwindow hstays
  obtain ⟨-, hunhealthy, hunsent⟩ := kill_detected hboot hexec hwindow (by decide)
    ⟨hkilled, hstays, nofun⟩ hprobes x hx
  exact ⟨x, hpre, hpost, hunhealthy, hunsent⟩

/-- **And so is a recovery.**  In every run, while a replica is not killed, loses no probe and is
not ejected by a request, once more probes of it have been applied than its threshold of successes
it is marked healthy in every state; whatever `/infer` does. -/
theorem recovery_detected (h₀ : boot deps config = .ok c₀) (hpre : Exec (Step deps) c₀ tr c)
    (hw : Exec (Step deps) c (w ++ w') c') (hr : r ∈ deps.adapter.replicas.map (·.id))
    (hs : Steady false r c (w ++ w')) (hejected : .ejected ∉ history r (w ++ w'))
    (hM : deps.thresholds.healthyThreshold < (probesOf (history r w)).length) :
    ∀ x ∈ w', healthOf x.pre r = some .healthy ∧ healthOf x.post r = some .healthy := by
  intro x hx
  obtain ⟨u, v, rfl, hbefore, hstep, hafter⟩ := hw.split_of_mem hx
  have hs₁ : Steady false r c (w ++ u) := hs.mono (by simp; tauto)
  have hs₂ : Steady false r c (w ++ (u ++ [x])) := hs.mono (by simp; tauto)
  have hnone : .ejected ∉ history r (w ++ (u ++ [x])) := by
    rw [List.append_cons, ← List.append_assoc, history_append] at hejected
    exact fun h => hejected (List.mem_append_left _ h)
  have hnone' : .ejected ∉ history r (w ++ u) := by
    rw [← List.append_assoc, history_append] at hnone
    exact fun h => hnone (List.mem_append_left _ h)
  exact ⟨healthy_of_alive h₀ hpre hbefore hr hs₁ hnone' (lt_probes_append hM u),
    healthy_of_alive h₀ hpre hafter hr hs₂ hnone (lt_probes_append hM _)⟩

/-- A replica is revived and probed twice, and a request comes. -/
def revivedAndProbed : Except String (Stretch ℕ (Option (ReplicaReply ℕ))) :=
  performThen .small ⟨.roundRobin, ⟨1, 1⟩⟩
    [.operator "replica-1" .kill, .pollAll, .health 0 0, .operator "replica-1" .revive]
    [.probeEvent 0 (.headers 5) "t0" "e0", .pollAll, .health 0 0,
      .probeEvent 0 (.headers 5) "t1" "e1", .probeEvent 0 .bodyComplete "t1" "e1",
      .request "request-1" none .still]

theorem recovery_detected_revivedAndProbed : ∃ x : Stride ℕ (Option (ReplicaReply ℕ)),
    x.pre.main.handlers.length = 0 ∧ sendsBy x = ["replica-1"] ∧
      healthOf x.post "replica-1" = some .healthy := by
  obtain ⟨run, h, hc⟩ := exists_of_check revivedAndProbed (fun run =>
    !(run.before.replicas "replica-1").killed &&
      decide (∀ x ∈ run.window, injectedBy x ≠ some ("replica-1", .kill)) &&
      decide (∀ x ∈ run.window, lostBy x ≠ some "replica-1") &&
      decide (.ejected ∉ history "replica-1" run.window) &&
      decide (1 < (probesOf (history "replica-1" (run.window.take 5))).length) &&
      (run.window.drop 5).any fun x => decide (x.pre.main.handlers.length = 0) &&
        decide (sendsBy x = ["replica-1"])) (by decide)
  simp only [Bool.and_eq_true, decide_eq_true_eq, List.any_eq_true, Bool.not_eq_true'] at hc
  obtain ⟨⟨⟨⟨⟨halive, hstays⟩, hkept⟩, hejected⟩, hprobes⟩, x, hx, hpre, hsends⟩ := hc
  obtain ⟨hboot, hexec, hwindow⟩ := exec_of_performThen h
  rw [← List.take_append_drop 5 run.window] at hwindow hstays hkept hejected
  obtain ⟨-, hhealthy⟩ := recovery_detected hboot hexec hwindow (by decide)
    ⟨halive, hstays, fun _ => hkept⟩ hejected hprobes x hx
  exact ⟨x, hpre, hsends, hhealthy⟩

/-! ### No false alarm -/

/-- The replica whose send is lost or given up in a step. -/
def lostSendBy (x : Stride ν β) : Option String :=
  match x.label.1 with
  | .sendEvent j event =>
      if event.loses then (x.pre.transport.sends[j]?).map Prod.fst else none
  | _ => none

/-- No fault is injected into `r`, and no call to it is lost. -/
structure Untroubled (r : String) (tr : Trace ν β) : Prop where
  faults : ∀ x ∈ tr, ∀ mode, injectedBy x = some (r, mode) → mode = .revive
  probes : ∀ x ∈ tr, lostBy x ≠ some r
  sends : ∀ x ∈ tr, lostSendBy x ≠ some r

omit [JsNumber ν] in
theorem Untroubled.mono (hu : Untroubled r tr) (hsub : ∀ x ∈ w, x ∈ tr) : Untroubled r w :=
  ⟨fun x hx => hu.faults x (hsub x hx), fun x hx => hu.probes x (hsub x hx),
    fun x hx => hu.sends x (hsub x hx)⟩

/-- No fault stands at `r`. -/
def Faultless (r : String) (c : Fleet ν β) : Prop :=
  (c.replicas r).killed = false ∧ (c.replicas r).inferFailing = false

omit [JsNumber ν] in
theorem faultless_of_replicaStep {s s' : ReplicaApp} {a : ReplicaInput ν} {out : ReplicaOutput ν}
    (hs : s.killed = false ∧ s.inferFailing = false) (ha : ∀ mode, a = .admin mode → mode = .revive)
    (h : s.step a = .ok (s', out)) : s'.killed = false ∧ s'.inferFailing = false := by
  have hkilled : s'.killed = false := by
    refine killed_of_replicaStep hs.1 ?_ h
    rintro rfl
    cases ha _ rfl
  refine ⟨hkilled, ?_⟩
  cases a with
  | health baselineLoad => rw [ReplicaApp.eq_of_health h]; exact hs.2
  | admin mode =>
      obtain rfl := ha mode rfl
      obtain ⟨rfl, -⟩ := Prod.mk.inj (Except.ok.inj h)
      rfl
  | infer unparsed =>
      cases unparsed with
      | some status =>
          obtain ⟨rfl, -⟩ := Prod.mk.inj (Except.ok.inj h)
          exact hs.2
      | none =>
          have h : s.infer = (s', out) := Except.ok.inj h
          rw [ReplicaApp.infer, if_neg (by simp [hs])] at h
          obtain ⟨rfl, -⟩ := Prod.mk.inj h
          exact hs.2
  | wakes call servedAt latencyMs =>
      simp only [ReplicaApp.step] at h
      split_ifs at h
      obtain ⟨rfl, -⟩ := Prod.mk.inj (Except.ok.inj h)
      exact hs.2

theorem faultless_of_exec (h₀ : boot deps config = .ok c₀) (h : Exec (Step deps) c₀ tr c)
    (hu : Untroubled r tr) : Faultless r c := by
  induction h with
  | nil =>
      obtain ⟨-, -, hreplicas, -⟩ := boot_spec h₀
      rw [Faultless, hreplicas]
      exact ⟨rfl, rfl⟩
  | @snoc tr c₁ c₂ label hexec hs ih =>
      have hbefore := ih (hu.mono fun x hx => List.mem_append_left _ hx)
      have hlast := hu.faults ⟨c₁, label, c₂⟩ (by simp)
      obtain ⟨a, report⟩ := label
      cases replica_case hs with
      | none _ hsame =>
          rw [Faultless, hsame]
          exact hbefore
      | @one id b out replica hreport hreplica hset =>
          rw [Faultless, hset]
          by_cases hid : r = id
          · subst hid
            rw [Function.update_self]
            refine faultless_of_replicaStep hbefore (fun mode hb => hlast mode ?_) hreplica
            subst hb
            unfold injectedBy
            rw [hreport]
            rfl
          · rw [Function.update_of_ne hid]
            exact hbefore

/-- A send that settled did so by an answer. -/
def Delivered (call : HttpCall ν β (Settled ν β)) (x : Exchange ν (Settled ν β)) : Prop :=
  ∀ settled, x.wait = .settled settled →
    (∃ status, settled = call.notOk status) ∨
      ∃ latencyMs body, settled = call.bodyRead latencyMs body

omit [JsNumber ν] in
theorem Delivered.advance {call : HttpCall ν β (Settled ν β)} {x y : Exchange ν (Settled ν β)}
    {served : Served ν} {event : WireEvent ν} {e : NetEvent ν β} {decode : ReplicaReply ν → β}
    (hd : Delivered call x) (hdeliver : event.deliver decode served = some e)
    (hkept : event.loses = false) (h : call.advance x e = some y) : Delivered call y := by
  intro settled hsettled
  cases moves_of_advance h with
  | unreachable _ => cases event <;> simp [WireEvent.deliver, WireEvent.loses] at hdeliver hkept
  | answered _ _ => cases hsettled
  | notOk _ _ => exact Or.inl ⟨_, (Wait.settled.inj hsettled).symm⟩
  | fetchAborted _ => cases event <;> simp [WireEvent.deliver, WireEvent.loses] at hdeliver hkept
  | fired hwait => exact absurd hsettled (hwait _)
  | chunk _ => exact hd settled hsettled
  | bodyRead _ => exact Or.inr ⟨_, _, (Wait.settled.inj hsettled).symm⟩
  | bodyCut _ => cases event <;> simp [WireEvent.deliver, WireEvent.loses] at hdeliver hkept
  | bodyAborted _ => cases event <;> simp [WireEvent.deliver, WireEvent.loses] at hdeliver hkept

/-- Every send to `r` that settled did. -/
def AllDelivered (deps : FleetDeps ν β) (r : String) (c : Fleet ν β) : Prop :=
  ∀ (j : ℕ) (x : Exchange ν (Settled ν β)), c.transport.sends[j]? = some (r, x) →
    Delivered (deps.adapter.sendRequest r) x

theorem AllDelivered.dispatch {url : String} (hd : AllDelivered deps r c)
    (hr : deps.adapter.resolve r = .ok url) (i : ℕ) (sends : List (String × β)) :
    AllDelivered deps r (dispatch deps c i sends) := by
  induction sends generalizing c with
  | nil => exact hd
  | cons call sends ih =>
      refine ih fun j x hget => ?_
      simp only [Fleet.send, Transport.sendRequest] at hget
      cases hresolve : deps.adapter.resolve call.1 with
      | ok url' =>
          simp only [hresolve, List.getElem?_append] at hget
          split_ifs at hget
          · exact hd j x hget
          · obtain ⟨-, rfl⟩ := Prod.mk.inj (List.mem_singleton.mp (List.mem_of_getElem? hget))
            intro settled hsettled
            cases hsettled
      | error message =>
          simp only [hresolve, List.getElem?_append] at hget
          split_ifs at hget
          · exact hd j x hget
          · obtain ⟨rfl, -⟩ := Prod.mk.inj (List.mem_singleton.mp (List.mem_of_getElem? hget))
            cases hresolve.symm.trans hr

theorem delivered_of_exec (h₀ : boot deps config = .ok c₀) (h : Exec (Step deps) c₀ tr c)
    {url : String} (hr : deps.adapter.resolve r = .ok url) (hu : Untroubled r tr) :
    AllDelivered deps r c := by
  induction h with
  | nil =>
      obtain ⟨-, htransport, -⟩ := boot_spec h₀
      intro j x hget
      simp [htransport, Transport.idle] at hget
  | @snoc tr c₁ c₂ label hexec hs ih =>
      have hbefore := ih (hu.mono fun x hx => List.mem_append_left _ hx)
      have hlast := hu.sends ⟨c₁, label, c₂⟩ (by simp)
      obtain ⟨a, report⟩ := label
      cases step_cases hs with
      | @began _ _ _ main _ _ =>
          have hmain : AllDelivered deps r { c₁ with main } := hbefore
          exact hmain.dispatch hr _ _
      | @resumed j _ _ _ _ sent _ main _ _ _ _ _ _ =>
          have hmain : AllDelivered deps r
              { c₁ with main, sent := c₁.sent.set j { sent with resumed := true } } := hbefore
          exact hmain.dispatch hr _ _
      | @sendMoved j event id sent e x y _ hdeliver hsend hadvance =>
          intro k z hget
          by_cases hk : j = k
          · subst hk
            obtain ⟨hlt, -⟩ := List.getElem?_eq_some_iff.mp hsend
            rw [List.getElem?_set_self hlt] at hget
            obtain ⟨rfl, rfl⟩ := Prod.mk.inj (Option.some.inj hget)
            refine (hbefore j x hsend).advance hdeliver ?_ hadvance
            by_contra hloses
            exact hlast (by simp [lostSendBy, hloses, hsend])
          · rw [List.getElem?_set_ne hk] at hget
            exact hbefore k z hget
      | _ => exact hbefore

/-- What ejects a replica is a send to it that failed retryably. -/
theorem resumed_of_ejected (h₀ : boot deps config = .ok c₀) (h : Exec (Step deps) c₀ tr c)
    {a : FleetInput ν β} (hs : c.step deps a = .ok (c', report))
    (hevent : eventOf r (⟨c, (a, report), c'⟩ : Stride ν β) = some .ejected) :
    ∃ (j : ℕ) (sent : Sent ν β) (x : Exchange ν (Settled ν β)) (err : ReplicaRequestError),
      c.sent[j]? = some sent ∧ sent.replicaId = r ∧
      c.transport.sends[j]? = some (r, x) ∧ x.wait = .settled (.error (.request err)) ∧
      err.retryable = true ∧
      resumedBy (⟨c, (a, report), c'⟩ : Stride ν β) = some (j, .error (.request err)) := by
  obtain ⟨⟨b, mainReport⟩, hmain, hevent⟩ := Option.bind_eq_some_iff.mp hevent
  have hfailing : c.main.failing b = some r := by
    cases b with
    | probed id result now eventId =>
        simp only [System.eventOf, HealthResult.event] at hevent
        split_ifs at hevent <;> cases Option.some.inj hevent
    | _ =>
        simp only [System.eventOf] at hevent
        split_ifs at hevent with hfail
        exact hfail
  cases step_cases hs with
  | began _ =>
      obtain ⟨rfl, -⟩ := Prod.mk.inj (Option.some.inj hmain)
      cases hfailing
  | tooled _ =>
      obtain ⟨rfl, -⟩ := Prod.mk.inj (Option.some.inj hmain)
      cases hfailing
  | probed _ _ _ _ _ _ =>
      obtain ⟨rfl, -⟩ := Prod.mk.inj (Option.some.inj hmain)
      cases hfailing
  | @resumed j _ _ id x sent settled main report' hsend hsettled hsent hnot hstep =>
      obtain ⟨rfl, -⟩ := Prod.mk.inj (Option.some.inj hmain)
      simp only [System.failing] at hfailing
      split at hfailing
      next i err _ _ heq =>
        obtain ⟨rfl, rfl, -, -⟩ := Input.settle.inj heq
        split_ifs at hfailing with hretry
        -- the send the handler waits for is the one that settled
        obtain ⟨hd, decision, hget, hphase⟩ := System.sendingTo_eq_some_iff.mp hfailing
        obtain ⟨js, last, haccount⟩ := (accounted_of_exec h₀ h).each _ hd hget
        obtain ⟨-, hid, -⟩ := haccount.awaited hphase hsent rfl hnot
        obtain ⟨hid', -⟩ := forall₂_getElem? (wired_of_exec h₀ h).sends hsend hsent
        replace hid' : id = sent.replicaId := hid'
        rw [hid'.trans hid] at hsend
        exact ⟨j, sent, x, err, hsent, hid, hsend, hsettled, hretry, rfl⟩
      · cases hfailing
  | _ => cases hmain

/-- A send to a replica nothing is wrong with is served, unless `express.json()` has answered it. -/
theorem settled_of_untroubled (h₀ : boot deps config = .ok c₀) (h : Exec (Step deps) c₀ tr c)
    {url : String} (hr : deps.adapter.resolve r = .ok url) (hu : Untroubled r tr) {j : ℕ}
    {sent : Sent ν β} {id : String} {x : Exchange ν (Settled ν β)} {settled : Settled ν β}
    (hsent : c.sent[j]? = some sent) (hid : sent.replicaId = r)
    (hsend : c.transport.sends[j]? = some (id, x)) (hsettled : x.wait = .settled settled) :
    (∃ result, settled = .ok result) ∨ ∃ status err, deps.unparsed sent.payload = some status ∧
      settled = .error (.request err) ∧ err.kind = .httpStatus ∧ err.status = some status := by
  obtain ⟨hto, hrelays⟩ := forall₂_getElem? (wired_of_exec h₀ h).sends hsend hsent
  replace hto : id = sent.replicaId := hto
  obtain rfl := hto.trans hid
  rcases delivered_of_exec h₀ h hr hu j x hsend _ hsettled with ⟨status, hnotOk⟩ | ⟨_, _, hread⟩
  · right
    obtain ⟨-, htruth⟩ := truth_of_settled h₀ h hsent hsend hsettled
    rw [hnotOk] at htruth ⊢
    generalize hsettled' : (deps.adapter.sendRequest id).notOk status = settled' at htruth
    cases htruth with
    | lost _ hkind _ =>
        cases hsettled'
        exact absurd rfl hkind
    | refused hreached hfault _ _ _ =>
        obtain ⟨tr₁, tr₂, rfl, -⟩ := hreached
        obtain ⟨hkilled, hfailing⟩ := faultless_of_exec h₀ h.split.1
          (hu.mono fun x hx => List.mem_append_left _ hx)
        rw [hid] at hfault
        rcases hfault with hfault | hfault
        · cases hkilled.symm.trans hfault
        · cases hfailing.symm.trans hfault
    | @unparsed status' _ hstatus hending =>
        cases hending with
        | lost err' =>
            simp only [HttpReplicaAdapter.sendRequest] at hsettled'
            split_ifs at hsettled' <;> cases hsettled'
        | refused hanswered _ =>
            obtain rfl := Served.answered.inj hanswered
            exact ⟨status', _, hstatus, rfl, rfl, rfl⟩
        | read _ _ _ => cases hsettled'
        | cut _ _ _ => cases hsettled'
    | served _ _ _ _ _ => cases hsettled'
    | cut _ _ _ _ _ _ => cases hsettled'
  · exact Or.inl ⟨_, hread⟩

theorem not_ejected
    (hunparsed : ∀ payload status, deps.unparsed payload = some status → status < 500)
    (h₀ : boot deps config = .ok c₀) (h : Exec (Step deps) c₀ tr c) {url : String}
    (hr : deps.adapter.resolve r = .ok url) (hu : Untroubled r tr) {a : FleetInput ν β}
    (hs : c.step deps a = .ok (c', report)) :
    eventOf r (⟨c, (a, report), c'⟩ : Stride ν β) ≠ some .ejected := by
  intro hevent
  obtain ⟨j, sent, x, err, hsent, hid, hsend, hsettled, hretry, -⟩ :=
    resumed_of_ejected h₀ h hs hevent
  rcases settled_of_untroubled h₀ h hr hu hsent hid hsend hsettled with
    ⟨result, hok⟩ | ⟨status, err', hstatus, herr, hkind, hcode⟩
  · cases hok
  · obtain rfl := SendError.request.inj (Except.error.inj herr)
    have hlow := hunparsed _ status hstatus
    simp [ReplicaRequestError.retryable, retryableFailure, hkind, hcode] at hretry
    omega

theorem succeeded_of_untroubled
    (hunparsed : ∀ payload status, deps.unparsed payload = some status → status < 500)
    (h₀ : boot deps config = .ok c₀) (h : Exec (Step deps) c₀ tr c)
    (hr : r ∈ deps.adapter.replicas.map (·.id)) (hu : Untroubled r tr) :
    probesOf (history r tr) = history r tr ∧ ∃ n, history r tr = List.replicate n .succeeded := by
  obtain ⟨replica, hmem, hid⟩ := List.mem_map.mp hr
  obtain ⟨url, hurl⟩ := deps.adapter.resolve_of_mem hmem
  rw [hid] at hurl
  -- no event of the history is an ejection
  have hejected : ∀ e ∈ history r tr, e ≠ .ejected := by
    rintro e he rfl
    obtain ⟨x, hx, hevent⟩ := List.mem_filterMap.mp he
    obtain ⟨tr₁, tr₂, rfl⟩ := List.append_of_mem hx
    obtain ⟨hbefore, hstep, -⟩ := h.split
    exact not_ejected hunparsed h₀ hbefore hurl (hu.mono fun x hx => List.mem_append_left _ hx)
      hstep hevent
  -- and no probe failed
  have hsteady : Steady false r c₀ tr := by
    refine ⟨(faultless_of_exec h₀ Exec.nil (hu.mono (by simp))).1, fun x hx hinjected => ?_,
      fun _ x hx => hu.probes x hx⟩
    cases hu.faults x hx _ hinjected
  have hcurrent : Current false r c₀ := by
    obtain ⟨-, htransport, -⟩ := boot_spec h₀
    intro k exchange reply hget
    simp [htransport, Transport.idle] at hget
  obtain ⟨old, n, hprobes, -, hold⟩ := (sampled_of_steady h₀ Exec.nil h hsteady).probes
  rw [hold hcurrent, List.nil_append] at hprobes
  have hall : probesOf (history r tr) = history r tr :=
    List.filter_eq_self.mpr fun e he => by simpa using hejected e he
  exact ⟨hall, n, hall.symm.trans hprobes⟩

/-- **No false alarm.**  In every run in which a replica is given no fault and no call to it is
lost, nor answered 5xx by `express.json()`, it is never marked down: it is unknown until as many
probes of it have been applied as its threshold of successes, and healthy from then on. -/
theorem no_false_alarm
    (hunparsed : ∀ payload status, deps.unparsed payload = some status → status < 500)
    (h₀ : boot deps config = .ok c₀) (h : Exec (Step deps) c₀ tr c)
    (hr : r ∈ deps.adapter.replicas.map (·.id)) (hu : Untroubled r tr) :
    healthOf c r = some (if deps.thresholds.healthyThreshold ≤ (history r tr).length
      then .healthy else .unknown) := by
  obtain ⟨-, n, hhistory⟩ := succeeded_of_untroubled hunparsed h₀ h hr hu
  rw [healthOf_of_run h₀ h hr, hhistory, List.length_replicate]
  exact congrArg (fun run => some run.health)
    (ReplicaHysteresis.run_replicate_succeeded deps.thresholds n)

/-- A replica is probed and serves a request. -/
def probedAndServed : Except String (Fleet ℕ (Option (ReplicaReply ℕ)) ×
    Trace ℕ (Option (ReplicaReply ℕ)) × Fleet ℕ (Option (ReplicaReply ℕ))) :=
  perform .small ⟨.roundRobin, ⟨1, 1⟩⟩ [.pollAll, .health 0 0, .probeEvent 0 (.headers 5) "t0" "e0",
    .probeEvent 0 .bodyComplete "t0" "e0", .request "request-1" none .still, .infer 0,
    .wake 0 "t1" 7, .sendEvent 0 (.headers 8), .sendEvent 0 .bodyComplete, .resume 0 .still .still]

theorem no_false_alarm_probedAndServed : ∃ (tr : Trace ℕ (Option (ReplicaReply ℕ)))
    (c : Fleet ℕ (Option (ReplicaReply ℕ))), history "replica-1" tr = [.succeeded] ∧
      c.main.handlers.length = 1 ∧ healthOf c "replica-1" = some .healthy := by
  obtain ⟨⟨c₀, tr, c⟩, h, hc⟩ := exists_of_check probedAndServed (fun run =>
    decide (∀ x ∈ run.2.1, ∀ mode ∈ [FaultMode.kill, .failInfer],
        injectedBy x ≠ some ("replica-1", mode)) &&
      decide (∀ x ∈ run.2.1, lostBy x ≠ some "replica-1") &&
      decide (∀ x ∈ run.2.1, lostSendBy x ≠ some "replica-1") &&
      decide (history "replica-1" run.2.1 = [.succeeded]) &&
      decide (run.2.2.main.handlers.length = 1)) (by decide)
  simp only [Bool.and_eq_true, decide_eq_true_eq] at hc
  obtain ⟨⟨⟨⟨hfaults, hprobes⟩, hsends⟩, hhistory⟩, hhandlers⟩ := hc
  obtain ⟨hboot, hexec⟩ := exec_of_perform h
  have hu : Untroubled "replica-1" tr := by
    refine ⟨fun x hx mode hinjected => ?_, hprobes, hsends⟩
    cases mode with
    | kill => exact absurd hinjected (hfaults x hx .kill (by simp))
    | failInfer => exact absurd hinjected (hfaults x hx .failInfer (by simp))
    | revive => rfl
  have hhealth := no_false_alarm (fun _ _ hnone => by cases hnone) hboot hexec (by decide) hu
  rw [hhistory] at hhealth
  exact ⟨tr, c, hhistory, hhandlers, hhealth⟩

end Fleet

end WhyRouted
