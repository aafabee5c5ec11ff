import Mathlib.Algebra.Order.BigOperators.Group.List
import WhyRouted.RequestTruth

/-! # Nothing waits on a replica

A replica may be dead, stuck or gone, and the process has calls in flight to it.  From every state a
run can reach, the timers, the network and the process's own handlers are enough to bring every
request to its end (`request_can_end`) and every sweep (`sweep_can_end`), and in few steps: no
replica has to do anything, and nothing else has to come.  A call in its first wait has its deadline
(`Timed`); one in its second wait has no timer, but then the replica has answered already, and the
rest of the answer only has to arrive. -/

namespace WhyRouted

/-! ### One call -/

section calls

variable {ν β ρ : Type} {call : HttpCall ν β ρ} {decode : ReplicaReply ν → β} {x y : Exchange ν ρ}
  {served : Served ν}

/-- A call that waits for its headers has its deadline before it, or behind. -/
def Exchange.Timed (x : Exchange ν ρ) : Prop :=
  x.wait = .headers → x.timer = .armed ∨ x.aborted = true

/-- How many events a call needs at most to settle. -/
def Exchange.left (x : Exchange ν ρ) : ℕ :=
  match x.wait with
  | .settled _ => 0
  | _ => if x.aborted then 1 else 2

theorem left_le (x : Exchange ν ρ) : x.left ≤ 2 := by
  unfold Exchange.left
  split
  · omega
  · split_ifs <;> omega

theorem Exchange.Guarded.timed (hg : x.Guarded) : x.Timed :=
  fun hwait => hg (pending_of_headers hwait)

theorem Exchange.Timed.advance (ht : x.Timed) {event : NetEvent ν β}
    (h : call.advance x event = some y) : y.Timed := by
  cases moves_of_advance h with
  | unreachable _ => exact (guarded_of_settled rfl).timed
  | answered _ _ => exact nofun
  | notOk _ _ => exact (guarded_of_settled rfl).timed
  | fetchAborted _ => exact (guarded_of_settled rfl).timed
  | fired _ => exact fun _ => Or.inr rfl
  | chunk _ => exact ht
  | bodyRead _ => exact (guarded_of_settled rfl).timed
  | bodyCut _ => exact (guarded_of_settled rfl).timed
  | bodyAborted _ => exact (guarded_of_settled rfl).timed

/-- **A pending call can always get on**, whatever its replica does. -/
theorem exists_advance (ht : x.Timed) (hr : Relays call decode x served)
    (hp : x.pending = true) : ∃ event e y, WireEvent.deliver decode served event = some e ∧
      call.advance x e = some y ∧ y.left < x.left := by
  obtain ⟨timer, aborted, wait⟩ := x
  cases wait with
  | settled result => cases hp
  | headers =>
      cases aborted with
      | true => exact ⟨.abortDelivered, _, _, rfl, rfl, Nat.one_pos⟩
      | false =>
          obtain rfl := (ht rfl).resolve_right Bool.false_ne_true
          exact ⟨.timerFired, _, _, rfl, rfl, Nat.one_lt_two⟩
  | body latencyMs =>
      cases aborted with
      | true => exact ⟨.abortDelivered, _, _, rfl, rfl, Nat.one_pos⟩
      | false =>
          -- the headers were the replica's, so it has answered
          obtain ⟨reply, rfl, -⟩ := hr.body latencyMs rfl
          exact ⟨.bodyComplete, _, _, rfl, rfl, Nat.two_pos⟩

end calls

namespace Fleet

variable {ν β : Type} [JsNumber ν] {deps : FleetDeps ν β} {c₀ c c' : Fleet ν β} {tr : Trace ν β}
  {report : FleetReport ν β} {config : RoutingConfig ν} {i j k : ℕ}

/-! ### What a run keeps -/

omit [JsNumber ν] in
theorem timed_set {ρ : Type} {calls : List (String × Exchange ν ρ)} (ht : ∀ p ∈ calls, p.2.Timed)
    {id : String} {y : Exchange ν ρ} (hy : y.Timed) (k : ℕ) :
    ∀ p ∈ calls.set k (id, y), p.2.Timed := by
  intro p hp
  rcases List.mem_or_eq_of_mem_set hp with hp | rfl
  · exact ht p hp
  · exact hy

/-- What the timers need of the calls in flight: every call is timed, and a sweep has no more of
them than there are replicas. -/
structure InTime (adapter : HttpReplicaAdapter ν) (s : Transport ν β) : Prop where
  probes : ∀ p ∈ s.probes, p.2.Timed
  sends : ∀ p ∈ s.sends, p.2.Timed
  sweep : s.probes.length ≤ adapter.replicas.length

theorem inTime_of_exec (h₀ : boot deps config = .ok c₀) (h : Exec (Step deps) c₀ tr c) :
    InTime deps.adapter c.transport := by
  obtain ⟨tr', hexec⟩ := exec_transport h
  rw [(boot_spec h₀).2.1] at hexec
  refine hexec.invariant (fun s label t hs ⟨hprobes, hsends, hsweep⟩ => ?_)
    ⟨by simp [Transport.idle], by simp [Transport.idle], Nat.zero_le _⟩
  obtain ⟨a, out⟩ := label
  cases Transport.step_cases hs with
  | skipped _ => exact ⟨hprobes, hsends, hsweep⟩
  | swept _ =>
      refine ⟨fun p hp => ?_, hsends, (List.length_map ..).le⟩
      obtain ⟨replica, -, rfl⟩ := List.mem_map.mp hp
      exact guarded_start.timed
  | sent hguarded =>
      refine ⟨hprobes, fun p hp => ?_, hsweep⟩
      rcases List.mem_append.mp hp with hp | hp
      · exact hsends p hp
      · rw [List.mem_singleton.mp hp]
        exact hguarded.timed
  | probe hget hadvance =>
      have hy := (hprobes _ (List.mem_of_getElem? hget)).advance hadvance
      exact ⟨timed_set hprobes hy _, hsends, (List.length_set ..).le.trans hsweep⟩
  | send hget hadvance =>
      have hy := (hsends _ (List.mem_of_getElem? hget)).advance hadvance
      exact ⟨hprobes, timed_set hsends hy _, hsweep⟩

omit [JsNumber ν] in
theorem mem_of_resolve {adapter : HttpReplicaAdapter ν} {id url : String}
    (h : adapter.resolve id = .ok url) : id ∈ adapter.replicas.map (·.id) := by
  unfold HttpReplicaAdapter.resolve at h
  split at h
  next replica hfind =>
    have hid : replica.id = id := by simpa using List.find?_some hfind
    exact List.mem_map.mpr ⟨replica, List.mem_reverse.mp (List.mem_of_find?_eq_some hfind), hid⟩
  · cases h

theorem mem_of_sent (h₀ : boot deps config = .ok c₀) (h : Exec (Step deps) c₀ tr c) :
    ∀ sent ∈ c.sent, sent.replicaId ∈ deps.adapter.replicas.map (·.id) := by
  induction h with
  | nil =>
      obtain ⟨-, -, -, -, hsent, -⟩ := boot_spec h₀
      simp [hsent]
  | @snoc tr c₁ c₂ label hexec hs ih =>
      intro sent hmem
      have hmessage := List.mem_map_of_mem (f := messageOf) hmem
      rw [messages_of_step hs] at hmessage
      rcases List.mem_append.mp hmessage with hold | hnew
      · obtain ⟨sent', hmem', heq⟩ := List.mem_map.mp hold
        obtain ⟨hid, -⟩ := Prod.mk.inj heq
        exact hid ▸ ih sent' hmem'
      · obtain ⟨y, hy, hcall⟩ := List.mem_flatMap.mp hnew
        obtain ⟨main, -, rfl⟩ : ∃ main, label.2.main = some main ∧
            ⟨c₁.main, main, c₂.main⟩ = y := by
          simpa [mainOf] using hy
        have hmain := (exec_main (Exec.single hs)).step_of_mem (by simpa [mainTrace] using hy)
        obtain ⟨url, hurl⟩ := resolve_of_sends h₀ hexec hmain _ hcall
        exact mem_of_resolve hurl

/-! ### A sweep -/

/-- The timer, the network and the adapter get on with a probe of the sweep. -/
def ProbeStep (x : Stride ν β) : Prop :=
  ∃ k event now eventId, x.label.1 = .probeEvent k event now eventId

/-- A step of the system is one of the fleet. -/
theorem mainStep_returns {a : Input ν β} {main : System ν β} {mainReport : Report ν β}
    (hmain : c.main.step deps.thresholds deps.route a = .ok (main, mainReport)) :
    c.mainStep deps i a = .ok (dispatch deps { c with main } i (sendsOf mainReport.calls),
      { main := some (a, mainReport) }) := by
  simp only [mainStep, hmain]
  rfl

theorem probe_steps (h₀ : boot deps config = .ok c₀) (h : Exec (Step deps) c₀ tr c) {k : ℕ}
    {id : String} {x y : Exchange ν (HealthResult ν)} {q : String × Served ν} {event : WireEvent ν}
    {e : NetEvent ν (HttpReplicaAdapter.ProbeBody ν)}
    (hget : c.transport.probes[k]? = some (id, x)) (hprobed : c.probed[k]? = some q)
    (hdeliver : event.deliver ReplicaReply.probeBody q.2 = some e)
    (hadvance : deps.adapter.checkHealth.advance x e = some y) (now eventId : String) :
    ∃ c' report, c.step deps (.probeEvent k event now eventId) = .ok (c', report) ∧
      c'.transport.probes = c.transport.probes.set k (id, y) := by
  obtain ⟨id', served⟩ := q
  have hstep := step_probe hget hadvance
  cases hresult : y.result with
  | none =>
      rw [hresult] at hstep
      exact ⟨_, _, by simp only [step, hprobed, hdeliver, hstep]; rfl, rfl⟩
  | some result =>
      rw [hresult] at hstep
      obtain ⟨main, report, hmain⟩ := System.step_returns (boot_spec h₀).1 (exec_main h)
        (a := .probed id result now eventId) trivial
      have hreturns := mainStep_returns (c := { c with transport := Transport.release {
        c.transport with probes := c.transport.probes.set k (id, y) } })
        (i := c.main.handlers.length) hmain
      refine ⟨_, _, Eq.trans ?_ hreturns, dispatch_probes ..⟩
      simp only [step, hprobed, hdeliver, hstep]
      rfl

/-- **A sweep ends without its replicas.**  From every state of a run the timers, the network and
the adapter alone can end the sweep, in two steps for each replica. -/
theorem sweep_can_end (h₀ : boot deps config = .ok c₀) (h : Exec (Step deps) c₀ tr c) :
    ∃ w c', Exec (Step deps) c w c' ∧ c'.transport.polling = false ∧ (∀ x ∈ w, ProbeStep x) ∧
      w.length ≤ 2 * deps.adapter.replicas.length := by
  refine exists_exec_of_rank (P := fun c : Fleet ν β => c.transport.polling = false)
    (R := fun n c => (∃ tr, Exec (Step deps) c₀ tr c) ∧
      (c.transport.probes.map (·.2.left)).sum ≤ n) (fun n c hR hpolling => ?_) ⟨⟨tr, h⟩, ?_⟩
  · obtain ⟨⟨tr, h⟩, hle⟩ := hR
    -- the latch is held by a pending probe
    obtain ⟨tr', hexec⟩ := exec_transport h
    rw [(boot_spec h₀).2.1] at hexec
    have hpending : c.transport.probes.any (·.2.pending) = true :=
      (Transport.latchExact_of_exec hexec).symm.trans (by simpa using hpolling)
    obtain ⟨⟨id, x⟩, hmem, hp⟩ := List.any_eq_true.mp hpending
    obtain ⟨k, hget⟩ := List.getElem?_of_mem hmem
    obtain ⟨q, hprobed, -, hrelays⟩ := exists_getElem?_of_forall₂ (wired_of_exec h₀ h).probes hget
    obtain ⟨event, e, y, hdeliver, hadvance, hlt⟩ :=
      exists_advance ((inTime_of_exec h₀ h).probes _ hmem) hrelays hp
    obtain ⟨c', report, hstep, hset⟩ := probe_steps h₀ h hget hprobed hdeliver hadvance "" ""
    refine ⟨_, lt_of_lt_of_le ?_ hle, (.probeEvent k event "" "", report), c', hstep,
      ⟨k, event, "", "", rfl⟩, ⟨_, h.snoc (a := (_, report)) hstep⟩,
      le_rfl⟩
    have hless : ((c.transport.probes.set k (id, y)).map (·.2.left)).sum <
        (c.transport.probes.map (·.2.left)).sum := sum_map_set_lt _ hget hlt
    rwa [hset]
  · have hsum : (c.transport.probes.map (·.2.left)).sum ≤ c.transport.probes.length * 2 := by
      rw [← List.length_map (f := fun p => p.2.left)]
      refine List.sum_le_card_nsmul _ _ fun n hn => ?_
      obtain ⟨p, -, rfl⟩ := List.mem_map.mp hn
      exact left_le _
    have hsweep := (inTime_of_exec h₀ h).sweep
    omega

/-- A sweep no replica has answered. -/
theorem sweep_can_end_unanswered : ∃ (c c' : Fleet ℕ (Option (ReplicaReply ℕ)))
    (w : Trace ℕ (Option (ReplicaReply ℕ))), c.transport.polling = true ∧
      Exec (Step .pair) c w c' ∧ c'.transport.polling = false ∧ (∀ x ∈ w, ProbeStep x) ∧
      w.length ≤ 4 := by
  obtain ⟨⟨c₀, tr, c⟩, hrun, hpolling⟩ := exists_of_check
    (perform .pair ⟨.roundRobin, ⟨1, 1⟩⟩ [.pollAll]) (fun run => run.2.2.transport.polling)
    (by decide)
  obtain ⟨h₀, h⟩ := exec_of_perform hrun
  obtain ⟨w, c', hexec, hend, hall, hlength⟩ := sweep_can_end h₀ h
  exact ⟨c, c', w, hpolling, hexec, hend, hall, hlength⟩

/-! ### A request -/

/-- The timer, the network and the adapter get on with a send of request `i`, or its handler
does. -/
def RequestStep (i : ℕ) (x : Stride ν β) : Prop :=
  ∃ j sent, x.pre.sent[j]? = some sent ∧ sent.request = i ∧
    ((∃ event, x.label.1 = .sendEvent j event) ∨
      ∃ ambient ambient', x.label.1 = .resume j ambient ambient')

/-- The handler of request `i` awaits send `j`, and this is what it awaits. -/
structure Awaits (c : Fleet ν β) (i : ℕ) (hd : Handler ν β) (j : ℕ) (sent : Sent ν β)
    (x : Exchange ν (Settled ν β)) : Prop where
  handler : c.main.handlers[i]? = some hd
  phase : ∃ decision, hd.phase = .sending decision sent.replicaId
  made : c.sent[j]? = some sent
  request : sent.request = i
  waiting : sent.resumed = false
  call : c.transport.sends[j]? = some (sent.replicaId, x)

variable {hd : Handler ν β} {sent : Sent ν β} {x y : Exchange ν (Settled ν β)}

theorem tried_subset (h₀ : boot deps config = .ok c₀) (h : Exec (Step deps) c₀ tr c)
    (hget : c.main.handlers[i]? = some hd) :
    hd.attempts.map (·.replicaId) ⊆ deps.adapter.replicas.map (·.id) := by
  obtain ⟨js, last, haccount⟩ := (accounted_of_exec h₀ h).each i hd hget
  intro id hmem
  obtain ⟨attempt, hattempt, rfl⟩ := List.mem_map.mp hmem
  obtain ⟨k, -, _, _, _, hspent⟩ := send_of_attempt haccount.attempts hattempt
  obtain ⟨sent, hsent, -, hid, -⟩ := hspent.sent
  exact hid ▸ mem_of_sent h₀ h sent (List.mem_of_getElem? hsent)

theorem awaits_of_exec (h₀ : boot deps config = .ok c₀) (h : Exec (Step deps) c₀ tr c)
    (hget : c.main.handlers[i]? = some hd) (hbusy : hd.phase.finished = false) :
    (∃ j sent x, Awaits c i hd j sent x) ∧
      hd.attempts.length < deps.adapter.replicas.length := by
  obtain ⟨js, last, haccount⟩ := (accounted_of_exec h₀ h).each i hd hget
  have hdistinct := haccount.distinct
  cases haccount.closing with
  | unserved hfinished _ => cases hbusy.symm.trans hfinished
  | failed _ _ hfinished _ => cases hbusy.symm.trans hfinished
  | served _ hfinished _ => cases hbusy.symm.trans hfinished
  | @awaiting j decision id sent hphase hsent hrequest hid _ hresumed =>
      subst hid
      obtain ⟨⟨id, x⟩, hcall, hid, -⟩ :=
        exists_getElem?_of_forall₂ (wired_of_exec h₀ h).sends.flip hsent
      obtain rfl : id = sent.replicaId := hid
      refine ⟨⟨j, sent, x, hget, ⟨decision, hphase⟩, hsent, hrequest, hresumed, hcall⟩, ?_⟩
      -- the replicas tried and the one awaited are different members of the fleet
      have hfleet : hd.exclude ++ [sent.replicaId] ⊆ deps.adapter.replicas.map (·.id) := by
        intro id hmem
        rcases List.mem_append.mp hmem with hmem | hmem
        · rw [haccount.exclude] at hmem
          exact tried_subset h₀ h hget hmem
        · rw [List.mem_singleton.mp hmem]
          exact mem_of_sent h₀ h sent (List.mem_of_getElem? hsent)
      have hle := (List.subperm_of_subset hdistinct hfleet).length_le
      rw [List.length_append, haccount.exclude, List.length_map, List.length_map] at hle
      exact hle

/-- A send that gets on has its step in the process. -/
theorem Awaits.moves (ha : Awaits c i hd j sent x) {event : WireEvent ν} {e : NetEvent ν β}
    (hdeliver : event.deliver deps.body sent.served = some e)
    (hadvance : (deps.adapter.sendRequest sent.replicaId).advance x e = some y) :
    ∃ c', c.step deps (.sendEvent j event) = .ok (c', {}) ∧ Awaits c' i hd j sent y := by
  have hstep := step_send ha.call hadvance
  refine ⟨{ c with transport := { c.transport with
    sends := c.transport.sends.set j (sent.replicaId, y) } }, ?_, ?_⟩
  · simp only [step, ha.made, hdeliver, hstep]
    rfl
  · obtain ⟨hlt, -⟩ := List.getElem?_eq_some_iff.mp ha.call
    exact ⟨ha.handler, ha.phase, ha.made, ha.request, ha.waiting, List.getElem?_set_self hlt⟩

/-- And a send that has settled ends its request, or is one more attempt. -/
theorem Awaits.goesOn (h₀ : boot deps config = .ok c₀) (h : Exec (Step deps) c₀ tr c)
    (ha : Awaits c i hd j sent x) {settled : Settled ν β} (hwait : x.wait = .settled settled)
    (ambient ambient' : Ambient) :
    ∃ c' report hd', c.step deps (.resume j ambient ambient') = .ok (c', report) ∧
      c'.main.handlers[i]? = some hd' ∧
      (hd'.phase.finished = true ∨ hd'.attempts.length = hd.attempts.length + 1) := by
  obtain rfl := ha.request
  obtain ⟨decision, hphase⟩ := ha.phase
  have hsending : c.main.sendingTo sent.request = some sent.replicaId :=
    System.sendingTo_eq_some_iff.mpr ⟨hd, decision, ha.handler, hphase⟩
  obtain ⟨main, report, hmain⟩ := System.step_returns (boot_spec h₀).1 (exec_main h)
    (a := .settle sent.request settled ambient ambient') (by simp [System.Enabled, hsending])
  have hreturns := mainStep_returns (c := { c with sent := c.sent.set j { sent with
    resumed := true } }) (i := sent.request) hmain
  cases System.handler_step hmain with
  | @resumed _ old hd' _ _ _ _ _ _ hold _ hwent _ hset =>
      obtain rfl := Option.some.inj (ha.handler.symm.trans hold)
      obtain ⟨hlt, -⟩ := List.getElem?_eq_some_iff.mp hold
      refine ⟨_, _, hd', Eq.trans ?_ hreturns, ?_, ?_⟩
      · simp only [step, ha.call, ha.made, result_eq_some_iff.mpr hwait, ha.waiting]
        rfl
      · rw [dispatch_main, hset]
        exact List.getElem?_set_self hlt
      · cases hwent with
        | retried _ _ hattempts _ _ => exact Or.inr (by simp [hattempts])
        | failed _ _ hfinished _ => exact Or.inl hfinished
        | served _ hfinished _ => exact Or.inl hfinished

/-- How many steps a request needs at most: those of its call, one of its handler, and three for
each replica then left. -/
def stepsLeft (deps : FleetDeps ν β) (hd : Handler ν β) (x : Exchange ν (Settled ν β)) : ℕ :=
  x.left + 1 + 3 * (deps.adapter.replicas.length - (hd.attempts.length + 1))

/-- Request `i` is at most `n` steps from its end. -/
def Within (deps : FleetDeps ν β) (i n : ℕ) (c : Fleet ν β) : Prop :=
  ∃ hd, c.main.handlers[i]? = some hd ∧ (hd.phase.finished = true ∨
    ∃ j sent x, Awaits c i hd j sent x ∧ stepsLeft deps hd x ≤ n)

theorem within_of_exec (h₀ : boot deps config = .ok c₀) (h : Exec (Step deps) c₀ tr c)
    (hget : c.main.handlers[i]? = some hd) :
    Within deps i (3 * (deps.adapter.replicas.length - hd.attempts.length)) c := by
  refine ⟨hd, hget, ?_⟩
  cases hbusy : hd.phase.finished with
  | true => exact Or.inl rfl
  | false =>
      obtain ⟨⟨j, sent, x, ha⟩, hlt⟩ := awaits_of_exec h₀ h hget hbusy
      have hleft := left_le x
      refine Or.inr ⟨j, sent, x, ha, ?_⟩
      unfold stepsLeft
      omega

/-- A request that is not over has a step that brings it closer. -/
theorem Within.next (h₀ : boot deps config = .ok c₀) (h : Exec (Step deps) c₀ tr c) {n : ℕ}
    (hn : Within deps i n c)
    (hbusy : ¬ ∃ hd, c.main.handlers[i]? = some hd ∧ hd.phase.finished = true) :
    ∃ m < n, ∃ a c', Step deps c a c' ∧ RequestStep i ⟨c, a, c'⟩ ∧ Within deps i m c' := by
  obtain ⟨hd, hget, hfinished | ⟨j, sent, x, ha, hle⟩⟩ := hn
  · exact absurd ⟨hd, hget, hfinished⟩ hbusy
  · cases hwait : x.wait with
    | settled settled =>
        obtain ⟨c', report, hd', hstep, hget', hnext⟩ := ha.goesOn h₀ h hwait .still .still
        refine ⟨3 * (deps.adapter.replicas.length - (hd.attempts.length + 1)), ?_,
          (.resume j .still .still, report), c', hstep,
          ⟨j, sent, ha.made, ha.request, Or.inr ⟨.still, .still, rfl⟩⟩, ?_⟩
        · unfold stepsLeft at hle
          omega
        · rcases hnext with hfinished | hattempts
          · exact ⟨hd', hget', Or.inl hfinished⟩
          · rw [← hattempts]
            exact within_of_exec h₀ (h.snoc (a := (_, report)) hstep) hget'
    | _ =>
        have hpending : x.pending = true := by simp [Exchange.pending, Exchange.result, hwait]
        obtain ⟨-, hrelays⟩ := forall₂_getElem? (wired_of_exec h₀ h).sends ha.call ha.made
        have htimed : x.Timed := (inTime_of_exec h₀ h).sends _ (List.mem_of_getElem? ha.call)
        obtain ⟨event, e, y, hdeliver, hadvance, hlt⟩ := exists_advance htimed hrelays hpending
        obtain ⟨c', hstep, ha'⟩ := ha.moves hdeliver hadvance
        refine ⟨stepsLeft deps hd y, ?_, (.sendEvent j event, {}), c', hstep,
          ⟨j, sent, ha.made, ha.request, Or.inl ⟨event, rfl⟩⟩,
          hd, ha'.handler, Or.inr ⟨j, sent, y, ha', le_rfl⟩⟩
        unfold stepsLeft at hle ⊢
        omega

/-- **A request ends without its replicas.**  From every state of a run the timers, the network, the
adapter and its own handler alone can end a request, in three steps for each replica it has not
tried. -/
theorem request_can_end (h₀ : boot deps config = .ok c₀) (h : Exec (Step deps) c₀ tr c)
    (hget : c.main.handlers[i]? = some hd) : ∃ w c', Exec (Step deps) c w c' ∧
      (∃ hd', c'.main.handlers[i]? = some hd' ∧ hd'.phase.finished = true) ∧
      (∀ x ∈ w, RequestStep i x) ∧
      w.length ≤ 3 * (deps.adapter.replicas.length - hd.attempts.length) :=
  exists_exec_of_rank (R := fun n c => (∃ tr, Exec (Step deps) c₀ tr c) ∧ Within deps i n c)
    (fun n c hR hbusy => by
      obtain ⟨⟨tr, h⟩, hn⟩ := hR
      obtain ⟨m, hm, a, c', hstep, hrequest, hm'⟩ := hn.next h₀ h hbusy
      exact ⟨m, hm, a, c', hstep, hrequest, ⟨_, h.snoc hstep⟩, hm'⟩)
    ⟨⟨tr, h⟩, within_of_exec h₀ h hget⟩

/-- A request at a replica that never wakes from it. -/
theorem request_can_end_stuck : ∃ (c c' : Fleet ℕ (Option (ReplicaReply ℕ)))
    (w : Trace ℕ (Option (ReplicaReply ℕ))), c.main.sendingTo 0 = some "replica-1" ∧
      Exec (Step .pair) c w c' ∧
      (∃ hd, c'.main.handlers[0]? = some hd ∧ hd.phase.finished = true) ∧
      (∀ x ∈ w, RequestStep 0 x) ∧ w.length ≤ 6 := by
  obtain ⟨⟨c₀, tr, c⟩, hrun, hc⟩ := exists_of_check
    (perform .pair ⟨.roundRobin, ⟨1, 1⟩⟩ [.pollAll, .health 0 0, .health 1 0,
      .probeEvent 0 (.headers 5) "t0" "e0", .probeEvent 0 .bodyComplete "t0" "e0",
      .probeEvent 1 (.headers 5) "t1" "e1", .probeEvent 1 .bodyComplete "t1" "e1",
      .request "request-1" none .still, .infer 0])
    (fun run => decide (run.2.2.main.sendingTo 0 = some "replica-1")) (by decide)
  have hsending := of_decide_eq_true hc
  obtain ⟨h₀, h⟩ := exec_of_perform hrun
  obtain ⟨hd, -, hget, -⟩ := System.sendingTo_eq_some_iff.mp hsending
  obtain ⟨w, c', hexec, hend, hall, hlength⟩ := request_can_end h₀ h hget
  exact ⟨c, c', w, hsending, hexec, hend, hall,
    hlength.trans (Nat.mul_le_mul_left 3 (Nat.sub_le 2 hd.attempts.length))⟩

end Fleet

end WhyRouted
