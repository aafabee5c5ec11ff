import Mathlib.Algebra.Order.Ring.Nat
import WhyRouted.FleetSteps
import WhyRouted.ParallelLists
import WhyRouted.Progress

/-! # The calls of a fleet

What holds of the calls in flight in every state of a run: what the adapter has of a call is what
its replica gave (`Wired.probes`, `Wired.sends`), and the calls that sleep at a replica are sends of
the process (`Wired.sleeping`).  So what a replica tells of its load is the work the process has
given it and not yet seen done, the requests it has given up included (`counter_eq_running`). -/

namespace WhyRouted

namespace ReplicaApp

variable {ν : Type} {s s' : ReplicaApp} {out : ReplicaOutput ν}

theorem sleeping_of_infer {unparsed : Option ℕ} (h : s.step (.infer unparsed) = .ok (s', out)) :
    s'.sleeping = s.sleeping ++ (Served.ofOutput out).call.toList := by
  cases unparsed with
  | some status =>
      obtain ⟨rfl, rfl⟩ := Prod.mk.inj (Except.ok.inj h)
      exact (List.append_nil _).symm
  | none =>
      have h : s.infer = (s', out) := Except.ok.inj h
      unfold infer at h
      by_cases hfault : (s.killed || s.inferFailing) = true
      · rw [if_pos hfault] at h
        obtain ⟨rfl, rfl⟩ := Prod.mk.inj h
        exact (List.append_nil _).symm
      · rw [if_neg hfault] at h
        obtain ⟨rfl, rfl⟩ := Prod.mk.inj h
        rfl

theorem sleeping_of_wakes {call : ℕ} {servedAt : String} {latencyMs : ν}
    (h : s.step (.wakes call servedAt latencyMs) = .ok (s', out)) :
    call ∈ s.sleeping ∧ s'.sleeping = s.sleeping.erase call ∧
      out = .replied (.inference s.id servedAt latencyMs) := by
  simp only [step] at h
  split_ifs at h with hmem
  obtain ⟨rfl, rfl⟩ := Prod.mk.inj (Except.ok.inj h)
  exact ⟨hmem, rfl, rfl⟩

theorem sleeping_of_admin {mode : FaultMode} (h : s.step (.admin mode) = .ok (s', out)) :
    s'.sleeping = s.sleeping := by
  obtain ⟨rfl, -⟩ := Prod.mk.inj (Except.ok.inj h)
  cases mode <;> rfl

theorem eq_of_health {baselineLoad : ℕ} (h : s.step (.health baselineLoad) = .ok (s', out)) :
    s' = s := by
  obtain ⟨rfl, -⟩ := Prod.mk.inj (Except.ok.inj h)
  rfl

end ReplicaApp

namespace Fleet

variable {ν β : Type} [JsNumber ν] {deps : FleetDeps ν β} {c₀ c c' : Fleet ν β} {tr : Trace ν β}
  {report : FleetReport ν β} {config : RoutingConfig ν}

/-- The call of a send, while it sleeps at replica `id`. -/
def sleepingAt (id : String) (sent : Sent ν β) : Option ℕ :=
  if sent.replicaId = id then sent.served.call else none

def running (c : Fleet ν β) (id : String) : ℕ := (c.sent.filterMap (sleepingAt id)).length

/-- The two sides of the calls in flight agree. -/
structure Wired (deps : FleetDeps ν β) (c : Fleet ν β) : Prop where
  probes : List.Forall₂ (fun p q => p.1 = q.1 ∧
    Relays deps.adapter.checkHealth ReplicaReply.probeBody p.2 q.2) c.transport.probes c.probed
  sends : List.Forall₂ (fun p sent => p.1 = sent.replicaId ∧
    Relays (deps.adapter.sendRequest p.1) deps.body p.2 sent.served) c.transport.sends c.sent
  /-- What sleeps at a replica is sends of the process. -/
  sleeping : ∀ id, (c.replicas id).sleeping.Perm (c.sent.filterMap (sleepingAt id))

namespace Wired

theorem dispatch (hw : Wired deps c) (i : ℕ) (sends : List (String × β))
    (hfleet : ∀ call ∈ sends, ∃ url, deps.adapter.resolve call.1 = .ok url) :
    Wired deps (dispatch deps c i sends) := by
  induction sends generalizing c with
  | nil => exact hw
  | cons call sends ih =>
      obtain ⟨⟨url, hurl⟩, hrest⟩ := List.forall_mem_cons.mp hfleet
      refine ih ⟨?_, ?_, fun id => ?_⟩ hrest
      · simp only [Fleet.send, Transport.sendRequest, hurl]
        exact hw.probes
      · simp only [Fleet.send, Transport.sendRequest, hurl]
        exact List.rel_append hw.sends (.cons ⟨rfl, relays_start⟩ .nil)
      · simp only [Fleet.send, List.filterMap_append]
        have hnone : List.filterMap (sleepingAt id)
            [(⟨i, call.1, call.2, .travelling, false⟩ : Sent ν β)] = [] := by
          simp [sleepingAt, Served.call]
        rw [hnone, List.append_nil]
        exact hw.sleeping id

/-- A replica begins or ends with a send: what sleeps there changes as the send does. -/
theorem serve (hw : Wired deps c) {j : ℕ} {sent : Sent ν β} {served : Served ν}
    {replica : ReplicaApp} (hsent : c.sent[j]? = some sent) (hnone : sent.served.reply = none)
    (hsleeping : ∀ rest, (c.replicas sent.replicaId).sleeping.Perm
        (sent.served.call.toList ++ rest) → replica.sleeping.Perm (served.call.toList ++ rest)) :
    Wired deps { c with
      replicas := Function.update c.replicas sent.replicaId replica
      sent := c.sent.set j { sent with served } } := by
  refine ⟨hw.probes, ?_, fun id => ?_⟩
  · obtain ⟨p, hp, hid, hrelays⟩ := exists_getElem?_of_forall₂ hw.sends.flip hsent
    exact forall₂_set_right hw.sends hp ⟨hid, hrelays.serve hnone⟩
  · obtain ⟨rest, hbefore, hafter⟩ :=
      filterMap_set_perm (sleepingAt id) hsent { sent with served }
    by_cases hid : sent.replicaId = id
    · subst hid
      simp only [sleepingAt, if_true] at hbefore hafter
      simp only [Function.update_self]
      exact (hsleeping rest ((hw.sleeping _).trans hbefore)).trans hafter.symm
    · simp only [sleepingAt, if_neg hid] at hbefore hafter
      simp only [Function.update_of_ne (Ne.symm hid)]
      exact ((hw.sleeping id).trans hbefore).trans hafter.symm

theorem of_replica (hw : Wired deps c) {id : String} {replica : ReplicaApp}
    (hsleeping : replica.sleeping = (c.replicas id).sleeping) :
    Wired deps { c with replicas := Function.update c.replicas id replica } := by
  refine ⟨hw.probes, hw.sends, fun id' => ?_⟩
  by_cases hid : id' = id
  · subst hid
    simp only [Function.update_self, hsleeping]
    exact hw.sleeping id'
  · simp only [Function.update_of_ne hid]
    exact hw.sleeping id'

/-- **What one step preserves.** -/
theorem step (hw : Wired deps c) {a : FleetInput ν β}
    (hfleet : ∀ b main mainReport,
      c.main.step deps.thresholds deps.route b = .ok (main, mainReport) →
      ∀ call ∈ sendsOf mainReport.calls, ∃ url, deps.adapter.resolve call.1 = .ok url)
    (h : c.step deps a = .ok (c', report)) : Wired deps c' := by
  cases step_cases h with
  | @began _ _ _ main _ hmain =>
      have hbase : Wired deps { c with main } := ⟨hw.probes, hw.sends, hw.sleeping⟩
      exact hbase.dispatch _ _ (hfleet _ _ _ hmain)
  | tooled hmain => exact ⟨hw.probes, hw.sends, hw.sleeping⟩
  | skipped _ => exact hw
  | swept _ =>
      refine ⟨?_, hw.sends, hw.sleeping⟩
      simp only [Transport.release, List.forall₂_map_left_iff, List.forall₂_map_right_iff,
        List.forall₂_same]
      exact fun replica _ => ⟨trivial, relays_start⟩
  | declined _ => exact hw
  | simulated => exact ⟨hw.probes, hw.sends, hw.sleeping⟩
  | @resumed j _ _ _ _ sent settled main _ hsend _ hsent _ hmain =>
      have hbase : Wired deps
          { c with main, sent := c.sent.set j { sent with resumed := true } } := by
        refine ⟨hw.probes, ?_, fun id => ?_⟩
        · obtain ⟨hid, hrelays⟩ := forall₂_getElem? hw.sends hsend hsent
          exact forall₂_set_right hw.sends hsend ⟨hid, hrelays⟩
        · obtain ⟨rest, hbefore, hafter⟩ :=
            filterMap_set_perm (sleepingAt id) hsent { sent with resumed := true }
          exact ((hw.sleeping id).trans hbefore).trans hafter.symm
      exact hbase.dispatch _ _ (hfleet _ _ _ hmain)
  | probeMoved hprobed hdeliver hprobe hadvance _ =>
      obtain ⟨hid, hrelays⟩ := forall₂_getElem? hw.probes hprobe hprobed
      exact ⟨forall₂_set_left hw.probes hprobed ⟨hid, hrelays.advance hdeliver hadvance⟩,
        hw.sends, hw.sleeping⟩
  | probed hprobed hdeliver hprobe hadvance _ _ =>
      obtain ⟨hid, hrelays⟩ := forall₂_getElem? hw.probes hprobe hprobed
      exact ⟨forall₂_set_left hw.probes hprobed ⟨hid, hrelays.advance hdeliver hadvance⟩,
        hw.sends, hw.sleeping⟩
  | sendMoved hsent hdeliver hsend hadvance =>
      obtain ⟨hid, hrelays⟩ := forall₂_getElem? hw.sends hsend hsent
      exact ⟨hw.probes,
        forall₂_set_left hw.sends hsent ⟨hid, hrelays.advance hdeliver hadvance⟩, hw.sleeping⟩
  | injected _ _ _ _ => exact ⟨hw.probes, hw.sends, hw.sleeping⟩
  | health hprobed hreplica =>
      obtain ⟨p, hp, hid, hrelays⟩ := exists_getElem?_of_forall₂ hw.probes.flip hprobed
      obtain ⟨hprobes, hsends, hsleeping⟩ :=
        hw.of_replica (congrArg ReplicaApp.sleeping (ReplicaApp.eq_of_health hreplica))
      exact ⟨forall₂_set_right hw.probes hp ⟨hid, hrelays.serve rfl⟩, hsends, hsleeping⟩
  | arrived hsent hserved hreplica =>
      refine hw.serve hsent (by rw [hserved]; rfl) fun rest hperm => ?_
      rw [hserved] at hperm
      rw [ReplicaApp.sleeping_of_infer hreplica]
      exact (hperm.append_right _).trans List.perm_append_comm
  | woke hsent hserved hreplica =>
      refine hw.serve hsent (by rw [hserved]; rfl) fun rest hperm => ?_
      obtain ⟨hmem, herase, rfl⟩ := ReplicaApp.sleeping_of_wakes hreplica
      rw [hserved] at hperm
      rw [herase]
      exact (hperm.erase _).trans (by simp [Served.call, Served.ofOutput])
  | admin _ _ hreplica =>
      obtain ⟨hprobes, hsends, hsleeping⟩ := hw.of_replica (ReplicaApp.sleeping_of_admin hreplica)
      exact ⟨hprobes, hsends, hsleeping⟩
  | operated hreplica => exact hw.of_replica (ReplicaApp.sleeping_of_admin hreplica)

end Wired

/-! ### Along a run -/

theorem boot_spec (h₀ : boot deps config = .ok c₀) :
    System.boot deps.adapter.replicas config = .ok c₀.main ∧ c₀.transport = .idle ∧
      c₀.replicas = ReplicaApp.fresh ∧ c₀.probed = [] ∧ c₀.sent = [] ∧ c₀.admins = [] := by
  obtain ⟨main, hmain, h⟩ := ok_of_bind h₀
  obtain rfl := Except.ok.inj h
  exact ⟨hmain, rfl, rfl, rfl, rfl, rfl⟩

theorem resolve_of_sends (h₀ : boot deps config = .ok c₀) (h : Exec (Step deps) c₀ tr c)
    {b : Input ν β} {main : System ν β} {mainReport : Report ν β}
    (hmain : c.main.step deps.thresholds deps.route b = .ok (main, mainReport)) :
    ∀ call ∈ sendsOf mainReport.calls, ∃ url, deps.adapter.resolve call.1 = .ok url := by
  intro call hcall
  obtain ⟨hboot, -⟩ := boot_spec h₀
  have hexec := (exec_main h).snoc (a := (b, mainReport)) hmain
  have hsent : call.1 ∈ sentOf mainReport.calls := by
    rw [← map_sendsOf]
    exact List.mem_map_of_mem hcall
  obtain ⟨hy, hknown⟩ := System.known_of_asked (System.mirrors_of_exec hboot hexec)
    (System.step_case hmain).2.1 hsent
  obtain ⟨replica, hreplica, hid⟩ := List.mem_map.mp (System.mem_of_known hboot hexec hknown)
  rw [← hid]
  exact deps.adapter.resolve_of_mem hreplica

/-- **What a run preserves.** -/
theorem wired_of_exec (h₀ : boot deps config = .ok c₀) (h : Exec (Step deps) c₀ tr c) :
    Wired deps c := by
  induction h with
  | nil =>
      obtain ⟨-, htransport, hreplicas, hprobed, hsent, -⟩ := boot_spec h₀
      refine ⟨?_, ?_, fun id => ?_⟩
      · rw [htransport, hprobed]
        exact List.Forall₂.nil
      · rw [htransport, hsent]
        exact List.Forall₂.nil
      · rw [hreplicas, hsent]
        exact List.Perm.refl _
  | snoc hexec hs ih =>
      exact ih.step (fun _ _ _ hmain => resolve_of_sends h₀ hexec hmain) hs

/-! ### The parties of a run, together -/

/-- Where a send goes, and with what. -/
def messageOf (sent : Sent ν β) : String × β := (sent.replicaId, sent.payload)

/-- What the process sends in a step. -/
def sendsIn (x : Stride ν β) : List (String × β) :=
  (mainOf x).flatMap fun x => sendsOf x.label.2.calls

theorem messages_of_step {a : FleetInput ν β} (h : c.step deps a = .ok (c', report)) :
    c'.sent.map messageOf = c.sent.map messageOf ++ sendsIn ⟨c, (a, report), c'⟩ := by
  have hdispatched : ∀ (c : Fleet ν β) (i : ℕ) (sends : List (String × β)),
      (Fleet.dispatch deps c i sends).sent.map messageOf = c.sent.map messageOf ++ sends := by
    intro c i sends
    rw [dispatch_sent, List.map_append, List.map_map]
    exact congrArg _ (List.map_id sends)
  cases step_cases h with
  | began _ =>
      rw [hdispatched]
      exact congrArg _ (List.append_nil _).symm
  | resumed _ _ hsent _ _ =>
      rw [hdispatched]
      refine congrArg₂ _ ?_ (List.append_nil _).symm
      exact map_set_of_eq _ hsent rfl
  | arrived hsent _ _ =>
      refine Eq.trans ?_ (List.append_nil _).symm
      exact map_set_of_eq _ hsent rfl
  | woke hsent _ _ =>
      refine Eq.trans ?_ (List.append_nil _).symm
      exact map_set_of_eq _ hsent rfl
  | tooled hmain =>
      cases System.handler_step hmain with
      | tool _ => exact (List.append_nil _).symm
  | probed _ _ _ _ _ hmain =>
      cases System.handler_step hmain with
      | probed _ => exact (List.append_nil _).symm
  | _ => exact (List.append_nil _).symm

/-- The runs of the parties modelled alone that a run of the fleet is made of. -/
structure Refines (deps : FleetDeps ν β) (config : RoutingConfig ν) (c₀ : Fleet ν β)
    (tr : Trace ν β) (c : Fleet ν β) : Prop where
  booted : System.boot deps.adapter.replicas config = .ok c₀.main
  main : Exec (System.Step deps.thresholds deps.route) c₀.main (mainTrace tr) c.main
  transport : ∃ tr', Exec (Transport.Step deps.adapter) .idle tr' c.transport
  replicas : ∀ id, Exec ReplicaApp.Step (.fresh id) (replicaTrace id tr) (c.replicas id)
  /-- And what is on the wire is what the process has sent. -/
  sent : c.sent.map messageOf = (mainTrace tr).flatMap fun x => sendsOf x.label.2.calls

/-- **The fleet refines its parties.**  Every run of it is one of the process from its start, one of
the adapter's transport and one of each replica; and the sends of the process are, in order and
without loss or repetition, the calls in the fleet. -/
theorem fleet_refines (h₀ : boot deps config = .ok c₀) (h : Exec (Step deps) c₀ tr c) :
    Refines deps config c₀ tr c := by
  obtain ⟨hboot, htransport, hreplicas, -, hsent, -⟩ := boot_spec h₀
  refine ⟨hboot, exec_main h, htransport ▸ exec_transport h, fun id => ?_, ?_⟩
  · have hexec := exec_replica id h
    rwa [hreplicas] at hexec
  · induction h with
    | nil => rw [hsent]; rfl
    | snoc _ hs ih =>
        rw [messages_of_step hs, ih]
        simp [mainTrace, sendsIn]

/-! ### The counter -/

theorem accounts_of_run (h₀ : boot deps config = .ok c₀) (h : Exec (Step deps) c₀ tr c)
    (id : String) : ReplicaApp.Accounts id (replicaTrace id tr) (c.replicas id) := by
  obtain ⟨-, -, hreplicas, -⟩ := boot_spec h₀
  have hexec := exec_replica id h
  rw [hreplicas] at hexec
  exact ReplicaApp.accounts_of_exec hexec

/-- Where the two sides agree, a replica counts its sends that sleep. -/
theorem Wired.inFlight (hw : Wired deps c) {id : String}
    (ha : ReplicaApp.Accounts id (replicaTrace id tr) (c.replicas id)) :
    (c.replicas id).inFlight = c.running id := by
  rw [ha.inFlight, (hw.sleeping id).length_eq]
  rfl

/-- **A replica's counter is the work the process has given it.**  In every state of a run it is the
number of sends the replica has accepted and not answered; those the process has given up are among
them, and nothing else is. -/
theorem counter_eq_running (h₀ : boot deps config = .ok c₀) (h : Exec (Step deps) c₀ tr c)
    (id : String) : (c.replicas id).inFlight = c.running id :=
  (wired_of_exec h₀ h).inFlight (accounts_of_run h₀ h id)

/-- A request is sent and given up; the replica goes on with it. -/
def givenUp : Except String (Fleet ℕ (Option (ReplicaReply ℕ)) ×
    Trace ℕ (Option (ReplicaReply ℕ)) × Fleet ℕ (Option (ReplicaReply ℕ))) :=
  perform .small ⟨.roundRobin, ⟨1, 1⟩⟩ [.pollAll, .health 0 0, .probeEvent 0 (.headers 5) "t0" "e0",
    .probeEvent 0 .bodyComplete "t1" "e1", .request "request-1" none .still, .infer 0,
    .sendEvent 0 .timerFired, .sendEvent 0 .abortDelivered, .resume 0 .still .still]

/-- Nobody waits for it any more, and it still counts. -/
theorem counter_eq_running_givenUp : ∃ c : Fleet ℕ (Option (ReplicaReply ℕ)),
    c.main.sendingTo 0 = none ∧ c.running "replica-1" = 1 ∧
      (c.replicas "replica-1").inFlight = c.running "replica-1" := by
  obtain ⟨⟨c₀, tr, c⟩, h, hc⟩ := exists_of_check givenUp (fun run =>
    decide (run.2.2.main.sendingTo 0 = none) &&
      decide (run.2.2.running "replica-1" = 1)) (by decide)
  simp only [Bool.and_eq_true, decide_eq_true_eq] at hc
  obtain ⟨hboot, hexec⟩ := exec_of_perform h
  exact ⟨c, hc.1, hc.2, counter_eq_running hboot hexec "replica-1"⟩

/-- The same run, party by party. -/
theorem fleet_refines_givenUp : ∃ (c₀ c : Fleet ℕ (Option (ReplicaReply ℕ)))
    (tr : Trace ℕ (Option (ReplicaReply ℕ))), tr.length = 9 ∧ (mainTrace tr).length = 3 ∧
      (replicaTrace "replica-1" tr).length = 2 ∧
      Refines .small ⟨.roundRobin, ⟨1, 1⟩⟩ c₀ tr c := by
  obtain ⟨⟨c₀, tr, c⟩, h, hc⟩ := exists_of_check givenUp (fun run =>
    decide (run.2.1.length = 9) && decide ((mainTrace run.2.1).length = 3) &&
      decide ((replicaTrace "replica-1" run.2.1).length = 2)) (by decide)
  simp only [Bool.and_eq_true, decide_eq_true_eq] at hc
  obtain ⟨hboot, hexec⟩ := exec_of_perform h
  exact ⟨c₀, c, tr, hc.1.1, hc.1.2, hc.2, fleet_refines hboot hexec⟩

end Fleet

end WhyRouted
