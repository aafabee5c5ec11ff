import WhyRouted.DrainSafety
import WhyRouted.FleetCalls

/-! # A drained replica winds down

A replica is drained if that is what the operator asked for last (`drained_iff_standing`).  A drain
stops the engine, and what is already on its way to the replica stays on its way.  So after
a drain the work of a replica is settled: it is the sends of before that it has not answered, none
is added until it is restored, and each answer it gives is one less (`drain_winds_down`).  A
replica that has answered them all is idle, and stays so. -/

namespace WhyRouted

namespace Fleet

variable {ν β : Type} [JsNumber ν] {deps : FleetDeps ν β} {c₀ c c' : Fleet ν β} {tr w : Trace ν β}
  {report : FleetReport ν β} {config : RoutingConfig ν} {r : String}

/-! ### Whether a replica is drained -/

/-- What an input asks for `r`. -/
def asks (r : String) : FleetInput ν β → Option ReplicaAdmin
  | .tool call => System.asksOf r (.tool call : Input ν β)
  | _ => none

def Drains (r : String) (x : Stride ν β) : Prop := x.label.1 = .tool (.drainReplica r)

def Restores (r : String) (x : Stride ν β) : Prop := x.label.1 = .tool (.restoreReplica r)

omit [JsNumber ν] in
theorem asks_eq_some_iff {a : FleetInput ν β} {admin : ReplicaAdmin} : asks r a = some admin ↔
    a = .tool (match admin with
      | .drained => .drainReplica r
      | .active => .restoreReplica r) := by
  cases a with
  | tool call =>
      cases call <;> cases admin <;> simp [asks, System.asksOf, ControlPlane.adminOf]
  | _ => simp [asks]

theorem adminOf_of_step (hm : c.main.control.health.Mirrors) {a : FleetInput ν β}
    (h : c.step deps a = .ok (c', report)) :
    c'.main.adminOf r = (c.main.adminOf r).map (asks r a).getD := by
  have hid : ∀ o : Option ReplicaAdmin, o = o.map (none : Option ReplicaAdmin).getD := by
    intro o
    cases o <;> rfl
  cases step_cases h with
  | began hmain =>
      rw [dispatch_main]
      exact System.step_admin hm hmain r
  | tooled hmain => exact System.step_admin hm hmain r
  | resumed _ _ _ _ hmain =>
      rw [dispatch_main]
      exact System.step_admin hm hmain r
  | probed _ _ _ _ _ hmain => exact System.step_admin hm hmain r
  | _ => exact hid _

theorem drained_of_step (hm : c.main.control.health.Mirrors) {a : FleetInput ν β}
    (h : c.step deps a = .ok (c', report)) (hdrained : c.main.adminOf r = some .drained)
    (hrestore : a ≠ .tool (.restoreReplica r)) : c'.main.adminOf r = some .drained := by
  rw [adminOf_of_step hm h, hdrained, Option.map_some]
  cases hasks : asks r a with
  | none => rfl
  | some admin =>
      cases admin with
      | drained => rfl
      | active => exact absurd (asks_eq_some_iff.mp hasks) hrestore

/-- **A replica is drained exactly if a drain of it stands.** -/
theorem drained_iff_standing (h₀ : boot deps config = .ok c₀) (h : Exec (Step deps) c₀ tr c)
    (hr : r ∈ deps.adapter.replicas.map (·.id)) :
    c.main.adminOf r = some .drained ↔ Standing (Drains r) (Restores r) tr := by
  induction h with
  | nil =>
      obtain ⟨-, -, -, hactive⟩ := wire_spec (System.wire_of_boot (boot_spec h₀).1).1
      refine iff_of_false (fun hdrained => ?_) not_standing_nil
      obtain ⟨state, hget, hadmin⟩ := Option.map_eq_some_iff.mp hdrained
      have hlive := hactive r state hget
      cases hadmin.symm.trans (congrArg Prod.snd hlive)
  | @snoc tr c₁ c₂ label hexec hs ih =>
      obtain ⟨a, report⟩ := label
      have hmirrors := System.mirrors_of_exec (boot_spec h₀).1 (exec_main hexec)
      obtain ⟨admin, hadmin⟩ := Option.ne_none_iff_exists'.mp
        (System.adminOf_ne_none (boot_spec h₀).1 (exec_main hexec) hr)
      have hdrain : Drains r ⟨c₁, (a, report), c₂⟩ ↔ asks r a = some .drained := by
        rw [asks_eq_some_iff]
        exact Iff.rfl
      have hrestore : Restores r ⟨c₁, (a, report), c₂⟩ ↔ asks r a = some .active := by
        rw [asks_eq_some_iff]
        exact Iff.rfl
      rw [standing_concat_iff, ← ih, adminOf_of_step hmirrors hs, hadmin, hdrain, hrestore]
      cases asks r a with
      | none => simp
      | some asked => cases asked <;> simp

/-! ### What a replica still has to do -/

/-- A send to `r` that `r` has not answered. -/
def outstanding (r : String) (sent : Sent ν β) : Bool :=
  decide (sent.replicaId = r) && sent.served.reply.isNone

def outstandingAt (c : Fleet ν β) (r : String) : ℕ := c.sent.countP (outstanding r)

/-- A step in which `r` answers a send. -/
def finishes (r : String) (x : Stride ν β) : Bool :=
  match x.label.2.replica with
  | some (id, .infer _, .replied _) => decide (id = r)
  | some (id, .wakes _ _ _, .replied _) => decide (id = r)
  | _ => false

omit [JsNumber ν] in
theorem running_le (c : Fleet ν β) (r : String) : c.running r ≤ c.outstandingAt r := by
  unfold running outstandingAt
  rw [List.length_filterMap_eq_countP]
  refine List.countP_mono_left fun sent _ hsleeping => ?_
  unfold sleepingAt at hsleeping
  split_ifs at hsleeping with hid
  · cases hserved : sent.served with
    | sleeping call => simp [outstanding, hid, hserved, Served.reply]
    | travelling => simp [hserved, Served.call] at hsleeping
    | answered reply => simp [hserved, Served.call] at hsleeping
  · cases hsleeping

omit [JsNumber ν] in
theorem outstandingAt_dispatch (i : ℕ) {calls : List (Call ν β)} (hunsent : r ∉ sentOf calls) :
    (dispatch deps c i (sendsOf calls)).outstandingAt r = c.outstandingAt r := by
  unfold outstandingAt
  rw [dispatch_sent, List.countP_append]
  refine Nat.add_eq_left.mpr (List.countP_eq_zero.mpr fun sent hmem => ?_)
  obtain ⟨call, hcall, rfl⟩ := List.mem_map.mp hmem
  have hid : call.1 ≠ r := by
    rintro rfl
    rw [← map_sendsOf] at hunsent
    exact hunsent (List.mem_map_of_mem hcall)
  simp [outstanding, hid]

omit [JsNumber ν] in
theorem outstandingAt_serve {j : ℕ} {sent : Sent ν β} {out : ReplicaOutput ν}
    (hget : c.sent[j]? = some sent) (hopen : sent.served.reply = none)
    (hset : c'.sent = c.sent.set j { sent with served := .ofOutput out }) :
    c'.outstandingAt r + (decide (sent.replicaId = r) && (Served.ofOutput out).reply.isSome).toNat =
      c.outstandingAt r := by
  have hcount := countP_set_add (p := outstanding r) hget
    { sent with served := Served.ofOutput out }
  have hbefore : outstanding r sent = decide (sent.replicaId = r) := by
    simp [outstanding, hopen]
  have hafter : outstanding r { sent with served := Served.ofOutput out } =
      (decide (sent.replicaId = r) && (Served.ofOutput out).reply.isNone) := rfl
  rw [hbefore, hafter] at hcount
  unfold outstandingAt
  rw [hset]
  cases hreply : (Served.ofOutput out).reply with
  | none =>
      rw [hreply, Option.isNone_none, Bool.and_true] at hcount
      rw [Option.isSome_none, Bool.and_false, Bool.toNat_false]
      omega
  | some reply =>
      rw [hreply, Option.isNone_some, Bool.and_false, Bool.toNat_false] at hcount
      rw [Option.isSome_some, Bool.and_true]
      omega

/-! ### Along a run -/

omit [JsNumber ν] in
theorem finishes_of_served {a : FleetInput ν β} {id : String} {b : ReplicaInput ν}
    {out : ReplicaOutput ν} (hreport : report.replica = some (id, b, out))
    (hb : (∃ unparsed, b = .infer unparsed) ∨
      ∃ call servedAt latencyMs, b = .wakes call servedAt latencyMs) :
    finishes r ⟨c, (a, report), c'⟩ =
      (decide (id = r) && (Served.ofOutput out).reply.isSome) := by
  unfold finishes
  rw [hreport]
  rcases hb with ⟨_, rfl⟩ | ⟨_, _, _, rfl⟩
  · cases out with
    | replied reply => exact (Bool.and_true _).symm
    | sleeps call => exact (Bool.and_false _).symm
  · cases out with
    | replied reply => exact (Bool.and_true _).symm
    | sleeps call => exact (Bool.and_false _).symm

/-- While a replica is drained, what it has to do changes by its answers alone. -/
theorem outstandingAt_of_step {a : FleetInput ν β} (h : c.step deps a = .ok (c', report))
    (hdrained : c'.main.adminOf r = some .drained) :
    c'.outstandingAt r + (finishes r ⟨c, (a, report), c'⟩).toNat = c.outstandingAt r := by
  cases step_cases h with
  | began hmain =>
      rw [dispatch_main] at hdrained
      exact outstandingAt_dispatch _ (System.avoids_of_step hmain hdrained).unsent
  | @resumed j _ _ _ _ sent _ main _ _ _ hsent _ hmain =>
      rw [dispatch_main] at hdrained
      refine (outstandingAt_dispatch _ (System.avoids_of_step hmain hdrained).unsent).trans ?_
      have hcount := countP_set_add (p := outstanding r) hsent { sent with resumed := true }
      exact Nat.add_right_cancel hcount
  | arrived hsent hserved _ =>
      rw [finishes_of_served rfl (Or.inl ⟨_, rfl⟩)]
      exact outstandingAt_serve hsent (by rw [hserved]; rfl) rfl
  | woke hsent hserved _ =>
      rw [finishes_of_served rfl (Or.inr ⟨_, _, _, rfl⟩)]
      exact outstandingAt_serve hsent (by rw [hserved]; rfl) rfl
  | _ => rfl

/-- While a replica is drained, its answers account for all that changes. -/
theorem outstandingAt_of_drained (h₀ : boot deps config = .ok c₀) (h : Exec (Step deps) c₀ tr c)
    (hw : Exec (Step deps) c w c') (hdrained : c.main.adminOf r = some .drained)
    (hrestore : ∀ x ∈ w, x.label.1 ≠ .tool (.restoreReplica r)) :
    c'.main.adminOf r = some .drained ∧
      c'.outstandingAt r + w.countP (finishes r) = c.outstandingAt r := by
  induction hw with
  | nil => exact ⟨hdrained, rfl⟩
  | @snoc w c₁ c₂ label hw hs ih =>
      obtain ⟨a, report⟩ := label
      obtain ⟨hbefore, hcount⟩ := ih fun x hx => hrestore x (List.mem_append_left _ hx)
      have hmirrors := System.mirrors_of_exec (boot_spec h₀).1 (exec_main (h.trans hw))
      have hafter := drained_of_step hmirrors hs hbefore
        (hrestore ⟨c₁, (a, report), c₂⟩ (List.mem_append_right _ (List.mem_singleton_self _)))
      have hstep := outstandingAt_of_step hs hafter
      refine ⟨hafter, ?_⟩
      rw [List.countP_append, List.countP_singleton]
      cases hfinishes : finishes r ⟨c₁, (a, report), c₂⟩ with
      | true =>
          rw [hfinishes, Bool.toNat_true] at hstep
          rw [if_pos rfl]
          omega
      | false =>
          rw [hfinishes, Bool.toNat_false] at hstep
          rw [if_neg Bool.false_ne_true]
          omega

/-- **A drained replica only finishes what it has.**  From any state of a run in which a replica is
drained until it is restored, what it has to do is the sends it had then, less the answers it has
given since; and what it counts in flight is among them. -/
theorem drain_winds_down (h₀ : boot deps config = .ok c₀) (h : Exec (Step deps) c₀ tr c)
    (hw : Exec (Step deps) c w c') (hdrained : c.main.adminOf r = some .drained)
    (hrestore : ∀ x ∈ w, x.label.1 ≠ .tool (.restoreReplica r)) :
    c'.outstandingAt r + w.countP (finishes r) = c.outstandingAt r ∧
      (c'.replicas r).inFlight ≤ c'.outstandingAt r := by
  have hexec := h.trans hw
  refine ⟨(outstandingAt_of_drained h₀ h hw hdrained hrestore).2, ?_⟩
  rw [(wired_of_exec h₀ hexec).inFlight (accounts_of_run h₀ hexec r)]
  exact_mod_cast running_le c' r

/-- A request at its replica when that is drained: it is served, and the next one goes elsewhere. -/
def drainedAtWork : Except String (Stretch ℕ (Option (ReplicaReply ℕ))) :=
  performThen .pair ⟨.roundRobin, ⟨1, 1⟩⟩ [.pollAll, .health 0 0, .health 1 0,
    .probeEvent 0 (.headers 5) "t0" "e0", .probeEvent 0 .bodyComplete "t0" "e0",
    .probeEvent 1 (.headers 5) "t1" "e1", .probeEvent 1 .bodyComplete "t1" "e1",
    .request "request-1" none .still, .infer 0, .tool (.drainReplica "replica-1")]
    [.request "request-2" none .still, .infer 1, .request "request-3" none .still, .infer 2,
    .wake 0 "t2" 7]

theorem drain_winds_down_drainedAtWork : ∃ run : Stretch ℕ (Option (ReplicaReply ℕ)),
    run.before.outstandingAt "replica-1" = 1 ∧ run.after.sent.length = 3 ∧
      run.after.outstandingAt "replica-1" + run.window.countP (finishes "replica-1") = 1 ∧
      (run.after.replicas "replica-1").inFlight ≤ run.after.outstandingAt "replica-1" := by
  obtain ⟨run, hrun, hc⟩ := exists_of_check drainedAtWork (fun run =>
    decide (run.before.main.adminOf "replica-1" = some .drained) &&
      decide (run.before.outstandingAt "replica-1" = 1) && decide (run.after.sent.length = 3) &&
      run.window.all fun x => match x.label.1 with
        | .tool _ => false
        | _ => true) (by decide)
  simp only [Bool.and_eq_true, decide_eq_true_eq, List.all_eq_true] at hc
  obtain ⟨⟨⟨hdrained, hone⟩, hlength⟩, hall⟩ := hc
  obtain ⟨h₀, h, hw⟩ := exec_of_performThen hrun
  obtain ⟨hcount, hcounter⟩ := drain_winds_down h₀ h hw hdrained fun x hx hlabel => by
    have hnot := hall x hx
    rw [hlabel] at hnot
    cases hnot
  exact ⟨run, hone, hlength, hcount.trans hone, hcounter⟩

end Fleet

end WhyRouted
