import WhyRouted.Fairness
import WhyRouted.Probing

/-! # What health checking sees of a fault

A sweep has one probe for each replica, and the next sweep waits for it.  So when a replica is
killed or revived at most one answer given before is still on its way: of the probes of the replica
applied after that, all but the first were answered after it (`lags_once`), and tell the replica's
state as it is, as long as it stays and no call is lost. -/

namespace WhyRouted

namespace Fleet

variable {ν β : Type} [JsNumber ν] {deps : FleetDeps ν β} {c₀ c c' : Fleet ν β} {tr tr' : Trace ν β}
  {report : FleetReport ν β} {config : RoutingConfig ν} {r : String}

/-! ### The history of a replica -/

/-- What a step does to the hysteresis of `r`. -/
def eventOf (r : String) (x : Stride ν β) : Option HealthEvent :=
  x.label.2.main.bind fun label => x.pre.main.eventOf r label.1

/-- The probe completions and the failed sends of `r`, oldest first. -/
def history (r : String) (tr : Trace ν β) : List HealthEvent := tr.filterMap (eventOf r)

omit [JsNumber ν] in
theorem history_concat (r : String) (tr : Trace ν β) (x : Stride ν β) :
    history r (tr ++ [x]) = history r tr ++ (eventOf r x).toList := by
  unfold history
  rw [List.filterMap_append]
  cases h : eventOf r x <;> simp [h]

omit [JsNumber ν] in
theorem history_append (r : String) (tr tr' : Trace ν β) :
    history r (tr ++ tr') = history r tr ++ history r tr' := List.filterMap_append

omit [JsNumber ν] in
theorem history_mainTrace (r : String) (tr : Trace ν β) :
    System.history r (mainTrace tr) = history r tr := by
  rw [System.history, filterMap_mainTrace]
  rfl

/-- **Along every run of the fleet, a replica's record is the automaton run over its history.** -/
theorem record_of_run (h₀ : boot deps config = .ok c₀) (h : Exec (Step deps) c₀ tr c)
    (r : String) : c.main.control.health.record r =
      if r ∈ deps.adapter.replicas.map (·.id) then some (.run deps.thresholds (history r tr))
      else none := by
  rw [← history_mainTrace]
  exact System.record_of_run (boot_spec h₀).1 (exec_main h) r

/-! ### One probe at a time -/

theorem nodup_probes (h₀ : boot deps config = .ok c₀) (h : Exec (Step deps) c₀ tr c) :
    (c.transport.probes.map Prod.fst).Nodup := by
  have hids : (deps.adapter.replicas.map (·.id)).Nodup := by
    obtain ⟨hwire, -⟩ := System.wire_of_boot (boot_spec h₀).1
    rw [← ControlPlane.keys_of_wire hwire]
    exact KeyedList.nodup _
  refine h.invariant (P := fun c => (c.transport.probes.map Prod.fst).Nodup)
    (fun c label c' hs hnodup => ?_) ?_
  · obtain ⟨a, report⟩ := label
    have hset : ∀ {k : ℕ} {id : String} {x y : Exchange ν (HealthResult ν)},
        c.transport.probes[k]? = some (id, x) →
        ((c.transport.probes.set k (id, y)).map Prod.fst).Nodup := by
      intro k id x y hget
      have hid : (c.transport.probes.map Prod.fst)[k]? = some id := by simp [hget]
      obtain ⟨hk, hid⟩ := List.getElem?_eq_some_iff.mp hid
      rw [List.map_set, ← hid, List.set_getElem_self]
      exact hnodup
    cases step_cases hs with
    | began _ => rw [dispatch_probes]; exact hnodup
    | resumed _ _ _ _ _ => rw [dispatch_probes]; exact hnodup
    | swept _ =>
        simp only [Transport.release, List.map_map, Function.comp_def]
        exact hids
    | probeMoved _ _ hprobe _ _ => exact hset hprobe
    | probed _ _ hprobe _ _ _ => exact hset hprobe
    | _ => exact hnodup
  · rw [(boot_spec h₀).2.1]
    exact List.nodup_nil

omit [JsNumber ν] in
theorem index_unique (hnodup : (c.transport.probes.map Prod.fst).Nodup) {k k' : ℕ}
    {x x' : Exchange ν (HealthResult ν)} (hk : c.transport.probes[k]? = some (r, x))
    (hk' : c.transport.probes[k']? = some (r, x')) : k = k' := by
  have hid : (c.transport.probes.map Prod.fst)[k]? = some r := by simp [hk]
  have hid' : (c.transport.probes.map Prod.fst)[k']? = some r := by simp [hk']
  obtain ⟨hlt, -⟩ := List.getElem?_eq_some_iff.mp hid
  exact (List.getElem?_inj hlt hnodup).mp (hid.trans hid'.symm)

/-! ### The state of a replica -/

/-- The replica that handled a call of an admin endpoint in a step, and the endpoint. -/
def injectedBy (x : Stride ν β) : Option (String × FaultMode) :=
  x.label.2.replica.bind fun handled => match handled.2.1 with
    | .admin mode => some (handled.1, mode)
    | _ => none

/-- The replica whose probe is lost or given up in a step. -/
def lostBy (x : Stride ν β) : Option String :=
  match x.label.1 with
  | .probeEvent k event _ _ =>
      if event.loses then (x.pre.transport.probes[k]?).map Prod.fst else none
  | _ => none

/-- What would change whether `r` is killed. -/
def opposite (killed : Bool) : FaultMode := if killed then .revive else .kill

/-- What a probe shows of a replica that is killed or not, if it is not lost. -/
def showing (killed : Bool) : HealthEvent := if killed then .failed else .succeeded

omit [JsNumber ν] in
theorem killed_of_replicaStep {s s' : ReplicaApp} {a : ReplicaInput ν} {out : ReplicaOutput ν}
    {killed : Bool} (hs : s.killed = killed) (ha : a ≠ .admin (opposite killed))
    (h : s.step a = .ok (s', out)) : s'.killed = killed := by
  cases a with
  | health baselineLoad =>
      obtain ⟨rfl, -⟩ := Prod.mk.inj (Except.ok.inj h)
      exact hs
  | admin mode =>
      obtain ⟨rfl, -⟩ := Prod.mk.inj (Except.ok.inj h)
      cases killed <;> cases mode <;> simp_all [ReplicaApp.admin, opposite]
  | infer unparsed =>
      cases unparsed with
      | some status =>
          obtain ⟨rfl, -⟩ := Prod.mk.inj (Except.ok.inj h)
          exact hs
      | none =>
          have h : s.infer = (s', out) := Except.ok.inj h
          unfold ReplicaApp.infer at h
          by_cases hfault : (s.killed || s.inferFailing) = true
          · rw [if_pos hfault] at h
            obtain ⟨rfl, -⟩ := Prod.mk.inj h
            exact hs
          · rw [if_neg hfault] at h
            obtain ⟨rfl, -⟩ := Prod.mk.inj h
            exact hs
  | wakes call servedAt latencyMs =>
      simp only [ReplicaApp.step] at h
      split_ifs at h
      obtain ⟨rfl, -⟩ := Prod.mk.inj (Except.ok.inj h)
      exact hs

theorem killed_of_step {a : FleetInput ν β} {killed : Bool} (hc : (c.replicas r).killed = killed)
    (hnot : injectedBy (⟨c, (a, report), c'⟩ : Stride ν β) ≠ some (r, opposite killed))
    (h : c.step deps a = .ok (c', report)) : (c'.replicas r).killed = killed := by
  cases replica_case h with
  | none _ hsame => rw [hsame]; exact hc
  | @one id b out replica hreport hreplica hset =>
      rw [hset]
      by_cases hid : r = id
      · subst hid
        rw [Function.update_self]
        refine killed_of_replicaStep hc ?_ hreplica
        rintro rfl
        exact hnot (by simp [injectedBy, hreport])
      · rw [Function.update_of_ne hid]
        exact hc

/-! ### A probe that is up to date -/

/-- Whatever the pending probe of `r` has been told, it was told so by a replica that is `killed`
or not. -/
def Current (killed : Bool) (r : String) (c : Fleet ν β) : Prop :=
  ∀ (k : ℕ) (exchange : Exchange ν (HealthResult ν)) (reply : ReplicaReply ν),
    c.transport.probes[k]? = some (r, exchange) → exchange.pending = true →
    c.probed[k]? = some (r, .answered reply) → responseOk reply.status = !killed

section current

variable {killed : Bool} {k : ℕ} {id : String} {x y : Exchange ν (HealthResult ν)}

omit [JsNumber ν] in
theorem Current.of_same (hcur : Current killed r c)
    (hprobes : c'.transport.probes = c.transport.probes) (hprobed : c'.probed = c.probed) :
    Current killed r c' := by
  intro k exchange reply hget
  rw [hprobes] at hget
  rw [hprobed]
  exact hcur k exchange reply hget

omit [JsNumber ν] in
theorem Current.moved (hcur : Current killed r c) (hget : c.transport.probes[k]? = some (id, x))
    (hpending : id = r → x.pending = true)
    (hprobes : c'.transport.probes = c.transport.probes.set k (id, y))
    (hprobed : c'.probed = c.probed) : Current killed r c' := by
  intro j exchange reply hget' hpending'
  rw [hprobes] at hget'
  rw [hprobed]
  by_cases hj : k = j
  · subst hj
    obtain ⟨hlt, -⟩ := List.getElem?_eq_some_iff.mp hget
    rw [List.getElem?_set_self hlt] at hget'
    obtain ⟨rfl, -⟩ := Prod.mk.inj (Option.some.inj hget')
    exact hcur k x reply hget (hpending rfl)
  · rw [List.getElem?_set_ne hj] at hget'
    exact hcur j exchange reply hget' hpending'

omit [JsNumber ν] in
theorem current_of_settled (killed : Bool) (hnodup : (c.transport.probes.map Prod.fst).Nodup)
    {result : HealthResult ν} (hget : c.transport.probes[k]? = some (r, x))
    (hsettled : y.wait = .settled result)
    (hprobes : c'.transport.probes = c.transport.probes.set k (r, y)) : Current killed r c' := by
  intro j exchange reply hget' hpending
  rw [hprobes] at hget'
  by_cases hj : k = j
  · subst hj
    obtain ⟨hlt, -⟩ := List.getElem?_eq_some_iff.mp hget
    rw [List.getElem?_set_self hlt] at hget'
    obtain ⟨-, rfl⟩ := Prod.mk.inj (Option.some.inj hget')
    rw [pending_of_settled hsettled] at hpending
    cases hpending
  · rw [List.getElem?_set_ne hj] at hget'
    exact absurd (index_unique hnodup hget hget') hj

omit [JsNumber ν] in
theorem Current.answered (hcur : Current (c.replicas r).killed r c) {baselineLoad : ℕ}
    (htravels : c.probed[k]? = some (id, .travelling))
    (hprobes : c'.transport.probes = c.transport.probes)
    (hprobed : c'.probed = c.probed.set k
      (id, .answered ((c.replicas id).health baselineLoad))) :
    Current (c.replicas r).killed r c' := by
  intro j exchange reply hget hpending hget'
  rw [hprobes] at hget
  rw [hprobed] at hget'
  by_cases hj : k = j
  · subst hj
    obtain ⟨hlt, -⟩ := List.getElem?_eq_some_iff.mp htravels
    rw [List.getElem?_set_self hlt] at hget'
    obtain ⟨rfl, hserved⟩ := Prod.mk.inj (Option.some.inj hget')
    obtain rfl := Served.answered.inj hserved
    unfold ReplicaApp.health
    cases (c.replicas id).killed <;> rfl
  · rw [List.getElem?_set_ne hj] at hget'
    exact hcur j exchange reply hget hpending hget'

theorem event_of_settled {event : WireEvent ν} {served : Served ν} {result : HealthResult ν}
    {e : NetEvent ν (HttpReplicaAdapter.ProbeBody ν)}
    (hrelays : Relays deps.adapter.checkHealth ReplicaReply.probeBody x served)
    (hcur : ∀ reply, served = .answered reply → responseOk reply.status = !killed)
    (hdeliver : event.deliver ReplicaReply.probeBody served = some e)
    (hkept : killed = false → event.loses = false)
    (hadvance : deps.adapter.checkHealth.advance x e = some y)
    (hsettled : y.wait = .settled result) : result.event = showing killed := by
  -- a lost call fails, and then the replica must be killed
  have hlost : event.loses = true → HealthResult.event deps.adapter.failed = showing killed := by
    intro hloses
    cases killed with
    | true => rfl
    | false => cases (hkept rfl).symm.trans hloses
  cases moves_of_advance hadvance with
  | unreachable _ =>
      obtain rfl := Wait.settled.inj hsettled
      cases event <;> simp [WireEvent.deliver] at hdeliver
      exact hlost rfl
  | answered _ _ => cases hsettled
  | notOk _ hok =>
      obtain rfl := Wait.settled.inj hsettled
      cases event <;> simp [WireEvent.deliver] at hdeliver
      obtain ⟨reply, hreply, rfl, -⟩ := hdeliver
      have hdown := hcur reply (Served.reply_eq_some_iff.mp hreply)
      rw [hok] at hdown
      cases killed with
      | true => rfl
      | false => cases hdown
  | fetchAborted _ =>
      obtain rfl := Wait.settled.inj hsettled
      cases event <;> simp [WireEvent.deliver] at hdeliver
      exact hlost rfl
  | fired hwait => exact absurd hsettled (hwait _)
  | chunk hwait => cases hwait.symm.trans hsettled
  | bodyRead hwait =>
      obtain rfl := Wait.settled.inj hsettled
      obtain ⟨reply, hserved, hok⟩ := hrelays.body _ hwait
      have hup := hcur reply hserved
      rw [hok] at hup
      cases event <;> simp [WireEvent.deliver] at hdeliver
      obtain ⟨reply', -, rfl⟩ := hdeliver
      cases killed with
      | true => cases hup
      | false => cases reply' <;> rfl
  | bodyCut _ =>
      obtain rfl := Wait.settled.inj hsettled
      cases event <;> simp [WireEvent.deliver] at hdeliver
      exact hlost rfl
  | bodyAborted _ =>
      obtain rfl := Wait.settled.inj hsettled
      cases event <;> simp [WireEvent.deliver] at hdeliver
      exact hlost rfl

end current

/-! ### Over a stretch -/

omit [JsNumber ν] in
/-- What happens to a replica's record comes from a probe, unless it is ejected. -/
theorem appliedBy_of_event {x : Stride ν β} {e : HealthEvent} (h : eventOf r x = some e)
    (he : e ≠ .ejected) : ∃ result, appliedBy x = some (r, result) ∧ e = result.event := by
  unfold eventOf at h
  obtain ⟨⟨a, report⟩, hmain, hevent⟩ := Option.bind_eq_some_iff.mp h
  cases a with
  | probed id result now eventId =>
      simp only [System.eventOf] at hevent
      split_ifs at hevent with hid
      obtain rfl := Option.some.inj hevent
      exact ⟨result, by simp [appliedBy, hmain, hid], rfl⟩
  | _ =>
      simp only [System.eventOf] at hevent
      split_ifs at hevent
      exact absurd (Option.some.inj hevent).symm he

theorem current_of_applied (killed : Bool) (hnodup : (c.transport.probes.map Prod.fst).Nodup)
    {a : FleetInput ν β} {result : HealthResult ν}
    (h : c.step deps a = .ok (c', report))
    (hx : appliedBy ⟨c, (a, report), c'⟩ = some (r, result)) : Current killed r c' := by
  cases step_cases h with
  | @probed k event _ _ id id' served e x y result' _ _ _ _ hprobe _ hsettled _ =>
      obtain ⟨rfl, -⟩ : id = r ∧ result' = result := by simpa [appliedBy] using hx
      exact current_of_settled killed hnodup hprobe hsettled rfl
  | _ => simp [appliedBy] at hx

/-- **What one step preserves**, and what it can show. -/
theorem Current.step {killed : Bool} (hcur : Current killed r c) (hw : Wired deps c)
    (hc : (c.replicas r).killed = killed)
    {a : FleetInput ν β}
    (hkept : killed = false → lostBy (⟨c, (a, report), c'⟩ : Stride ν β) ≠ some r)
    (h : c.step deps a = .ok (c', report)) : Current killed r c' ∧
      ∀ result, appliedBy ⟨c, (a, report), c'⟩ = some (r, result) →
        result.event = showing killed := by
  have hcase := step_cases h
  refine ⟨?_, fun result hx => ?_⟩
  · cases hcase with
    | began _ => exact hcur.of_same (dispatch_probes ..) (dispatch_probed ..)
    | resumed _ _ _ _ _ => exact hcur.of_same (dispatch_probes ..) (dispatch_probed ..)
    | swept _ =>
        intro k exchange reply _ _ hget
        obtain ⟨replica, -, hpair⟩ := List.mem_map.mp (List.mem_of_getElem? hget)
        cases hpair
    | probeMoved _ _ hprobe hadvance _ =>
        exact hcur.moved hprobe (fun _ => pending_of_advance hadvance) rfl rfl
    | probed _ _ hprobe hadvance _ _ =>
        exact hcur.moved hprobe (fun _ => pending_of_advance hadvance) rfl rfl
    | health htravels hreplica =>
        obtain ⟨-, rfl⟩ := Prod.mk.inj (Except.ok.inj hreplica)
        subst hc
        exact hcur.answered htravels rfl rfl
    | _ => exact hcur.of_same rfl rfl
  · cases hcase with
    | @probed k event now eventId id id' served e x y result' _ _ hprobed hdeliver hprobe hadvance
        hsettled _ =>
        obtain ⟨rfl, rfl⟩ : id = r ∧ result' = result := by simpa [appliedBy] using hx
        obtain ⟨hid, hrelays⟩ := forall₂_getElem? hw.probes hprobe hprobed
        replace hid : id = id' := hid
        subst hid
        refine event_of_settled hrelays (fun reply hserved => ?_) hdeliver (fun hup => ?_) hadvance
          hsettled
        · subst hserved
          exact hcur k x reply hprobe (pending_of_advance hadvance) hprobed
        · by_contra hloses
          exact hkept hup (by simp [lostBy, hprobe, hloses])
    | _ => simp [appliedBy] at hx

/-- From `c` on through `w`, `r` is killed or it is not; and if it is not, no probe of it is
lost. -/
structure Steady (killed : Bool) (r : String) (c : Fleet ν β) (w : Trace ν β) : Prop where
  start : (c.replicas r).killed = killed
  stays : ∀ x ∈ w, injectedBy x ≠ some (r, opposite killed)
  kept : killed = false → ∀ x ∈ w, lostBy x ≠ some r

omit [JsNumber ν] in
theorem Steady.mono {killed : Bool} {w w' : Trace ν β} (hs : Steady killed r c w')
    (hsub : ∀ x ∈ w, x ∈ w') : Steady killed r c w :=
  ⟨hs.start, fun x hx => hs.stays x (hsub x hx), fun hup x hx => hs.kept hup x (hsub x hx)⟩

/-- The probe completions of a stretch: all but the first, which may have been answered before it,
show what the replica is. -/
structure Sampled (killed : Bool) (r : String) (c c' : Fleet ν β) (w : Trace ν β) : Prop where
  state : (c'.replicas r).killed = killed
  current : Current killed r c ∨ probesOf (history r w) ≠ [] → Current killed r c'
  probes : ∃ old n, probesOf (history r w) = old ++ List.replicate n (showing killed) ∧
    old.length ≤ 1 ∧ (Current killed r c → old = [])

omit [JsNumber ν] in
theorem Sampled.of_none {killed : Bool} {w : Trace ν β} {c₁ c₂ : Fleet ν β}
    {x : Stride ν β} (hsampled : Sampled killed r c c₁ w)
    (hkilled : (c₂.replicas r).killed = killed)
    (hcurrent : Current killed r c₁ → Current killed r c₂)
    (hnone : probesOf (history r (w ++ [x])) = probesOf (history r w)) :
    Sampled killed r c c₂ (w ++ [x]) := by
  refine ⟨hkilled, fun h => hcurrent (hsampled.current ?_), ?_⟩
  · rwa [hnone] at h
  · rw [hnone]
    exact hsampled.probes

/-- What a steady stretch preserves. -/
theorem sampled_of_steady {killed : Bool} {w : Trace ν β} (h₀ : boot deps config = .ok c₀)
    (hpre : Exec (Step deps) c₀ tr c) (hw : Exec (Step deps) c w c')
    (hs : Steady killed r c w) : Sampled killed r c c' w := by
  induction hw with
  | nil => exact ⟨hs.start, fun h => h.resolve_right (by simp [history, probesOf]),
      [], 0, rfl, Nat.zero_le _, fun _ => rfl⟩
  | @snoc w c₁ c₂ label hexec hstep ih =>
      obtain ⟨a, report⟩ := label
      replace hstep : c₁.step deps a = .ok (c₂, report) := hstep
      have hbefore := ih (hs.mono fun x hx => List.mem_append_left _ hx)
      have hx : (⟨c₁, (a, report), c₂⟩ : Stride ν β) ∈ w ++ [⟨c₁, (a, report), c₂⟩] := by simp
      have hkilled := killed_of_step hbefore.state (hs.stays _ hx) hstep
      have hrun := hpre.trans hexec
      have hmoved := fun hcur => Current.step hcur (wired_of_exec h₀ hrun) hbefore.state
        (fun hup => hs.kept hup _ hx) hstep
      have hhistory := history_concat r w ⟨c₁, (a, report), c₂⟩
      cases hevent : eventOf r (⟨c₁, (a, report), c₂⟩ : Stride ν β) with
      | none =>
          refine hbefore.of_none hkilled (fun hcur => (hmoved hcur).1) ?_
          rw [hhistory, hevent, Option.toList_none, List.append_nil]
      | some e =>
          by_cases he : e = .ejected
          · refine hbefore.of_none hkilled (fun hcur => (hmoved hcur).1) ?_
            rw [hhistory, hevent, Option.toList_some, probesOf_concat, if_pos he, List.append_nil]
          obtain ⟨result, happlied, rfl⟩ := appliedBy_of_event hevent he
          have hcurrent := current_of_applied killed (nodup_probes h₀ hrun) hstep happlied
          rw [hevent, Option.toList_some] at hhistory
          refine ⟨hkilled, fun _ => hcurrent, ?_⟩
          rw [hhistory, probesOf_concat, if_neg he]
          obtain ⟨old, n, hprobes, hlen, hold⟩ := hbefore.probes
          by_cases hcur : Current killed r c ∨ probesOf (history r w) ≠ []
          · -- up to date by now
            have hshows := (hmoved (hbefore.current hcur)).2 result happlied
            refine ⟨old, n + 1, ?_, hlen, hold⟩
            rw [hshows, hprobes, List.append_assoc, List.replicate_succ']
          · -- the first of the stretch
            obtain ⟨hstale, hempty⟩ := not_or.mp hcur
            rw [not_not.mp hempty]
            exact ⟨[result.event], 0, rfl, le_rfl, fun hcur => absurd hcur hstale⟩

/-- **At most one answer lags behind.**  In every run, while a replica stays killed, or stays alive
and no probe of it is lost, every probe of it that is applied shows which, except perhaps the
first: that one may have been answered before. -/
theorem lags_once {killed : Bool} {w : Trace ν β} (h₀ : boot deps config = .ok c₀)
    (hpre : Exec (Step deps) c₀ tr c) (hw : Exec (Step deps) c w c')
    (hs : Steady killed r c w) : ∃ old n,
      probesOf (history r w) = old ++ List.replicate n (showing killed) ∧ old.length ≤ 1 := by
  obtain ⟨old, n, hprobes, hlen, -⟩ := (sampled_of_steady h₀ hpre hw hs).probes
  exact ⟨old, n, hprobes, hlen⟩

/-- A replica answers a probe and is killed; that answer is applied, and so is the next one. -/
def killedBetweenProbes : Except String (Stretch ℕ (Option (ReplicaReply ℕ))) :=
  performThen .small ⟨.roundRobin, ⟨1, 1⟩⟩
    [.pollAll, .health 0 0, .operator "replica-1" .kill]
    [.probeEvent 0 (.headers 5) "t0" "e0", .probeEvent 0 .bodyComplete "t1" "e1", .pollAll,
      .health 0 0, .probeEvent 0 (.headers 5) "t2" "e2"]

/-- The first probe of a killed replica succeeds, and the second fails. -/
theorem lags_once_killedBetweenProbes : ∃ (w : Trace ℕ (Option (ReplicaReply ℕ)))
    (old : List HealthEvent) (n : ℕ), history "replica-1" w = [.succeeded, .failed] ∧
      probesOf (history "replica-1" w) = old ++ List.replicate n (showing true) ∧
      old.length ≤ 1 := by
  obtain ⟨run, h, hc⟩ := exists_of_check killedBetweenProbes (fun run =>
    (run.before.replicas "replica-1").killed &&
      decide (∀ x ∈ run.window, injectedBy x ≠ some ("replica-1", .revive)) &&
      decide (history "replica-1" run.window = [.succeeded, .failed])) (by decide)
  simp only [Bool.and_eq_true, decide_eq_true_eq] at hc
  obtain ⟨⟨hkilled, hstays⟩, hhistory⟩ := hc
  obtain ⟨hboot, hexec, hwindow⟩ := exec_of_performThen h
  obtain ⟨old, n, hlags⟩ := lags_once hboot hexec hwindow ⟨hkilled, hstays, nofun⟩
  exact ⟨run.window, old, n, hhistory, hlags⟩

end Fleet

end WhyRouted
