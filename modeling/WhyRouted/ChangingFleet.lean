import Mathlib.Algebra.Order.Ring.Nat
import Mathlib.Data.Finset.Card
import WhyRouted.RetryLoop

/-! # A request against a changing fleet

The retry loop over the real engine.  Everything the engine reads, its own state, the registry
and the config, is arbitrary in every round, so the fleet may change in any way while the
request waits for a send.

Both results count on the exclude list alone, whatever the strategy prefers: the engine never
picks from it, so it lists distinct replicas, all of them tried.  Retries therefore stop with
the retry bound or with the fleet (`retries_stop`), and failures from at most `maxRetries`
replicas cannot use up a round in which some good replica is scoreable (`zero_loss`). -/

namespace WhyRouted

variable {ν β : Type} [JsNumber ν]

/-- What one round's `engine.route` reads. -/
structure RouteWorld (ν : Type) where
  engine : Engine
  registry : Registry ν
  config : RoutingConfig ν

/-- `engine.route({ exclude })`. -/
def RouteWorld.answer (world : RouteWorld ν) (exclude : List String) : RouteResult ν :=
  (world.engine.route world.registry.items world.config (some exclude)).1

/-- What a run meets when round `k` routes over `world k`. -/
def RouteEnv.over (world : ℕ → RouteWorld ν) (send : ℕ → String → β → Settled ν β)
    (ambient : ℕ → Ambient) : RouteEnv ν β :=
  ⟨fun k => (world k).answer, send, ambient⟩

/-! ### What a pick is -/

variable {world : RouteWorld ν} {exclude : List String} {replicaId : String}

theorem RouteWorld.of_picked (h : (world.answer exclude).outcome = .ok replicaId) :
    replicaId ∉ exclude ∧ ∃ r ∈ world.registry.items,
      r.id = replicaId ∧ r.admin = .active ∧ r.runtime.health = .healthy := by
  obtain ⟨r, hr, rfl⟩ := route_ok _ _ _ _ h
  obtain ⟨hmem, hadmin, hhealth, hnew, _⟩ := (mem_scoredReplicas _ _ _).mp hr
  exact ⟨hnew, r, hmem, rfl, hadmin, hhealth⟩

theorem RouteWorld.picks {r : ReplicaState ν} (hr : r ∈ world.registry.items)
    (hadmin : r.admin = .active) (hhealth : r.runtime.health = .healthy)
    (hscore : world.config.strategyName = .latencyWeighted → r.runtime.latencyMs ≠ none)
    (hnew : r.id ∉ exclude) : ∃ id, (world.answer exclude).outcome = .ok id := by
  apply route_picks
  apply List.ne_nil_of_mem (a := r)
  rw [mem_scoredReplicas]
  exact ⟨hr, hadmin, hhealth, by simpa using hnew, (scores_eq_true_iff _ r).mpr hscore⟩

/-! ### Retries stop -/

section retries

variable {deps : RouteDeps ν β} {worlds : ℕ → RouteWorld ν}

/-- What has been sent and asked in `k` rounds: at most one send a round, to distinct replicas
registered at the time. -/
structure Tried (worlds : ℕ → RouteWorld ν) (k : ℕ) (calls : List (Call ν β)) : Prop where
  nodup : (sentOf calls).Nodup
  sent_le : (sentOf calls).length ≤ k
  routed_le : (routedOf calls).length ≤ (sentOf calls).length + 1
  registered : ∀ id ∈ sentOf calls, ∃ i < k, ∃ r ∈ (worlds i).registry.items, r.id = id

/-- A request still at its loop head: every round so far sent, and `exclude` lists the sends. -/
structure Retrying (worlds : ℕ → RouteWorld ν) (k : ℕ) (h : Handler ν β)
    (calls : List (Call ν β)) : Prop where
  tried : Tried worlds k calls
  routed : (routedOf calls).length = (sentOf calls).length
  exclude : h.exclude = sentOf calls
  silent : responsesOf calls = []

theorem Retrying.round {k : ℕ} {h h' : Handler ν β} {calls calls' : List (Call ν β)}
    {send : String → Settled ν β} (hr : Retrying worlds k h calls)
    (hs : Handler.RoundStep deps h ((worlds k).answer h.exclude) send h' calls') :
    Tried worlds (k + 1) (calls ++ calls') := by
  obtain ⟨⟨hnodup, hsent, -, hreg⟩, hrouted, hexclude, -⟩ := hr
  have hreg' : ∀ id ∈ sentOf calls, ∃ i < k + 1, ∃ r ∈ (worlds i).registry.items, r.id = id := by
    intro id hid
    obtain ⟨i, hi, h⟩ := hreg id hid
    exact ⟨i, by omega, h⟩
  have hroutes := hs.routed
  have hsends := hs.sent
  cases ho : ((worlds k).answer h.exclude).outcome with
  | error e =>
      rw [ho] at hsends
      refine ⟨?_, ?_, ?_, ?_⟩ <;> simp only [sentOf_append, routedOf_append, hsends, hroutes,
        Except.toOption, Option.toList, List.append_nil, List.length_append, List.length_singleton]
      · exact hnodup
      · omega
      · omega
      · exact hreg'
  | ok id =>
      obtain ⟨hnew, r, hr, hid, _, _⟩ := RouteWorld.of_picked ho
      rw [hexclude] at hnew
      rw [ho] at hsends
      refine ⟨?_, ?_, ?_, ?_⟩ <;> simp only [sentOf_append, routedOf_append, hsends, hroutes,
        Except.toOption, Option.toList, List.length_append, List.length_singleton]
      · rw [← List.concat_eq_append]
        exact hnodup.concat hnew
      · omega
      · omega
      · intro id' hid'
        rcases List.mem_append.mp hid' with hid' | hid'
        · exact hreg' id' hid'
        · exact ⟨k, by omega, r, hr, by rw [hid, List.mem_singleton.mp hid']⟩

theorem tried_or_stopped (worlds : ℕ → RouteWorld ν) (send : ℕ → String → β → Settled ν β)
    (ambient : ℕ → Ambient) (hw : ∀ res, deps.writeError res = none) (requestId : String)
    (payload : β) (k : ℕ) :
    let run := Handler.after deps (.over worlds send ambient) { requestId, payload } k
    (run.1.phase = .routing ∧ run.1.attempts.length = k ∧ k ≤ deps.maxRetries ∧
        Retrying worlds k run.1 run.2) ∨
      ∃ res, run.1.phase = .responded res ∧ responsesOf run.2 = [res] ∧
        Tried worlds (deps.maxRetries + 1) run.2 := by
  refine Handler.run_rule _ hw (F := fun _ calls res => responsesOf calls = [res] ∧
    Tried worlds (deps.maxRetries + 1) calls) _ rfl rfl ?_ ?_ ?_ k
  · exact ⟨⟨List.nodup_nil, Nat.zero_le _, Nat.zero_le _, by simp [sentOf]⟩, rfl, rfl, rfl⟩
  · intro k h calls h' calls' _ _ hr _ hs hp
    obtain ⟨id, err, hpick, _, _, _, hh'⟩ := hs.goes_on hp
    have hsends := hs.sent
    rw [hpick] at hsends
    refine ⟨hr.round hs, ?_, ?_, ?_⟩
    · rw [routedOf_append, sentOf_append, List.length_append, List.length_append, hr.routed,
        hs.routed, hsends]
      rfl
    · rw [sentOf_append, hsends, ← hr.exclude, hh']
      rfl
    · rw [responsesOf_append, hr.silent, (hs.silent_of_routing hp).2]
      rfl
  · intro k h calls h' calls' res _ _ hr _ hk hs hp
    refine ⟨?_, ?_⟩
    · rw [responsesOf_append, hr.silent, hs.responses_of_responded hp]
      rfl
    · obtain ⟨hnodup, hsent, hrouted, hreg⟩ := hr.round hs
      refine ⟨hnodup, by omega, hrouted, ?_⟩
      intro id hid
      obtain ⟨i, hi, h⟩ := hreg id hid
      exact ⟨i, by omega, h⟩

/-- **Retries never revisit a replica and always stop.**  `ever` is any set of replicas that
covers the registries the run meets.  A failed send ejects its replica, which returns for every
replica the scheduler knows, as it does all that the engine can pick. -/
theorem retries_stop (deps : RouteDeps ν β) (worlds : ℕ → RouteWorld ν)
    (send : ℕ → String → β → Settled ν β) (ambient : ℕ → Ambient)
    (hw : ∀ res, deps.writeError res = none) (requestId : String) (payload : β)
    (ever : Finset String)
    (hever : ∀ k ≤ deps.maxRetries, ∀ r ∈ (worlds k).registry.items, r.id ∈ ever) :
    let env := RouteEnv.over worlds send ambient
    let run := Handler.after deps env { requestId, payload }
    ∃ k ≤ deps.maxRetries + 1, ∃ res calls,
      (∀ j ≥ k, (run j).1.phase = .responded res ∧ (run j).2 = calls) ∧
      responsesOf calls = [res] ∧
      (sentOf calls).Nodup ∧
      (sentOf calls).length ≤ min (deps.maxRetries + 1) ever.card ∧
      (routedOf calls).length ≤ (sentOf calls).length + 1 ∧
      ∀ i, ∀ id ∈ sentOf ((run i).1.round deps env i).2, ∃ r ∈ (worlds i).registry.items,
        r.id = id ∧ r.admin = .active ∧ r.runtime.health = .healthy := by
  intro env run
  obtain ⟨_, _, hk, _⟩ | ⟨res, hp, hres, ht⟩ :=
    tried_or_stopped worlds send ambient hw requestId payload (deps.maxRetries + 1)
  · omega
  · refine ⟨deps.maxRetries + 1, le_rfl, res, (run (deps.maxRetries + 1)).2, ?_, hres, ht.nodup, ?_,
      ht.routed_le, ?_⟩
    · intro j hj
      have hj : run j = run (deps.maxRetries + 1) := Handler.after_of_responded hp j hj
      rw [hj]
      exact ⟨hp, rfl⟩
    · apply le_min ht.sent_le
      rw [← List.toFinset_card_of_nodup ht.nodup]
      apply Finset.card_le_card
      intro id hid
      obtain ⟨i, hi, r, hr, rfl⟩ := ht.registered id (List.mem_toFinset.mp hid)
      exact hever i (by omega) r hr
    · intro i id hid
      rcases tried_or_stopped worlds send ambient hw requestId payload i with
        ⟨hp, _, _, _⟩ | ⟨res, hp, _⟩
      · have hpicked := (Handler.round_step env i hw hp).picked_of_sent hid
        exact (RouteWorld.of_picked hpicked).2
      · rw [Handler.round_of_responded hp] at hid
        simp [sentOf] at hid

end retries

def RouteWorld.pair : RouteWorld ℕ :=
  let replica (id : String) : ReplicaState ℕ :=
    ⟨⟨id, ""⟩, ⟨.healthy, 0, some 5, 0, 2, none⟩, .active⟩
  ⟨⟨none⟩, ⟨[replica "replica-1", replica "replica-2"], by decide⟩, ⟨.roundRobin, ⟨1, 1⟩⟩⟩

/-- Sends of which those to `replica-1` time out. -/
def firstTimesOut (_ : ℕ) (id : String) (_ : Unit) : Settled ℕ Unit :=
  if id = "replica-1" then .error (.request ⟨.timeout, "no answer", none⟩) else .ok ⟨(), 7⟩

/-- With more retries than replicas, the first times out and the second serves: two sends, and the
run is over. -/
theorem retries_stop_pair : ∃ k ≤ 6, ∃ calls, (∀ j ≥ k, (Handler.after ⟨5, fun _ => none⟩
      (.over (fun _ => RouteWorld.pair) firstTimesOut fun _ => ⟨toString, toString⟩)
      { requestId := "request", payload := () } j).2 = calls) ∧
    sentOf calls = ["replica-1", "replica-2"] ∧ (routedOf calls).length = 2 ∧
    responsesOf calls = [⟨200, .served "replica-2" .roundRobin () 7
      [⟨"replica-1", .timeout, none⟩] "request"⟩] := by
  obtain ⟨k, hk, res, calls, hrun, -, -, -, -, -⟩ :=
    retries_stop ⟨5, fun _ => none⟩ (fun _ => RouteWorld.pair) firstTimesOut
      (fun _ => ⟨toString, toString⟩) (fun _ => rfl) "request" () {"replica-1", "replica-2"}
      (by decide)
  refine ⟨k, hk, calls, fun j hj => (hrun j hj).2, ?_⟩
  obtain ⟨-, rfl⟩ := hrun 6 hk
  exact ⟨by decide, by decide, rfl⟩

/-! ### Zero loss -/

/-- A request that has met only failing replicas: distinct ones, all of them excluded. -/
structure OnlyFailing (failing : Finset String) (requestId : String) (payload : β) (k : ℕ)
    (h : Handler ν β) : Prop where
  requestId : h.requestId = requestId
  payload : h.payload = payload
  nodup : h.exclude.Nodup
  length : h.exclude.length = k
  failing : ∀ id ∈ h.exclude, id ∈ failing

omit [JsNumber ν] in
/-- Meeting one more failing replica is possible only while they are not used up. -/
theorem OnlyFailing.pick {failing : Finset String} {requestId : String} {payload : β} {k : ℕ}
    {h : Handler ν β} (ho : OnlyFailing failing requestId payload k h)
    (hnew : replicaId ∉ h.exclude) (hfail : replicaId ∈ failing) :
    (h.exclude ++ [replicaId]).Nodup ∧ (∀ id ∈ h.exclude ++ [replicaId], id ∈ failing) ∧
      k < failing.card := by
  have hnodup : (h.exclude ++ [replicaId]).Nodup := by
    rw [← List.concat_eq_append]
    exact ho.nodup.concat hnew
  have hall : ∀ id ∈ h.exclude ++ [replicaId], id ∈ failing := by
    intro id hid
    rcases List.mem_append.mp hid with hid | hid
    · exact ho.failing id hid
    · rw [List.mem_singleton.mp hid]; exact hfail
  refine ⟨hnodup, hall, ?_⟩
  have hcard : (h.exclude ++ [replicaId]).toFinset.card ≤ failing.card :=
    Finset.card_le_card fun id hid => hall id (List.mem_toFinset.mp hid)
  rw [List.toFinset_card_of_nodup hnodup, List.length_append, ho.length] at hcard
  exact hcard

/-- **Zero request loss.**  At most `maxRetries` replicas fail, retryably, and some replica `g`
outside them is active, healthy and scoreable whenever the engine is asked: then the request is
served, and the response is what the replica it names has answered.  The replicas that fail are
ejected, which returns for every replica the scheduler knows, as it does all that the engine can
pick. -/
theorem zero_loss (deps : RouteDeps ν β) (worlds : ℕ → RouteWorld ν)
    (send : ℕ → String → β → Settled ν β) (ambient : ℕ → Ambient)
    (hw : ∀ res, deps.writeError res = none) (requestId : String) (payload : β)
    (failing : Finset String) (hcard : failing.card ≤ deps.maxRetries)
    (hsend : ∀ k id, (∃ sent, send k id payload = .ok sent) ∨
      id ∈ failing ∧ ∃ err, send k id payload = .error (.request err) ∧ err.retryable = true)
    (g : String) (hg : g ∉ failing)
    (hgood : ∀ k, (Handler.after deps (.over worlds send ambient) { requestId, payload } k).1.phase
        = .routing →
      ∃ r ∈ (worlds k).registry.items, r.id = g ∧ r.admin = .active ∧ r.runtime.health = .healthy ∧
        ((worlds k).config.strategyName = .latencyWeighted → r.runtime.latencyMs ≠ none)) :
    ∃ k res, (Handler.after deps (.over worlds send ambient) { requestId, payload } k).1.phase =
      .responded res ∧ res.status = 200 ∧ ∃ j id sent strategy attempts,
        send j id payload = .ok sent ∧
        res.body = .served id strategy sent.response sent.latencyMs attempts requestId := by
  have hfails : ∀ k id err, send k id payload = .error err →
      id ∈ failing ∧ err.retryable = true := by
    intro k id err herr
    rcases hsend k id with ⟨sent, hok⟩ | ⟨hfail, err', herr', hretry⟩
    · cases herr.symm.trans hok
    · obtain rfl := Except.error.inj (herr.symm.trans herr')
      exact ⟨hfail, hretry⟩
  have hrun := Handler.run_rule (.over worlds send ambient) hw
    (I := fun k h _ => OnlyFailing failing requestId payload k h)
    (F := fun _ _ res => res.status = 200 ∧ ∃ j id sent strategy attempts,
      send j id payload = .ok sent ∧
      res.body = .served id strategy sent.response sent.latencyMs attempts requestId)
    { requestId, payload } rfl rfl ⟨rfl, rfl, List.nodup_nil, rfl, by simp⟩ ?_ ?_
    (deps.maxRetries + 1)
  · rcases hrun with ⟨_, _, hk, _⟩ | ⟨res, hp, hserved⟩
    · omega
    · exact ⟨_, res, hp, hserved⟩
  · intro k h calls h' calls' _ _ ho _ hs hp
    obtain ⟨id, err, hpick, herr, _, _, rfl⟩ := hs.goes_on hp
    obtain ⟨hnew, _⟩ := RouteWorld.of_picked hpick
    rw [ho.payload] at herr
    obtain ⟨hnodup, hall, _⟩ := ho.pick hnew (hfails _ _ _ herr).1
    exact ⟨ho.requestId, ho.payload, hnodup, by simp [Handler.pushFailure, ho.length], hall⟩
  · intro k h calls h' calls' res hk hph ho hlen hkm hs hp
    obtain ⟨r, hr, rfl, hadmin, hhealth, hscore⟩ := hgood k (by rw [hk]; exact hph)
    have hnew : r.id ∉ h.exclude := fun hmem => hg (ho.failing _ hmem)
    obtain ⟨picked, hpicked⟩ := RouteWorld.picks hr hadmin hhealth hscore hnew
    cases hs with
    | again _ _ _ _ _ _ => cases hp
    | @served id sent _ _ _ _ hsent hres =>
        cases hp
        rw [ho.payload] at hsent
        rw [ho.requestId] at hres
        rw [hres]
        exact ⟨rfl, k, id, sent, _, _, hsent, rfl⟩
    | unroutable _ _ hpick _ => cases hpick.symm.trans hpicked
    | fatal _ _ _ herr hretry _ _ =>
        rw [ho.payload] at herr
        cases hretry.symm.trans (hfails _ _ _ herr).2
    | exhausted _ _ _ _ hpick herr _ hnone _ =>
        rw [ho.payload] at herr
        obtain ⟨hnew', _⟩ := RouteWorld.of_picked hpick
        obtain ⟨-, -, hleft⟩ := ho.pick hnew' (hfails _ _ _ herr).1
        omega

/-- One retry is enough for the pair when only its first replica fails. -/
theorem zero_loss_pair : ∃ k res, (Handler.after ⟨1, fun _ => none⟩
    (.over (fun _ => RouteWorld.pair) firstTimesOut fun _ => ⟨toString, toString⟩)
    { requestId := "request", payload := () } k).1.phase = .responded res ∧ res.status = 200 ∧
      ∃ j id sent strategy attempts, firstTimesOut j id () = .ok sent ∧
        res.body = .served id strategy sent.response sent.latencyMs attempts "request" := by
  refine zero_loss _ _ _ _ (fun _ => rfl) "request" () {"replica-1"} (by decide) ?_ "replica-2"
    (by decide) ?_
  · intro k id
    by_cases hid : id = "replica-1"
    · exact Or.inr ⟨by simp [hid], _, if_pos hid, rfl⟩
    · exact Or.inl ⟨_, if_neg hid⟩
  · intro k _
    exact ⟨_, List.mem_cons_of_mem _ List.mem_cons_self, rfl, rfl, rfl, by decide⟩

end WhyRouted
