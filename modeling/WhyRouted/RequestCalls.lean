import WhyRouted.Sending

/-! # The calls of a request

What a handler remembers of its sends is what became of them (`Account`).  The attempts it lists
are its sends that failed retryably, in order; at most one more send is awaited, or ended the
request; and no two go to one replica.  With what a send tells of its replica, that bounds what the
fleet has done for a request: no replica is sent it twice (`reaches_once`), a failure with a status
ran nothing, and an answer of 200 is the work of the replica it names (`attempts_truthful`,
`answer_truthful`). -/

namespace WhyRouted

namespace Fleet

variable {ν β : Type} [JsNumber ν] {deps : FleetDeps ν β} {c₀ c c' : Fleet ν β} {tr tr' : Trace ν β}
  {report : FleetReport ν β} {config : RoutingConfig ν} {i j : ℕ}

/-! ### What no step changes -/

/-- A send stays what it is of, and a settled call stays settled. -/
structure Keeps (c c' : Fleet ν β) : Prop where
  sent : ∀ (j : ℕ) (sent : Sent ν β), c.sent[j]? = some sent → ∃ sent', c'.sent[j]? = some sent' ∧
    sent'.request = sent.request ∧ sent'.replicaId = sent.replicaId ∧
    sent'.payload = sent.payload ∧ (sent.resumed = true → sent'.resumed = true)
  settled : ∀ (j : ℕ) (id : String) (x : Exchange ν (Settled ν β)) (settled : Settled ν β),
    c.transport.sends[j]? = some (id, x) → x.wait = .settled settled →
    c'.transport.sends[j]? = some (id, x)

omit [JsNumber ν] in
theorem keeps_of_same (hsent : c'.sent = c.sent) (hsends : c'.transport.sends = c.transport.sends) :
    Keeps c c' := by
  refine ⟨fun j sent hget => ⟨sent, by rw [hsent, hget], rfl, rfl, rfl, id⟩,
    fun j id x _ hget _ => ?_⟩
  rw [hsends, hget]

omit [JsNumber ν] in
theorem keeps_of_set {sent sent' : Sent ν β} (hget : c.sent[j]? = some sent)
    (hset : c'.sent = c.sent.set j sent') (hsends : c'.transport.sends = c.transport.sends)
    (hrequest : sent'.request = sent.request) (hid : sent'.replicaId = sent.replicaId)
    (hpayload : sent'.payload = sent.payload)
    (hresumed : sent.resumed = true → sent'.resumed = true) : Keeps c c' := by
  refine ⟨fun k old hold => ?_, fun k id x _ hget' _ => by rw [hsends, hget']⟩
  rw [hset]
  by_cases hk : j = k
  · subst hk
    obtain ⟨hlt, -⟩ := List.getElem?_eq_some_iff.mp hget
    obtain rfl := Option.some.inj (hget.symm.trans hold)
    exact ⟨sent', List.getElem?_set_self hlt, hrequest, hid, hpayload, hresumed⟩
  · exact ⟨old, by rw [List.getElem?_set_ne hk, hold], rfl, rfl, rfl, id⟩

omit [JsNumber ν] in
theorem Keeps.trans {c'' : Fleet ν β} (h : Keeps c c') (h' : Keeps c' c'') : Keeps c c'' := by
  refine ⟨fun j sent hget => ?_, fun j id x settled hget hwait =>
    h'.settled j id x settled (h.settled j id x settled hget hwait) hwait⟩
  obtain ⟨sent₁, hget₁, hrequest, hid, hpayload, hresumed⟩ := h.sent j sent hget
  obtain ⟨sent₂, hget₂, hrequest', hid', hpayload', hresumed'⟩ := h'.sent j sent₁ hget₁
  exact ⟨sent₂, hget₂, hrequest'.trans hrequest, hid'.trans hid, hpayload'.trans hpayload,
    fun h => hresumed' (hresumed h)⟩

omit [JsNumber ν] in
theorem keeps_dispatch (deps : FleetDeps ν β) (c : Fleet ν β) (i : ℕ)
    (sends : List (String × β)) : Keeps c (dispatch deps c i sends) := by
  induction sends generalizing c with
  | nil => exact keeps_of_same rfl rfl
  | cons call sends ih =>
      have hsend : Keeps c (c.send deps i call.1 call.2) := by
        refine ⟨fun j sent hget => ?_, fun j id x settled hget _ => ?_⟩
        · obtain ⟨hlt, -⟩ := List.getElem?_eq_some_iff.mp hget
          exact ⟨sent, by rw [Fleet.send, List.getElem?_append_left hlt, hget], rfl, rfl, rfl, id⟩
        · obtain ⟨hlt, -⟩ := List.getElem?_eq_some_iff.mp hget
          unfold Fleet.send Transport.sendRequest
          cases deps.adapter.resolve call.1 with
          | ok url => exact (List.getElem?_append_left hlt).trans hget
          | error message => exact (List.getElem?_append_left hlt).trans hget
      exact hsend.trans (ih _)

theorem keeps_of_step {a : FleetInput ν β} (h : c.step deps a = .ok (c', report)) : Keeps c c' := by
  cases step_cases h with
  | @began _ _ _ main report _ =>
      have hmain : Keeps c { c with main } := keeps_of_same rfl rfl
      exact hmain.trans (keeps_dispatch ..)
  | @resumed j _ _ _ _ sent _ main report _ _ hsent _ _ =>
      have hmain : Keeps c { c with main, sent := c.sent.set j { sent with resumed := true } } :=
        keeps_of_set hsent rfl rfl rfl rfl rfl fun _ => rfl
      exact hmain.trans (keeps_dispatch ..)
  | arrived hsent _ _ => exact keeps_of_set hsent rfl rfl rfl rfl rfl id
  | woke hsent _ _ => exact keeps_of_set hsent rfl rfl rfl rfl rfl id
  | @sendMoved j event id sent e x y hsent _ hsend hadvance =>
      refine ⟨fun j sent hget => ⟨sent, hget, rfl, rfl, rfl, fun h => h⟩,
        fun k id' x' settled hget hwait => ?_⟩
      have hk : j ≠ k := by
        rintro rfl
        obtain ⟨-, rfl⟩ := Prod.mk.inj (Option.some.inj (hsend.symm.trans hget))
        have hpending := pending_of_advance hadvance
        rw [pending_of_settled hwait] at hpending
        cases hpending
      exact (List.getElem?_set_ne hk).trans hget
  | _ => exact keeps_of_same rfl rfl

/-! ### The account of a request -/

/-- The handler of request `i` awaited send `j`, to `id`, and went on with `settled`. -/
structure Spent (c : Fleet ν β) (i j : ℕ) (id : String) (payload : β) (settled : Settled ν β) :
    Prop where
  sent : ∃ sent, c.sent[j]? = some sent ∧ sent.request = i ∧ sent.replicaId = id ∧
    sent.payload = payload ∧ sent.resumed = true
  settled : ∃ id' x, c.transport.sends[j]? = some (id', x) ∧ x.wait = .settled settled

omit [JsNumber ν] in
theorem Spent.keep {id : String} {payload : β} {settled : Settled ν β}
    (hspent : Spent c i j id payload settled) (hkeeps : Keeps c c') :
    Spent c' i j id payload settled := by
  obtain ⟨⟨sent, hget, rfl, rfl, rfl, hresumed⟩, id', x, hsend, hwait⟩ := hspent
  obtain ⟨sent', hget', hrequest, hid, hpayload, hresumed'⟩ := hkeeps.sent j sent hget
  exact ⟨⟨sent', hget', hrequest, hid, hpayload, hresumed' hresumed⟩,
    id', x, hkeeps.settled j id' x settled hsend hwait, hwait⟩

/-- A listed attempt is a send that failed retryably. -/
def Attempted (c : Fleet ν β) (i : ℕ) (payload : β) (attempt : RouteAttempt) (j : ℕ) : Prop :=
  ∃ err : ReplicaRequestError, err.retryable = true ∧
    attempt = ⟨attempt.replicaId, err.kind, err.status⟩ ∧
    Spent c i j attempt.replicaId payload (.error (.request err))

/-- Where a request stands after its attempts, and the one send that is not among them, if there is
one. -/
inductive Closing (c : Fleet ν β) (i : ℕ) (h : Handler ν β) : Option (ℕ × String) → Prop where
  | awaiting {j : ℕ} {decision : RouteResult ν} {id : String} {sent : Sent ν β}
      (hphase : h.phase = .sending decision id) (hget : c.sent[j]? = some sent)
      (hrequest : sent.request = i) (hid : sent.replicaId = id)
      (hpayload : sent.payload = h.payload) (hresumed : sent.resumed = false) :
      Closing c i h (some (j, id))
  | unserved (hfinished : h.phase.finished = true)
      (hres : ∀ res, h.phase = .responded res → Discloses h 503 none res) : Closing c i h none
  | failed {j : ℕ} {id : String} {err : SendError} (hspent : Spent c i j id h.payload (.error err))
      (hretry : err.retryable = false) (hfinished : h.phase.finished = true)
      (hres : ∀ res, h.phase = .responded res → Discloses h 502 (some id) res) :
      Closing c i h (some (j, id))
  | served {j : ℕ} {id : String} {strategy : StrategyName} {sent : SendResult ν β}
      (hspent : Spent c i j id h.payload (.ok sent)) (hfinished : h.phase.finished = true)
      (hres : ∀ res, h.phase = .responded res → Discloses h 502 (some id) res ∨
        res = ⟨200, .served id strategy sent.response sent.latencyMs h.attempts h.requestId⟩) :
      Closing c i h (some (j, id))

/-- What the handler of request `i` remembers is what became of its sends. -/
structure Account (c : Fleet ν β) (i : ℕ) (h : Handler ν β) (js : List ℕ)
    (last : Option (ℕ × String)) : Prop where
  attempts : List.Forall₂ (Attempted c i h.payload) h.attempts js
  exclude : h.exclude = h.attempts.map (·.replicaId)
  closing : Closing c i h last
  /-- No two sends go to one replica. -/
  distinct : (h.exclude ++ (last.map Prod.snd).toList).Nodup
  /-- And there are no others. -/
  complete : ∀ (j : ℕ) (sent : Sent ν β), c.sent[j]? = some sent → sent.request = i →
    j ∈ js ++ (last.map Prod.fst).toList

omit [JsNumber ν] in
theorem Account.keep {h : Handler ν β} {js : List ℕ} {last : Option (ℕ × String)}
    (ha : Account c i h js last) (hkeeps : Keeps c c')
    (hold : ∀ (j : ℕ) (sent' : Sent ν β), c'.sent[j]? = some sent' → sent'.request = i →
      ∃ sent, c.sent[j]? = some sent ∧ sent'.resumed = sent.resumed) :
    Account c' i h js last := by
  refine ⟨ha.attempts.imp fun attempt j => ?_, ha.exclude, ?_, ha.distinct,
    fun j sent' hget' hrequest' => ?_⟩
  · rintro ⟨err, hretry, heq, hspent⟩
    exact ⟨err, hretry, heq, hspent.keep hkeeps⟩
  · cases ha.closing with
    | awaiting hphase hget hrequest hid hpayload hresumed =>
        obtain ⟨sent', hget', hrequest', hid', hpayload', -⟩ := hkeeps.sent _ _ hget
        obtain ⟨sent'', hget'', hsame⟩ := hold _ sent' hget' (hrequest'.trans hrequest)
        obtain rfl := Option.some.inj (hget.symm.trans hget'')
        exact .awaiting hphase hget' (hrequest'.trans hrequest) (hid'.trans hid)
          (hpayload'.trans hpayload) (hsame.trans hresumed)
    | unserved hfinished hres => exact .unserved hfinished hres
    | failed hspent hretry hfinished hres =>
        exact .failed (hspent.keep hkeeps) hretry hfinished hres
    | served hspent hfinished hres => exact .served (hspent.keep hkeeps) hfinished hres
  · obtain ⟨sent, hget, -⟩ := hold j sent' hget' hrequest'
    obtain ⟨sent'', hget'', hrequest, -⟩ := hkeeps.sent j sent hget
    obtain rfl := Option.some.inj (hget'.symm.trans hget'')
    exact ha.complete j sent hget (hrequest.symm.trans hrequest')

omit [JsNumber ν] in
/-- After its sends a request waits for one to a replica it has not tried, or is over; the failed
attempts are `js`. -/
theorem account_of_rests {h : Handler ν β} {calls : List (Call ν β)} {js : List ℕ}
    (hrests : Rests h calls)
    (hattempts : List.Forall₂
      (Attempted (dispatch deps c i (sendsOf calls)) i h.payload) h.attempts js)
    (hexclude : h.exclude = h.attempts.map (·.replicaId)) (hdistinct : h.exclude.Nodup)
    (hres : ∀ res, h.phase = .responded res → Discloses h 503 none res)
    (hcomplete : ∀ (j : ℕ) (sent : Sent ν β), c.sent[j]? = some sent → sent.request = i → j ∈ js) :
    ∃ last, Account (dispatch deps c i (sendsOf calls)) i h js last := by
  cases hrests with
  | @sending decision id hphase hsends hnew =>
      have hsent : (dispatch deps c i (sendsOf calls)).sent =
          c.sent ++ [⟨i, id, h.payload, .travelling, false⟩] := by
        rw [hsends, dispatch_sent]
        rfl
      have hlast : (dispatch deps c i (sendsOf calls)).sent[c.sent.length]? =
          some ⟨i, id, h.payload, .travelling, false⟩ := by
        rw [hsent, List.getElem?_concat_length]
      refine ⟨some (c.sent.length, id), hattempts, hexclude,
        .awaiting hphase hlast rfl rfl rfl rfl, ?_, fun j sent hget hrequest => ?_⟩
      · refine List.nodup_append.mpr ⟨hdistinct, List.nodup_singleton _, fun a ha b hb hab => ?_⟩
        have hid : b = id := List.mem_singleton.mp hb
        rw [hab, hid] at ha
        exact hnew ha
      · rw [hsent, List.getElem?_append] at hget
        split_ifs at hget with hlt
        · exact List.mem_append_left _ (hcomplete j sent hget hrequest)
        · obtain ⟨hbound, -⟩ := List.getElem?_eq_some_iff.mp hget
          have hj : j = c.sent.length := by
            rw [List.length_singleton] at hbound
            omega
          exact List.mem_append_right _ (List.mem_singleton.mpr hj)
  | finished hphase hsends =>
      rw [hsends] at hattempts ⊢
      refine ⟨none, hattempts, hexclude, .unserved hphase hres, ?_, fun j sent hget hrequest => ?_⟩
      · simpa using hdistinct
      · exact List.mem_append_left _ (hcomplete j sent hget hrequest)

/-! ### Along a run -/

/-- Every request has its account, and every send its request. -/
structure Accounted (c : Fleet ν β) : Prop where
  each : ∀ (i : ℕ) (h : Handler ν β), c.main.handlers[i]? = some h →
    ∃ js last, Account c i h js last
  known : ∀ (j : ℕ) (sent : Sent ν β), c.sent[j]? = some sent →
    sent.request < c.main.handlers.length

omit [JsNumber ν] in
theorem Accounted.of_quiet (ha : Accounted c) (hkeeps : Keeps c c')
    (hhandlers : c'.main.handlers = c.main.handlers)
    (hold : ∀ (j : ℕ) (sent' : Sent ν β), c'.sent[j]? = some sent' →
      ∃ sent, c.sent[j]? = some sent ∧ sent'.resumed = sent.resumed) : Accounted c' := by
  refine ⟨fun i h hget => ?_, fun j sent' hget' => ?_⟩
  · rw [hhandlers] at hget
    obtain ⟨js, last, haccount⟩ := ha.each i h hget
    exact ⟨js, last, haccount.keep hkeeps fun j sent' hget' _ => hold j sent' hget'⟩
  · obtain ⟨sent, hget, -⟩ := hold j sent' hget'
    obtain ⟨sent'', hget'', hrequest, -⟩ := hkeeps.sent j sent hget
    obtain rfl := Option.some.inj (hget'.symm.trans hget'')
    rw [hhandlers, hrequest]
    exact ha.known j sent hget

omit [JsNumber ν] in
theorem resumed_of_set {sent : Sent ν β} {served : Served ν} (hget : c.sent[j]? = some sent) {k : ℕ}
    {sent' : Sent ν β} (hget' : (c.sent.set j { sent with served })[k]? = some sent') :
    ∃ sent, c.sent[k]? = some sent ∧ sent'.resumed = sent.resumed := by
  rw [List.getElem?_set] at hget'
  split_ifs at hget' with hk
  · subst hk
    obtain rfl := Option.some.inj hget'
    exact ⟨sent, hget, rfl⟩
  · exact ⟨sent', hget', rfl⟩

theorem Accounted.began (ha : Accounted c) {main : System ν β} {requestId : String} {payload : β}
    {ambient : Ambient} {mainReport : Report ν β}
    (hmain : c.main.step deps.thresholds deps.route (.request requestId payload ambient) =
      .ok (main, mainReport)) :
    Accounted
      (dispatch deps { c with main } c.main.handlers.length (sendsOf mainReport.calls)) := by
  cases System.handler_step hmain with
  | @began h _ _ _ _ _ hattempts hexclude hres hrests hset =>
      have hkeeps := (keeps_of_same rfl rfl : Keeps c { c with main }).trans
        (keeps_dispatch deps _ c.main.handlers.length (sendsOf mainReport.calls))
      have hnew : ∀ (j : ℕ) (sent' : Sent ν β), (dispatch deps { c with main }
          c.main.handlers.length (sendsOf mainReport.calls)).sent[j]? = some sent' →
          c.sent[j]? = some sent' ∨ sent'.request = c.main.handlers.length := by
        intro j sent' hget
        rw [dispatch_sent, List.getElem?_append] at hget
        split_ifs at hget with hlt
        · exact Or.inl hget
        · obtain ⟨call, -, rfl⟩ := List.mem_map.mp (List.mem_of_getElem? hget)
          exact Or.inr rfl
      refine ⟨fun i h' hget => ?_, fun j sent' hget => ?_⟩
      · rw [dispatch_main, hset, List.getElem?_append] at hget
        split_ifs at hget with hlt
        · obtain ⟨js, last, haccount⟩ := ha.each i h' hget
          refine ⟨js, last, haccount.keep hkeeps fun j sent' hget' hrequest => ?_⟩
          rcases hnew j sent' hget' with hold | hlen
          · exact ⟨sent', hold, rfl⟩
          · omega
        · obtain ⟨hbound, -⟩ := List.getElem?_eq_some_iff.mp hget
          obtain rfl : i = c.main.handlers.length := by
            rw [List.length_singleton] at hbound
            omega
          rw [Nat.sub_self] at hget
          obtain rfl := Option.some.inj hget
          refine ⟨[], account_of_rests hrests ?_ ?_ ?_ hres fun j sent hget' hrequest => ?_⟩
          · rw [hattempts]
            exact List.Forall₂.nil
          · rw [hattempts, hexclude]
            rfl
          · rw [hexclude]
            exact List.nodup_nil
          · exact absurd (ha.known j sent hget') (by omega)
      · rw [dispatch_main, hset, List.length_append, List.length_singleton]
        rcases hnew j sent' hget with hold | hlen
        · exact Nat.lt_succ_of_lt (ha.known j sent' hold)
        · omega

omit [JsNumber ν] in
theorem resumed_of_attempted {payload : β} {attempts : List RouteAttempt} {js : List ℕ}
    (h : List.Forall₂ (Attempted c i payload) attempts js) (hj : j ∈ js) :
    ∃ sent, c.sent[j]? = some sent ∧ sent.resumed = true := by
  induction h with
  | nil => cases hj
  | cons hfirst _ ih =>
      rcases List.mem_cons.mp hj with rfl | hj
      · obtain ⟨_, _, _, hspent⟩ := hfirst
        obtain ⟨sent, hget, -, -, -, hresumed⟩ := hspent.sent
        exact ⟨sent, hget, hresumed⟩
      · exact ih hj

omit [JsNumber ν] in
/-- A handler that waits does so for the one send of its request that is not over. -/
theorem Account.awaited {h : Handler ν β} {js : List ℕ} {last : Option (ℕ × String)}
    (ha : Account c i h js last) {decision : RouteResult ν} {id : String} {sent : Sent ν β}
    (hphase : h.phase = .sending decision id) (hget : c.sent[j]? = some sent)
    (hrequest : sent.request = i) (hresumed : sent.resumed = false) :
    last = some (j, id) ∧ sent.replicaId = id ∧ sent.payload = h.payload := by
  have hnot : h.phase.finished ≠ true := by simp [hphase, Phase.finished]
  have hj := ha.complete j sent hget hrequest
  cases ha.closing with
  | @awaiting j₀ decision₀ id₀ sent₀ hphase₀ hget₀ _ hid₀ hpayload₀ _ =>
      obtain ⟨-, rfl⟩ := Phase.sending.inj (hphase.symm.trans hphase₀)
      rcases List.mem_append.mp hj with hj | hj
      · obtain ⟨sent', hget', hresumed'⟩ := resumed_of_attempted ha.attempts hj
        obtain rfl := Option.some.inj (hget.symm.trans hget')
        cases hresumed.symm.trans hresumed'
      · obtain rfl : j = j₀ := List.mem_singleton.mp hj
        obtain rfl := Option.some.inj (hget.symm.trans hget₀)
        exact ⟨rfl, hid₀, hpayload₀⟩
  | unserved hfinished _ => exact absurd hfinished hnot
  | failed _ _ hfinished _ => exact absurd hfinished hnot
  | served _ hfinished _ => exact absurd hfinished hnot

theorem Accounted.resumed (ha : Accounted c) {id : String} {x : Exchange ν (Settled ν β)}
    {sent : Sent ν β} {settled : Settled ν β} {ambient ambient' : Ambient} {main : System ν β}
    {mainReport : Report ν β} (hsend : c.transport.sends[j]? = some (id, x))
    (hsettled : x.wait = .settled settled) (hsent : c.sent[j]? = some sent)
    (hnot : sent.resumed = false)
    (hmain : c.main.step deps.thresholds deps.route
      (.settle sent.request settled ambient ambient') = .ok (main, mainReport)) :
    Accounted (dispatch deps { c with main, sent := c.sent.set j { sent with resumed := true } }
      sent.request (sendsOf mainReport.calls)) := by
  cases System.handler_step hmain with
  | @resumed _ h h' decision replicaId _ _ _ _ hget hphase hwent hrests hset =>
  obtain ⟨js, last, haccount⟩ := ha.each _ h hget
  obtain ⟨rfl, hid, hpayload⟩ := haccount.awaited hphase hsent rfl hnot
  obtain ⟨hlt, -⟩ := List.getElem?_eq_some_iff.mp hsent
  generalize hc₁ : ({ c with main, sent := c.sent.set j { sent with resumed := true } } :
    Fleet ν β) = c₁
  have hsent₁ : c₁.sent = c.sent.set j { sent with resumed := true } := by rw [← hc₁]
  have hsends₁ : c₁.transport.sends = c.transport.sends := by rw [← hc₁]
  have hmain₁ : c₁.main = main := by rw [← hc₁]
  have hkeeps₁ : Keeps c c₁ := keeps_of_set hsent hsent₁ hsends₁ rfl rfl rfl fun _ => rfl
  have hkeeps := hkeeps₁.trans
    (keeps_dispatch deps c₁ sent.request (sendsOf mainReport.calls))
  -- the sends of `c₁` are those of `c`
  have hold₁ : ∀ (k : ℕ) (sent' : Sent ν β), c₁.sent[k]? = some sent' → ∃ sent₀,
      c.sent[k]? = some sent₀ ∧ sent'.request = sent₀.request ∧
        (sent₀.request ≠ sent.request → sent'.resumed = sent₀.resumed) := by
    intro k sent' hget'
    rw [hsent₁, List.getElem?_set] at hget'
    split_ifs at hget' with hk
    · subst hk
      obtain rfl := Option.some.inj hget'
      exact ⟨sent, hsent, rfl, fun hne => absurd rfl hne⟩
    · exact ⟨sent', hget', rfl, fun _ => rfl⟩
  have hold : ∀ (k : ℕ) (sent' : Sent ν β),
      (dispatch deps c₁ sent.request (sendsOf mainReport.calls)).sent[k]? = some sent' →
      c₁.sent[k]? = some sent' ∨ sent'.request = sent.request := by
    intro k sent' hget'
    rw [dispatch_sent, List.getElem?_append] at hget'
    split_ifs at hget' with hk
    · exact Or.inl hget'
    · obtain ⟨call, -, rfl⟩ := List.mem_map.mp (List.mem_of_getElem? hget')
      exact Or.inr rfl
  -- send `j` is over
  have hspent : Spent (dispatch deps c₁ sent.request (sendsOf mainReport.calls)) sent.request j
      replicaId h.payload settled := by
    have hspent₁ : Spent c₁ sent.request j replicaId h.payload settled := by
      refine ⟨⟨{ sent with resumed := true }, ?_, rfl, hid, hpayload, rfl⟩, id, x, ?_, hsettled⟩
      · rw [hsent₁, List.getElem?_set_self hlt]
      · rw [hsends₁, hsend]
    exact hspent₁.keep (keeps_dispatch deps c₁ _ _)
  have hattempts : List.Forall₂ (Attempted
      (dispatch deps c₁ sent.request (sendsOf mainReport.calls)) sent.request h.payload)
      h.attempts js := by
    refine haccount.attempts.imp fun attempt k => ?_
    rintro ⟨err, hretry, heq, hspent'⟩
    exact ⟨err, hretry, heq, hspent'.keep hkeeps⟩
  have hcomplete : ∀ (k : ℕ) (sent' : Sent ν β), c₁.sent[k]? = some sent' →
      sent'.request = sent.request → k ∈ js ++ [j] := by
    intro k sent' hget' hrequest
    obtain ⟨sent₀, hget₀, hrequest₀, -⟩ := hold₁ k sent' hget'
    exact haccount.complete k sent₀ hget₀ (hrequest₀.symm.trans hrequest)
  -- a request that is over makes no other send
  have hclosed : SameTries h h' → h'.phase.finished = true →
      Closing (dispatch deps c₁ sent.request (sendsOf mainReport.calls)) sent.request h'
        (some (j, replicaId)) →
      Account (dispatch deps c₁ sent.request (sendsOf mainReport.calls)) sent.request h' js
        (some (j, replicaId)) := by
    intro hsame hfinished hclosing
    have hnone : sendsOf mainReport.calls = [] := by
      cases hrests with
      | sending hp _ _ => simp [hp, Phase.finished] at hfinished
      | finished _ hsends => exact hsends
    refine ⟨?_, ?_, hclosing, ?_, fun k sent' hget' => ?_⟩
    · rw [hsame.attempts, hsame.payload]
      exact hattempts
    · rw [hsame.attempts, hsame.exclude, haccount.exclude]
    · rw [hsame.exclude]
      exact haccount.distinct
    · rw [hnone] at hget'
      exact hcomplete k sent' hget'
  refine ⟨fun i hd hgeti => ?_, fun k sent' hget' => ?_⟩
  · rw [dispatch_main, hmain₁, hset] at hgeti
    by_cases hi : sent.request = i
    · subst hi
      obtain ⟨hlti, -⟩ := List.getElem?_eq_some_iff.mp hget
      rw [List.getElem?_set_self hlti] at hgeti
      obtain rfl := Option.some.inj hgeti
      cases hwent with
      | @retried err hretry hsame hattempts' hexclude' hres =>
          refine ⟨js ++ [j], account_of_rests hrests ?_ ?_ ?_ hres hcomplete⟩
          · rw [hattempts', hsame.payload]
            exact List.rel_append hattempts (.cons ⟨err, hretry, rfl, hspent⟩ .nil)
          · rw [hattempts', hexclude', haccount.exclude, List.map_append]
            rfl
          · rw [hexclude']
            exact haccount.distinct
      | failed hretry hsame hfinished hres =>
          rw [← hsame.payload] at hspent
          exact ⟨js, _, hclosed hsame hfinished (.failed hspent hretry hfinished hres)⟩
      | served hsame hfinished hres =>
          rw [← hsame.payload] at hspent
          rw [← hsame.attempts, ← hsame.requestId] at hres
          exact ⟨js, _, hclosed hsame hfinished (.served hspent hfinished hres)⟩
    · rw [List.getElem?_set_ne hi] at hgeti
      obtain ⟨js', last', haccount'⟩ := ha.each i hd hgeti
      refine ⟨js', last', haccount'.keep hkeeps fun k sent' hget' hrequest => ?_⟩
      rcases hold k sent' hget' with hget₁ | hmine
      · obtain ⟨sent₀, hget₀, hrequest₀, hsame⟩ := hold₁ k sent' hget₁
        exact ⟨sent₀, hget₀, hsame (by rw [← hrequest₀, hrequest]; exact Ne.symm hi)⟩
      · exact absurd (hmine.symm.trans hrequest) hi
  · rw [dispatch_main, hmain₁, hset, List.length_set]
    rcases hold k sent' hget' with hget₁ | hmine
    · obtain ⟨sent₀, hget₀, hrequest₀, -⟩ := hold₁ k sent' hget₁
      rw [hrequest₀]
      exact ha.known k sent₀ hget₀
    · rw [hmine]
      exact ha.known j sent hsent

/-- **What one step preserves.** -/
theorem Accounted.step (ha : Accounted c) {a : FleetInput ν β}
    (h : c.step deps a = .ok (c', report)) : Accounted c' := by
  have hkeeps := keeps_of_step h
  cases step_cases h with
  | began hmain => exact ha.began hmain
  | resumed hsend hsettled hsent hnot hmain => exact ha.resumed hsend hsettled hsent hnot hmain
  | @tooled _ main _ hmain =>
      have hset : main.handlers = c.main.handlers := by
        cases System.handler_step hmain with
        | tool hset => exact hset
      exact ha.of_quiet hkeeps hset fun j sent' hget => ⟨sent', hget, rfl⟩
  | @probed _ _ _ _ _ _ _ _ _ _ _ main _ _ _ _ _ _ hmain =>
      have hset : main.handlers = c.main.handlers := by
        cases System.handler_step hmain with
        | probed hset => exact hset
      exact ha.of_quiet hkeeps hset fun j sent' hget => ⟨sent', hget, rfl⟩
  | arrived hsent _ _ => exact ha.of_quiet hkeeps rfl fun k sent' hget => resumed_of_set hsent hget
  | woke hsent _ _ => exact ha.of_quiet hkeeps rfl fun k sent' hget => resumed_of_set hsent hget
  | _ => exact ha.of_quiet hkeeps rfl fun j sent' hget => ⟨sent', hget, rfl⟩

/-- **What a run preserves.** -/
theorem accounted_of_exec (h₀ : boot deps config = .ok c₀) (h : Exec (Step deps) c₀ tr c) :
    Accounted c := by
  refine h.invariant (fun _ _ _ hs ha => ha.step hs) ?_
  obtain ⟨hboot, -, -, -, hsent, -⟩ := boot_spec h₀
  have hhandlers := (System.wire_of_boot hboot).2
  refine ⟨fun i h hget => ?_, fun j sent hget => ?_⟩
  · simp [hhandlers] at hget
  · simp [hsent] at hget

end Fleet

end WhyRouted
