import WhyRouted.Histories
import WhyRouted.Types

/-! # Hysteresis, one replica at a time

The automaton the scheduler runs for each replica, away from maps, sinks and clocks: a health
value and two counters, driven by probe completions and ejections.  `next` is one event and
`run` a history from the initial unknown state; `Scheduler.lean` proves that the code's `eject`
and `pollOne` apply `next`.

The state keeps only two counters, and an ejection writes a made-up failure count, so what a
counter means depends on the health.  `Tracks` is that meaning against the history: the
successes are always those since the last failure or effective ejection, the failures are the
real ones in a row whenever the replica is not unhealthy, and a counter stays below its
threshold while the health it would bring is still to come.  `tracks_run` keeps it along every
history, and the exactness of the transitions follows from it. -/

namespace WhyRouted

/-- The scheduler's private record of one replica. -/
structure ReplicaHysteresis where
  health : ReplicaHealth
  consecFailures : ℕ
  consecSuccesses : ℕ
deriving DecidableEq, Repr

/-- The thresholds `N` and `M`, as `loadConfig` accepts them. -/
structure Thresholds where
  /-- `N`: consecutive failures before a replica is marked unhealthy. -/
  unhealthyThreshold : ℕ
  /-- `M`: consecutive successes before a replica becomes or recovers to healthy. -/
  healthyThreshold : ℕ
  unhealthy_pos : 1 ≤ unhealthyThreshold
  healthy_pos : 1 ≤ healthyThreshold

/-- What can happen to one replica. -/
inductive HealthEvent where
  | succeeded
  | failed
  | ejected
deriving DecidableEq, Repr

namespace ReplicaHysteresis

/-- The record the scheduler's constructor writes. -/
def initial : ReplicaHysteresis := ⟨.unknown, 0, 0⟩

variable (th : Thresholds)

def next (h : ReplicaHysteresis) : HealthEvent → ReplicaHysteresis
  | .succeeded =>
      { health := if h.health ≠ .healthy ∧ th.healthyThreshold ≤ h.consecSuccesses + 1
          then .healthy else h.health
        consecFailures := 0
        consecSuccesses := h.consecSuccesses + 1 }
  | .failed =>
      { health := if h.health ≠ .unhealthy ∧ th.unhealthyThreshold ≤ h.consecFailures + 1
          then .unhealthy else h.health
        consecFailures := h.consecFailures + 1
        consecSuccesses := 0 }
  | .ejected => if h.health = .unhealthy then h else ⟨.unhealthy, th.unhealthyThreshold, 0⟩

def run (events : List HealthEvent) : ReplicaHysteresis := events.foldl (next th) initial

@[simp] theorem run_nil : run th [] = initial := rfl

@[simp] theorem run_concat (events : List HealthEvent) (e : HealthEvent) :
    run th (events ++ [e]) = (run th events).next th e := by
  simp [run]

theorem next_ejected_of_unhealthy {h : ReplicaHysteresis} (hu : h.health = .unhealthy) :
    h.next th .ejected = h := by
  simp [next, hu]

end ReplicaHysteresis

open ReplicaHysteresis

/-! ### Reading a history -/

/-- The probe completions of a history. -/
def probesOf (events : List HealthEvent) : List HealthEvent :=
  events.filter fun e => decide (e ≠ .ejected)

/-- The events that took effect: all but the ejections of a replica already unhealthy. -/
def effectiveOf (th : Thresholds) (events : List HealthEvent) : List HealthEvent :=
  (List.range events.length).filterMap fun i =>
    if events[i]? = some .ejected ∧ (run th (events.take i)).health = .unhealthy then none
    else events[i]?

/-- Failed probes in a row, ejections set aside. -/
def failRun (events : List HealthEvent) : ℕ :=
  trailing (fun e => decide (e = .failed)) (probesOf events)

/-- Successful probes since the later of the last failed one and the last ejection that took
effect. -/
def okRun (th : Thresholds) (events : List HealthEvent) : ℕ :=
  trailing (fun e => decide (e = .succeeded)) (effectiveOf th events)

theorem effectiveOf_concat (th : Thresholds) (events : List HealthEvent) (e : HealthEvent) :
    effectiveOf th (events ++ [e]) =
      if e = .ejected ∧ (run th events).health = .unhealthy then effectiveOf th events
      else effectiveOf th events ++ [e] := by
  unfold effectiveOf
  rw [List.length_append, List.length_singleton, List.range_succ, List.filterMap_append]
  have hold : ∀ i ∈ List.range events.length,
      (if (events ++ [e])[i]? = some .ejected ∧
          (run th ((events ++ [e]).take i)).health = .unhealthy then none
        else (events ++ [e])[i]?) =
      (if events[i]? = some .ejected ∧ (run th (events.take i)).health = .unhealthy then none
        else events[i]?) := by
    intro i hi
    have hlt := List.mem_range.mp hi
    rw [List.getElem?_append_left hlt, List.take_append_of_le_length hlt.le]
  rw [List.filterMap_congr hold]
  split_ifs with h <;> simp [h]

theorem failRun_concat (events : List HealthEvent) (e : HealthEvent) :
    failRun (events ++ [e]) = match e with
      | .succeeded => 0
      | .failed => failRun events + 1
      | .ejected => failRun events := by
  cases e <;> simp [failRun, probesOf, trailing_concat]

theorem okRun_concat (th : Thresholds) (events : List HealthEvent) (e : HealthEvent) :
    okRun th (events ++ [e]) = match e with
      | .succeeded => okRun th events + 1
      | .failed => 0
      | .ejected => if (run th events).health = .unhealthy then okRun th events else 0 := by
  unfold okRun
  rw [effectiveOf_concat]
  cases e with
  | succeeded => simp [trailing_concat]
  | failed => simp [trailing_concat]
  | ejected => by_cases hu : (run th events).health = .unhealthy <;> simp [hu, trailing_concat]

/-- The failed probes counted are the last ones. -/
theorem probesOf_of_failRun {events : List HealthEvent} {n : ℕ} (h : failRun events = n) :
    ∃ earlier, probesOf events = earlier ++ List.replicate n .failed :=
  exists_append_replicate h.ge

/-- So are the successful ones: the ejections left out of the count interrupt nothing. -/
theorem probesOf_of_okRun {th : Thresholds} {events : List HealthEvent} {n : ℕ}
    (h : okRun th events = n) :
    ∃ earlier, probesOf events = earlier ++ List.replicate n .succeeded := by
  refine exists_append_replicate (h.ge.trans ?_)
  clear h
  induction events using List.reverseRecOn with
  | nil => exact le_rfl
  | append_singleton events e ih =>
      rw [okRun_concat]
      cases e with
      | succeeded => simp [probesOf, trailing_concat] at ih ⊢; exact ih
      | failed => exact Nat.zero_le _
      | ejected =>
          have hprobes : probesOf (events ++ [.ejected]) = probesOf events := by simp [probesOf]
          rw [hprobes]
          split_ifs
          · exact ih
          · exact Nat.zero_le _

/-! ### What the counters mean -/

/-- The record `h` is what the history `events` makes it. -/
structure Tracks (th : Thresholds) (events : List HealthEvent) (h : ReplicaHysteresis) : Prop where
  successes : h.consecSuccesses = okRun th events
  failures : h.health ≠ .unhealthy → h.consecFailures = failRun events
  below_healthy : h.health ≠ .healthy → h.consecSuccesses < th.healthyThreshold
  below_unhealthy : h.health ≠ .unhealthy → h.consecFailures < th.unhealthyThreshold

theorem tracks_run (th : Thresholds) (events : List HealthEvent) :
    Tracks th events (run th events) := by
  have hN := th.unhealthy_pos
  have hM := th.healthy_pos
  induction events using List.reverseRecOn with
  | nil =>
      refine ⟨rfl, fun _ => rfl, fun _ => ?_, fun _ => ?_⟩ <;> simp only [run_nil, initial] <;>
        omega
  | append_singleton events e ih =>
      obtain ⟨hs, hf, hbh, hbu⟩ := ih
      rw [run_concat]
      generalize hr : run th events = h at *
      cases e with
      | succeeded =>
          refine ⟨?_, ?_, ?_, ?_⟩
          · rw [okRun_concat, ← hs]; rfl
          · rw [failRun_concat]; exact fun _ => rfl
          · simp only [next]
            split_ifs with hc
            · simp
            · intro hne
              have := hbh hne
              have : ¬ th.healthyThreshold ≤ h.consecSuccesses + 1 := fun hle => hc ⟨hne, hle⟩
              omega
          · intro _; simp only [next]; omega
      | failed =>
          refine ⟨?_, ?_, ?_, ?_⟩
          · rw [okRun_concat]; rfl
          · simp only [next, failRun_concat]
            split_ifs with hc
            · simp
            · intro hne; rw [hf hne]
          · intro _; simp only [next]; omega
          · simp only [next]
            split_ifs with hc
            · simp
            · intro hne
              have : ¬ th.unhealthyThreshold ≤ h.consecFailures + 1 := fun hle => hc ⟨hne, hle⟩
              omega
      | ejected =>
          by_cases hu : h.health = .unhealthy
          · rw [next_ejected_of_unhealthy th hu]
            refine ⟨?_, fun hne => absurd hu hne, hbh, fun hne => absurd hu hne⟩
            rw [okRun_concat, hr, if_pos hu, hs]
          · have hnext : h.next th .ejected = ⟨.unhealthy, th.unhealthyThreshold, 0⟩ := if_neg hu
            rw [hnext]
            refine ⟨?_, fun hne => absurd rfl hne, fun _ => hM, fun hne => absurd rfl hne⟩
            rw [okRun_concat, hr, if_neg hu]

/-! ### Exactness -/

section exactness

variable (th : Thresholds) (events : List HealthEvent) (e : HealthEvent)

/-- A replica becomes healthy exactly at a probe that completes `M` successes in a row. -/
theorem becomes_healthy_iff (hne : (run th events).health ≠ .healthy) :
    (run th (events ++ [e])).health = .healthy ↔
      e = .succeeded ∧ okRun th (events ++ [e]) = th.healthyThreshold := by
  obtain ⟨hs, _, hbh, _⟩ := tracks_run th events
  have hlt := hbh hne
  rw [run_concat, okRun_concat]
  cases e with
  | succeeded =>
      simp only [next, ← hs]
      split_ifs with hc
      · have hcount : (run th events).consecSuccesses + 1 = th.healthyThreshold := by omega
        simp [hcount]
      · have hcount : (run th events).consecSuccesses + 1 ≠ th.healthyThreshold :=
          fun heq => hc ⟨hne, heq.ge⟩
        simp [hne, hcount]
  | failed =>
      simp only [next]
      split_ifs <;> simp [hne]
  | ejected =>
      simp only [next]
      split_ifs <;> simp [hne]

/-- A replica becomes unhealthy exactly at a probe that completes `N` failures in a row, or at
an ejection. -/
theorem becomes_unhealthy_iff (hne : (run th events).health ≠ .unhealthy) :
    (run th (events ++ [e])).health = .unhealthy ↔
      (e = .failed ∧ failRun (events ++ [e]) = th.unhealthyThreshold) ∨ e = .ejected := by
  obtain ⟨_, hf, _, hbu⟩ := tracks_run th events
  have hlt := hbu hne
  have heq := hf hne
  rw [run_concat, failRun_concat]
  cases e with
  | succeeded =>
      simp only [next]
      split_ifs <;> simp [hne]
  | failed =>
      simp only [next, ← heq]
      split_ifs with hc
      · have hcount : (run th events).consecFailures + 1 = th.unhealthyThreshold := by omega
        simp [hcount]
      · have hcount : (run th events).consecFailures + 1 ≠ th.unhealthyThreshold :=
          fun heq => hc ⟨hne, heq.ge⟩
        simp [hne, hcount]
  | ejected => simp [next, hne]

theorem health_ne_unknown (hne : (run th events).health ≠ .unknown) :
    (run th (events ++ [e])).health ≠ .unknown := by
  rw [run_concat]
  cases e with
  | succeeded => simp only [next]; split_ifs <;> simp [hne]
  | failed => simp only [next]; split_ifs <;> simp [hne]
  | ejected => simp only [next]; split_ifs <;> simp [hne]

end exactness

/-! ### Over a stretch of history -/

section stretch

variable (th : Thresholds) (events : List HealthEvent) {w : List HealthEvent}

theorem probesOf_concat (e : HealthEvent) :
    probesOf (events ++ [e]) = probesOf events ++ if e = .ejected then [] else [e] := by
  cases e <;> simp [probesOf]

theorem probesOf_append (w : List HealthEvent) :
    probesOf (events ++ w) = probesOf events ++ probesOf w := List.filter_append ..

theorem le_failRun_append (hw : ∀ e ∈ probesOf w, e = .failed) :
    (probesOf w).length ≤ failRun (events ++ w) := by
  have hall : ∀ e ∈ probesOf w, decide (e = HealthEvent.failed) = true := by simpa using hw
  unfold failRun
  rw [probesOf_append, le_trailing_iff]
  exact ⟨probesOf events, probesOf w, rfl, rfl, hall⟩

/-- `N` failures and no success bring a replica down, ejected or not. -/
theorem unhealthy_of_failures (hw : ∀ e ∈ probesOf w, e = .failed)
    (hN : th.unhealthyThreshold ≤ (probesOf w).length) :
    (run th (events ++ w)).health = .unhealthy := by
  by_contra hne
  obtain ⟨-, hfailures, -, hbelow⟩ := tracks_run th (events ++ w)
  have hcount := le_failRun_append events hw
  have hlt := hbelow hne
  rw [hfailures hne] at hlt
  omega

/-- Successes add up until a failure, or an ejection that takes effect. -/
theorem le_okRun_append (hw : ∀ e ∈ w, e ≠ .failed)
    (hup : ∀ w₁ w₂, w = w₁ ++ .ejected :: w₂ → (run th (events ++ w₁)).health = .unhealthy) :
    (probesOf w).length ≤ okRun th (events ++ w) := by
  induction w using List.reverseRecOn with
  | nil => exact Nat.zero_le _
  | append_singleton w e ih =>
      have hbefore := ih (fun e he => hw e (List.mem_append_left _ he))
        (fun w₁ w₂ hsplit => hup w₁ (w₂ ++ [e]) (by simp [hsplit]))
      rw [← List.append_assoc, okRun_concat, probesOf_concat, List.length_append]
      cases e with
      | succeeded => simpa using hbefore
      | failed => exact absurd rfl (hw .failed (by simp))
      | ejected =>
          rw [if_pos (hup w [] rfl)]
          simpa using hbefore

/-- `M` successes bring a replica up, unless it goes down on the way. -/
theorem healthy_of_successes (hw : ∀ e ∈ w, e ≠ .failed)
    (hup : ∀ w₁ w₂, w = w₁ ++ .ejected :: w₂ → (run th (events ++ w₁)).health = .unhealthy)
    (hM : th.healthyThreshold ≤ (probesOf w).length) :
    (run th (events ++ w)).health = .healthy := by
  by_contra hne
  obtain ⟨hsuccesses, -, hbelow, -⟩ := tracks_run th (events ++ w)
  have hcount := le_okRun_append th events hw hup
  have hlt := hbelow hne
  rw [hsuccesses] at hlt
  omega

end stretch

end WhyRouted
