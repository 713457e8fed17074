import TeamspeakPrometheus.Exporter.Service
import TeamspeakPrometheus.Library.Backoff
import Mathlib.Analysis.SpecialFunctions.Log.Base

/-! The poll loop: one poll per interval, start to start, backing off on failure. -/

namespace TeamspeakPrometheus.Exporter

open TeamspeakPrometheus.Library.Backoff

def maxBackoffInSeconds : ℚ := 60

def backoffCap (interval : ℚ) : ℚ := max interval maxBackoffInSeconds

def ldexp (x : ℚ) (exponent : ℤ) : ℚ := x * 2 ^ exponent

/-- `ceil(log2(cap) - log2(interval))`, with an exact logarithm. -/
def doublingsNeeded (interval cap : ℚ) : ℤ := Int.clog 2 (cap / interval)

def nextDelay (interval : ℚ) (consecutiveFailures : ℕ) : ℚ :=
  if consecutiveFailures = 0 then interval
  else
    let cap := backoffCap interval
    let needed := doublingsNeeded interval cap
    min (ldexp interval (min consecutiveFailures needed)) cap

section NextDelay

variable {interval : ℚ}

lemma interval_le_cap : interval ≤ backoffCap interval := le_max_left _ _

lemma cap_pos (hpos : 0 < interval) : 0 < backoffCap interval :=
  lt_of_lt_of_le hpos interval_le_cap

lemma doublingsNeeded_le_iff (hpos : 0 < interval) {k : ℤ} :
    doublingsNeeded interval (backoffCap interval) ≤ k ↔ backoffCap interval ≤ interval * 2 ^ k :=
  clog_le_iff hpos (cap_pos hpos)

lemma doublingsNeeded_eq_ceil (hpos : 0 < interval) :
    doublingsNeeded interval (backoffCap interval) =
      ⌈Real.logb 2 (backoffCap interval) - Real.logb 2 interval⌉ := by
  have hinterval : (0 : ℝ) < interval := Rat.cast_pos.mpr hpos
  have hcap : (0 : ℝ) < backoffCap interval := Rat.cast_pos.mpr (cap_pos hpos)
  apply eq_of_forall_ge_iff
  intro k
  rw [Int.ceil_le, ← Real.logb_div hcap.ne' hinterval.ne', doublingsNeeded_le_iff hpos,
    Real.logb_le_iff_le_rpow one_lt_two (div_pos hcap hinterval), div_le_iff₀ hinterval,
    Real.rpow_intCast, mul_comm, ← Rat.cast_le (K := ℝ)]
  push_cast
  rfl

lemma nextDelay_eq (hpos : 0 < interval) (failures : ℕ) :
    nextDelay interval failures = cappedDoubling interval (backoffCap interval) failures := by
  rw [nextDelay]
  split
  · next h =>
    rw [h]
    exact (cappedDoubling_zero interval_le_cap).symm
  · have hneeded : 0 ≤ doublingsNeeded interval (backoffCap interval) :=
      zero_le_clog hpos interval_le_cap
    obtain ⟨m, hm⟩ := Int.eq_ofNat_of_zero_le hneeded
    have hcap : backoffCap interval ≤ interval * 2 ^ m := by
      have hle := (doublingsNeeded_le_iff hpos (k := m)).mp hm.le
      rwa [zpow_natCast] at hle
    dsimp only
    rw [← cappedDoubling_min hpos.le hcap, hm, ← Nat.cast_min, ldexp, zpow_natCast]
    rfl

end NextDelay

/-! The loop's environment: the result and the duration of each poll. -/

structure Tick where
  result : PollResult
  duration : ℚ
  duration_nonneg : 0 ≤ duration

structure Loop where
  now : ℚ
  failures : ℕ := 0
  remaining : Option ℤ
  returned : Bool := false
  starts : List ℚ := []
  sleeps : List ℚ := []

namespace Loop

def goesOn (l : Loop) : Bool :=
  !l.returned && match l.remaining with
    | none => true
    | some remaining => decide (0 < remaining)

def sleep (seconds : ℚ) (l : Loop) : Loop :=
  { l with now := l.now + seconds, sleeps := l.sleeps ++ [seconds] }

def poll (tick : Tick) (l : Loop) : Loop :=
  { l with
    now := l.now + tick.duration
    failures := if tick.result = .failed then l.failures + 1 else 0
    starts := l.starts ++ [l.now] }

def sleepUntilNext (interval started : ℚ) (l : Loop) : Loop :=
  l.sleep (max (nextDelay interval l.failures - (l.now - started)) 0)

def turn (interval : ℚ) (tick : Tick) (l : Loop) : Loop :=
  let started := l.now
  let l := l.poll tick
  match l.remaining with
  | none => l.sleepUntilNext interval started
  | some remaining =>
    let l := { l with remaining := some (remaining - 1) }
    if remaining - 1 = 0 then { l with returned := true } else l.sleepUntilNext interval started

end Loop

/-- The loop after as many turns as it takes of `turns`. -/
def pollForever (interval : ℚ) (iterations : Option ℤ) (start : ℚ) (ticks : ℕ → Tick) : ℕ → Loop
  | 0 => { now := start, remaining := iterations }
  | turns + 1 =>
    let l := pollForever interval iterations start ticks turns
    if l.goesOn then l.turn interval (ticks turns) else l

/-! The plain formula for the waits, from the number of failed polls in a row. -/

section Waits

variable (interval : ℚ) (ticks : ℕ → Tick)

def failedAtEnd (polls : ℕ) : ℕ :=
  ((List.range polls).reverse.takeWhile fun i => (ticks i).result = .failed).length

def plannedWait (failures : ℕ) : ℚ :=
  if failures = 0 then interval else min (interval * 2 ^ failures) (backoffCap interval)

def waitAfter (i : ℕ) : ℚ := plannedWait interval (failedAtEnd ticks (i + 1))

def startOf (start : ℚ) : ℕ → ℚ
  | 0 => start
  | i + 1 => startOf start i + max (waitAfter interval ticks i) (ticks i).duration

structure BacksOff : Prop where
  interval_le : ∀ i, interval ≤ waitAfter interval ticks i
  le_cap : ∀ i, waitAfter interval ticks i ≤ backoffCap interval
  grows : ∀ i, (ticks (i + 1)).result = .failed →
    waitAfter interval ticks i ≤ waitAfter interval ticks (i + 1)
  reaches_cap : ∃ failures, ∀ i, failures ≤ failedAtEnd ticks (i + 1) →
    waitAfter interval ticks i = backoffCap interval
  resets : ∀ i, (ticks i).result ≠ .failed → waitAfter interval ticks i = interval

variable {interval ticks}

@[simp] lemma failedAtEnd_zero : failedAtEnd ticks 0 = 0 := rfl

lemma failedAtEnd_succ (i : ℕ) :
    failedAtEnd ticks (i + 1) =
      if (ticks i).result = .failed then failedAtEnd ticks i + 1 else 0 := by
  rw [failedAtEnd, List.range_succ, List.reverse_append]
  by_cases h : (ticks i).result = .failed
  · simp [h, failedAtEnd]
  · simp [h]

lemma plannedWait_eq (failures : ℕ) :
    plannedWait interval failures = cappedDoubling interval (backoffCap interval) failures := by
  rw [plannedWait]
  split
  · next h =>
    rw [h]
    exact (cappedDoubling_zero interval_le_cap).symm
  · rfl

lemma nextDelay_eq_plannedWait (hpos : 0 < interval) (failures : ℕ) :
    nextDelay interval failures = plannedWait interval failures :=
  (nextDelay_eq hpos failures).trans (plannedWait_eq failures).symm

lemma backsOff (hpos : 0 < interval) (ticks : ℕ → Tick) : BacksOff interval ticks := by
  have hwait : ∀ i, waitAfter interval ticks i =
      cappedDoubling interval (backoffCap interval) (failedAtEnd ticks (i + 1)) :=
    fun i => plannedWait_eq _
  obtain ⟨m, hm⟩ := exists_cappedDoubling_eq_cap hpos (backoffCap interval)
  refine ⟨fun i => ?_, fun i => ?_, fun i hfailed => ?_, ⟨m, fun i hi => ?_⟩, fun i hresult => ?_⟩
  · rw [hwait]
    exact le_cappedDoubling hpos.le interval_le_cap
  · rw [hwait]
    exact cappedDoubling_le
  · rw [hwait, hwait, failedAtEnd_succ (i + 1), if_pos hfailed]
    apply cappedDoubling_monotone hpos.le
    exact Nat.le_succ _
  · rw [hwait]
    exact hm _ hi
  · rw [waitAfter, failedAtEnd_succ, if_neg hresult]
    rfl

end Waits

/-! The whole run. -/

section Run

variable {interval start : ℚ} {iterations : Option ℤ} {ticks : ℕ → Tick} {k m : ℕ} {l : Loop}

/-- The loop when it looks at its guard after `k` polls. -/
structure AtHead (interval start : ℚ) (iterations : Option ℤ) (ticks : ℕ → Tick) (k : ℕ)
    (l : Loop) : Prop where
  now : l.now = startOf interval ticks start k
  failures : l.failures = failedAtEnd ticks k
  remaining : l.remaining = iterations.map fun n => n - (k : ℤ)
  returned : l.returned = false
  starts : l.starts = (List.range k).map (startOf interval ticks start)
  sleeps : l.sleeps.length = k

lemma AtHead.starts_poll (h : AtHead interval start iterations ticks k l) :
    (l.poll (ticks k)).starts = (List.range (k + 1)).map (startOf interval ticks start) := by
  rw [List.range_succ, List.map_append, ← h.starts, List.map_singleton, ← h.now]
  rfl

lemma AtHead.failures_poll (h : AtHead interval start iterations ticks k l) :
    (l.poll (ticks k)).failures = failedAtEnd ticks (k + 1) := by
  rw [failedAtEnd_succ, ← h.failures]
  rfl

lemma AtHead.sleepUntilNext (hpos : 0 < interval) (h : AtHead interval start iterations ticks k l)
    (remaining : Option ℤ) (hremaining : remaining = iterations.map fun n => n - ((k + 1 : ℕ) : ℤ)) :
    AtHead interval start iterations ticks (k + 1)
      ({ l.poll (ticks k) with remaining := remaining }.sleepUntilNext interval l.now) := by
  refine ⟨?_, h.failures_poll, hremaining, h.returned, h.starts_poll, ?_⟩
  · have hwait : nextDelay interval (l.poll (ticks k)).failures = waitAfter interval ticks k := by
      rw [h.failures_poll]
      exact nextDelay_eq_plannedWait hpos _
    calc l.now + (ticks k).duration +
          max (nextDelay interval (l.poll (ticks k)).failures -
            (l.now + (ticks k).duration - l.now)) 0
        = l.now + max (waitAfter interval ticks k) (ticks k).duration := by
          rw [hwait, add_sub_cancel_left, add_assoc, ← max_add_add_left, add_sub_cancel, add_zero]
      _ = startOf interval ticks start (k + 1) := by
          rw [h.now]
          rfl
  · rw [Loop.sleepUntilNext, Loop.sleep, List.length_append]
    exact congrArg (· + 1) h.sleeps

variable (interval start iterations ticks) in
lemma atHead_zero : AtHead interval start iterations ticks 0
    { now := start, remaining := iterations } := by
  refine ⟨rfl, rfl, ?_, rfl, rfl, rfl⟩
  cases iterations with
  | none => rfl
  | some n => exact congrArg some (sub_zero n).symm

lemma AtHead.goesOn (h : AtHead interval start iterations ticks k l)
    (hmore : ∀ n ∈ iterations, (k : ℤ) < n) : l.goesOn = true := by
  rw [Loop.goesOn, h.returned, h.remaining]
  cases iterations with
  | none => rfl
  | some n =>
    have hlt := hmore n rfl
    simpa using hlt

lemma AtHead.not_goesOn {n : ℤ} (h : AtHead interval start (some n) ticks k l) (hle : n ≤ k) :
    l.goesOn = false := by
  rw [Loop.goesOn, h.returned, h.remaining]
  simpa using hle

lemma AtHead.turn (hpos : 0 < interval) (h : AtHead interval start iterations ticks k l)
    (hmore : ∀ n ∈ iterations, ((k + 1 : ℕ) : ℤ) < n) :
    AtHead interval start iterations ticks (k + 1) (l.turn interval (ticks k)) := by
  rw [Loop.turn]
  have hremaining : (l.poll (ticks k)).remaining = iterations.map fun n => n - (k : ℤ) := h.remaining
  cases iterations with
  | none =>
    rw [Option.map_none] at hremaining
    have hself : { l.poll (ticks k) with remaining := (none : Option ℤ) } = l.poll (ticks k) := by
      rw [← hremaining]
    have hnext := h.sleepUntilNext hpos none rfl
    simp only [hremaining]
    rwa [hself] at hnext
  | some n =>
    have hlt := hmore n rfl
    have hne : ¬ n - (k : ℤ) - 1 = 0 := by omega
    rw [Option.map_some] at hremaining
    simp only [hremaining, hne, if_false]
    apply h.sleepUntilNext hpos _
    rw [Option.map_some]
    congr 1
    omega

structure Returned (interval start : ℚ) (ticks : ℕ → Tick) (polls : ℕ) (l : Loop) : Prop where
  returned : l.returned = true
  starts : l.starts = (List.range polls).map (startOf interval ticks start)
  sleeps : l.sleeps.length = polls - 1

lemma AtHead.last_turn (h : AtHead interval start (some ((k + 1 : ℕ) : ℤ)) ticks k l) :
    Returned interval start ticks (k + 1) (l.turn interval (ticks k)) := by
  have hremaining : (l.poll (ticks k)).remaining = some (((k + 1 : ℕ) : ℤ) - (k : ℤ)) := h.remaining
  have hlast : ((k + 1 : ℕ) : ℤ) - (k : ℤ) - 1 = 0 := by omega
  rw [Loop.turn]
  simp only [hremaining, hlast, if_true]
  exact ⟨rfl, h.starts_poll, h.sleeps⟩

variable (start ticks) in
lemma pollForever_atHead (hpos : 0 < interval) (k : ℕ)
    (hmore : k = 0 ∨ ∀ n ∈ iterations, (k : ℤ) < n) :
    AtHead interval start iterations ticks k (pollForever interval iterations start ticks k) := by
  induction k with
  | zero => exact atHead_zero interval start iterations ticks
  | succ k ih =>
    have hmore' := hmore.resolve_left (Nat.succ_ne_zero k)
    have hk : ∀ n ∈ iterations, (k : ℤ) < n := by
      intro n hn
      have hlt := hmore' n hn
      omega
    have hhead := ih (Or.inr hk)
    rw [pollForever, if_pos (hhead.goesOn hk)]
    exact hhead.turn hpos hmore'

lemma pollForever_stopped (hstopped : (pollForever interval iterations start ticks m).goesOn = false)
    (hle : m ≤ k) :
    pollForever interval iterations start ticks k = pollForever interval iterations start ticks m := by
  induction k, hle using Nat.le_induction with
  | base => rfl
  | succ k hle ih => rw [pollForever, ih, hstopped, if_neg Bool.false_ne_true]

variable (start ticks m) in
lemma pollForever_returned (hpos : 0 < interval) :
    Returned interval start ticks (m + 1)
      (pollForever interval (some ((m + 1 : ℕ) : ℤ)) start ticks (m + 1)) := by
  have hmore : ∀ n ∈ some ((m + 1 : ℕ) : ℤ), (m : ℤ) < n := by
    intro n hn
    cases hn
    omega
  have hhead := pollForever_atHead start ticks hpos m (Or.inr hmore)
  rw [pollForever, if_pos (hhead.goesOn hmore)]
  exact hhead.last_turn

def pollsWithin (turns : ℕ) : Option ℤ → ℕ
  | none => turns
  | some n => min turns n.toNat

def sleepsWithin (turns : ℕ) : Option ℤ → ℕ
  | none => turns
  | some n => min turns (n - 1).toNat

structure Paced (interval start : ℚ) (iterations : Option ℤ) (ticks : ℕ → Tick) (turns : ℕ)
    (l : Loop) : Prop where
  starts : l.starts = (List.range (pollsWithin turns iterations)).map (startOf interval ticks start)
  sleeps : l.sleeps.length = sleepsWithin turns iterations
  goesOn : l.goesOn = true ↔ ∀ n ∈ iterations, (turns : ℤ) < n

lemma AtHead.paced (h : AtHead interval start iterations ticks k l)
    (hmore : ∀ n ∈ iterations, (k : ℤ) < n) : Paced interval start iterations ticks k l := by
  have hcounts : pollsWithin k iterations = k ∧ sleepsWithin k iterations = k := by
    cases iterations with
    | none => exact ⟨rfl, rfl⟩
    | some n =>
      have hlt := hmore n rfl
      rw [pollsWithin, sleepsWithin]
      omega
  refine ⟨?_, ?_, iff_of_true (h.goesOn hmore) hmore⟩
  · rw [hcounts.1]
    exact h.starts
  · rw [hcounts.2]
    exact h.sleeps

lemma pollForever_paced_none {n : ℤ} (hn : n ≤ 0) (turns : ℕ) :
    Paced interval start (some n) ticks turns
      (pollForever interval (some n) start ticks turns) := by
  have hhead := atHead_zero interval start (some n) ticks
  have hstopped := hhead.not_goesOn hn
  have hcounts : pollsWithin turns (some n) = 0 ∧ sleepsWithin turns (some n) = 0 := by
    rw [pollsWithin, sleepsWithin]
    omega
  rw [pollForever_stopped (m := 0) hstopped (Nat.zero_le turns)]
  refine ⟨?_, ?_, iff_of_false (ne_true_of_eq_false hstopped) fun hmore => ?_⟩
  · rw [hcounts.1]
    rfl
  · rw [hcounts.2]
    rfl
  · have hlt := hmore n rfl
    omega

lemma pollForever_paced_returned (hpos : 0 < interval) {turns : ℕ} (hle : m + 1 ≤ turns) :
    Paced interval start (some ((m + 1 : ℕ) : ℤ)) ticks turns
      (pollForever interval (some ((m + 1 : ℕ) : ℤ)) start ticks turns) := by
  have hreturned := pollForever_returned start ticks m hpos
  have hstopped : (pollForever interval (some ((m + 1 : ℕ) : ℤ)) start ticks (m + 1)).goesOn =
      false := by
    rw [Loop.goesOn, hreturned.returned]
    rfl
  have hcounts : pollsWithin turns (some ((m + 1 : ℕ) : ℤ)) = m + 1 ∧
      sleepsWithin turns (some ((m + 1 : ℕ) : ℤ)) = m := by
    rw [pollsWithin, sleepsWithin]
    omega
  rw [pollForever_stopped hstopped hle]
  refine ⟨?_, ?_, iff_of_false (ne_true_of_eq_false hstopped) fun hmore => ?_⟩
  · rw [hcounts.1]
    exact hreturned.starts
  · rw [hcounts.2]
    exact hreturned.sleeps
  · have hlt := hmore _ rfl
    omega

lemma pollForever_paced (hpos : 0 < interval) (iterations : Option ℤ) (start : ℚ)
    (ticks : ℕ → Tick) (turns : ℕ) :
    Paced interval start iterations ticks turns
      (pollForever interval iterations start ticks turns) := by
  by_cases hmore : ∀ n ∈ iterations, (turns : ℤ) < n
  · exact (pollForever_atHead start ticks hpos turns (Or.inr hmore)).paced hmore
  · push Not at hmore
    obtain ⟨n, rfl, hle⟩ := hmore
    rcases le_or_gt n 0 with hn | hn
    · exact pollForever_paced_none hn turns
    · obtain ⟨m, rfl⟩ : ∃ m : ℕ, n = ((m + 1 : ℕ) : ℤ) := ⟨(n - 1).toNat, by omega⟩
      exact pollForever_paced_returned hpos (by omega)

end Run

/-- Polls start a planned wait apart, or as long as the poll between them took, and a run that is
asked for `n` polls makes `n` of them, with a sleep between each two. -/
theorem pollForever_spacing (interval : ℚ) (hpos : 0 < interval) (iterations : Option ℤ)
    (start : ℚ) (ticks : ℕ → Tick) (turns : ℕ) :
    let l := pollForever interval iterations start ticks turns
    (∀ i s s', l.starts[i]? = some s → l.starts[i + 1]? = some s' →
      s' = s + max (plannedWait interval (failedAtEnd ticks (i + 1))) (ticks i).duration) ∧
    (∀ failures, nextDelay interval failures = plannedWait interval failures) ∧
    BacksOff interval ticks ∧
    l.starts.length = pollsWithin turns iterations ∧
    l.sleeps.length = sleepsWithin turns iterations ∧
    (l.goesOn = true ↔ ∀ n ∈ iterations, (turns : ℤ) < n) := by
  intro l
  have hpaced : Paced interval start iterations ticks turns l :=
    pollForever_paced hpos iterations start ticks turns
  refine ⟨fun i s s' hs hs' => ?_, nextDelay_eq_plannedWait hpos, backsOff hpos ticks, ?_,
    hpaced.sleeps, hpaced.goesOn⟩
  · rw [hpaced.starts, List.getElem?_map, Option.map_eq_some_iff] at hs hs'
    obtain ⟨i₁, hi₁, rfl⟩ := hs
    obtain ⟨i₂, hi₂, rfl⟩ := hs'
    obtain ⟨_, rfl⟩ := List.getElem?_eq_some_iff.mp hi₁
    obtain ⟨_, rfl⟩ := List.getElem?_eq_some_iff.mp hi₂
    rw [List.getElem_range, List.getElem_range]
    rfl
  · rw [hpaced.starts, List.length_map, List.length_range]

def tickOf (result : PollResult) : Tick := ⟨result, 1, zero_le_one⟩

theorem pollForever_spacing_sample :
    (pollForever 5 (some 3) 0 (fun _ => tickOf .failed) 3).starts.length = 3 ∧
      (pollForever 5 (some 3) 0 (fun _ => tickOf .failed) 3).sleeps.length = 2 := by
  have hspacing := pollForever_spacing 5 (by decide) (some 3) 0 (fun _ => tickOf .failed) 3
  exact ⟨hspacing.2.2.2.1, hspacing.2.2.2.2.1⟩

end TeamspeakPrometheus.Exporter
