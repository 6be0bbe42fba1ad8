/-
The timetable of a timer that is left to itself: in which of the advances of the clock its action
runs, by the ticks of the advances alone. In advances of one tick these are the beats of the timer,
the first tick for which it was started and, with a period, every period after it
(`inStep_ofAdvances`).
-/

namespace Executive

/-! ## Timetables -/

/-- What is to become of a timer while ticks are delivered. -/
structure Timetable where
  /-- The ticks delivered since the timer was started. -/
  total : Nat := 0
  /-- The ticks that had been delivered when the timer was armed last, and the ticks for which it was
  armed; none when it has stopped. -/
  armed : Option (Nat × Nat)
  /-- How often its action runs in each advance, the latest first; last comes the time before all of
  them. -/
  runs : List Nat := [0]
  deriving DecidableEq, Repr

namespace Timetable

variable {period : Option Nat} {first tick : Nat} {timetable : Timetable}

/-- The timetable of a timer that has just been started. -/
def start (span : Nat) : Timetable := { armed := some (0, span) }

/-- The timetable after an advance, for a timer that is armed again for a period or has none. -/
def advance (period : Option Nat) (timetable : Timetable) (delta : Nat) : Timetable :=
  let total := timetable.total + delta
  match timetable.armed with
  | none => { total, armed := none, runs := 0 :: timetable.runs }
  | some (base, span) =>
    if span ≤ total - base then { total, armed := period.map (total, ·), runs := 1 :: timetable.runs }
    else { total, armed := some (base, span), runs := 0 :: timetable.runs }

/-- The timetable of a timer after some advances. -/
def ofAdvances (first : Nat) (period : Option Nat) (deltas : List Nat) : Timetable :=
  deltas.foldl (advance period) (start first)

/-! ## Beats -/

/-- Whether a tick is the first one or a number of periods after it. -/
def IsBeat (first : Nat) (period : Option Nat) (tick : Nat) : Prop :=
  ∃ count, tick = first + count * period.getD 0

theorem isBeat_iff : IsBeat first period tick ↔ first ≤ tick ∧ period.getD 0 ∣ tick - first := by
  constructor
  · rintro ⟨count, rfl⟩
    exact ⟨Nat.le_add_right .., by rw [Nat.add_sub_cancel_left]; exact Nat.dvd_mul_left ..⟩
  · rintro ⟨hle, count, hcount⟩
    exact ⟨count, by rw [Nat.mul_comm, ← hcount, Nat.add_sub_cancel' hle]⟩

instance : Decidable (IsBeat first period tick) := decidable_of_iff _ isBeat_iff.symm

theorem isBeat_first : IsBeat first period first := ⟨0, by rw [Nat.zero_mul, Nat.add_zero]⟩

theorem IsBeat.le (h : IsBeat first period tick) : first ≤ tick := (isBeat_iff.1 h).1

/-- Without a period there is one beat. -/
theorem isBeat_none : IsBeat first none tick ↔ tick = first := by
  constructor
  · rintro ⟨count, rfl⟩
    rfl
  · rintro rfl
    exact isBeat_first

/-- After a beat the next one is the first. -/
theorem isBeat_add {ticks : Nat} (hlt : first < tick) :
    IsBeat (first + ticks) (some ticks) tick ↔ IsBeat first (some ticks) tick := by
  have hsucc (count : Nat) : first + ticks + count * ticks = first + (count + 1) * ticks := by
    rw [Nat.succ_mul]
    omega
  constructor
  · rintro ⟨count, rfl⟩
    exact ⟨count + 1, hsucc count⟩
  · rintro ⟨_ | count, rfl⟩
    · simp at hlt
    · exact ⟨count, (hsucc count).symm⟩

/-- A timetable in step with the beats: it has an entry for each tick so far, and the timer is armed for
the next beat. -/
structure InStep (first : Nat) (period : Option Nat) (count : Nat) (timetable : Timetable) : Prop where
  total : timetable.total = count
  runs : timetable.runs.reverse =
    (List.range (count + 1)).map fun tick => if IsBeat first period tick then 1 else 0
  stopped : timetable.armed = none → ∀ tick, count < tick → ¬ IsBeat first period tick
  armed : ∀ base span, timetable.armed = some (base, span) → base ≤ count ∧ count < base + span ∧
    ∀ tick, count < tick → (IsBeat (base + span) period tick ↔ IsBeat first period tick)

theorem inStep_start (hfirst : 1 ≤ first) : InStep first period 0 (start first) where
  total := rfl
  runs := by
    have hnone : ¬ IsBeat first period 0 := fun h => absurd h.le (Nat.not_le.2 hfirst)
    simp [start, hnone]
  stopped h := by cases h
  armed := by
    rintro _ _ ⟨⟩
    refine ⟨Nat.le_refl 0, by omega, fun tick _ => by rw [Nat.zero_add]⟩

/-- What is noted of an advance of one tick, by whether it leads to a beat. -/
theorem InStep.runs_cons {count : Nat} (h : InStep first period count timetable) {entry : Nat}
    (hentry : entry = if IsBeat first period (count + 1) then 1 else 0) :
    (entry :: timetable.runs).reverse =
      (List.range (count + 1 + 1)).map fun tick => if IsBeat first period tick then 1 else 0 := by
  rw [List.reverse_cons, h.runs, List.range_succ (n := count + 1), List.map_append, hentry]
  rfl

theorem InStep.advance {count : Nat} (h : InStep first period count timetable)
    (hperiod : ∀ ticks ∈ period, 1 ≤ ticks) :
    InStep first period (count + 1) (timetable.advance period 1) := by
  have htotal := h.total
  unfold Timetable.advance
  rcases harmed : timetable.armed with _ | ⟨base, span⟩
  · -- the timer has stopped, and no beat is to come
    have hnone := h.stopped harmed
    have hnow := hnone _ (Nat.lt_succ_self _)
    refine ⟨by rw [htotal], h.runs_cons (if_neg hnow).symm, fun _ tick hlt => ?_, nofun⟩
    exact hnone tick (Nat.lt_of_succ_lt hlt)
  obtain ⟨hbase, hnext, hbeats⟩ := h.armed base span harmed
  simp only [htotal]
  by_cases hdue : span ≤ count + 1 - base
  · -- this tick is the beat for which the timer is armed
    have hnow : base + span = count + 1 := by omega
    rw [hnow] at hbeats
    rw [if_pos hdue]
    refine ⟨rfl, h.runs_cons (if_pos ((hbeats _ (Nat.lt_succ_self _)).1 isBeat_first)).symm, ?_, ?_⟩
    · intro hstopped tick hlt hbeat
      have hlater := (hbeats tick (Nat.lt_of_succ_lt hlt)).2 hbeat
      rw [Option.map_eq_none_iff.1 hstopped, isBeat_none] at hlater
      exact Nat.ne_of_gt hlt hlater
    · rintro _ ticks hagain
      obtain ⟨_, hticks, heq⟩ := Option.map_eq_some_iff.1 hagain
      cases heq
      have hpos := hperiod ticks hticks
      refine ⟨Nat.le_refl _, by omega, fun tick hlt => ?_⟩
      rw [← hbeats tick (Nat.lt_of_succ_lt hlt), hticks]
      exact isBeat_add hlt
  · -- the beat is still to come
    have hnot : ¬ IsBeat first period (count + 1) := fun hbeat => by
      have hle := ((hbeats _ (Nat.lt_succ_self _)).2 hbeat).le
      omega
    rw [if_neg hdue]
    refine ⟨rfl, h.runs_cons (if_neg hnot).symm, nofun, ?_⟩
    rintro _ _ ⟨⟩
    exact ⟨by omega, by omega, fun tick hlt => hbeats tick (Nat.lt_of_succ_lt hlt)⟩

/-- In advances of one tick the action runs at the beats. -/
theorem inStep_ofAdvances (hfirst : 1 ≤ first) (hperiod : ∀ ticks ∈ period, 1 ≤ ticks) (count : Nat) :
    InStep first period count (ofAdvances first period (List.replicate count 1)) := by
  induction count with
  | zero => exact inStep_start hfirst
  | succ count ih =>
    rw [List.replicate_succ', ofAdvances, List.foldl_append]
    exact ih.advance hperiod

end Timetable

end Executive
