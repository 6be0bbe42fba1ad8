/-
What one critical section of a delivery of ticks does: it takes out a due object, ends the delivery
with the clock as it was or rebased, or does the action of an object taken out before.
-/
import Executive.Kernel.Advance
import Executive.Proofs.Kernel.Timers

namespace Executive.Kernel

open Critical

variable {s : Section}

/-! ## Taking out due objects -/

/-- How a delivery goes on when the action in hand is done. -/
inductive NextDue (s : Section) : Option TimerAction → Section → Prop
  | popped {object : ObjectId} {action : TimerAction} {heap : TimerHeap}
    (hpop : TimerHeap.Popped object action s.kernel.heap heap) :
    NextDue s (some action)
      ⟨s.kernel.setHeap heap, s.signals ++ [.report (.objectExpired object heap.clock)]⟩
  | idle (hidle : s.kernel.heap.Idle) (hclock : s.kernel.heap.clock < s.kernel.heap.maxTick) :
    NextDue s none s
  | rebased {heap : TimerHeap} (hidle : s.kernel.heap.Idle)
    (hclock : s.kernel.heap.maxTick ≤ s.kernel.heap.clock)
    (hrebase : TimerHeap.Rebased s.kernel.heap heap) :
    NextDue s none
      ⟨s.kernel.setHeap heap, s.signals ++ [.report (.clockRebased s.kernel.heap.clock)]⟩

theorem nextDue_spec (h : s.kernel.WellFormed) :
    nextDue.Ends s fun r t => t.kernel.WellFormed ∧ NextDue s r t := by
  simp only [nextDue, ends_bind, ends_kernel, ends_liftM]
  rcases TimerHeap.popDue_spec h.heap with ⟨hidle, hpop⟩ | ⟨object, action, heap, hpop, hwf, hp⟩
  · refine ⟨_, hpop, ?_⟩
    simp only [ends_bind, ends_liftM]
    rcases TimerHeap.rebase_spec h.heap hidle with ⟨hclock, hrebase⟩ | ⟨hclock, heap, hrebase, hr⟩
    · refine ⟨_, hrebase, ?_⟩
      simp only [ends_setHeap, ends_pure]
      exact ⟨h, .idle hidle hclock⟩
    · refine ⟨_, hrebase, ?_⟩
      simp only [ends_setHeap, ends_bind, ends_report, ends_pure]
      exact ⟨h.rebased hr, .rebased hidle hclock hr⟩
  · refine ⟨_, hpop, ?_⟩
    simp only [ends_bind, ends_setHeap, ends_report, ends_pure]
    exact ⟨h.removed hwf hp.toRemoved, .popped hp⟩

theorem beginAdvance_spec (h : s.kernel.WellFormed) (delta : Nat) :
    (beginAdvance delta).Ends s fun r t => t.kernel.WellFormed ∧
      NextDue ⟨s.kernel.setHeap (s.kernel.heap.advanceClock delta), s.signals⟩ r t := by
  simp only [beginAdvance, ends_bind, ends_kernel, ends_setHeap]
  exact nextDue_spec (h.advanceClock delta)

/-- The action taken out is that of an object of the heap. -/
theorem NextDue.serves {action : TimerAction} {t : Section} (h : s.kernel.WellFormed)
    (hnext : NextDue s (some action) t) : ∃ object, s.kernel.config.Serves object action := by
  cases hnext with
  | popped hpop => exact ⟨_, h.serves _ _ hpop.armed⟩

/-! ## Actions -/

/-- What doing an action comes to. -/
inductive ActionDone (s : Section) : TimerAction → Section → Prop
  | woken {task : TaskId} :
    ActionDone s (.wakeTask task) ⟨s.kernel, s.signals ++ [.notify (.task task)]⟩
  | fired {id : TimerId} {t : Section} (hfired : TimerFired id s (.ok ()) t) :
    ActionDone s (.fireTimer id) t
  | failed {id : TimerId} {error : Error} {t : Section} (hfired : TimerFired id s (.error error) t) :
    ActionDone s (.fireTimer id) ⟨t.kernel, t.signals ++ [.report (.timerFailed id error)]⟩

theorem runAction_spec (h : s.kernel.WellFormed) {action : TimerAction} {object : ObjectId}
    (hserves : s.kernel.config.Serves object action) :
    (runAction action).Ends s fun _ t => t.kernel.WellFormed ∧ ActionDone s action t := by
  cases action with
  | wakeTask task =>
    have hgate := hasGate_task (Array.getElem?_eq_getElem (h.tasks_size ▸ hserves.1))
    simp only [runAction, ends_notify]
    exact ⟨hgate, h, .woken⟩
  | fireTimer id =>
    simp only [runAction, ends_bind]
    refine Critical.Ends.mono (fireTimer_spec h (h.timers_size ▸ hserves.1)) fun r t hf => ?_
    cases r with
    | ok => exact (ends_pure _).2 ⟨hf.1, .fired hf.2⟩
    | error error => exact (ends_report _).2 ⟨hf.1, .failed hf.2⟩

end Executive.Kernel
