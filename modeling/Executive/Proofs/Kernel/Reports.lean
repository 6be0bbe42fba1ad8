/-
How many signals of a kind a section gives. Reports of the heap and of timers that fire come from the
starts of objects and from the actions of timers alone: a kind that holds no other signals
(`OfTiming`) is counted in those sections, and its number stays as it is in all others.
-/
import Executive.Proofs.Kernel.Objects

namespace Executive

namespace Signal

/-- Whether a signal reports the start of an object or a timer that fires. -/
def isTiming : Signal → Bool
  | .report (.heapFull ..) | .report (.objectArmed ..) | .report (.timerFired _) => true
  | _ => false

/-- A kind of signals that report starts and firings only. -/
def OfTiming (kind : Signal → Bool) : Prop := ∀ signal, signal.isTiming = false → kind signal = false

/-- Whether a signal reports that a timer fires. -/
def isFiring (id : TimerId) : Signal → Bool
  | .report (.timerFired timer) => timer == id
  | _ => false

theorem isFiring_iff {id : TimerId} {signal : Signal} :
    signal.isFiring id = true ↔ signal = .report (.timerFired id) := by
  cases signal with
  | notify => simp [isFiring]
  | report record => cases record <;> simp [isFiring]

theorem ofTiming_isFiring (id : TimerId) : OfTiming (isFiring id) := by
  rintro (gate | record) h
  · rfl
  · cases record <;> simp_all [isFiring, isTiming]

end Signal

namespace Kernel

open Signal (OfTiming isTiming)

variable {kind : Signal → Bool} {s t : Section}

/-- A kind that the starts of objects of the heap do not report. -/
def StartsApart (kind : Signal → Bool) (kernel : Kernel) : Prop :=
  ∀ object delay action, 0 < object → object < kernel.heap.objects.size →
    kind (.report (startRecord kernel.heap object delay action)) = false

theorem startsApart_isFiring (id : TimerId) (kernel : Kernel) : StartsApart (Signal.isFiring id) kernel := by
  intro object delay action _ _
  unfold startRecord
  split <;> rfl

theorem MessageTaken.signals_eq {id : QueueId} {message : Option Message} (h : MessageTaken id s message t) :
    t.signals = s.signals := by
  cases h with
  | empty | taken => rfl

theorem any_receiverSignals (id : QueueId) (queue : Queue) :
    (receiverSignals id queue).any isTiming = false := by
  cases hw : queue.waiting <;> simp [receiverSignals, hw, isTiming]

section Count

variable (hkind : OfTiming kind)

include hkind

/-- Signals of other kinds are not counted. -/
theorem countP_append_plain {before rest : List Signal} (hplain : rest.any isTiming = false) :
    (before ++ rest).countP kind = before.countP kind := by
  have hnone : rest.countP kind = 0 := by
    rw [List.countP_eq_zero]
    intro signal hsignal
    rw [hkind signal (Bool.not_eq_true _ ▸ List.any_eq_false.1 hplain signal hsignal)]
    exact Bool.false_ne_true
  rw [List.countP_append, hnone, Nat.add_zero]

theorem EventsPosted.countP_eq {id : TaskId} {bits : EventBits} {r : Except Error Unit}
    (h : EventsPosted id bits s r t) : t.signals.countP kind = s.signals.countP kind := by
  cases h with
  | refused => rfl
  | @posted task =>
    apply countP_append_plain hkind
    cases hw : task.isWokenBy bits <;> simp [postSignals, hw, isTiming]

theorem BoundPosted.countP_eq {binding : Option Binding} {r : Except Error Unit}
    (h : BoundPosted binding s r t) : t.signals.countP kind = s.signals.countP kind := by
  cases binding with
  | none => rw [h.2]
  | some binding => exact EventsPosted.countP_eq hkind h

theorem MessagePosted.countP_eq {id : QueueId} {message : Message} {mode : PostMode}
    {r : Except Error Unit} (h : MessagePosted id message mode s r t) :
    t.signals.countP kind = s.signals.countP kind := by
  cases h with
  | refused => rfl
  | @pushed queue _ _ _ _ _ _ _ hbound =>
    exact (hbound.countP_eq hkind).trans (countP_append_plain hkind (any_receiverSignals id queue))

theorem ActedOn.countP_eq {target : TimerTarget} {r : Except Error Unit} (h : ActedOn target s r t) :
    t.signals.countP kind = s.signals.countP kind := by
  cases target with
  | event => exact EventsPosted.countP_eq hkind h
  | message => exact MessagePosted.countP_eq hkind h

theorem QueueDeleted.countP_eq {id : QueueId} {r : Except Error Unit} (h : QueueDeleted id s r t) :
    t.signals.countP kind = s.signals.countP kind := by
  cases h with
  | refused => rfl
  | @deleted queue =>
    apply countP_append_plain hkind
    by_cases hcount : 0 < queue.count <;> simp [deleteSignals, hcount, any_receiverSignals, isTiming]

theorem AllQueuesDeleted.countP_eq {r : Except Error Unit} (h : AllQueuesDeleted s r t) :
    t.signals.countP kind = s.signals.countP kind := by
  rw [h.signals, List.append_assoc]
  apply countP_append_plain hkind
  simp [List.any_flatMap, any_receiverSignals, isTiming]

/-- The action of a timer leaves it alone, or the timer fires and reports it once. -/
theorem TimerFired.countP_cases {id : TimerId} {r : Except Error Unit} (hwf : s.kernel.WellFormed)
    (hstarts : StartsApart kind s.kernel) (h : TimerFired id s r t) : t = s ∨
      t.signals.countP kind = s.signals.countP kind + [Signal.report (.timerFired id)].countP kind := by
  cases h with
  | scheduled | inactive => exact Or.inl rfl
  | expired _ _ hact => exact Or.inr (by rw [hact.countP_eq hkind, List.countP_append])
  | @rearmed _ period _ _ _ _ hget _ hact =>
    obtain ⟨hpos, hlt⟩ := timerObject_inRange hwf hget
    have hstart := hstarts _ period (.fireTimer id) hpos hlt
    apply Or.inr
    rw [hact.countP_eq hkind, List.countP_append, List.countP_cons_of_neg (ne_true_of_eq_false hstart)]

theorem NextDue.countP_eq {action : Option TimerAction} (h : NextDue s action t) :
    t.signals.countP kind = s.signals.countP kind := by
  cases h with
  | idle => rfl
  | popped | rebased => exact countP_append_plain hkind rfl

theorem Performed.countP_eq {operation : Operation} {r : Except Error (Progress Value)}
    (hwf : s.kernel.WellFormed) (hstarts : StartsApart kind s.kernel) (h : Performed s operation r t) :
    t.signals.countP kind = s.signals.countP kind := by
  cases operation with
  | identifyTask | taskAttributes | postedEvents | identifyQueue | queueLength | freeContainers
    | timerState | ticks | scheduledObjects | config | coreSnapshot | queueSnapshot | coreText
    | queueText =>
    obtain ⟨_, ⟨-, rfl⟩, -⟩ := h
    rfl
  | allocateTask | interruptTask | waitEvents | createQueue | createTimer | interruptReceiver
    | deleteTimer | clearEvents | abortTimer =>
    obtain ⟨_, h, -⟩ := h
    cases h <;> first | rfl | exact countP_append_plain hkind rfl
  | freeTask =>
    obtain ⟨_, h, -⟩ := h
    cases h with
    | refused => rfl
    | @freed task =>
      apply countP_append_plain hkind
      cases hb : task.isBlocked <;> simp [freeSignals, hb, isTiming]
  | sleep =>
    obtain ⟨_, h, -⟩ := h
    cases h with
    | refused => rfl
    | interrupted hget | waits hget =>
      obtain ⟨hpos, hlt⟩ := sleepObject_inRange hwf hget
      simp [hstarts _ _ _ hpos hlt]
  | postEvents => obtain ⟨_, h, -⟩ := h; exact h.countP_eq hkind
  | postFromDriver =>
    obtain ⟨_, h, -⟩ := h
    exact (h.countP_eq hkind).trans (countP_append_plain hkind rfl)
  | deleteQueue => obtain ⟨_, h, -⟩ := h; exact h.countP_eq hkind
  | deleteAllQueues => obtain ⟨_, h, -⟩ := h; exact h.countP_eq hkind
  | postMessage => obtain ⟨_, h, -⟩ := h; exact h.countP_eq hkind
  | receive =>
    obtain ⟨_, h, -⟩ := h
    cases h with
    | refused | empty | waits => rfl
    | served _ htaken => rw [htaken.signals_eq]
    | interrupted => exact countP_append_plain hkind rfl
  | startTimer =>
    obtain ⟨_, h, -⟩ := h
    cases h with
    | refused => rfl
    | started hget =>
      obtain ⟨hpos, hlt⟩ := timerObject_inRange hwf hget
      rw [← List.singleton_append, ← List.append_assoc, countP_append_plain hkind rfl]
      simp [hstarts _ _ _ hpos hlt]

theorem Resumed.countP_eq {wait : Wait} {r : Except Error (Progress Value)} (h : Resumed s wait r t) :
    t.signals.countP kind = s.signals.countP kind := by
  cases wait with
  | sleep =>
    obtain ⟨_, h, -⟩ := h
    cases h <;> rfl
  | events =>
    obtain ⟨_, h, -⟩ := h
    cases h <;> first | rfl | exact countP_append_plain hkind rfl
  | message =>
    obtain ⟨_, h, -⟩ := h
    cases h with
    | waits => rfl
    | served _ _ _ htaken | unserved _ _ _ htaken => rw [htaken.signals_eq]
    | lost | interrupted => exact countP_append_plain hkind rfl

end Count

end Kernel

end Executive
