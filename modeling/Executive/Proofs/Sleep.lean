/-
A sleep lasts as long as it was called for, and it leaves nothing behind (`run_sleeps_its_time`). It is
notified by its own wake action, by one that an earlier sleep of the task has left in the hands of a
delivery, and by interrupts. What it looks at is the mark of its object, which stays pending until the
ticks of the sleep have been delivered (`TimerHeap.Lasts`), as long as no other sleep is called for the
task and the task is not freed.
-/
import Executive.Proofs.Clock
import Executive.Proofs.Firing

namespace Executive

/-! ## Objects that stay pending -/

namespace TimerHeap

variable {a b : TimerHeap} {object : ObjectId} {delay span elapsed : Nat}

/-- An object that was started for `span` ticks, `elapsed` ticks ago, is not due before they have been
delivered, and it is pending until then. An object that found no slot stays pending. -/
structure Lasts (heap : TimerHeap) (object : ObjectId) (span elapsed : Nat) : Prop where
  ahead : (heap.object object).pending = true → (heap.object object).slot ≠ 0 →
    heap.clock + span ≤ (heap.object object).wake + elapsed
  spent : (heap.object object).pending = false → span ≤ elapsed

theorem Started.lasts {action : TimerAction} (hstart : Started object delay action a b)
    (hmax : 2 ≤ a.maxTick) (hclock : a.clock + a.maxTick ≤ UInt64.size) :
    b.Lasts object (a.span delay) 0 where
  ahead _ _ := by
    rw [hstart.wake, hstart.clock, wakeAfter_of_room hmax hclock]
    exact Nat.le_refl _
  spent hover := by
    rw [hstart.pending] at hover
    cases hover

namespace Lasts

theorem congr (h : a.Lasts object span elapsed) (halike : (a.object object).Alike (b.object object))
    (hclock : b.clock = a.clock) : b.Lasts object span elapsed := by
  constructor
  · rw [halike.pending, halike.wake, hclock]
    exact fun hpending hslot => h.ahead hpending fun h0 => hslot (halike.scheduled.2 h0)
  · rw [halike.pending]
    exact h.spent

/-- What is done to other objects does not matter. -/
theorem handled (h : a.Lasts object span elapsed) {other : Option ObjectId} (hhandled : Handled a other b)
    (hother : other ≠ some object) : b.Lasts object span elapsed :=
  h.congr (hhandled.alike hother) hhandled.clock

theorem advanceClock (h : a.Lasts object span elapsed) (delta : Nat) :
    (a.advanceClock delta).Lasts object span (elapsed + delta) where
  ahead hpending hslot := by
    have hahead := h.ahead hpending hslot
    show min (a.clock + delta) clockLimit + span ≤ (a.object object).wake + (elapsed + delta)
    omega
  spent hover := Nat.le_add_right_of_le (h.spent hover)

end Lasts

end TimerHeap

namespace Kernel

open TimerHeap (Handled)

variable {kernel : Kernel} {s t : Section} {id : TaskId} {span elapsed : Nat}

theorem NextDue.lasts {object : ObjectId} {action : Option TimerAction} (h : NextDue s action t)
    (hlasts : s.kernel.heap.Lasts object span elapsed) : t.kernel.heap.Lasts object span elapsed := by
  cases h.turned object with
  | kept halike hclock => exact hlasts.congr halike hclock
  | taken hslot hdue hobject =>
    -- the object itself is taken out: it is due, so that its ticks have been delivered
    refine ⟨fun hpending => ?_, fun _ => ?_⟩
    · rw [hobject] at hpending
      cases hpending
    · cases hpending : (s.kernel.heap.object object).pending with
      | false => exact hlasts.spent hpending
      | true =>
        have hahead := hlasts.ahead hpending hslot
        omega
  | setBack hslot hfuture hobject hclock =>
    refine ⟨fun hpending _ => ?_, fun hover => hlasts.spent ?_⟩
    · rw [hobject] at hpending
      have hahead := hlasts.ahead hpending hslot
      rw [hobject, hclock]
      dsimp only
      omega
    · rwa [hobject] at hover
  | off hslot hobject =>
    exact ⟨fun _ hnew => absurd hslot (hobject ▸ hnew), fun hover => hlasts.spent (hobject ▸ hover)⟩

/-! ## Sections and the sleeps of a task -/

/-- The task whose sleep an operation begins or stops. -/
def sleeperOf : Operation → Option TaskId
  | .sleep task _ | .freeTask task => some task
  | _ => none

/-- Only a sleep parks as one. -/
theorem Performed.sleeperOf_eq {operation : Operation}
    (h : Performed s operation (.ok (.parked (.sleep id))) t) : sleeperOf operation = some id := by
  cases operation with
  | sleep => cases Proceeds.parked h with | waits => rfl
  | waitEvents => cases Proceeds.parked h
  | receive => cases Proceeds.parked h
  | _ => exact absurd h Gives.not_parked

theorem sleepObject_inj {task : TaskId} (h : sleepObject task = sleepObject id) : task = id := by
  cases task
  cases id
  cases h
  rfl

/-- An operation that is not about the sleep of a task does not handle its object. -/
theorem objectOf_ne (hid : id.index < kernel.tasks.size) {operation : Operation}
    (hother : sleeperOf operation ≠ some id) : objectOf kernel operation ≠ some (sleepObject id) := by
  have htimer (timer : TimerId) : some (kernel.timerObject timer) ≠ some (sleepObject id) :=
    fun heq => timerObject_ne_sleepObject timer (Array.getElem?_eq_getElem hid) (Option.some.inj heq)
  have htask {task : TaskId} (hne : some task ≠ some id) : some (sleepObject task) ≠ some (sleepObject id) :=
    fun heq => hne (congrArg some (sleepObject_inj (Option.some.inj heq)))
  cases operation with
  | sleep => exact htask hother
  | freeTask => exact htask hother
  | startTimer => exact htimer _
  | abortTimer => exact htimer _
  | deleteTimer => exact htimer _
  | _ => exact nofun

theorem objectOfWait_ne {wait : Wait} (hother : wait ≠ .sleep id) :
    objectOfWait wait ≠ some (sleepObject id) := by
  cases wait with
  | sleep task => exact fun heq => hother (congrArg Wait.sleep (sleepObject_inj (Option.some.inj heq)))
  | events | message => exact nofun

theorem objectOfAction_ne (hid : id.index < kernel.tasks.size) (action : TimerAction) :
    objectOfAction kernel action ≠ some (sleepObject id) := by
  cases action with
  | wakeTask => exact nofun
  | fireTimer timer =>
    exact fun heq =>
      timerObject_ne_sleepObject timer (Array.getElem?_eq_getElem hid) (Option.some.inj heq)

/-! ## The end of a sleep -/

/-- Nothing is left of a sleep: the object of the task is neither scheduled nor pending, and neither a
sleep nor an interrupt is noted with the task. -/
structure AtRest (kernel : Kernel) (id : TaskId) : Prop where
  slot : (kernel.heap.object (sleepObject id)).slot = 0
  pending : (kernel.heap.object (sleepObject id)).pending = false
  entry : ∃ task, kernel.tasks[id.index]? = some task ∧ task.sleeping = false ∧ task.interrupted = false

/-- A sleep that ends stops its object if that is still pending. -/
theorem atRest_of_removed {task : Task} {heap : TimerHeap} {object : TimerObject}
    (hentry : kernel.tasks[id.index]? = some task)
    (hobject : heap.object (sleepObject id) = { object with slot := 0, pending := false }) :
    AtRest ((kernel.setHeap heap).setTask id { task with interrupted := false, sleeping := false }) id where
  slot := by rw [heap_setTask, heap_setHeap, hobject]
  pending := by rw [heap_setTask, heap_setHeap, hobject]
  entry := by
    have hentry' : (kernel.setHeap heap).tasks[id.index]? = some task := hentry
    exact ⟨_, getElem?_setTask hentry' _, rfl, rfl⟩

/-- A blocked sleep that returns has succeeded if its object is not pending any more, and it has been
interrupted otherwise. -/
theorem SleepResumed.ended {r : Except Error Unit} (hsound : s.kernel.heap.Sound)
    (h : SleepResumed id s (r.map .returned) t) : t.kernel.AtRest id ∧
      (r = .ok () ∧ (s.kernel.heap.object (sleepObject id)).pending = false ∨ r = .error .interrupted) := by
  cases r with
  | error =>
    cases h with
    | interrupted hentry _ _ hremove => exact ⟨atRest_of_removed hentry hremove.object, Or.inr rfl⟩
  | ok =>
    cases h with
    | woken hentry hpending =>
      refine ⟨⟨?_, hpending, _, getElem?_setTask hentry _, rfl, rfl⟩, Or.inl ⟨rfl, hpending⟩⟩
      refine Decidable.byContradiction fun hslot => ?_
      have hmarked := (hsound _ hslot).1
      rw [hpending] at hmarked
      cases hmarked

/-- A sleep that does not park has been refused or interrupted. -/
theorem Slept.ended {ticks : Nat} {r : Except Error Unit} (h : Slept id ticks s (r.map .returned) t) :
    r = .error (.invalidTask id) ∨ r = .error .interrupted ∧ t.kernel.AtRest id := by
  cases r with
  | error =>
    cases h with
    | refused hget => exact Or.inl (congrArg Except.error (TaskTable.get_eq_error hget))
    | interrupted hget _ _ hremove =>
      exact Or.inr ⟨rfl, atRest_of_removed (TaskTable.get_eq_ok.1 hget).2.1 hremove.object⟩
  | ok => cases h

end Kernel

namespace System

open Kernel

variable {system system' : System} {signals : List Signal} {answer : Answer} {id : TaskId}
  {number span elapsed : Nat}

/-! ## Sleeps in progress -/

/-- The task whose sleep a move begins or stops. -/
def Move.sleeper : Move → Option TaskId
  | .call operation => sleeperOf operation
  | _ => none

/-- A move that is made while there is time on the clock for the longest sleep, and that leaves the
sleeps in progress alone: it neither calls a sleep for a task that is asleep nor frees such a task. -/
def LetsSleep (system : System) (move : Move) : Prop :=
  Arming.ClockBounded system move ∧
    ∀ task ∈ move.sleeper, ∀ call ∈ system.calls, call.wait ≠ .sleep task

instance (system : System) (move : Move) : Decidable (LetsSleep system move) :=
  inferInstanceAs (Decidable (_ ∧ _))

/-- A move that is not about the sleep of a task leaves the object of the task pending as long as the
sleep lasts. -/
theorem Moved.lasts {move : Move} (hwf : system.WellFormed) (hid : id.index < system.kernel.tasks.size)
    (hmoved : Moved system move answer signals system') (hother : move.sleeper ≠ some id)
    (hlooked : ∀ call result, answer = .looked (some (call, some result)) → call.wait ≠ .sleep id)
    (hlasts : system.kernel.heap.Lasts (sleepObject id) span elapsed) :
    system'.kernel.heap.Lasts (sleepObject id) span (elapsed + move.ticks) := by
  cases hmoved with
  | unready | waits | inactive | busy => exact hlasts
  | blocked hcall =>
    have hleft := hlasts.handled (hcall.handled hwf.kernel) (objectOf_ne hid hother)
    rwa [← @kernel_leave system] at hleft
  | returned hcall =>
    rw [kernel_leave]
    exact hlasts.handled (hcall.handled hwf.kernel) (objectOf_ne hid hother)
  | ended _ hlook =>
    rw [kernel_leave]
    exact hlasts.handled hlook.handled (objectOfWait_ne (hlooked _ _ rfl))
  | acted _ hdone =>
    rw [kernel_leave]
    exact hlasts.handled (hdone.handled hwf.kernel) (objectOfAction_ne hid _)
  | @began delta _ t hnext =>
    have hleft := hnext.lasts (hlasts.advanceClock delta)
    rwa [← @kernel_leave system] at hleft
  | @passed delta _ hnext =>
    rw [kernel_leave]
    exact hnext.lasts (hlasts.advanceClock delta)
  | wentOn _ hnext =>
    have hleft := hnext.lasts hlasts
    rwa [← @kernel_leave system] at hleft
  | delivered _ hnext =>
    have hleft := hnext.lasts hlasts
    rwa [← @kernel_leave system] at hleft

/-- The call with a number sleeps on behalf of a task, as the only one, unless it has returned; and its
object is pending until its ticks have been delivered. -/
structure Asleep (number : Nat) (id : TaskId) (span elapsed : Nat) (system : System) : Prop where
  counted : number < system.callCount
  wait : ∀ call ∈ system.calls, call.number = number → call.wait = .sleep id
  lasts : ∀ call ∈ system.calls, call.number = number →
    system.kernel.heap.Lasts (sleepObject id) span elapsed
  alone : ∀ call ∈ system.calls, call.number = number →
    ∀ other ∈ system.calls, other.wait = .sleep id → other.number = number

theorem Asleep.move {move : Move} (h : Asleep number id span elapsed system) (hwf : system.WellFormed)
    (hnumbered : system.Numbered) (hrule : LetsSleep system move)
    (hmoved : Moved system move answer signals system') :
    Asleep number id span (elapsed + move.ticks) system' := by
  have hold {call : Call} (hcall : call ∈ system'.calls) (hnumber : call.number = number) :
      call ∈ system.calls := hmoved.mem_of_lt (hnumber ▸ h.counted) hcall
  have hapart {call : Call} (hcall : call ∈ system'.calls) (hnumber : call.number = number) :
      move.sleeper ≠ some id :=
    fun hsleeper => hrule.2 id hsleeper call (hold hcall hnumber) (h.wait call (hold hcall hnumber) hnumber)
  refine ⟨Nat.lt_of_lt_of_le h.counted hmoved.callCount.1, fun call hcall hnumber => ?_,
    fun call hcall hnumber => ?_, fun call hcall hnumber other hother hsleep => ?_⟩
  · exact h.wait call (hold hcall hnumber) hnumber
  · have hwait := h.wait call (hold hcall hnumber) hnumber
    have hgate := hwf.gates call (hold hcall hnumber)
    rw [hwait] at hgate
    refine hmoved.lasts hwf (of_decide_eq_true hgate) (hapart hcall hnumber) ?_
      (h.lasts call (hold hcall hnumber) hnumber)
    rintro ended result hanswer hended
    -- if the call that returns were this one, this one would not be blocked any more
    have hless := hmoved.calls_of_looked hanswer
    have hin : ended ∈ system.calls := hless.mem_iff.2 (List.mem_cons_self ..)
    have hself := h.alone call (hold hcall hnumber) hnumber ended hin hended
    exact hnumbered.number_ne hless hcall (hself.trans hnumber.symm)
  · rcases hmoved.mem_calls hother with hbefore | ⟨-, operation, t, hmove, hparked⟩
    · exact h.alone call (hold hcall hnumber) hnumber other hbefore hsleep
    · subst hmove
      rw [hsleep] at hparked
      exact absurd hparked.sleeperOf_eq (hapart hcall hnumber)

/-- A sleep that is called and parks is in progress from then on. -/
theorem asleep_of_blocked {ticks : Nat} {wait : Wait} {t : Section} (hwf : system.WellFormed)
    (hnumbered : system.Numbered) (hrule : LetsSleep system (.call (.sleep id ticks)))
    (hcall : Performed { kernel := system.kernel } (.sleep id ticks) (.ok (.parked wait)) t)
    (hcalls : system'.calls.Perm ({ number := system.callCount, wait } :: system.calls))
    (hkernel : system'.kernel = t.kernel) (hcount : system'.callCount = system.callCount + 1) :
    Asleep system.callCount id (system.kernel.heap.span ticks) 0 system' := by
  have hclock : system.kernel.heap.clock + system.kernel.heap.maxTick ≤ UInt64.size := by
    rw [hwf.kernel.maxTick_eq]; exact hrule.1
  cases Proceeds.parked hcall with
  | waits hget _ hstart =>
    refine ⟨?_, ?_, ?_, ?_⟩
    · rw [hcount]
      exact Nat.lt_succ_self _
    · intro call hmem hnumber
      rw [hnumbered.eq_new hcalls hmem hnumber]
    · intro _ _ _
      rw [hkernel]
      exact hstart.lasts hwf.kernel.maxTick_le hclock
    · intro _ _ _ other hother hsleep
      rcases List.mem_cons.1 (hcalls.mem_iff.1 hother) with rfl | hold
      · rfl
      · exact absurd hsleep (hrule.2 id rfl other hold)

/-- A sleep in progress that looks again and returns has been delivered its ticks or has been
interrupted, and nothing is left of it. -/
theorem Asleep.resume (h : Asleep number id span elapsed system) (hwf : system.WellFormed)
    (htimed : system.Timed) {i : Nat} {call : Call} (hready : system.ready[i]? = some call)
    (hnumber : call.number = number) :
    ∃ answer signals next, system.resume i = .ok (some (call, answer), signals, next) ∧
      ∀ result, answer = some result → next.kernel.AtRest id ∧
        (result = .ok .done ∧ span ≤ elapsed ∨ result = .error .interrupted) := by
  have hcall : call ∈ system.calls := List.mem_append_right _ (List.mem_of_getElem? hready)
  have hwait := h.wait call hcall hnumber
  rcases resume_cases hwf hready with ⟨-, hresume⟩ | ⟨result, t, hlook, hresume⟩
  · exact ⟨_, _, _, hresume, nofun⟩
  · refine ⟨_, _, _, hresume, ?_⟩
    rintro _ ⟨⟩
    rw [kernel_leave]
    rw [hwait] at hlook
    obtain ⟨r, hended, rfl⟩ := Proceeds.result hlook
    obtain ⟨hrest, hwhy⟩ := SleepResumed.ended htimed.sound hended
    refine ⟨hrest, ?_⟩
    rcases hwhy with ⟨rfl, hpending⟩ | rfl
    · exact Or.inl ⟨rfl, (h.lasts call hcall hnumber).spent hpending⟩
    · exact Or.inr rfl

/-- A sleep stays in progress, and keeps the count of the ticks, in a run that leaves it alone. -/
theorem Asleep.run (h : Asleep number id span 0 system) (hwf : system.WellFormed) (htimed : system.Timed)
    (hnumbered : system.Numbered) {moves : List Move} (hrule : system.Along LetsSleep moves) :
    ∃ last, system.run moves = .ok last ∧ last.WellFormed ∧ last.Timed ∧
      Asleep number id span (delivered moves) last := by
  obtain ⟨last, hrun, hwf', htimed', -, hasleep⟩ := @run_induct Nat noteTicks LetsSleep
    (fun system elapsed => system.Timed ∧ system.Numbered ∧ Asleep number id span elapsed system)
    (fun hwf hrule hinv hmoved => ⟨hinv.1.move hwf hmoved, hinv.2.1.move hmoved,
      hinv.2.2.move hwf hinv.2.1 hrule hmoved⟩) moves system 0 hwf hrule ⟨htimed, hnumbered, h⟩
  rw [recount_noteTicks hwf, Nat.zero_add] at hasleep
  exact ⟨last, hrun, hwf', htimed', hasleep⟩

/-- A sleep called in any run of a valid configuration that leaves the sleeps in progress alone. It is
refused, or cut short by an interrupt at once, or it parks. Whenever it then returns with success, the
ticks delivered since come to the ticks it was called for at least, and to one at least; and however it
returns, nothing is left of it. -/
theorem run_sleeps_its_time {config : Config} (h : config.fault? = none) (before after : List Move)
    (id : TaskId) (ticks : Nat)
    (hrule : Along LetsSleep { kernel := .ofConfig config } (before ++ .call (.sleep id ticks) :: after)) :
    ∃ asleep outcome signals begun system, run { kernel := .ofConfig config } before = .ok asleep ∧
      asleep.call (.sleep id ticks) = .ok (outcome, signals, begun) ∧ run begun after = .ok system ∧
      (∀ result, outcome = .returned result → result = .error (.invalidTask id) ∨
        result = .error .interrupted ∧ begun.kernel.AtRest id) ∧
      ∀ number, outcome = .blocked number →
        ∀ i call, system.ready[i]? = some call → call.number = number →
          ∃ answer signals next, system.resume i = .ok (some (call, answer), signals, next) ∧
            ∀ result, answer = some result → next.kernel.AtRest id ∧
              (result = .ok .done ∧ config.span ticks ≤ delivered after ∨
                result = .error .interrupted) := by
  obtain ⟨asleep, hbefore, hwf, hconfig, htimed⟩ := run_timed h before
  obtain ⟨_, hbefore', hnumbered⟩ := run_numbered h before
  cases hbefore.symm.trans hbefore'
  obtain ⟨hcall, hafter⟩ := hrule.append hbefore
  obtain ⟨answer, signals, begun, hobserve, hwf', hmoved⟩ := observe_spec hwf (.call (.sleep id ticks))
  have htimed' := htimed.move hwf hmoved
  have hnumbered' := hnumbered.move hmoved
  rw [hobserve] at hafter
  have hspan : asleep.kernel.heap.span ticks = config.span ticks := by
    rw [hwf.kernel.span_eq, hconfig]
  cases hmoved with
  | @blocked _ wait t hslept =>
    have hasleep : Asleep asleep.callCount id (asleep.kernel.heap.span ticks) 0
        ({ asleep.leave t with callCount := asleep.callCount + 1 }.park
          { number := asleep.callCount, wait }) :=
      asleep_of_blocked hwf hnumbered hcall hslept ((calls_park _).trans (calls_leave.cons _)) kernel_leave rfl
    obtain ⟨system, hrun, hlast, htimedLast, hstill⟩ := hasleep.run hwf' htimed' hnumbered' hafter
    refine ⟨asleep, _, _, _, system, hbefore, call_of_observe hobserve, hrun, nofun, ?_⟩
    rintro _ ⟨⟩ i call hready hnumber
    rw [← hspan]
    exact hstill.resume hlast htimedLast hready hnumber
  | @returned _ result t hslept =>
    obtain ⟨system, hrun, -⟩ := @run_induct Unit (fun _ _ _ _ _ x => x) LetsSleep (fun _ _ => True)
      (fun _ _ _ _ => trivial) after _ () hwf' hafter trivial
    refine ⟨asleep, _, _, _, system, hbefore, call_of_observe hobserve, hrun, ?_, nofun⟩
    rintro _ ⟨⟩
    obtain ⟨r, hended, rfl⟩ := Proceeds.result hslept
    rw [kernel_leave]
    rcases hended.ended with rfl | ⟨rfl, hrest⟩
    · exact Or.inl rfl
    · exact Or.inr ⟨rfl, hrest⟩

/-- A sleep of one tick that an interrupt makes look again when its object has just been taken out: it
returns while its wake action is still in hand. -/
def nap : List Move :=
  [.call (.allocateTask "task" {}), .call (.sleep ⟨1⟩ 1), .advance 1, .call (.interruptTask ⟨1⟩),
    .resume 0]

/-- That action notifies the next sleep, which looks again and goes on, and is over two ticks later. -/
def slumber : List Move := [.act 0, .resume 0, .proceed 0, .advance 1, .advance 1, .act 0]

/-- The next sleep returns with success when its own two ticks have been delivered. -/
theorem slumber_sleeps_its_time : small.fault? = none ∧
    Along LetsSleep { kernel := .ofConfig small } (nap ++ .call (.sleep ⟨1⟩ 2) :: slumber) ∧
    ∃ asleep signals begun system, run { kernel := .ofConfig small } nap = .ok asleep ∧
      asleep.call (.sleep ⟨1⟩ 2) = .ok (.blocked 1, signals, begun) ∧ run begun slumber = .ok system ∧
      ∃ signals next, system.resume 0 =
          .ok (some ({ number := 1, wait := .sleep ⟨1⟩ }, some (.ok .done)), signals, next) ∧
        next.kernel.AtRest ⟨1⟩ ∧ 2 ≤ delivered slumber := by
  have hvalid : small.fault? = none := by decide
  have hrule : Along LetsSleep { kernel := .ofConfig small } (nap ++ .call (.sleep ⟨1⟩ 2) :: slumber) := by
    decide +kernel
  obtain ⟨asleep, outcome, signals, begun, system, hbefore, hcall, hrun, -, hreturns⟩ :=
    run_sleeps_its_time hvalid nap slumber ⟨1⟩ 2 hrule
  have hparks : (run { kernel := .ofConfig small } nap >>= (call · (.sleep ⟨1⟩ 2))).toOption.map
      (·.1) = some (.blocked 1) := by decide +kernel
  obtain ⟨⟨_, _, _⟩, hcall', rfl⟩ := exists_of_run hbefore hparks
  cases hcall.symm.trans hcall'
  have hend : (run { kernel := .ofConfig small } nap >>= fun asleep =>
      asleep.call (.sleep ⟨1⟩ 2) >>= fun p => run p.2.2 slumber).toOption.map
      (fun system => (system.ready[0]?, (system.resume 0).toOption.bind fun p =>
        p.1.map fun looked => looked.2.map Except.toOption)) =
      some (some { number := 1, wait := .sleep ⟨1⟩ }, some (some (some .done))) := by decide +kernel
  obtain ⟨_, hrun', hlast⟩ := exists_of_run hbefore hend
  rw [hcall] at hrun'
  cases hrun.symm.trans hrun'
  obtain ⟨hready, hlooked⟩ := Prod.mk.inj hlast
  obtain ⟨answer, signals', next, hresume, hended⟩ := hreturns 1 rfl 0 _ hready rfl
  rw [hresume] at hlooked
  obtain ⟨result, rfl, hdone⟩ := Option.map_eq_some_iff.1 (Option.some.inj hlooked)
  obtain ⟨hrest, ⟨rfl, hlasted⟩ | rfl⟩ := hended result rfl
  · exact ⟨hvalid, hrule, asleep, signals, begun, system, hbefore, hcall, hrun, signals', next, hresume,
      hrest, hlasted⟩
  · cases hdone

end System

end Executive
