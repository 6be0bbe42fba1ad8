/-
No wake-up is lost (`run_wakes_blocked_calls`). While one call at most is blocked on each task and on
each queue, and no task is freed under a blocked call, a parked call is one that would park again if
it looked now. The one exception is a sleep whose object has been taken out by a delivery: the action
that will notify it is still in the hands of that delivery.

The invariant is `Attended`. What one critical section does to one wait is in `Kernel.Spares`;
`Carries` puts the actions of the deliveries beside it, and the step lemma goes through the moves.
-/
import Executive.Proofs.Kernel.Watch
import Executive.Proofs.System

namespace Executive.System

open Kernel

variable {system system' base : System} {s t : Section} {wait : Wait} {signals : List Signal}
  {deliveries deliveries' : List (Option TimerAction)}

/-! ## The rules of a run -/

/-- One call at most is blocked on each task and on each queue. -/
def Uncrowded (system : System) : Prop := (system.calls.map (·.wait.subject)).Nodup

/-- The task that a move frees. -/
def freed : Move → Option TaskId
  | .call (.freeTask task) => some task
  | _ => none

/-- A move that frees no task under a blocked call, and after which one call at most is blocked on
each task and on each queue. -/
def Orderly (system : System) (move : Move) : Prop :=
  (∀ task ∈ freed move, ∀ call ∈ system.calls, call.wait.gate ≠ .task task) ∧
  match system.observe move with
  | .ok (_, _, next) => next.Uncrowded
  | .error _ => True

instance (system : System) : Decidable system.Uncrowded :=
  inferInstanceAs (Decidable (List.Nodup _))

instance (system : System) (move : Move) : Decidable (Orderly system move) :=
  have : Decidable (match system.observe move with
      | .ok (_, _, next) => next.Uncrowded
      | .error _ => True) :=
    match system.observe move with
    | .ok (_, _, next) => inferInstanceAs (Decidable next.Uncrowded)
    | .error _ => .isTrue trivial
  inferInstanceAs (Decidable (_ ∧ _))

/-! ## Calls that are attended to -/

/-- A delivery has the action in hand that will wake a sleep. -/
def InFlight (deliveries : List (Option TimerAction)) (wait : Wait) : Prop :=
  ∃ task, wait = .sleep task ∧ some (.wakeTask task) ∈ deliveries

/-- Nothing that would end a wait has passed by. -/
def Minded (kernel : Kernel) (deliveries : List (Option TimerAction)) (wait : Wait) : Prop :=
  (kernel.watch wait).isOver = false ∨ InFlight deliveries wait

/-- No entry is taken from a blocked call, and no parked call waits in vain. -/
structure Attended (system : System) : Prop where
  uncrowded : system.Uncrowded
  held : ∀ call ∈ system.calls, (system.kernel.watch call.wait).held = true
  minded : ∀ call ∈ system.parked, Minded system.kernel system.deliveries call.wait

/-- A section takes the entry of a wait from no one, and it notifies the gate of the wait or lets
nothing pass by that would end it. -/
structure Carries (wait : Wait) (s : Section) (deliveries : List (Option TimerAction)) (t : Section)
    (deliveries' : List (Option TimerAction)) : Prop where
  held : (s.kernel.watch wait).held = true → (t.kernel.watch wait).held = true
  minded : (s.kernel.watch wait).held = true → Minded s.kernel deliveries wait →
    .notify wait.gate ∈ t.signals ∨ Minded t.kernel deliveries' wait

theorem Carries.of_spares (h : Spares wait s t)
    (hflight : InFlight deliveries wait → .notify wait.gate ∈ t.signals ∨ InFlight deliveries' wait) :
    Carries wait s deliveries t deliveries' := by
  refine ⟨h.held, fun hheld hminded => ?_⟩
  rcases hminded with hrests | hin
  · exact (h.resting hheld hrests).imp_right Or.inl
  · exact (hflight hin).imp_right Or.inr

/-- What changed before the section began does not matter if the wait does not see it. -/
theorem Carries.congr {s' : Section} (hwatch : s.kernel.watch wait = s'.kernel.watch wait)
    (h : Carries wait s deliveries t deliveries') : Carries wait s' deliveries t deliveries' := by
  constructor
  · intro hheld
    exact h.held (by rw [hwatch]; exact hheld)
  · intro hheld hminded
    refine h.minded (by rw [hwatch]; exact hheld) ?_
    unfold Minded
    rw [hwatch]
    exact hminded

/-- Taking out a due object ends a sleep at most when its action is then in flight. -/
theorem Carries.of_nextDue {action : Option TimerAction} (hwf : s.kernel.WellFormed)
    (hgate : s.kernel.hasGate wait.gate = true) (h : NextDue s action t)
    (hkept : InFlight deliveries wait → InFlight deliveries' wait)
    (hnew : ∀ taken, action = some taken → some taken ∈ deliveries') :
    Carries wait s deliveries t deliveries' := by
  by_cases hself : ∃ id, wait = .sleep id ∧ action = some (.wakeTask id)
  · obtain ⟨id, rfl, rfl⟩ := hself
    refine ⟨fun hheld => (h.held _).trans hheld, fun _ _ => Or.inr (Or.inr ⟨id, rfl, ?_⟩)⟩
    exact hnew _ rfl
  · refine .of_spares (h.spares hgate hwf ?_) fun hin => Or.inr (hkept hin)
    rintro id rfl rfl
    exact hself ⟨id, rfl, rfl⟩

/-! ## Signals and the gates -/

theorem mem_parked_foldl (signals : List Signal) (system : System) (call : Call) :
    call ∈ (signals.foldl obey system).parked ↔
      call ∈ system.parked ∧ .notify call.wait.gate ∉ signals := by
  induction signals generalizing system with
  | nil => simp
  | cons signal rest ih =>
    rw [List.foldl_cons, ih, List.mem_cons, not_or]
    cases signal with
    | report => simp [obey]
    | notify gate =>
      simp only [obey, notify, List.mem_filter, bne_iff_ne, ne_eq, Signal.notify.injEq, and_assoc]

/-- The calls that stay parked are those whose gate has not been notified. -/
theorem mem_parked_leave {call : Call} : call ∈ (system.leave t).parked ↔
    call ∈ system.parked ∧ .notify call.wait.gate ∉ t.signals := mem_parked_foldl ..

/-! ## One move -/

/-- A section that carries every wait leaves no parked call to wait in vain. -/
theorem attended_leave (hheld : ∀ call ∈ base.calls, (base.kernel.watch call.wait).held = true)
    (hminded : ∀ call ∈ base.parked, Minded base.kernel deliveries call.wait)
    (hcarries : ∀ call ∈ base.calls,
      Carries call.wait { kernel := base.kernel } deliveries t deliveries') :
    (∀ call ∈ (base.leave t).calls, ((base.leave t).kernel.watch call.wait).held = true) ∧
      ∀ call ∈ (base.leave t).parked, Minded (base.leave t).kernel deliveries' call.wait := by
  rw [kernel_leave]
  constructor
  · intro call hcall
    rw [calls_leave.mem_iff] at hcall
    exact (hcarries call hcall).held (hheld call hcall)
  · intro call hparked
    obtain ⟨hcall, hquiet⟩ := mem_parked_leave.1 hparked
    have hmem : call ∈ base.calls := List.mem_append_left _ hcall
    rcases (hcarries call hmem).minded (hheld call hmem) (hminded call hcall) with hsignal | hm
    · exact absurd hsignal hquiet
    · exact hm

/-- Of two calls that are blocked at once neither waits at the entry of the other. -/
theorem Uncrowded.subject_ne (h : system'.Uncrowded) {call other : Call} {calls : List Call}
    (hcalls : system'.calls.Perm (call :: calls)) (hother : other ∈ calls) :
    call.wait.subject ≠ other.wait.subject := by
  unfold Uncrowded at h
  rw [(hcalls.map _).nodup_iff, List.map_cons, List.nodup_cons] at h
  intro heq
  exact h.1 (heq ▸ List.mem_map_of_mem hother)

section Step

variable {operation : Operation} {result : Except Error Value} {i : Nat} {call : Call}
  {action : TimerAction}

/-- An operation that returns leaves every blocked call attended to. -/
theorem Attended.returned (h : system.Attended) (hwf : system.WellFormed)
    (hfree : ∀ task ∈ freed (.call operation), ∀ call ∈ system.calls, call.wait.gate ≠ .task task)
    (hcall : Performed { kernel := system.kernel } operation (result.map .returned) t)
    (hcrowd : (system.leave t).Uncrowded) : (system.leave t).Attended := by
  obtain ⟨hheld, hminded⟩ := attended_leave h.held h.minded fun call hmem => by
    refine Carries.of_spares (hcall.spares hwf.kernel (hwf.gates call hmem) ?_ ?_) Or.inr
    · rintro id rfl
      exact hfree id rfl call hmem
    · intro other heq
      cases result with
      | error => cases heq
      | ok => cases heq
  exact ⟨hcrowd, hheld, by rw [deliveries_leave]; exact hminded⟩

/-- So does one that parks, and the new call is attended to itself. -/
theorem Attended.blocked (h : system.Attended) (hwf : system.WellFormed)
    (hfree : ∀ task ∈ freed (.call operation), ∀ call ∈ system.calls, call.wait.gate ≠ .task task)
    (hcall : Performed { kernel := system.kernel } operation (.ok (.parked call.wait)) t)
    {callCount : Nat} (hcrowd : ({ system.leave t with callCount }.park call).Uncrowded) :
    ({ system.leave t with callCount }.park call).Attended := by
  have hcalls : ({ system.leave t with callCount }.park call).calls.Perm (call :: system.calls) :=
    (calls_park call).trans (calls_leave.cons call)
  obtain ⟨hheld, hminded⟩ := attended_leave h.held h.minded fun other hmem => by
    refine Carries.of_spares (hcall.spares hwf.kernel (hwf.gates other hmem) ?_ ?_) Or.inr
    · rintro id rfl
      exact hfree id rfl other hmem
    · rintro parked ⟨⟩
      exact hcrowd.subject_ne hcalls hmem
  obtain ⟨hnew, hrests⟩ := hcall.rests
  rw [← @kernel_leave system t] at hnew hrests
  refine ⟨hcrowd, ?_, ?_⟩
  · intro other hother
    rcases List.mem_cons.1 (hcalls.mem_iff.1 hother) with rfl | hold
    · exact hnew
    · exact hheld other (calls_leave.mem_iff.2 hold)
  · intro other hother
    show Minded (system.leave t).kernel (system.leave t).deliveries other.wait
    rw [deliveries_leave]
    rcases List.mem_append.1 hother with hold | hself
    · exact hminded other hold
    · rw [List.mem_singleton.1 hself]
      exact Or.inl hrests

/-- A call that looks again and parks once more is attended to as long as its wait is not over. -/
theorem Attended.waits (h : system.Attended) (hready : system.ready[i]? = some call)
    (hrests : (system.kernel.watch call.wait).isOver = false)
    (hcrowd : ({ system with ready := system.ready.eraseIdx i }.park call).Uncrowded) :
    ({ system with ready := system.ready.eraseIdx i }.park call).Attended := by
  have hcalls : ({ system with ready := system.ready.eraseIdx i }.park call).calls.Perm system.calls :=
    (calls_park call).trans (calls_unready hready).symm
  refine ⟨hcrowd, fun other hother => h.held other (hcalls.mem_iff.1 hother), fun other hother => ?_⟩
  rcases List.mem_append.1 hother with hold | hself
  · exact h.minded other hold
  · rw [List.mem_singleton.1 hself]
    exact Or.inl hrests

/-- A call that looks again and returns leaves the other calls attended to. -/
theorem Attended.ended (h : system.Attended) (hready : system.ready[i]? = some call)
    {r : Except Error (Progress Value)} (hlook : Resumed { kernel := system.kernel } call.wait r t)
    (hcrowd : ({ system with ready := system.ready.eraseIdx i }.leave t).Uncrowded) :
    ({ system with ready := system.ready.eraseIdx i }.leave t).Attended := by
  obtain ⟨hheld, hminded⟩ := @attended_leave { system with ready := system.ready.eraseIdx i } t
    system.deliveries system.deliveries (fun other hother => h.held other (mem_of_mem_unready hother))
    h.minded fun other hother => .of_spares
      (hlook.spares (h.uncrowded.subject_ne (calls_unready hready) hother).symm) Or.inr
  exact ⟨hcrowd, hheld, by rw [deliveries_leave]; exact hminded⟩

/-- An object taken out by a delivery is attended to in the action that the delivery then has. -/
theorem Attended.tookOut {next : Option TimerAction} (h : system.Attended) (hwf : system.WellFormed)
    {kernel : Kernel} (hkernel : kernel.WellFormed)
    (hgates : ∀ gate, kernel.hasGate gate = system.kernel.hasGate gate)
    (hwatch : ∀ wait, kernel.watch wait = system.kernel.watch wait)
    (hnext : NextDue { kernel } next t)
    (hkept : ∀ action, some action ∈ system.deliveries → some action ∈ deliveries')
    (hnew : ∀ taken, next = some taken → some taken ∈ deliveries')
    (hcrowd : Uncrowded { system.leave t with deliveries := deliveries' }) :
    Attended { system.leave t with deliveries := deliveries' } := by
  obtain ⟨hheld, hminded⟩ := attended_leave h.held h.minded fun call hmem => by
    refine Carries.congr (hwatch call.wait) (.of_nextDue hkernel ?_ hnext ?_ hnew)
    · exact (hgates _).trans (hwf.gates call hmem)
    · rintro ⟨task, hsleep, hin⟩
      exact ⟨task, hsleep, hkept _ hin⟩
  exact ⟨hcrowd, hheld, hminded⟩

/-- A delivery that does an action notifies the sleep that the action is for. -/
theorem Attended.acted (h : system.Attended) (hwf : system.WellFormed)
    (hdelivery : system.deliveries[i]? = some (some action))
    (hdone : ActionDone { kernel := system.kernel } action t)
    (hcrowd : ({ system with deliveries := system.deliveries.set i none }.leave t).Uncrowded) :
    ({ system with deliveries := system.deliveries.set i none }.leave t).Attended := by
  obtain ⟨hheld, hminded⟩ := @attended_leave { system with deliveries := system.deliveries.set i none }
    t system.deliveries (system.deliveries.set i none) h.held h.minded fun call hmem => by
      refine .of_spares (hdone.spares (hwf.gates call hmem)) ?_
      rintro ⟨task, hsleep, hin⟩
      by_cases hself : action = .wakeTask task
      · subst hself
        cases hdone
        rw [hsleep]
        exact Or.inl (List.mem_append_right _ (List.mem_singleton_self _))
      · refine Or.inr ⟨task, hsleep, ?_⟩
        exact mem_set_of_ne hdelivery (fun heq => hself (Option.some.inj heq)) hin
  exact ⟨hcrowd, hheld, by rw [deliveries_leave]; exact hminded⟩

end Step

theorem watch_advanceClock (kernel : Kernel) (delta : Nat) (wait : Wait) :
    (kernel.setHeap (kernel.heap.advanceClock delta)).watch wait = kernel.watch wait :=
  watch_setHeap fun _ _ => rfl

/-- Every orderly move leaves the blocked calls attended to. -/
theorem Attended.move {move : Move} {answer : Answer} (h : system.Attended) (hwf : system.WellFormed)
    (hrule : Orderly system move) (hobserve : system.observe move = .ok (answer, signals, system'))
    (hmoved : Moved system move answer signals system') : system'.Attended := by
  obtain ⟨hfree, hcrowd⟩ := hrule
  rw [hobserve] at hcrowd
  cases hmoved with
  | blocked hcall => exact h.blocked hwf hfree hcall hcrowd
  | returned hcall => exact h.returned hwf hfree hcall hcrowd
  | unready | inactive | busy => exact h
  | waits hready hlook => exact h.waits hready hlook.rests hcrowd
  | ended hready hlook => exact h.ended hready hlook hcrowd
  | began hnext =>
    refine h.tookOut hwf (hwf.kernel.advanceClock _) (fun gate => ?_) (watch_advanceClock _ _) hnext
      (fun _ => List.mem_cons_of_mem _) ?_ hcrowd
    · cases gate with
      | task | queue => rfl
    · rintro _ ⟨⟩
      exact List.mem_cons_self ..
  | @passed delta t hnext =>
    have hdeliveries : { system.leave t with deliveries := system.deliveries } = system.leave t := by
      rw [← @deliveries_leave system t]
    rw [← hdeliveries] at hcrowd ⊢
    refine h.tookOut hwf (hwf.kernel.advanceClock _) (fun gate => ?_) (watch_advanceClock _ _) hnext
      (fun _ hin => hin) nofun hcrowd
    cases gate with
    | task | queue => rfl
  | acted hdelivery hdone => exact h.acted hwf hdelivery hdone hcrowd
  | wentOn hdelivery hnext =>
    refine h.tookOut hwf hwf.kernel (fun _ => rfl) (fun _ => rfl) hnext
      (fun _ => mem_set_of_ne hdelivery nofun) ?_ hcrowd
    rintro _ ⟨⟩
    exact List.mem_set (List.getElem?_eq_some_iff.1 hdelivery).1 _
  | delivered hdelivery hnext =>
    exact h.tookOut hwf hwf.kernel (fun _ => rfl) (fun _ => rfl) hnext
      (fun _ => mem_eraseIdx_of_none hdelivery) nofun hcrowd

/-! ## What blocked calls find -/

/-- A blocked call whose wait is not over would park again, with nothing changed. -/
theorem look_of_rests (hwf : system.WellFormed) {call : Call} (hcall : call ∈ system.calls)
    (hrests : (system.kernel.watch call.wait).isOver = false) :
    system.enter (Kernel.resume call.wait).run = .ok (.ok (.parked call.wait), [], system) := by
  obtain ⟨r, t, henter, -, hlook⟩ := enter_of_ends (Kernel.resume_spec
    (s := { kernel := system.kernel }) hwf.kernel (hwf.gates call hcall))
  obtain ⟨rfl, rfl⟩ := hlook.parks hrests
  exact henter

/-- A parked call has nothing to wake up for, or the action that will wake it is in flight. -/
theorem Attended.look (h : system.Attended) (hwf : system.WellFormed) {call : Call}
    (hcall : call ∈ system.parked) :
    system.enter (Kernel.resume call.wait).run = .ok (.ok (.parked call.wait), [], system) ∨
      ∃ (task : TaskId) (i : Nat), call.wait = .sleep task ∧
        system.deliveries[i]? = some (some (.wakeTask task)) := by
  rcases h.minded call hcall with hrests | ⟨task, hsleep, hin⟩
  · exact Or.inl (look_of_rests hwf (List.mem_append_left _ hcall) hrests)
  · obtain ⟨i, hi⟩ := List.mem_iff_getElem?.1 hin
    exact Or.inr ⟨task, i, hsleep, hi⟩

/-- The action that is in flight for a sleep notifies its gate and does nothing else. -/
theorem act_of_wakeTask (hwf : system.WellFormed) {i : Nat} {task : TaskId}
    (hdelivery : system.deliveries[i]? = some (some (.wakeTask task))) :
    system.act i = .ok ([.notify (.task task)],
      { system with deliveries := system.deliveries.set i none }.notify (.task task)) := by
  obtain ⟨answer, _, _, hobserve, -, hmoved⟩ := act_spec hwf i
  cases hmoved with
  | inactive hinactive => exact absurd hdelivery (hinactive _)
  | acted hfound hdone =>
    rw [hdelivery] at hfound
    cases hfound
    cases hdone
    exact act_of_observe hobserve

/-- A ready call whose wait is not over parks again, and no other call and no table is touched. -/
theorem resume_of_rests (hwf : system.WellFormed) {i : Nat} {call : Call}
    (hready : system.ready[i]? = some call) (hrests : (system.kernel.watch call.wait).isOver = false) :
    system.resume i =
      .ok (some (call, none), [], { system with ready := system.ready.eraseIdx i }.park call) := by
  rcases resume_cases hwf hready with ⟨-, hresume⟩ | ⟨result, t, hlook, -⟩
  · exact hresume
  · have hparked := (hlook.parks hrests).1
    cases result with
    | error => cases hparked
    | ok => cases hparked

/-- A ready call whose wait is over returns. -/
theorem resume_of_isOver (hwf : system.WellFormed) {i : Nat} {call : Call}
    (hready : system.ready[i]? = some call) (hover : (system.kernel.watch call.wait).isOver = true) :
    ∃ result signals system', system.resume i = .ok (some (call, some result), signals, system') := by
  rcases resume_cases hwf hready with ⟨hlook, -⟩ | ⟨result, t, -, hresume⟩
  · rw [hlook.rests] at hover
    cases hover
  · exact ⟨result, _, _, hresume⟩

/-! ## Runs -/

/-- In every run in which one call at most is blocked on each task and on each queue, and no task is
freed under a blocked call, each parked call would park again if it looked now, or it sleeps and the
action that will notify it is in flight. A ready call whose wait is not over parks again and changes
nothing; any other returns. -/
theorem run_wakes_blocked_calls {config : Config} (h : config.fault? = none) (moves : List Move)
    (hrule : Along Orderly { kernel := .ofConfig config } moves) :
    ∃ system, run { kernel := .ofConfig config } moves = .ok system ∧
      (∀ call ∈ system.parked,
        system.enter (Kernel.resume call.wait).run = .ok (.ok (.parked call.wait), [], system) ∨
        ∃ (task : TaskId) (i : Nat), call.wait = .sleep task ∧
          system.deliveries[i]? = some (some (.wakeTask task))) ∧
      (∀ (i : Nat) (task : TaskId), system.deliveries[i]? = some (some (.wakeTask task)) →
        system.act i = .ok ([.notify (.task task)],
          { system with deliveries := system.deliveries.set i none }.notify (.task task))) ∧
      ∀ (i : Nat) (call : Call), system.ready[i]? = some call →
        ((system.kernel.watch call.wait).isOver = false → system.resume i =
          .ok (some (call, none), [], { system with ready := system.ready.eraseIdx i }.park call)) ∧
        ((system.kernel.watch call.wait).isOver = true → ∃ result signals system',
          system.resume i = .ok (some (call, some result), signals, system')) := by
  have hstart : Attended { kernel := .ofConfig config } :=
    ⟨List.nodup_nil, (fun _ hcall => nomatch hcall), (fun _ hcall => nomatch hcall)⟩
  obtain ⟨system, hrun, hwf, hend⟩ := @run_induct_noted Unit (fun _ _ _ _ _ x => x)
    (fun system _ => system.Attended) (fun system _ move => Orderly system move)
    (fun hwf hallowed hobserve hattended hmoved => hattended.move hwf hallowed hobserve hmoved)
    moves _ () (ofConfig_wellFormed h) (hrule.noted ()) hstart
  refine ⟨system, hrun, ?_, ?_, ?_⟩
  · exact fun call hcall => hend.look hwf hcall
  · exact fun i task hdelivery => act_of_wakeTask hwf hdelivery
  · exact fun i call hready => ⟨resume_of_rests hwf hready, resume_of_isOver hwf hready⟩

/-- A configuration with room for two queues. -/
def twoQueues : Config := { small with maxQueues := 3 }

/-- A receiver is woken by a post, another one waits, and a sleep has expired. -/
def restless : List Move :=
  [.call (.allocateTask "task" {}), .call (.createQueue "first" { depth := 1 }),
    .call (.createQueue "second" { depth := 1 }), .call (.receive ⟨1⟩ .indefinite),
    .call (.receive ⟨2⟩ .indefinite), .call (.sleep ⟨1⟩ 1), .advance 1,
    .call (.postMessage ⟨1⟩ 7 .fifo)]

/-- The receiver that waits would park again, the sleep is about to be woken, and the receiver that
has been woken returns. -/
theorem restless_wakes : twoQueues.fault? = none ∧ Along Orderly { kernel := .ofConfig twoQueues } restless ∧
    ∃ system, run { kernel := .ofConfig twoQueues } restless = .ok system ∧
      system.enter (Kernel.resume (.message ⟨2⟩ 0)).run =
        .ok (.ok (.parked (.message ⟨2⟩ 0)), [], system) ∧
      (∃ i : Nat, system.deliveries[i]? = some (some (.wakeTask ⟨1⟩)) ∧
        system.act i = .ok ([.notify (.task ⟨1⟩)],
          { system with deliveries := system.deliveries.set i none }.notify (.task ⟨1⟩))) ∧
      ∃ result signals system', system.resume 0 =
        .ok (some ({ number := 0, wait := .message ⟨1⟩ 0 }, some result), signals, system') := by
  have hvalid : twoQueues.fault? = none := by decide
  have hrule : Along Orderly { kernel := .ofConfig twoQueues } restless := by decide +kernel
  obtain ⟨system, hrun, hparked, hact, hready⟩ := run_wakes_blocked_calls hvalid restless hrule
  have hend : (run { kernel := .ofConfig twoQueues } restless).toOption.map (fun system =>
      (system.parked, system.ready, system.deliveries,
        (system.kernel.watch (.message ⟨1⟩ 0)).isOver)) =
      some ([{ number := 1, wait := .message ⟨2⟩ 0 }, { number := 2, wait := .sleep ⟨1⟩ }],
        [{ number := 0, wait := .message ⟨1⟩ 0 }], [some (.wakeTask ⟨1⟩)], true) := by decide +kernel
  rw [hrun] at hend
  obtain ⟨hwaits, hwoken, hdeliveries, hover⟩ : system.parked = _ ∧ system.ready = _ ∧
      system.deliveries = _ ∧ _ = true := by
    simpa only [Prod.mk.injEq] using Option.some.inj hend
  refine ⟨hvalid, hrule, system, hrun, ?_, ⟨0, ?_, ?_⟩, ?_⟩
  · rcases hparked { number := 1, wait := .message ⟨2⟩ 0 } (by rw [hwaits]; simp) with hlook | hsleep
    · exact hlook
    · obtain ⟨_, _, hsleep, -⟩ := hsleep
      cases hsleep
  · rw [hdeliveries]; rfl
  · exact hact 0 ⟨1⟩ (by rw [hdeliveries]; rfl)
  · exact (hready 0 _ (by rw [hwoken]; rfl)).2 hover

end Executive.System
