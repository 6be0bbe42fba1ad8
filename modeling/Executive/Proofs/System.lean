/-
What holds of every run of a system. A move of a well-formed system always succeeds and leaves it
well formed; `Moved` lists all that a move can do, and `run_induct` carries an invariant, and what is
noted of a run on the way, from the start of the run to its end.
-/
import Executive.Proofs.Kernel.Operation
import Executive.System
import Mathlib.Data.List.Perm.Basic

namespace Executive

open Kernel (Performed Resumed NextDue ActionDone)

namespace System

variable {system system' : System} {s t : Section} {signals : List Signal}

/-! ## Signals -/

/-- The calls that have not returned. -/
def calls (system : System) : List Call := system.parked ++ system.ready

/-- The system when a critical section has ended. -/
def leave (system : System) (t : Section) : System :=
  t.signals.foldl obey { system with kernel := t.kernel }

/-- Signals move calls from the gates to the ready ones. -/
theorem foldl_obey (signals : List Signal) (system : System) :
    (signals.foldl obey system).kernel = system.kernel ∧
    (signals.foldl obey system).deliveries = system.deliveries ∧
    (signals.foldl obey system).callCount = system.callCount ∧
    (signals.foldl obey system).calls.Perm system.calls := by
  induction signals generalizing system with
  | nil => exact ⟨rfl, rfl, rfl, .refl _⟩
  | cons signal rest ih =>
    obtain ⟨hkernel, hdeliveries, hcount, hcalls⟩ := ih (system.obey signal)
    cases signal with
    | report => exact ⟨hkernel, hdeliveries, hcount, hcalls⟩
    | notify gate =>
      refine ⟨hkernel, hdeliveries, hcount, hcalls.trans ?_⟩
      -- the calls at the gate move over to the ready ones, and the others stay parked
      have hsplit := List.filter_append_perm (fun call : Call => call.wait.gate == gate) system.parked
      have hparked : (system.obey (.notify gate)).parked =
          system.parked.filter fun call => !(call.wait.gate == gate) := rfl
      have hready : (system.obey (.notify gate)).ready =
          system.ready ++ system.parked.filter fun call => call.wait.gate == gate := rfl
      unfold calls
      rw [hparked, hready, ← List.append_assoc]
      refine List.perm_append_comm.trans ?_
      rw [← List.append_assoc]
      exact hsplit.append_right _

/-- A system with its kernel and the deliveries replaced. -/
def put (system : System) (kernel : Kernel) (deliveries : List (Option TimerAction)) : System :=
  { system with kernel, deliveries }

/-- Signals do not touch the kernel and the deliveries. -/
theorem foldl_obey_put {a : Kernel} {deliveries : List (Option TimerAction)} (signals : List Signal)
    (base : System) :
    signals.foldl obey (base.put a deliveries) = (signals.foldl obey base).put a deliveries := by
  induction signals generalizing base with
  | nil => rfl
  | cons signal rest ih =>
    cases signal with
    | report record => exact ih (base.obey (.report record))
    | notify gate => exact ih (base.obey (.notify gate))

theorem leave_eq (system : System) (t : Section) :
    system.leave t = (t.signals.foldl obey system).put t.kernel system.deliveries :=
  foldl_obey_put ..

@[simp] theorem kernel_leave : (system.leave t).kernel = t.kernel := (foldl_obey ..).1
@[simp] theorem deliveries_leave : (system.leave t).deliveries = system.deliveries := (foldl_obey ..).2.1
@[simp] theorem callCount_leave : (system.leave t).callCount = system.callCount := (foldl_obey ..).2.2.1

theorem calls_leave : (system.leave t).calls.Perm system.calls := (foldl_obey ..).2.2.2

theorem calls_park (call : Call) : (system.park call).calls.Perm (call :: system.calls) := by
  unfold calls park
  rw [List.append_assoc]
  exact List.perm_middle

theorem calls_unready {i : Nat} {call : Call} (hready : system.ready[i]? = some call) :
    system.calls.Perm (call :: calls { system with ready := system.ready.eraseIdx i }) := by
  obtain ⟨hi, rfl⟩ := List.getElem?_eq_some_iff.1 hready
  exact ((List.getElem_cons_eraseIdx_perm hi).symm.append_left _).trans List.perm_middle

theorem enter_of_ends {α : Type} {action : Critical α} {Q : α → Section → Prop}
    (h : action.Ends { kernel := system.kernel } Q) :
    ∃ a t, system.enter action = .ok (a, t.signals, system.leave t) ∧ Q a t := by
  obtain ⟨a, t, hrun, hq⟩ := h
  refine ⟨a, t, ?_, hq⟩
  unfold enter
  rw [hrun]
  rfl

/-! ## Moves -/

/-- What a move gives back to whoever made it. -/
inductive Answer where
  /-- The outcome of a call. -/
  | outcome (outcome : Outcome)
  /-- The call that has looked again, and its result if it has returned. -/
  | looked (call : Option (Call × Option (Except Error Value)))
  /-- The action of the object that a delivery has taken out. -/
  | due (action : Option TimerAction)
  /-- A delivery has done its action. -/
  | acted

/-- Whether a call has returned a value. -/
def Answer.isSuccess : Answer → Bool
  | .outcome (.returned (.ok _)) => true
  | _ => false

/-- The system after a move, with all that the move gives. -/
def observe (system : System) : Move → Checked (Answer × List Signal × System)
  | .call operation => do
    let (outcome, signals, system) ← system.call operation
    return (.outcome outcome, signals, system)
  | .resume i => do
    let (call, signals, system) ← system.resume i
    return (.looked call, signals, system)
  | .advance delta => do
    let (action, signals, system) ← system.beginAdvance delta
    return (.due action, signals, system)
  | .act i => do
    let (signals, system) ← system.act i
    return (.acted, signals, system)
  | .proceed i => do
    let (action, signals, system) ← system.proceed i
    return (.due action, signals, system)

theorem step_eq (system : System) (move : Move) :
    system.step move = (system.observe move).map (·.2.2) := by
  cases move with
  | call operation => simp only [step, observe]; cases system.call operation <;> rfl
  | resume i => simp only [step, observe]; cases system.resume i <;> rfl
  | advance delta => simp only [step, observe]; cases system.beginAdvance delta <;> rfl
  | act i => simp only [step, observe]; cases system.act i <;> rfl
  | proceed i => simp only [step, observe]; cases system.proceed i <;> rfl

section Observe

variable {answer : Answer} {i : Nat}

theorem call_of_observe {operation : Operation} {outcome : Outcome}
    (h : system.observe (.call operation) = .ok (.outcome outcome, signals, system')) :
    system.call operation = .ok (outcome, signals, system') := by
  simp only [observe] at h
  cases hcall : system.call operation with
  | error => rw [hcall] at h; cases h
  | ok => rw [hcall] at h; cases h; rfl

theorem exists_call_of_observe {operation : Operation}
    (h : system.observe (.call operation) = .ok (answer, signals, system')) :
    ∃ outcome, system.call operation = .ok (outcome, signals, system') := by
  simp only [observe] at h
  cases hcall : system.call operation with
  | error => rw [hcall] at h; cases h
  | ok => rw [hcall] at h; cases h; exact ⟨_, rfl⟩

theorem resume_of_observe {looked : Option (Call × Option (Except Error Value))}
    (h : system.observe (.resume i) = .ok (.looked looked, signals, system')) :
    system.resume i = .ok (looked, signals, system') := by
  simp only [observe] at h
  cases hresume : system.resume i with
  | error => rw [hresume] at h; cases h
  | ok => rw [hresume] at h; cases h; rfl

theorem act_of_observe (h : system.observe (.act i) = .ok (answer, signals, system')) :
    system.act i = .ok (signals, system') := by
  simp only [observe] at h
  cases hact : system.act i with
  | error => rw [hact] at h; cases h
  | ok => rw [hact] at h; cases h; rfl

end Observe

/-- What a move does: it is one critical section, begun in the kernel as it is, or nothing. -/
inductive Moved (system : System) : Move → Answer → List Signal → System → Prop
  | blocked {operation : Operation} {wait : Wait} {t : Section}
    (hcall : Performed { kernel := system.kernel } operation (.ok (.parked wait)) t) :
    Moved system (.call operation) (.outcome (.blocked system.callCount)) t.signals
      ({ system.leave t with callCount := system.callCount + 1 }.park
        { number := system.callCount, wait })
  | returned {operation : Operation} {result : Except Error Value} {t : Section}
    (hcall : Performed { kernel := system.kernel } operation (result.map .returned) t) :
    Moved system (.call operation) (.outcome (.returned result)) t.signals (system.leave t)
  | unready {i : Nat} (hready : system.ready[i]? = none) :
    Moved system (.resume i) (.looked none) [] system
  | waits {i : Nat} {call : Call} (hready : system.ready[i]? = some call)
    (hlook : Resumed { kernel := system.kernel } call.wait (.ok (.parked call.wait))
      { kernel := system.kernel }) :
    Moved system (.resume i) (.looked (some (call, none))) []
      ({ system with ready := system.ready.eraseIdx i }.park call)
  | ended {i : Nat} {call : Call} {result : Except Error Value} {t : Section}
    (hready : system.ready[i]? = some call)
    (hlook : Resumed { kernel := system.kernel } call.wait (result.map .returned) t) :
    Moved system (.resume i) (.looked (some (call, some result))) t.signals
      ({ system with ready := system.ready.eraseIdx i }.leave t)
  | began {delta : Nat} {action : TimerAction} {t : Section}
    (hnext : NextDue { kernel := system.kernel.setHeap (system.kernel.heap.advanceClock delta) }
      (some action) t) :
    Moved system (.advance delta) (.due (some action)) t.signals
      { system.leave t with deliveries := some action :: system.deliveries }
  | passed {delta : Nat} {t : Section}
    (hnext : NextDue { kernel := system.kernel.setHeap (system.kernel.heap.advanceClock delta) }
      none t) :
    Moved system (.advance delta) (.due none) t.signals (system.leave t)
  | acted {i : Nat} {action : TimerAction} {t : Section}
    (hdelivery : system.deliveries[i]? = some (some action))
    (hdone : ActionDone { kernel := system.kernel } action t) :
    Moved system (.act i) .acted t.signals
      ({ system with deliveries := system.deliveries.set i none }.leave t)
  | inactive {i : Nat} (hdelivery : ∀ action, system.deliveries[i]? ≠ some (some action)) :
    Moved system (.act i) .acted [] system
  | wentOn {i : Nat} {action : TimerAction} {t : Section}
    (hdelivery : system.deliveries[i]? = some none)
    (hnext : NextDue { kernel := system.kernel } (some action) t) :
    Moved system (.proceed i) (.due (some action)) t.signals
      { system.leave t with deliveries := system.deliveries.set i (some action) }
  | delivered {i : Nat} {t : Section} (hdelivery : system.deliveries[i]? = some none)
    (hnext : NextDue { kernel := system.kernel } none t) :
    Moved system (.proceed i) (.due none) t.signals
      { system.leave t with deliveries := system.deliveries.eraseIdx i }
  | busy {i : Nat} (hdelivery : system.deliveries[i]? ≠ some none) :
    Moved system (.proceed i) (.due none) [] system

/-! ## The invariant -/

/-- The kernel is consistent, calls wait at entries that are there, and deliveries hold actions of
objects that are there. -/
structure WellFormed (system : System) : Prop where
  kernel : system.kernel.WellFormed
  gates : ∀ call ∈ system.calls, system.kernel.hasGate call.wait.gate = true
  actions : ∀ action, some action ∈ system.deliveries →
    ∃ object, system.kernel.config.Serves object action

theorem ofConfig_wellFormed {config : Config} (h : config.fault? = none) :
    WellFormed { kernel := .ofConfig config } where
  kernel := Kernel.ofConfig_wellFormed h
  gates _ hcall := nomatch hcall
  actions _ haction := nomatch haction

namespace WellFormed

theorem hasGate_leave (h : system.WellFormed) (hwf : t.kernel.WellFormed)
    (hconfig : t.kernel.config = system.kernel.config) (gate : Gate) :
    (system.leave t).kernel.hasGate gate = system.kernel.hasGate gate := by
  rw [kernel_leave]
  cases gate with
  | task => simp only [Kernel.hasGate, hwf.tasks_size, h.kernel.tasks_size, hconfig]
  | queue => simp only [Kernel.hasGate, hwf.queues_size, h.kernel.queues_size, hconfig]

theorem leave (h : system.WellFormed) (hwf : t.kernel.WellFormed)
    (hconfig : t.kernel.config = system.kernel.config) : (system.leave t).WellFormed where
  kernel := by rw [kernel_leave]; exact hwf
  gates call hcall := by
    rw [h.hasGate_leave hwf hconfig]
    exact h.gates call (calls_leave.mem_iff.1 hcall)
  actions action haction := by
    rw [deliveries_leave] at haction
    rw [kernel_leave, hconfig]
    exact h.actions action haction

theorem setCallCount (h : system.WellFormed) (callCount : Nat) :
    WellFormed { system with callCount } :=
  ⟨h.kernel, h.gates, h.actions⟩

theorem park (h : system.WellFormed) {call : Call}
    (hgate : system.kernel.hasGate call.wait.gate = true) : (system.park call).WellFormed where
  kernel := h.kernel
  gates other hother := by
    unfold calls System.park at hother
    rw [List.append_assoc] at hother
    rcases List.mem_append.1 hother with hparked | hother
    · exact h.gates other (List.mem_append_left _ hparked)
    · rcases List.mem_cons.1 hother with rfl | hready
      · exact hgate
      · exact h.gates other (List.mem_append_right _ hready)
  actions := h.actions

theorem unready (h : system.WellFormed) (i : Nat) :
    WellFormed { system with ready := system.ready.eraseIdx i } where
  kernel := h.kernel
  gates call hcall := by
    refine h.gates call ?_
    rcases List.mem_append.1 hcall with hparked | hready
    · exact List.mem_append_left _ hparked
    · exact List.mem_append_right _ ((List.eraseIdx_sublist _ i).mem hready)
  actions := h.actions

theorem setDeliveries (h : system.WellFormed) {deliveries : List (Option TimerAction)}
    (hactions : ∀ action, some action ∈ deliveries → some action ∈ system.deliveries ∨
      ∃ object, system.kernel.config.Serves object action) :
    WellFormed { system with deliveries } where
  kernel := h.kernel
  gates := h.gates
  actions action haction := (hactions action haction).elim (h.actions action) id

end WellFormed

/-! ## Every move succeeds -/

/-- How a move ends: with an answer, in a well-formed system, as `Moved` says. -/
def Ends (system : System) (move : Move) : Prop :=
  ∃ answer signals system', system.observe move = .ok (answer, signals, system') ∧
    system'.WellFormed ∧ Moved system move answer signals system'

section Ends

variable (h : system.WellFormed)

include h

theorem call_spec (operation : Operation) : system.Ends (.call operation) := by
  obtain ⟨r, t, henter, hwf, hperformed⟩ :=
    enter_of_ends (Kernel.perform_spec (s := { kernel := system.kernel }) h.kernel operation)
  have hleave := h.leave hwf hperformed.config_eq
  rcases r with error | ⟨value⟩ | wait
  · refine ⟨.outcome (.returned (.error error)), t.signals, system.leave t, ?_, hleave, .returned hperformed⟩
    simp only [observe, System.call, henter]; rfl
  · refine ⟨.outcome (.returned (.ok value)), t.signals, system.leave t, ?_, hleave, .returned hperformed⟩
    simp only [observe, System.call, henter]; rfl
  · -- the call parks at a gate that was there, and operations take no gate away
    have hgate : (system.leave t).kernel.hasGate wait.gate = true := by
      rw [h.hasGate_leave hwf hperformed.config_eq]
      exact hperformed.hasGate
    have hcount := @callCount_leave system t
    refine ⟨_, _, _, ?_, (hleave.setCallCount (system.callCount + 1)).park hgate, .blocked hperformed⟩
    simp only [observe, System.call, henter]
    rw [← hcount]; rfl

theorem resume_spec (i : Nat) : system.Ends (.resume i) := by
  cases hready : system.ready[i]? with
  | none => exact ⟨_, _, _, by simp only [observe, System.resume, hready]; rfl, h, .unready hready⟩
  | some call =>
    have hunready := h.unready i
    have hgate := h.gates call (List.mem_append_right _ (List.mem_of_getElem? hready))
    have hspec := Kernel.resume_spec (s := { kernel := system.kernel }) h.kernel hgate
    obtain ⟨r, t, henter, hwf, hlook⟩ := @enter_of_ends
      { system with ready := system.ready.eraseIdx i } _ _ _ hspec
    have hleave := hunready.leave hwf hlook.config_eq
    rcases r with error | ⟨value⟩ | wait
    · refine ⟨.looked (some (call, some (.error error))), _, _, ?_, hleave, .ended hready hlook⟩
      simp only [observe, System.resume, hready, henter]; rfl
    · refine ⟨.looked (some (call, some (.ok value))), _, _, ?_, hleave, .ended hready hlook⟩
      simp only [observe, System.resume, hready, henter]; rfl
    · obtain ⟨rfl, rfl⟩ := hlook.parked
      refine ⟨_, _, _, ?_, hunready.park hgate, .waits hready hlook⟩
      simp only [observe, System.resume, hready, henter]; rfl

theorem advance_spec (delta : Nat) : system.Ends (.advance delta) := by
  obtain ⟨action, t, henter, hwf, hnext⟩ := enter_of_ends
    (Kernel.beginAdvance_spec (s := { kernel := system.kernel }) h.kernel delta)
  have hleave := h.leave hwf (hnext.config_eq.trans rfl)
  cases action with
  | none =>
    refine ⟨_, _, _, ?_, hleave, .passed hnext⟩
    simp only [observe, System.beginAdvance, henter]; rfl
  | some action =>
    have hserves := hnext.serves (h.kernel.advanceClock delta)
    have hdeliveries := @deliveries_leave system t
    refine ⟨_, _, _, ?_, hleave.setDeliveries fun other hother => ?_, .began hnext⟩
    · simp only [observe, System.beginAdvance, henter]
      rw [← hdeliveries]; rfl
    · rw [deliveries_leave, kernel_leave, hnext.config_eq]
      rcases List.mem_cons.1 hother with heq | hold
      · cases heq; exact Or.inr hserves
      · exact Or.inl hold

theorem act_spec (i : Nat) : system.Ends (.act i) := by
  by_cases hdelivery : ∃ action, system.deliveries[i]? = some (some action)
  · obtain ⟨action, hdelivery⟩ := hdelivery
    obtain ⟨object, hserves⟩ := h.actions action (List.mem_of_getElem? hdelivery)
    have hdone : WellFormed { system with deliveries := system.deliveries.set i none } :=
      h.setDeliveries fun other hother =>
        (List.mem_or_eq_of_mem_set hother).imp_right fun heq => by cases heq
    obtain ⟨_, t, henter, hwf, hacted⟩ := @enter_of_ends
      { system with deliveries := system.deliveries.set i none } _ _ _
      (Kernel.runAction_spec (s := { kernel := system.kernel }) h.kernel hserves)
    refine ⟨_, _, _, ?_, hdone.leave hwf hacted.config_eq, .acted hdelivery hacted⟩
    simp only [observe, System.act, hdelivery, henter]; rfl
  · have hinactive := not_exists.1 hdelivery
    have hact : system.act i = .ok ([], system) := by
      unfold System.act
      split
      · rename_i action haction
        exact absurd haction (hinactive action)
      · rfl
    exact ⟨_, _, _, by simp only [observe, hact]; rfl, h, .inactive hinactive⟩

theorem proceed_spec (i : Nat) : system.Ends (.proceed i) := by
  by_cases hdelivery : system.deliveries[i]? = some none
  · obtain ⟨action, t, henter, hwf, hnext⟩ := enter_of_ends
      (Kernel.nextDue_spec (s := { kernel := system.kernel }) h.kernel)
    have hleave := h.leave hwf hnext.config_eq
    have hdeliveries := @deliveries_leave system t
    cases action with
    | none =>
      refine ⟨_, _, _, ?_, hleave.setDeliveries fun other hother => ?_, .delivered hdelivery hnext⟩
      · simp only [observe, System.proceed, hdelivery, henter]
        rw [← hdeliveries]; rfl
      · rw [deliveries_leave]
        exact Or.inl ((List.eraseIdx_sublist _ i).mem hother)
    | some action =>
      have hserves := hnext.serves h.kernel
      refine ⟨_, _, _, ?_, hleave.setDeliveries fun other hother => ?_, .wentOn hdelivery hnext⟩
      · simp only [observe, System.proceed, hdelivery, henter]
        rw [← hdeliveries]; rfl
      · rw [deliveries_leave, kernel_leave, hnext.config_eq]
        refine (List.mem_or_eq_of_mem_set hother).imp_right fun heq => ?_
        cases heq; exact hserves
  · have hproceed : system.proceed i = .ok (none, [], system) := by
      unfold System.proceed
      split
      · rename_i hnone
        exact absurd hnone hdelivery
      · rfl
    exact ⟨_, _, _, by simp only [observe, hproceed]; rfl, h, .busy hdelivery⟩

/-- A move of a well-formed system succeeds and leaves the system well formed. -/
theorem observe_spec (move : Move) : system.Ends move := by
  cases move with
  | call operation => exact call_spec h operation
  | resume i => exact resume_spec h i
  | advance delta => exact advance_spec h delta
  | act i => exact act_spec h i
  | proceed i => exact proceed_spec h i

end Ends

/-- What a ready call finds when it looks again: it parks once more, or it returns. -/
theorem resume_cases (h : system.WellFormed) {i : Nat} {call : Call}
    (hready : system.ready[i]? = some call) :
    (Resumed { kernel := system.kernel } call.wait (.ok (.parked call.wait))
        { kernel := system.kernel } ∧
      system.resume i =
        .ok (some (call, none), [], { system with ready := system.ready.eraseIdx i }.park call)) ∨
    ∃ result t, Resumed { kernel := system.kernel } call.wait (result.map .returned) t ∧
      system.resume i = .ok (some (call, some result), t.signals,
        { system with ready := system.ready.eraseIdx i }.leave t) := by
  obtain ⟨answer, _, _, hobserve, -, hmoved⟩ := resume_spec h i
  cases hmoved with
  | unready hnone => rw [hready] at hnone; cases hnone
  | waits hfound hlook =>
    rw [hready] at hfound
    cases hfound
    exact Or.inl ⟨hlook, resume_of_observe hobserve⟩
  | ended hfound hlook =>
    rw [hready] at hfound
    cases hfound
    exact Or.inr ⟨_, _, hlook, resume_of_observe hobserve⟩

/-- A call that returns at once has carried out its operation. -/
theorem call_returned (h : system.WellFormed) {operation : Operation} {result : Except Error Value}
    (hcall : system.call operation = .ok (.returned result, signals, system')) :
    ∃ t, Performed { kernel := system.kernel } operation (result.map .returned) t ∧
      signals = t.signals ∧ system' = system.leave t := by
  obtain ⟨answer, _, _, hobserve, -, hmoved⟩ := call_spec h operation
  cases hmoved with
  | blocked => rw [call_of_observe hobserve] at hcall; cases hcall
  | returned hperformed =>
    rw [call_of_observe hobserve] at hcall
    cases hcall
    exact ⟨_, hperformed, rfl, rfl⟩

theorem Moved.config_eq {move : Move} {answer : Answer}
    (h : Moved system move answer signals system') :
    system'.kernel.config = system.kernel.config := by
  cases h with
  | blocked hcall => exact (congrArg Kernel.config kernel_leave).trans hcall.config_eq
  | returned hcall => exact (congrArg Kernel.config kernel_leave).trans hcall.config_eq
  | ended _ hlook => exact (congrArg Kernel.config kernel_leave).trans hlook.config_eq
  | began hnext => exact (congrArg Kernel.config kernel_leave).trans (hnext.config_eq.trans rfl)
  | passed hnext => exact (congrArg Kernel.config kernel_leave).trans (hnext.config_eq.trans rfl)
  | acted _ hdone => exact (congrArg Kernel.config kernel_leave).trans hdone.config_eq
  | wentOn _ hnext => exact (congrArg Kernel.config kernel_leave).trans hnext.config_eq
  | delivered _ hnext => exact (congrArg Kernel.config kernel_leave).trans hnext.config_eq
  | unready | waits | inactive | busy => rfl

/-- Calls are numbered in the order in which they park. -/
theorem Moved.callCount {move : Move} {answer : Answer}
    (h : Moved system move answer signals system') : system.callCount ≤ system'.callCount ∧
      ∀ number, answer = .outcome (.blocked number) →
        number = system.callCount ∧ system'.callCount = number + 1 := by
  cases h with
  | blocked => exact ⟨Nat.le_succ _, by rintro _ ⟨⟩; exact ⟨rfl, rfl⟩⟩
  | returned => exact ⟨Nat.le_of_eq callCount_leave.symm, nofun⟩
  | @ended i =>
    have hsame := @callCount_leave { system with ready := system.ready.eraseIdx i }
    exact ⟨Nat.le_of_eq hsame.symm, nofun⟩
  | began => exact ⟨Nat.le_of_eq callCount_leave.symm, nofun⟩
  | passed => exact ⟨Nat.le_of_eq callCount_leave.symm, nofun⟩
  | @acted i =>
    have hsame := @callCount_leave { system with deliveries := system.deliveries.set i none }
    exact ⟨Nat.le_of_eq hsame.symm, nofun⟩
  | wentOn => exact ⟨Nat.le_of_eq callCount_leave.symm, nofun⟩
  | delivered => exact ⟨Nat.le_of_eq callCount_leave.symm, nofun⟩
  | unready | waits | inactive | busy => exact ⟨Nat.le_refl _, nofun⟩

theorem mem_of_mem_unready {i : Nat} {call : Call}
    (h : call ∈ calls { system with ready := system.ready.eraseIdx i }) : call ∈ system.calls := by
  rcases List.mem_append.1 h with hparked | hready
  · exact List.mem_append_left _ hparked
  · exact List.mem_append_right _ ((List.eraseIdx_sublist _ i).mem hready)

/-- What becomes of the blocked calls in a move: they stay, one more parks, or one returns. -/
theorem Moved.calls_cases {move : Move} {answer : Answer} (h : Moved system move answer signals system') :
    (system'.calls.Perm system.calls ∧ ∀ call result, answer ≠ .looked (some (call, some result))) ∨
    (∃ operation wait t, move = .call operation ∧ answer = .outcome (.blocked system.callCount) ∧
      Performed { kernel := system.kernel } operation (.ok (.parked wait)) t ∧
      system'.calls.Perm ({ number := system.callCount, wait } :: system.calls)) ∨
    ∃ call result, answer = .looked (some (call, some result)) ∧
      system.calls.Perm (call :: system'.calls) := by
  cases h with
  | @blocked operation wait t hcall =>
    refine Or.inr (Or.inl ⟨operation, wait, t, rfl, rfl, hcall, ?_⟩)
    exact (calls_park _).trans (calls_leave.cons _)
  | @ended i call result t hready =>
    exact Or.inr (Or.inr ⟨call, result, rfl, (calls_unready hready).trans (calls_leave.symm.cons call)⟩)
  | waits hready => exact Or.inl ⟨(calls_park _).trans (calls_unready hready).symm, nofun⟩
  | unready | inactive | busy => exact Or.inl ⟨.refl _, nofun⟩
  | returned => exact Or.inl ⟨calls_leave, nofun⟩
  | began => exact Or.inl ⟨calls_leave, nofun⟩
  | passed => exact Or.inl ⟨calls_leave, nofun⟩
  | @acted i =>
    have hcalls := @calls_leave { system with deliveries := system.deliveries.set i none }
    exact Or.inl ⟨hcalls, nofun⟩
  | wentOn => exact Or.inl ⟨calls_leave, nofun⟩
  | delivered => exact Or.inl ⟨calls_leave, nofun⟩

/-- A call that returns is not blocked any more, and all others are. -/
theorem Moved.calls_of_looked {move : Move} {answer : Answer} {call : Call} {result : Except Error Value}
    (h : Moved system move answer signals system') (hanswer : answer = .looked (some (call, some result))) :
    system.calls.Perm (call :: system'.calls) := by
  rcases h.calls_cases with ⟨-, hnone⟩ | ⟨_, _, _, -, hblocked, -⟩ | ⟨_, _, hreturned, hless⟩
  · exact absurd hanswer (hnone call result)
  · cases hanswer.symm.trans hblocked
  · cases hanswer.symm.trans hreturned
    exact hless

/-- A call that is blocked after a move was blocked before it, or it has just been made. -/
theorem Moved.mem_calls {move : Move} {answer : Answer} {call : Call}
    (h : Moved system move answer signals system') (hcall : call ∈ system'.calls) :
    call ∈ system.calls ∨ answer = .outcome (.blocked call.number) ∧
      ∃ operation t, move = .call operation ∧
        Performed { kernel := system.kernel } operation (.ok (.parked call.wait)) t := by
  rcases h.calls_cases with ⟨hsame, -⟩ | ⟨operation, wait, t, hmove, hanswer, hparked, hmore⟩ | ⟨_, _, -, hless⟩
  · exact Or.inl (hsame.mem_iff.1 hcall)
  · rcases List.mem_cons.1 (hmore.mem_iff.1 hcall) with rfl | hold
    · exact Or.inr ⟨hanswer, operation, t, hmove, hparked⟩
    · exact Or.inl hold
  · exact Or.inl (hless.mem_iff.2 (List.mem_cons_of_mem _ hcall))

/-- A call with an old number has been blocked before: a new call has a new one. -/
theorem Moved.mem_of_lt {move : Move} {answer : Answer} {call : Call}
    (h : Moved system move answer signals system') (hlt : call.number < system.callCount)
    (hcall : call ∈ system'.calls) : call ∈ system.calls := by
  rcases h.mem_calls hcall with hold | ⟨hanswer, -⟩
  · exact hold
  · exact absurd hlt (Nat.not_lt.2 (Nat.le_of_eq (h.callCount.2 _ hanswer).1.symm))

/-- No two blocked calls have one number, and the next number is new. -/
structure Numbered (system : System) : Prop where
  nodup : (system.calls.map Call.number).Nodup
  lt : ∀ call ∈ system.calls, call.number < system.callCount

theorem ofConfig_numbered (config : Config) : Numbered { kernel := .ofConfig config } where
  nodup := .nil
  lt _ hcall := nomatch hcall

/-- The call with the next number is the one that has just parked. -/
theorem Numbered.eq_new (h : system.Numbered) {wait : Wait} {call : Call}
    (hcalls : system'.calls.Perm ({ number := system.callCount, wait } :: system.calls))
    (hcall : call ∈ system'.calls) (hnumber : call.number = system.callCount) :
    call = { number := system.callCount, wait } := by
  rcases List.mem_cons.1 (hcalls.mem_iff.1 hcall) with hnew | hold
  · exact hnew
  · exact absurd hnumber (Nat.ne_of_lt (h.lt call hold))

/-- A call that returns has a number of its own. -/
theorem Numbered.number_ne (h : system.Numbered) {ended call : Call}
    (hless : system.calls.Perm (ended :: system'.calls)) (hstill : call ∈ system'.calls) :
    ended.number ≠ call.number := by
  have hnodup := (hless.map Call.number).nodup_iff.1 h.nodup
  intro heq
  exact (List.nodup_cons.1 hnodup).1 (heq ▸ List.mem_map_of_mem hstill)

theorem Numbered.move {move : Move} {answer : Answer} (h : system.Numbered)
    (hmoved : Moved system move answer signals system') : system'.Numbered := by
  obtain ⟨hcount, hblocked⟩ := hmoved.callCount
  constructor
  · rcases hmoved.calls_cases with ⟨hsame, -⟩ | ⟨_, _, _, -, -, -, hmore⟩ | ⟨_, _, -, hless⟩
    · exact (hsame.map _).nodup_iff.2 h.nodup
    · refine (hmore.map _).nodup_iff.2 (List.nodup_cons.2 ⟨fun hmem => ?_, h.nodup⟩)
      obtain ⟨call, hcall, hnumber⟩ := List.mem_map.1 hmem
      exact Nat.ne_of_lt (h.lt call hcall) hnumber
    · exact (List.nodup_cons.1 ((hless.map _).nodup_iff.1 h.nodup)).2
  · intro call hcall
    rcases hmoved.mem_calls hcall with hold | ⟨hanswer, -⟩
    · exact Nat.lt_of_lt_of_le (h.lt call hold) hcount
    · exact (hblocked _ hanswer).2 ▸ Nat.lt_succ_self call.number

/-! ## Actions in hand -/

/-- Actions in the hands of other deliveries stay there. -/
theorem mem_set_of_ne {i : Nat} {action : TimerAction} {old next : Option TimerAction}
    {deliveries : List (Option TimerAction)} (hold : deliveries[i]? = some old) (hother : old ≠ some action)
    (h : some action ∈ deliveries) : some action ∈ deliveries.set i next := by
  obtain ⟨j, hj⟩ := List.mem_iff_getElem?.1 h
  have hne : i ≠ j := by
    rintro rfl
    rw [hold] at hj
    exact hother (Option.some.inj hj)
  exact List.mem_of_getElem? ((List.getElem?_set_ne hne).trans hj)

/-- They stay there too when a delivery ends. -/
theorem mem_eraseIdx_of_none {i : Nat} {action : TimerAction} {deliveries : List (Option TimerAction)}
    (hnone : deliveries[i]? = some none) (h : some action ∈ deliveries) : some action ∈ deliveries.eraseIdx i := by
  obtain ⟨hi, heq⟩ := List.getElem?_eq_some_iff.1 hnone
  have hperm := List.getElem_cons_eraseIdx_perm hi
  rw [heq] at hperm
  rcases List.mem_cons.1 (hperm.mem_iff.2 h) with hself | hmem
  · cases hself
  · exact hmem

/-! ## Runs -/

section Run

variable {σ : Type} {note : System → Move → Answer → List Signal → System → σ → σ}
  {allowed : System → Move → Prop} {Inv : System → σ → Prop}

/-- Every move of a run is made where it is allowed. -/
def Along (allowed : System → Move → Prop) (system : System) : List Move → Prop
  | [] => True
  | move :: rest => allowed system move ∧ match system.observe move with
    | .ok (_, _, next) => next.Along allowed rest
    | .error _ => True

instance decidableAlong [∀ system move, Decidable (allowed system move)] :
    (moves : List Move) → (system : System) → Decidable (system.Along allowed moves)
  | [], _ => .isTrue trivial
  | move :: rest, system =>
    have : Decidable (match system.observe move with
        | .ok (_, _, next) => next.Along allowed rest
        | .error _ => True) :=
      match system.observe move with
      | .ok (_, _, next) => decidableAlong rest next
      | .error _ => .isTrue trivial
    inferInstanceAs (Decidable (_ ∧ _))

/-- What has been noted of a run at its end. -/
def recount (note : System → Move → Answer → List Signal → System → σ → σ) :
    System → List Move → σ → σ
  | _, [], x => x
  | system, move :: rest, x =>
    match system.observe move with
    | .ok (answer, signals, system') =>
      recount note system' rest (note system move answer signals system' x)
    | .error _ => x

section Cons

variable {move : Move} {answer : Answer} {next : System}

theorem run_cons (h : system.observe move = .ok (answer, signals, next)) (rest : List Move) :
    system.run (move :: rest) = next.run rest := by
  unfold run
  rw [List.foldlM_cons, step_eq, h]
  rfl

theorem recount_cons (h : system.observe move = .ok (answer, signals, next)) (rest : List Move) (x : σ) :
    recount note system (move :: rest) x =
      recount note next rest (note system move answer signals next x) := by
  rw [recount, h]

end Cons

/-- What is noted of a run in a part of what is noted of it. -/
theorem map_recount {τ : Type} (part : σ → τ)
    {notePart : System → Move → Answer → List Signal → System → τ → τ}
    (hpart : ∀ system move answer signals system' x, part (note system move answer signals system' x) =
      notePart system move answer signals system' (part x)) {moves : List Move} :
    ∀ (system : System) (x : σ),
      part (recount note system moves x) = recount notePart system moves (part x) := by
  induction moves with
  | nil => exact fun _ _ => rfl
  | cons move rest ih =>
    intro system x
    unfold recount
    cases system.observe move with
    | error => rfl
    | ok p => rw [ih, hpart]

/-- What is noted of the moves alone. -/
theorem recount_eq_foldl {f : σ → Move → σ} {moves : List Move} : ∀ {system : System}, system.WellFormed →
    ∀ x : σ, recount (fun _ move _ _ _ x => f x move) system moves x = moves.foldl f x := by
  induction moves with
  | nil => exact fun _ _ => rfl
  | cons move rest ih =>
    intro system hwf x
    obtain ⟨answer, signals, next, hobserve, hnext, -⟩ := observe_spec hwf move
    rw [recount_cons hobserve]
    exact ih hnext _

/-- Every move of a run is made where it is allowed, by what has been noted of the run before it. -/
def AlongNoted (note : System → Move → Answer → List Signal → System → σ → σ)
    (allowed : System → σ → Move → Prop) : System → σ → List Move → Prop
  | _, _, [] => True
  | system, x, move :: rest => allowed system x move ∧ match system.observe move with
    | .ok (answer, signals, next) =>
      AlongNoted note allowed next (note system move answer signals next x) rest
    | .error _ => True

instance decidableAlongNoted {allowed : System → σ → Move → Prop}
    [∀ system x move, Decidable (allowed system x move)] : (moves : List Move) →
    (system : System) → (x : σ) → Decidable (AlongNoted note allowed system x moves)
  | [], _, _ => .isTrue trivial
  | move :: rest, system, x =>
    have : Decidable (match system.observe move with
        | .ok (answer, signals, next) =>
          AlongNoted note allowed next (note system move answer signals next x) rest
        | .error _ => True) :=
      match system.observe move with
      | .ok (answer, signals, next) =>
        decidableAlongNoted rest next (note system move answer signals next x)
      | .error _ => .isTrue trivial
    inferInstanceAs (Decidable (_ ∧ _))

theorem Along.noted {moves : List Move} : ∀ {system : System}, system.Along allowed moves → ∀ x : σ,
    AlongNoted note (fun system _ move => allowed system move) system x moves := by
  induction moves with
  | nil => exact fun _ _ => trivial
  | cons move rest ih =>
    rintro system ⟨hallowed, hrest⟩ x
    refine ⟨hallowed, ?_⟩
    split
    · rename_i hobserve
      rw [hobserve] at hrest
      exact ih hrest _
    · trivial

/-- A run whose moves are allowed succeeds, and what every allowed move keeps holds at its end. -/
theorem run_induct_noted {allowed : System → σ → Move → Prop}
    (hstep : ∀ {system move answer signals system' x}, system.WellFormed → allowed system x move →
      system.observe move = .ok (answer, signals, system') → Inv system x →
      Moved system move answer signals system' →
      Inv system' (note system move answer signals system' x)) (moves : List Move) :
    ∀ (system : System) (x : σ), system.WellFormed → AlongNoted note allowed system x moves →
      Inv system x → ∃ system', system.run moves = .ok system' ∧ system'.WellFormed ∧
        Inv system' (recount note system moves x) := by
  induction moves with
  | nil => exact fun system x h _ hinv => ⟨system, rfl, h, hinv⟩
  | cons move rest ih =>
    rintro system x h ⟨hallowed, hrest⟩ hinv
    obtain ⟨answer, signals, next, hobserve, hnext, hmoved⟩ := observe_spec h move
    rw [hobserve] at hrest
    obtain ⟨last, hrun, hlast, hend⟩ :=
      ih next _ hnext hrest (hstep h hallowed hobserve hinv hmoved)
    exact ⟨last, (run_cons hobserve rest).trans hrun, hlast, (recount_cons hobserve rest x).symm ▸ hend⟩

/-- The same for a rule that does not depend on what has been noted. -/
theorem run_induct (hstep : ∀ {system move answer signals system' x}, system.WellFormed →
      allowed system move → Inv system x → Moved system move answer signals system' →
      Inv system' (note system move answer signals system' x)) (moves : List Move) :
    ∀ (system : System) (x : σ), system.WellFormed → system.Along allowed moves → Inv system x →
      ∃ system', system.run moves = .ok system' ∧ system'.WellFormed ∧
        Inv system' (recount note system moves x) := by
  intro system x h halong
  refine @run_induct_noted σ note Inv (fun system _ move => allowed system move) ?_ moves system x h
    (halong.noted x)
  intro system move answer signals system' x hwf hallowed _ hinv hmoved
  exact hstep hwf hallowed hinv hmoved

theorem along_of_mem {moves : List Move} (h : ∀ move ∈ moves, ∀ system, allowed system move) :
    ∀ system : System, system.Along allowed moves := by
  induction moves with
  | nil => exact fun _ => trivial
  | cons move rest ih =>
    refine fun system => ⟨h move (List.mem_cons_self ..) system, ?_⟩
    split
    · exact ih (fun move hmove => h move (List.mem_cons_of_mem _ hmove)) _
    · trivial

theorem along_of_forall (h : ∀ system move, allowed system move) (moves : List Move) (system : System) :
    system.Along allowed moves :=
  along_of_mem (fun move _ system => h system move) system

theorem run_append {moves rest : List Move} {middle : System} (h : system.run moves = .ok middle) :
    system.run (moves ++ rest) = middle.run rest := by
  unfold run at h ⊢
  rw [List.foldlM_append, h]
  rfl

/-- A run with one more call. -/
theorem run_call {start : System} {moves : List Move} {operation : Operation} {outcome : Outcome}
    {signals : List Signal} (hrun : start.run moves = .ok system)
    (hcall : system.call operation = .ok (outcome, signals, system')) :
    start.run (moves ++ [.call operation]) = .ok system' := by
  rw [run_append hrun, run, List.foldlM_cons, step, hcall]
  rfl

theorem Along.of_append {moves rest : List Move} : ∀ {system : System},
    system.Along allowed (moves ++ rest) → system.Along allowed moves := by
  induction moves with
  | nil => exact fun _ => trivial
  | cons move moves ih =>
    rintro system ⟨hallowed, halong⟩
    refine ⟨hallowed, ?_⟩
    split
    · rename_i hobserve
      rw [hobserve] at halong
      exact ih halong
    · trivial

theorem Along.append {moves rest : List Move} {middle : System} :
    ∀ {system : System}, system.Along allowed (moves ++ rest) → system.run moves = .ok middle →
      middle.Along allowed rest := by
  induction moves with
  | nil =>
    intro system halong hrun
    cases hrun
    exact halong
  | cons move moves ih =>
    rintro system ⟨-, halong⟩ hrun
    cases hobserve : system.observe move with
    | error =>
      rw [run, List.foldlM_cons, step_eq, hobserve] at hrun
      cases hrun
    | ok p =>
      rw [run_cons hobserve] at hrun
      rw [hobserve] at halong
      exact ih halong hrun

/-- Every run of a valid configuration succeeds and keeps the configuration, and what every move keeps
holds at its end. -/
theorem run_observed {Inv : System → Prop} {config : Config} (h : config.fault? = none)
    (hinit : Inv { kernel := .ofConfig config })
    (hstep : ∀ {system move answer signals system'}, system.WellFormed → system.kernel.config = config →
      system.observe move = .ok (answer, signals, system') → Inv system →
      Moved system move answer signals system' → Inv system') (moves : List Move) :
    ∃ system, run { kernel := .ofConfig config } moves = .ok system ∧ system.WellFormed ∧
      system.kernel.config = config ∧ Inv system := by
  refine @run_induct_noted Unit (fun _ _ _ _ _ x => x)
    (fun system _ => system.kernel.config = config ∧ Inv system) (fun _ _ _ => True) ?_ moves _ ()
    (ofConfig_wellFormed h) ((along_of_forall (fun _ _ => trivial) moves _).noted ()) ⟨rfl, hinit⟩
  rintro system move answer signals system' - hwf - hobserve ⟨hconfig, hinv⟩ hmoved
  exact ⟨hmoved.config_eq.trans hconfig, hstep hwf hconfig hobserve hinv hmoved⟩

/-- The same for what a move keeps whatever it gives back. -/
theorem run_invariant {Inv : System → Prop} {config : Config} (h : config.fault? = none)
    (hinit : Inv { kernel := .ofConfig config })
    (hstep : ∀ {system move answer signals system'}, system.WellFormed → system.kernel.config = config →
      Inv system → Moved system move answer signals system' → Inv system') (moves : List Move) :
    ∃ system, run { kernel := .ofConfig config } moves = .ok system ∧ system.WellFormed ∧
      system.kernel.config = config ∧ Inv system :=
  run_observed h hinit (fun hwf hconfig _ hinv hmoved => hstep hwf hconfig hinv hmoved) moves

theorem run_wellFormed {config : Config} (h : config.fault? = none) (moves : List Move) :
    ∃ system, run { kernel := .ofConfig config } moves = .ok system ∧ system.WellFormed ∧
      system.kernel.config = config := by
  obtain ⟨system, hrun, hwf, hconfig, -⟩ :=
    @run_invariant (fun _ => True) config h trivial (fun _ _ _ _ => trivial) moves
  exact ⟨system, hrun, hwf, hconfig⟩

/-- In every run of a valid configuration the blocked calls have different numbers. -/
theorem run_numbered {config : Config} (h : config.fault? = none) (moves : List Move) :
    ∃ system, run { kernel := .ofConfig config } moves = .ok system ∧ system.Numbered := by
  obtain ⟨system, hrun, -, -, hnumbered⟩ := run_invariant h (ofConfig_numbered config)
    (fun _ _ hinv hmoved => hinv.move hmoved) moves
  exact ⟨system, hrun, hnumbered⟩

instance : DecidableEq Outcome
  | .returned result, .returned result' =>
    decidable_of_iff (result = result') ⟨congrArg Outcome.returned, Outcome.returned.inj⟩
  | .blocked number, .blocked number' =>
    decidable_of_iff (number = number') ⟨congrArg Outcome.blocked, Outcome.blocked.inj⟩
  | .returned _, .blocked _ | .blocked _, .returned _ => .isFalse nofun

/-- What follows a run and has been worked out with it. -/
theorem exists_of_run {α β : Type} {start system : System} {moves : List Move} {f : System → Checked α}
    {g : α → β} {b : β} (hrun : start.run moves = .ok system)
    (h : (start.run moves >>= f).toOption.map g = some b) : ∃ a, f system = .ok a ∧ g a = b := by
  rw [hrun] at h
  change (f system).toOption.map g = some b at h
  cases hf : f system with
  | error => rw [hf] at h; cases h
  | ok a => rw [hf] at h; exact ⟨a, rfl, Option.some.inj h⟩

end Run

/-- A small configuration, with one place on the timer heap for two timers. -/
def small : Config where
  maxTasks := 2
  maxQueues := 2
  maxMessages := 2
  maxTimerObjects := 1
  maxAppTimers := 2

/-- A configuration with a place on the timer heap for every object. -/
def roomy : Config := { small with maxTimerObjects := 3 }

end System

end Executive
