/-
Snapshots can be read from their texts (`snapshot_texts_faithful`): no two snapshots whose names leave
the lines whole have the same text, but for what the text of the queues leaves out. A name is free
text and may look like the columns around it, so a line is read from its two ends: the columns in
front of the name from the left, those behind it from the right, and what is left is the name.
-/
import Executive.Proofs.Text
import Executive.Snapshot

namespace Executive

open Text

/-! ## Lines of tasks -/

/-- A name that keeps to its line and does not end in a space. -/
structure TaskSummary.Legible (task : TaskSummary) : Prop where
  newline : '\n' ∉ task.name.toList
  space : task.name.toList.getLast? ≠ some ' '

instance (task : TaskSummary) : Decidable task.Legible :=
  decidable_of_iff ('\n' ∉ task.name.toList ∧ task.name.toList.getLast? ≠ some ' ')
    ⟨fun h => ⟨h.1, h.2⟩, fun h => ⟨h.newline, h.space⟩⟩

namespace TaskSummary

variable {a b : TaskSummary}

/-- The words in front of the name. -/
def front (task : TaskSummary) : List (List Char) :=
  [decimal task.id.index, decimal task.pid.toNat, decimal task.priority.toNat]

/-- The words behind the name. -/
def back (task : TaskSummary) : List (List Char) :=
  [decimal task.waiting.toNat, zeroFill 8 (capitalHex task.eventsPosted.toNat),
    decimal task.eventCount.toNat]

theorem fills_front (task : TaskSummary) : Fills [2, 5, 3] task.front :=
  .cons isWord_decimal (.cons isWord_decimal (.cons isWord_decimal .nil))

theorem fills_back (task : TaskSummary) : Fills [0, 0, 9] task.back :=
  .cons isWord_decimal (.cons isWord_capitalHex.zeroFill (.cons isWord_decimal .nil))

theorem line_eq (task : TaskSummary) : task.line = fields (columns [2, 5, 3] task.front ++
    ([alignLeft 16 task.name.toList] ++ columns [0, 0, 9] task.back)) := by
  simp [line, columns, front, back]

/-- A line belongs to one task only. -/
theorem line_inj (ha : a.Legible) (hb : b.Legible) (h : a.line = b.line) : a = b := by
  rw [line_eq, line_eq] at h
  obtain ⟨hfront, h⟩ := columns_append_inj a.fills_front b.fills_front (by simp) (by simp) h
  obtain ⟨hname, hback⟩ := append_columns_inj a.fills_back b.fills_back (by simp) (by simp) h
  rw [fields_singleton, fields_singleton] at hname
  replace hname := String.toList_inj.1 (alignLeft_inj ha.space hb.space hname)
  simp only [front, back, List.cons.injEq, and_true] at hfront hback
  obtain ⟨hid, hpid, hpriority⟩ := hfront
  obtain ⟨hwaiting, hposted, hcount⟩ := hback
  obtain ⟨⟨id⟩, pid, priority, name, waiting, posted, count⟩ := a
  obtain ⟨⟨id'⟩, pid', priority', name', waiting', posted', count'⟩ := b
  obtain rfl : id = id' := decimal_inj hid
  obtain rfl : pid = pid' := UInt32.toNat_inj.1 (decimal_inj hpid)
  obtain rfl : priority = priority' := UInt8.toNat_inj.1 (decimal_inj hpriority)
  obtain rfl : name = name' := hname
  obtain rfl : waiting = waiting' :=
    Bool.eq_iff_iff.2 (by rw [← Bool.toNat_eq_one, decimal_inj hwaiting, Bool.toNat_eq_one])
  obtain rfl : posted = posted' := UInt32.toNat_inj.1 (zeroFill_capitalHex_inj hposted)
  obtain rfl : count = count' := UInt32.toNat_inj.1 (decimal_inj hcount)
  rfl

theorem newline_not_mem_line (h : a.Legible) : '\n' ∉ a.line := by
  have hname : '\n' ∉ alignLeft 16 a.name.toList := by
    simp [alignLeft, List.rightpad, h.newline]
  rw [line_eq]
  refine newline_not_mem_fields (List.forall_mem_append.2 ⟨newline_not_mem_columns a.fills_front, ?_⟩)
  exact List.forall_mem_append.2
    ⟨List.forall_mem_singleton.2 hname, newline_not_mem_columns a.fills_back⟩

end TaskSummary

/-! ## Lines of queues -/

namespace QueueSummary

variable {a b : QueueSummary}

/-- What a line shows of a queue: everything but the order of its waiters and whether one waits. -/
def shown (queue : QueueSummary) : QueueId × TaskId × Nat × Nat × String :=
  (queue.id, queue.task, queue.depth, queue.count, queue.name)

/-- The words in front of the name. -/
def front (queue : QueueSummary) : List (List Char) :=
  [decimal queue.id.index, decimal queue.task.index, decimal queue.depth, decimal queue.count]

theorem fills_front (queue : QueueSummary) : Fills [2, 3, 3, 3] queue.front :=
  .cons isWord_decimal (.cons isWord_decimal (.cons isWord_decimal (.cons isWord_decimal .nil)))

theorem line_eq (queue : QueueSummary) :
    queue.line = fields (columns [2, 3, 3, 3] queue.front ++ [queue.name.toList]) := by
  simp [line, columns, front]

/-- Queues with one line differ in nothing that it shows. -/
theorem line_eq_iff : a.line = b.line ↔ a.shown = b.shown := by
  obtain ⟨⟨id⟩, ⟨task⟩, depth, count, name, order, waiting⟩ := a
  obtain ⟨⟨id'⟩, ⟨task'⟩, depth', count', name', order', waiting'⟩ := b
  constructor
  · intro h
    rw [line_eq, line_eq] at h
    obtain ⟨hfront, h⟩ := columns_append_inj (fills_front _) (fills_front _) (by simp) (by simp) h
    simp only [front, List.cons.injEq, and_true] at hfront
    obtain ⟨hid, htask, hdepth, hcount⟩ := hfront
    rw [fields_singleton, fields_singleton] at h
    obtain rfl : id = id' := decimal_inj hid
    obtain rfl : task = task' := decimal_inj htask
    obtain rfl : depth = depth' := decimal_inj hdepth
    obtain rfl : count = count' := decimal_inj hcount
    obtain rfl : name = name' := String.toList_inj.1 h
    rfl
  · intro h
    cases h
    rfl

theorem newline_not_mem_line (h : '\n' ∉ a.name.toList) : '\n' ∉ a.line := by
  rw [line_eq]
  exact newline_not_mem_fields (List.forall_mem_append.2
    ⟨newline_not_mem_columns a.fills_front, List.forall_mem_singleton.2 h⟩)

end QueueSummary

/-! ## Texts -/

/-- Lists whose entries can be read from their lines can be read from the list of these. -/
theorem map_eq_map_of {α β γ : Type} {legible : α → Prop} {line : α → β} {shown : α → γ}
    (hline : ∀ x y, legible x → legible y → line x = line y → shown x = shown y) :
    ∀ {xs ys : List α}, (∀ x ∈ xs, legible x) → (∀ y ∈ ys, legible y) →
      xs.map line = ys.map line → xs.map shown = ys.map shown
  | [], [], _, _, _ => rfl
  | x :: xs, y :: ys, hxs, hys, h => by
    obtain ⟨hx, hxs⟩ := List.forall_mem_cons.1 hxs
    obtain ⟨hy, hys⟩ := List.forall_mem_cons.1 hys
    obtain ⟨hhead, htail⟩ := List.cons.inj h
    rw [List.map_cons, List.map_cons, hline x y hx hy hhead, map_eq_map_of hline hxs hys htail]

/-- The names of a snapshot keep to their lines, and none of a task ends in a space. -/
structure CoreSnapshot.Legible (core : CoreSnapshot) : Prop where
  newline : '\n' ∉ core.name.toList
  tasks : ∀ task ∈ core.tasks, task.Legible

instance (core : CoreSnapshot) : Decidable core.Legible :=
  decidable_of_iff ('\n' ∉ core.name.toList ∧ ∀ task ∈ core.tasks, task.Legible)
    ⟨fun h => ⟨h.1, h.2⟩, fun h => ⟨h.newline, h.tasks⟩⟩

namespace CoreSnapshot

variable {a b : CoreSnapshot}

/-- The words behind the name and the title. -/
def back (core : CoreSnapshot) : List (List Char) :=
  [decimal core.ticks, zeroFill 8 (hex core.clock), decimal core.timerObjectsInUse,
    decimal core.appTimersInUse]

theorem fills_back (core : CoreSnapshot) : Fills [9, 0, 0, 0] core.back :=
  .cons isWord_decimal (.cons isWord_hex.zeroFill (.cons isWord_decimal (.cons isWord_decimal .nil)))

theorem header_eq (core : CoreSnapshot) :
    core.header = fields ([core.name.toList, "core".toList] ++ columns [9, 0, 0, 0] core.back) := by
  simp [header, columns, back]

theorem newline_not_mem_lines (h : a.Legible) :
    ∀ line ∈ a.header :: a.tasks.map TaskSummary.line, '\n' ∉ line := by
  refine List.forall_mem_cons.2 ⟨?_, List.forall_mem_map.2 fun task htask => ?_⟩
  · rw [header_eq]
    exact newline_not_mem_titled h.newline (by decide) a.fills_back
  · exact TaskSummary.newline_not_mem_line (h.tasks task htask)

/-- A text belongs to one snapshot only. -/
theorem text_inj (ha : a.Legible) (hb : b.Legible) (h : a.text = b.text) : a = b := by
  obtain ⟨hheader, htasks⟩ :=
    List.cons.inj (ofLines_inj (newline_not_mem_lines ha) (newline_not_mem_lines hb) h)
  rw [header_eq, header_eq] at hheader
  obtain ⟨hname, hback⟩ := titled_columns_inj a.fills_back b.fills_back hheader
  replace htasks : a.tasks.map id = b.tasks.map id :=
    map_eq_map_of (fun _ _ => TaskSummary.line_inj) ha.tasks hb.tasks htasks
  rw [List.map_id, List.map_id] at htasks
  simp only [back, List.cons.injEq, and_true] at hback
  obtain ⟨hticks, hclock, hobjects, htimers⟩ := hback
  obtain ⟨name, ticks, clock, objects, timers, tasks⟩ := a
  obtain ⟨name', ticks', clock', objects', timers', tasks'⟩ := b
  obtain rfl : name = name' := String.toList_inj.1 hname
  obtain rfl : ticks = ticks' := decimal_inj hticks
  obtain rfl : clock = clock' := zeroFill_hex_inj hclock
  obtain rfl : objects = objects' := decimal_inj hobjects
  obtain rfl : timers = timers' := decimal_inj htimers
  obtain rfl : tasks = tasks' := htasks
  rfl

end CoreSnapshot

/-- The names of a snapshot keep to their lines. -/
structure QueueSnapshot.Legible (snapshot : QueueSnapshot) : Prop where
  newline : '\n' ∉ snapshot.name.toList
  queues : ∀ queue ∈ snapshot.queues, '\n' ∉ queue.name.toList

instance (snapshot : QueueSnapshot) : Decidable snapshot.Legible :=
  decidable_of_iff
    ('\n' ∉ snapshot.name.toList ∧ ∀ queue ∈ snapshot.queues, '\n' ∉ queue.name.toList)
    ⟨fun h => ⟨h.1, h.2⟩, fun h => ⟨h.newline, h.queues⟩⟩

namespace QueueSnapshot

variable {a b : QueueSnapshot}

/-- The word behind the name and the title. -/
def back (snapshot : QueueSnapshot) : List (List Char) := [decimal snapshot.freeContainers]

theorem fills_back (snapshot : QueueSnapshot) : Fills [0] snapshot.back :=
  .cons isWord_decimal .nil

theorem header_eq (snapshot : QueueSnapshot) : snapshot.header =
    fields ([snapshot.name.toList, "queues".toList] ++ columns [0] snapshot.back) := by
  simp [header, columns, back]

theorem newline_not_mem_lines (h : a.Legible) :
    ∀ line ∈ a.header :: a.queues.map QueueSummary.line, '\n' ∉ line := by
  refine List.forall_mem_cons.2 ⟨?_, List.forall_mem_map.2 fun queue hqueue => ?_⟩
  · rw [header_eq]
    exact newline_not_mem_titled h.newline (by decide) a.fills_back
  · exact QueueSummary.newline_not_mem_line (h.queues queue hqueue)

/-- Snapshots with one text differ in nothing that it shows. -/
theorem text_eq_iff (ha : a.Legible) (hb : b.Legible) : a.text = b.text ↔
    a.name = b.name ∧ a.freeContainers = b.freeContainers ∧
      a.queues.map QueueSummary.shown = b.queues.map QueueSummary.shown := by
  constructor
  · intro h
    obtain ⟨hheader, hqueues⟩ :=
      List.cons.inj (ofLines_inj (newline_not_mem_lines ha) (newline_not_mem_lines hb) h)
    rw [header_eq, header_eq] at hheader
    obtain ⟨hname, hback⟩ := titled_columns_inj a.fills_back b.fills_back hheader
    exact ⟨String.toList_inj.1 hname, decimal_inj (List.cons.inj hback).1,
      map_eq_map_of (fun _ _ _ _ => QueueSummary.line_eq_iff.1) ha.queues hb.queues hqueues⟩
  · rintro ⟨hname, hfree, hqueues⟩
    have hlines : a.queues.map QueueSummary.line = b.queues.map QueueSummary.line :=
      map_eq_map_of (fun _ _ _ _ => QueueSummary.line_eq_iff.2) ha.queues hb.queues hqueues
    rw [text, text, header, header, hname, hfree, hlines]

end QueueSnapshot

/-- Of two snapshots of the core whose names contain no newline and, those of tasks, do not end in a
space, the texts are equal only if the snapshots are. Of two snapshots of the queues whose names
contain no newline, the texts are equal exactly if the snapshots have the same name and the same
number of free containers and show the same of their queues, in the same order. A text consists of
the header line and one line for each task or queue, in their order, each ended by a newline. -/
theorem snapshot_texts_faithful {core core' : CoreSnapshot} {queues queues' : QueueSnapshot}
    (hcore : core.Legible) (hcore' : core'.Legible) (hqueues : queues.Legible)
    (hqueues' : queues'.Legible) :
    (core.text = core'.text → core = core') ∧
      (queues.text = queues'.text ↔
        queues.name = queues'.name ∧ queues.freeContainers = queues'.freeContainers ∧
          queues.queues.map QueueSummary.shown = queues'.queues.map QueueSummary.shown) ∧
      core.text.toList.splitOn '\n' = core.header :: core.tasks.map TaskSummary.line ++ [[]] ∧
      queues.text.toList.splitOn '\n' =
        queues.header :: queues.queues.map QueueSummary.line ++ [[]] :=
  ⟨CoreSnapshot.text_inj hcore hcore', QueueSnapshot.text_eq_iff hqueues hqueues',
    splitOn_ofLines (CoreSnapshot.newline_not_mem_lines hcore),
    splitOn_ofLines (QueueSnapshot.newline_not_mem_lines hqueues)⟩

/-- Names that look like columns, a name wider than its column, a nameless task and numbers wider
than their columns. -/
def crowdedCore : CoreSnapshot where
  name := "RTX core 7 "
  ticks := 18446744073709551615
  clock := 0x123456789
  timerObjectsInUse := 3
  appTimersInUse := 12
  tasks := [
    { id := ⟨3⟩, pid := 812, priority := 5, name := " 1 00000011    4", waiting := true,
      eventsPosted := 0x11, eventCount := 4 },
    { id := ⟨1000⟩, pid := 4294967295, priority := 255, name := "näher an der Uhr als alle",
      waiting := false, eventsPosted := 0xDEADBEEF, eventCount := 4294967295 },
    { id := ⟨4⟩, pid := 0, priority := 0, name := "", waiting := false, eventsPosted := 0,
      eventCount := 0 }]

/-- Names that look like columns, and a queue deeper than its column is wide. -/
def crowdedQueues : QueueSnapshot where
  name := "RTX queues 1"
  freeContainers := 14
  queues := [
    { id := ⟨2⟩, task := ⟨1⟩, depth := 8, count := 2, name := " 7 rx ", order := .fifo,
      waiting := false },
    { id := ⟨30⟩, task := ⟨0⟩, depth := 10000, count := 0, name := "", order := .fifo,
      waiting := true }]

/-- The same queues, none of which anybody waits for. -/
def quietQueues : QueueSnapshot :=
  { crowdedQueues with queues := crowdedQueues.queues.map ({ · with waiting := false }) }

theorem crowded_texts_faithful :
    crowdedCore.Legible ∧ { crowdedCore with name := "RTX" }.Legible ∧ crowdedQueues.Legible ∧
      quietQueues.Legible ∧
      (crowdedCore.text = { crowdedCore with name := "RTX" }.text →
        crowdedCore = { crowdedCore with name := "RTX" }) ∧
      (crowdedQueues.text = quietQueues.text ↔
        crowdedQueues.name = quietQueues.name ∧
          crowdedQueues.freeContainers = quietQueues.freeContainers ∧
          crowdedQueues.queues.map QueueSummary.shown = quietQueues.queues.map QueueSummary.shown) ∧
      crowdedCore.text.toList.splitOn '\n' =
        crowdedCore.header :: crowdedCore.tasks.map TaskSummary.line ++ [[]] ∧
      crowdedQueues.text.toList.splitOn '\n' =
        crowdedQueues.header :: crowdedQueues.queues.map QueueSummary.line ++ [[]] :=
  have hcore : crowdedCore.Legible := by decide
  have hcore' : { crowdedCore with name := "RTX" }.Legible := by decide
  have hqueues : crowdedQueues.Legible := by decide
  have hqueues' : quietQueues.Legible := by decide
  ⟨hcore, hcore', hqueues, hqueues', snapshot_texts_faithful hcore hcore' hqueues hqueues'⟩

end Executive
