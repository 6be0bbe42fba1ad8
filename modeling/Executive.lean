import Executive.Script
import Executive.TickPeriod
import Executive.TimerHeap.Request
import Executive.Proofs.TimerHeap.Layout
import Executive.Proofs.TimerHeap.Sift
import Executive.Proofs.TimerHeap.Schedule
import Executive.Proofs.TimerHeap.Run
import Executive.Proofs.TimerHeap.Agenda
import Executive.Proofs.Message.Chain
import Executive.Proofs.Message.Pool
import Executive.Proofs.Queue
import Executive.Proofs.Kernel.Section
import Executive.Proofs.Kernel.WellFormed
import Executive.Proofs.Kernel.Events
import Executive.Proofs.Kernel.Tasks
import Executive.Proofs.Kernel.Queues
import Executive.Proofs.Kernel.Timers
import Executive.Proofs.Kernel.Advance
import Executive.Proofs.Kernel.Operation
import Executive.Proofs.Safety
import Executive.Proofs.Conservation
import Executive.Proofs.QueueLists
import Executive.Proofs.Kernel.Frames
import Executive.Proofs.Firing
import Executive.Proofs.Event
import Executive.Proofs.Kernel.Words
import Executive.Proofs.Kernel.Watch
import Executive.Proofs.Kernel.Traffic
import Executive.Proofs.Consumption
import Executive.Proofs.Wakeup
import Executive.Proofs.Delivery
import Executive.Proofs.Kernel.Objects
import Executive.Proofs.Timekeeping
import Executive.Proofs.Clock
import Executive.Proofs.Kernel.Drain
import Executive.Proofs.Drain
import Executive.Proofs.TimerHeap.Shift
import Executive.Proofs.TimerHeap.Lockstep
import Executive.Proofs.Coalescing
import Executive.Proofs.Kernel.Room
import Executive.Proofs.Expiry
import Executive.Proofs.Sleep
import Executive.Proofs.Kernel.Entries
import Executive.Proofs.Entries
import Executive.Proofs.Ownership
import Executive.Proofs.Kernel.Names
import Executive.Proofs.Naming
import Executive.Proofs.Waiting
import Executive.Proofs.Worker
import Executive.Proofs.Kernel.Interrupts
import Executive.Proofs.Kernel.Failures
import Executive.Proofs.Posting
import Executive.Proofs.Accounts
import Executive.Proofs.Atomicity
import Executive.Proofs.Interrupts
import Executive.Proofs.Schedule
import Executive.Proofs.Reception
import Executive.Proofs.Precedence
import Executive.Proofs.TimerHeap.Repair
import Executive.Proofs.Text
import Executive.Proofs.Snapshot
