/- digest: The queue between the netlink thread and the scan workers, and its shutdown. -/

import KernelAv.Daemon.Scan
import KernelAv.Lib.LinkedLists
import KernelAv.Lib.Monitors

set_option autoImplicit false
set_option relaxedAutoImplicit false

namespace KernelAv.Daemon.ScanQueue

open KernelAv.Lib.CText
open KernelAv.Lib.Monitors
open KernelAv.Kernel.Channel (AV_VERDICT_CLEAN ScanRequest)
open KernelAv.Daemon.Scan

/-- The arguments of a call of `send_verdict`. -/
structure VerdictCall where
  reqid : Nat
  verdict : Nat
  rule_name : Bytes
  deriving DecidableEq

/-- The call of `send_verdict` that `handle_scan_request` makes. -/
def verdictCall (L : HashLibrary) (D : Avd) (io : ScanIo) (task : ScanTask) : VerdictCall :=
  match io.opened with
  | none => ⟨task.reqid, AV_VERDICT_CLEAN, []⟩
  | some _ =>
      let result := perform_scan L D io task.sha256_hex
      ⟨task.reqid, result.verdict, result.rule_name⟩

theorem handle_scan_request_call (L : HashLibrary) (D : Avd) (io : ScanIo) (task : ScanTask) :
    handle_scan_request L D io task = send_verdict io.sent (verdictCall L D io task).reqid
      (verdictCall L D io task).verdict (verdictCall L D io task).rule_name := by
  rw [handle_scan_request, verdictCall]
  cases io.opened <;> rfl

theorem verdictCall_reqid (L : HashLibrary) (D : Avd) (io : ScanIo) (task : ScanTask) :
    (verdictCall L D io task).reqid = task.reqid := by
  rw [verdictCall]
  cases io.opened <;> rfl

inductive Thread (n : Nat) where
  | producer
  | worker (i : Fin n)
  | main
  deriving DecidableEq

instance (n : Nat) : Fintype (Thread n) :=
  Fintype.ofList (.producer :: .main :: (List.finRange n).map .worker)
    fun t => by cases t <;> simp

inductive Cond where
  | queue_not_empty
  | queue_not_full
  deriving DecidableEq

/-- A node of the heap. -/
structure scan_task where
  next : Option Nat
  task : ScanTask
  deriving DecidableEq

/-- Where the netlink thread stands in `enqueue_scan_task`, with the arguments of the call and the
task. It is idle between two messages. -/
inductive ProducerPc where
  | idle
  | allocating (req : ScanRequest)
  | locking (req : ScanRequest) (task : Nat)
  | testing (req : ScanRequest) (task : Nat)
  | signalling
  | unlocking
  | discarding (req : ScanRequest) (task : Nat)
  | freeing (req : ScanRequest) (task : Nat)
  deriving DecidableEq

/-- Where a worker stands in `scan_worker_main`, with the task it took. -/
inductive WorkerPc where
  | locking
  | testing
  | signalling (task : Nat)
  | unlocking (task : Nat)
  | handling (task : Nat)
  | freeing (task : Nat)
  | leaving
  | exited
  deriving DecidableEq

/-- Where the shutdown in `main` stands. -/
inductive MainPc where
  | locking
  | setting
  | broadcasting_not_empty
  | broadcasting_not_full
  | unlocking
  | joining
  | done
  deriving DecidableEq

/-- The globals of the queue and the threads. The last fields are a record of the run: the requests
that came, those accepted and those dropped, the tasks taken from the queue, and the calls of
`send_verdict`. -/
structure State (n : Nat) where
  monitor : Monitor (Thread n) Cond
  heap : Nat → Option scan_task
  queue_head : Option Nat
  queue_tail : Option Nat
  queue_len : Nat
  shutting_down : Bool
  producer : ProducerPc
  worker : Fin n → WorkerPc
  main : MainPc
  received : List ScanRequest
  accepted : List ScanRequest
  dropped : List ScanRequest
  taken : List (Fin n × ScanTask)
  calls : List (Fin n × VerdictCall)

def State.boot (n : Nat) : State n where
  monitor := Monitor.free
  heap := fun _ => none
  queue_head := none
  queue_tail := none
  queue_len := 0
  shutting_down := false
  producer := .idle
  worker := fun _ => .locking
  main := .locking
  received := []
  accepted := []
  dropped := []
  taken := []
  calls := []

/-- What happens next: a message comes, a thread goes on, or one wakes up on its own. With a step
goes what it meets outside: the node of a `malloc` (none if it fails), the thread that a signal
wakes (none if none waits), what a scan meets. -/
inductive Action (n : Nat) where
  | receive (req : ScanRequest)
  | producer (malloc : Option Nat) (woken : Option (Thread n))
  | worker (i : Fin n) (io : ScanIo) (woken : Option (Thread n))
  | main
  | wakeup (t : Thread n)

variable {n : Nat}

section Steps

variable (queue_max : Nat)

/-- `queue_tail->next = task`. -/
def setNext (heap : Nat → Option scan_task) (tail task : Nat) : Nat → Option scan_task :=
  Function.update heap tail ((heap tail).map fun t => { t with next := some task })

/-- The statements under the lock from the test of the loop to the signal; nothing else touches the
queue without the lock, so they are one step. -/
def enqueue (s : State n) (req : ScanRequest) (task : Nat) : Option (State n) :=
  if queue_max ≤ s.queue_len ∧ s.shutting_down = false then
    (s.monitor.wait .producer .queue_not_full).map fun m => { s with monitor := m }
  else if s.shutting_down then
    some { s with producer := .discarding req task }
  else
    some { s with
      heap := match s.queue_tail with
        | some tail => setNext s.heap tail task
        | none => s.heap
      queue_head := match s.queue_tail with
        | some _ => s.queue_head
        | none => some task
      queue_tail := some task
      queue_len := s.queue_len + 1
      producer := .signalling
      accepted := s.accepted ++ [req] }

/-- `enqueue_scan_task`. -/
def producerStep (s : State n) (malloc : Option Nat) (woken : Option (Thread n)) :
    Option (State n) :=
  match s.producer with
  | .idle => none
  | .allocating req =>
      match malloc with
      | none => some { s with producer := .idle, dropped := s.dropped ++ [req] }
      | some task =>
          if s.heap task = none then
            some { s with
              heap := Function.update s.heap task (some ⟨none, scanTask req⟩)
              producer := .locking req task }
          else none
  | .locking req task =>
      (s.monitor.acquire .producer).map fun m =>
        { s with monitor := m, producer := .testing req task }
  | .testing req task =>
      if s.monitor.owner = some .producer then enqueue queue_max s req task
      else (s.monitor.acquire .producer).map fun m => { s with monitor := m }
  | .signalling =>
      (s.monitor.signal .producer .queue_not_empty woken).map fun m =>
        { s with monitor := m, producer := .unlocking }
  | .unlocking =>
      (s.monitor.release .producer).map fun m => { s with monitor := m, producer := .idle }
  | .discarding req task =>
      (s.monitor.release .producer).map fun m =>
        { s with monitor := m, producer := .freeing req task }
  | .freeing req task =>
      some { s with
        heap := Function.update s.heap task none
        producer := .idle
        dropped := s.dropped ++ [req] }

/-- The statements under the lock from the test of the loop on. -/
def dequeue (s : State n) (i : Fin n) : Option (State n) :=
  match s.queue_head with
  | none =>
      if s.shutting_down then
        some { s with worker := Function.update s.worker i .leaving }
      else
        (s.monitor.wait (.worker i) .queue_not_empty).map fun m => { s with monitor := m }
  | some task =>
      match s.heap task with
      | none => none
      | some t =>
          some { s with
            queue_head := t.next
            queue_tail := if t.next = none then none else s.queue_tail
            queue_len := s.queue_len - 1
            worker := Function.update s.worker i (.signalling task)
            taken := s.taken ++ [(i, t.task)] }

/-- `scan_worker_main`. -/
def workerStep (L : HashLibrary) (D : Avd) (s : State n) (i : Fin n) (io : ScanIo)
    (woken : Option (Thread n)) : Option (State n) :=
  match s.worker i with
  | .locking =>
      (s.monitor.acquire (.worker i)).map fun m =>
        { s with monitor := m, worker := Function.update s.worker i .testing }
  | .testing =>
      if s.monitor.owner = some (.worker i) then dequeue s i
      else (s.monitor.acquire (.worker i)).map fun m => { s with monitor := m }
  | .signalling task =>
      (s.monitor.signal (.worker i) .queue_not_full woken).map fun m =>
        { s with monitor := m, worker := Function.update s.worker i (.unlocking task) }
  | .unlocking task =>
      (s.monitor.release (.worker i)).map fun m =>
        { s with monitor := m, worker := Function.update s.worker i (.handling task) }
  | .handling task =>
      match s.heap task with
      | none => none
      | some t =>
          some { s with
            worker := Function.update s.worker i (.freeing task)
            calls := s.calls ++ [(i, verdictCall L D io t.task)] }
  | .freeing task =>
      some { s with
        heap := Function.update s.heap task none
        worker := Function.update s.worker i .locking }
  | .leaving =>
      (s.monitor.release (.worker i)).map fun m =>
        { s with monitor := m, worker := Function.update s.worker i .exited }
  | .exited => none

/-- The end of `main`, from the lock on. -/
def mainStep (s : State n) : Option (State n) :=
  match s.main with
  | .locking => (s.monitor.acquire .main).map fun m => { s with monitor := m, main := .setting }
  | .setting => some { s with shutting_down := true, main := .broadcasting_not_empty }
  | .broadcasting_not_empty =>
      (s.monitor.broadcast .main .queue_not_empty).map fun m =>
        { s with monitor := m, main := .broadcasting_not_full }
  | .broadcasting_not_full =>
      (s.monitor.broadcast .main .queue_not_full).map fun m =>
        { s with monitor := m, main := .unlocking }
  | .unlocking =>
      (s.monitor.release .main).map fun m => { s with monitor := m, main := .joining }
  | .joining => if ∀ i, s.worker i = .exited then some { s with main := .done } else none
  | .done => none

def step (L : HashLibrary) (D : Avd) (s : State n) : Action n → Option (State n)
  | .receive req =>
      if s.producer = .idle then
        some { s with producer := .allocating req, received := s.received ++ [req] }
      else none
  | .producer malloc woken => producerStep queue_max s malloc woken
  | .worker i io woken => workerStep L D s i io woken
  | .main => mainStep s
  | .wakeup t => (s.monitor.wake t).map fun m => { s with monitor := m }

end Steps

end KernelAv.Daemon.ScanQueue
