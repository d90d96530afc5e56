/- digest: What all interleavings of the netlink thread, the workers and the shutdown keep. -/

import KernelAv.Daemon.ScanQueue
import KernelAv.Lib.Run

set_option autoImplicit false
set_option relaxedAutoImplicit false

namespace KernelAv.Daemon.ScanQueueRuns

open KernelAv.Lib.CText
open KernelAv.Lib.Run
open KernelAv.Lib.LinkedLists
open KernelAv.Lib.Monitors
open KernelAv.Lib.Monitors.Monitor
open KernelAv.Kernel.Channel (ScanRequest)
open KernelAv.Daemon.Scan
open KernelAv.Daemon.ScanQueue

variable {n : Nat} {queue_max : Nat} {L : HashLibrary} {D : Avd}

/-- All that a step can do. -/
inductive Moved (queue_max : Nat) (L : HashLibrary) (D : Avd) (s : State n) :
    Action n → State n → Prop
  | receive {req : ScanRequest} (pc : s.producer = .idle) :
      Moved queue_max L D s (.receive req)
        { s with producer := .allocating req, received := s.received ++ [req] }
  | refuse {woken : Option (Thread n)} {req : ScanRequest} (pc : s.producer = .allocating req) :
      Moved queue_max L D s (.producer none woken)
        { s with producer := .idle, dropped := s.dropped ++ [req] }
  | allocate {woken : Option (Thread n)} {req : ScanRequest} {task : Nat}
      (pc : s.producer = .allocating req)
      (fresh : s.heap task = none) :
      Moved queue_max L D s (.producer (some task) woken) { s with
        heap := Function.update s.heap task (some ⟨none, scanTask req⟩)
        producer := .locking req task }
  | producer_acquire {malloc : Option Nat} {woken : Option (Thread n)} {req : ScanRequest}
      {task : Nat} {m : Monitor (Thread n) Cond}
      (pc : s.producer = .locking req task ∨ s.producer = .testing req task)
      (monitor : s.monitor.acquire .producer = some m) :
      Moved queue_max L D s (.producer malloc woken)
        { s with monitor := m, producer := .testing req task }
  | producer_wait {malloc : Option Nat} {woken : Option (Thread n)} {req : ScanRequest}
      {task : Nat} {m : Monitor (Thread n) Cond}
      (pc : s.producer = .testing req task) (full : queue_max ≤ s.queue_len)
      (running : s.shutting_down = false)
      (monitor : s.monitor.wait .producer .queue_not_full = some m) :
      Moved queue_max L D s (.producer malloc woken) { s with monitor := m }
  | discard {malloc : Option Nat} {woken : Option (Thread n)} {req : ScanRequest} {task : Nat}
      (pc : s.producer = .testing req task)
      (owner : s.monitor.owner = some .producer) (down : s.shutting_down = true) :
      Moved queue_max L D s (.producer malloc woken) { s with producer := .discarding req task }
  | enqueue {malloc : Option Nat} {woken : Option (Thread n)} {req : ScanRequest} {task : Nat}
      (pc : s.producer = .testing req task)
      (owner : s.monitor.owner = some .producer) (room : s.queue_len < queue_max)
      (running : s.shutting_down = false) :
      Moved queue_max L D s (.producer malloc woken) { s with
        heap := match s.queue_tail with
          | some tail => setNext s.heap tail task
          | none => s.heap
        queue_head := match s.queue_tail with
          | some _ => s.queue_head
          | none => some task
        queue_tail := some task
        queue_len := s.queue_len + 1
        producer := .signalling
        accepted := s.accepted ++ [req] }
  | producer_signal {malloc : Option Nat} {w : Option (Thread n)} {m : Monitor (Thread n) Cond}
      (pc : s.producer = .signalling)
      (monitor : s.monitor.signal .producer .queue_not_empty w = some m) :
      Moved queue_max L D s (.producer malloc w) { s with monitor := m, producer := .unlocking }
  | producer_unlock {malloc : Option Nat} {woken : Option (Thread n)} {m : Monitor
      (Thread n) Cond} (pc : s.producer = .unlocking)
      (monitor : s.monitor.release .producer = some m) :
      Moved queue_max L D s (.producer malloc woken) { s with monitor := m, producer := .idle }
  | discard_unlock {malloc : Option Nat} {woken : Option (Thread n)} {req : ScanRequest}
      {task : Nat} {m : Monitor (Thread n) Cond}
      (pc : s.producer = .discarding req task)
      (monitor : s.monitor.release .producer = some m) :
      Moved queue_max L D s (.producer malloc woken)
        { s with monitor := m, producer := .freeing req task }
  | discard_free {malloc : Option Nat} {woken : Option (Thread n)} {req : ScanRequest}
      {task : Nat} (pc : s.producer = .freeing req task) :
      Moved queue_max L D s (.producer malloc woken) { s with
        heap := Function.update s.heap task none
        producer := .idle
        dropped := s.dropped ++ [req] }
  | worker_acquire {io : ScanIo} {woken : Option (Thread n)} {i : Fin n} {m : Monitor
      (Thread n) Cond}
      (pc : s.worker i = .locking ∨ s.worker i = .testing)
      (monitor : s.monitor.acquire (.worker i) = some m) :
      Moved queue_max L D s (.worker i io woken)
        { s with monitor := m, worker := Function.update s.worker i .testing }
  | worker_wait {io : ScanIo} {woken : Option (Thread n)} {i : Fin n} {m : Monitor
      (Thread n) Cond} (pc : s.worker i = .testing)
      (empty : s.queue_head = none) (running : s.shutting_down = false)
      (monitor : s.monitor.wait (.worker i) .queue_not_empty = some m) :
      Moved queue_max L D s (.worker i io woken) { s with monitor := m }
  | leave {io : ScanIo} {woken : Option (Thread n)} {i : Fin n} (pc : s.worker i = .testing)
      (owner : s.monitor.owner = some (.worker i)) (empty : s.queue_head = none)
      (down : s.shutting_down = true) :
      Moved queue_max L D s (.worker i io woken)
        { s with worker := Function.update s.worker i .leaving }
  | dequeue {io : ScanIo} {woken : Option (Thread n)} {i : Fin n} {task : Nat} {t : scan_task}
      (pc : s.worker i = .testing)
      (owner : s.monitor.owner = some (.worker i)) (head : s.queue_head = some task)
      (node : s.heap task = some t) :
      Moved queue_max L D s (.worker i io woken) { s with
        queue_head := t.next
        queue_tail := if t.next = none then none else s.queue_tail
        queue_len := s.queue_len - 1
        worker := Function.update s.worker i (.signalling task)
        taken := s.taken ++ [(i, t.task)] }
  | worker_signal {io : ScanIo} {i : Fin n} {task : Nat} {w : Option (Thread n)} {m : Monitor
      (Thread n) Cond}
      (pc : s.worker i = .signalling task)
      (monitor : s.monitor.signal (.worker i) .queue_not_full w = some m) :
      Moved queue_max L D s (.worker i io w)
        { s with monitor := m, worker := Function.update s.worker i (.unlocking task) }
  | worker_unlock {io : ScanIo} {woken : Option (Thread n)} {i : Fin n} {task : Nat} {m : Monitor
      (Thread n) Cond}
      (pc : s.worker i = .unlocking task) (monitor : s.monitor.release (.worker i) = some m) :
      Moved queue_max L D s (.worker i io woken)
        { s with monitor := m, worker := Function.update s.worker i (.handling task) }
  | handle {woken : Option (Thread n)} {i : Fin n} {task : Nat} {t : scan_task} {io : ScanIo}
      (pc : s.worker i = .handling task) (node : s.heap task = some t) :
      Moved queue_max L D s (.worker i io woken) { s with
        worker := Function.update s.worker i (.freeing task)
        calls := s.calls ++ [(i, verdictCall L D io t.task)] }
  | worker_free {io : ScanIo} {woken : Option (Thread n)} {i : Fin n} {task : Nat}
      (pc : s.worker i = .freeing task) :
      Moved queue_max L D s (.worker i io woken) { s with
        heap := Function.update s.heap task none
        worker := Function.update s.worker i .locking }
  | exit {io : ScanIo} {woken : Option (Thread n)} {i : Fin n} {m : Monitor (Thread n) Cond}
      (pc : s.worker i = .leaving)
      (monitor : s.monitor.release (.worker i) = some m) :
      Moved queue_max L D s (.worker i io woken)
        { s with monitor := m, worker := Function.update s.worker i .exited }
  | main_acquire {m : Monitor (Thread n) Cond} (pc : s.main = .locking)
      (monitor : s.monitor.acquire .main = some m) :
      Moved queue_max L D s .main { s with monitor := m, main := .setting }
  | shut_down (pc : s.main = .setting) :
      Moved queue_max L D s .main { s with shutting_down := true, main := .broadcasting_not_empty }
  | broadcast_not_empty {m : Monitor (Thread n) Cond} (pc : s.main = .broadcasting_not_empty)
      (monitor : s.monitor.broadcast .main .queue_not_empty = some m) :
      Moved queue_max L D s .main { s with monitor := m, main := .broadcasting_not_full }
  | broadcast_not_full {m : Monitor (Thread n) Cond} (pc : s.main = .broadcasting_not_full)
      (monitor : s.monitor.broadcast .main .queue_not_full = some m) :
      Moved queue_max L D s .main { s with monitor := m, main := .unlocking }
  | main_unlock {m : Monitor (Thread n) Cond} (pc : s.main = .unlocking)
      (monitor : s.monitor.release .main = some m) :
      Moved queue_max L D s .main { s with monitor := m, main := .joining }
  | join (pc : s.main = .joining) (exits : ∀ i, s.worker i = .exited) :
      Moved queue_max L D s .main { s with main := .done }
  | wakeup {t : Thread n} {m : Monitor (Thread n) Cond} (monitor : s.monitor.wake t = some m) :
      Moved queue_max L D s (.wakeup t) { s with monitor := m }

section Inversion

variable {s s' : State n} {a : Action n}

private theorem moved_enqueue {malloc : Option Nat} {w : Option (Thread n)} {req : ScanRequest}
    {task : Nat} (hpc : s.producer = .testing req task)
    (howner : s.monitor.owner = some .producer) (h : enqueue queue_max s req task = some s') :
    Moved queue_max L D s (.producer malloc w) s' := by
  rw [enqueue] at h
  split at h
  · rename_i hfull
    obtain ⟨m, hm, rfl⟩ := Option.map_eq_some_iff.mp h
    exact .producer_wait hpc hfull.1 hfull.2 hm
  · rename_i hroom
    split at h
    · rename_i hdown
      obtain rfl := Option.some.inj h
      exact .discard hpc howner hdown
    · rename_i hrunning
      have hrun : s.shutting_down = false := Bool.eq_false_iff.mpr hrunning
      obtain rfl := Option.some.inj h
      exact .enqueue hpc howner (Nat.lt_of_not_le fun hle => hroom ⟨hle, hrun⟩) hrun

private theorem moved_producer {malloc : Option Nat} {w : Option (Thread n)}
    (h : producerStep queue_max s malloc w = some s') :
    Moved queue_max L D s (.producer malloc w) s' := by
  unfold producerStep at h
  split at h
  · cases h
  · rename_i req hpc
    split at h
    · obtain rfl := Option.some.inj h
      exact .refuse hpc
    · split at h
      · rename_i hfresh
        obtain rfl := Option.some.inj h
        exact .allocate hpc hfresh
      · cases h
  · rename_i req task hpc
    obtain ⟨m, hm, rfl⟩ := Option.map_eq_some_iff.mp h
    exact .producer_acquire (.inl hpc) hm
  · rename_i req task hpc
    split at h
    · rename_i howner
      exact moved_enqueue hpc howner h
    · obtain ⟨m, hm, rfl⟩ := Option.map_eq_some_iff.mp h
      have hmove : Moved queue_max L D s (.producer malloc w)
          { s with monitor := m, producer := .testing req task } :=
        .producer_acquire (.inr hpc) hm
      rwa [← hpc] at hmove
  · rename_i hpc
    obtain ⟨m, hm, rfl⟩ := Option.map_eq_some_iff.mp h
    exact .producer_signal hpc hm
  · rename_i hpc
    obtain ⟨m, hm, rfl⟩ := Option.map_eq_some_iff.mp h
    exact .producer_unlock hpc hm
  · rename_i req task hpc
    obtain ⟨m, hm, rfl⟩ := Option.map_eq_some_iff.mp h
    exact .discard_unlock hpc hm
  · rename_i req task hpc
    obtain rfl := Option.some.inj h
    exact .discard_free hpc

private theorem moved_dequeue {i : Fin n} {io : ScanIo} {w : Option (Thread n)}
    (hpc : s.worker i = .testing) (howner : s.monitor.owner = some (.worker i))
    (h : dequeue s i = some s') :
    Moved queue_max L D s (.worker i io w) s' := by
  unfold dequeue at h
  split at h
  · rename_i hempty
    split at h
    · rename_i hdown
      obtain rfl := Option.some.inj h
      exact .leave hpc howner hempty hdown
    · rename_i hrunning
      obtain ⟨m, hm, rfl⟩ := Option.map_eq_some_iff.mp h
      exact .worker_wait hpc hempty (Bool.eq_false_iff.mpr hrunning) hm
  · rename_i task hhead
    split at h
    · cases h
    · rename_i t hnode
      obtain rfl := Option.some.inj h
      exact .dequeue hpc howner hhead hnode

private theorem moved_worker {i : Fin n} {io : ScanIo} {w : Option (Thread n)}
    (h : workerStep L D s i io w = some s') : Moved queue_max L D s (.worker i io w) s' := by
  unfold workerStep at h
  split at h
  · rename_i hpc
    obtain ⟨m, hm, rfl⟩ := Option.map_eq_some_iff.mp h
    exact .worker_acquire (.inl hpc) hm
  · rename_i hpc
    split at h
    · rename_i howner
      exact moved_dequeue hpc howner h
    · obtain ⟨m, hm, rfl⟩ := Option.map_eq_some_iff.mp h
      have hmove : Moved queue_max L D s (.worker i io w)
          { s with monitor := m, worker := Function.update s.worker i .testing } :=
        .worker_acquire (.inr hpc) hm
      rwa [← hpc, Function.update_eq_self] at hmove
  · rename_i task hpc
    obtain ⟨m, hm, rfl⟩ := Option.map_eq_some_iff.mp h
    exact .worker_signal hpc hm
  · rename_i task hpc
    obtain ⟨m, hm, rfl⟩ := Option.map_eq_some_iff.mp h
    exact .worker_unlock hpc hm
  · rename_i task hpc
    split at h
    · cases h
    · rename_i t hnode
      obtain rfl := Option.some.inj h
      exact .handle hpc hnode
  · rename_i task hpc
    obtain rfl := Option.some.inj h
    exact .worker_free hpc
  · rename_i hpc
    obtain ⟨m, hm, rfl⟩ := Option.map_eq_some_iff.mp h
    exact .exit hpc hm
  · cases h

private theorem moved_main (h : mainStep s = some s') : Moved queue_max L D s .main s' := by
  unfold mainStep at h
  split at h
  · rename_i hpc
    obtain ⟨m, hm, rfl⟩ := Option.map_eq_some_iff.mp h
    exact .main_acquire hpc hm
  · rename_i hpc
    obtain rfl := Option.some.inj h
    exact .shut_down hpc
  · rename_i hpc
    obtain ⟨m, hm, rfl⟩ := Option.map_eq_some_iff.mp h
    exact .broadcast_not_empty hpc hm
  · rename_i hpc
    obtain ⟨m, hm, rfl⟩ := Option.map_eq_some_iff.mp h
    exact .broadcast_not_full hpc hm
  · rename_i hpc
    obtain ⟨m, hm, rfl⟩ := Option.map_eq_some_iff.mp h
    exact .main_unlock hpc hm
  · rename_i hpc
    split at h
    · rename_i hexits
      obtain rfl := Option.some.inj h
      exact .join hpc hexits
    · cases h
  · cases h

theorem moved_of_step {a : Action n} (h : step queue_max L D s a = some s') :
    Moved queue_max L D s a s' := by
  cases a with
  | receive req =>
    rw [step] at h
    split at h
    · rename_i hpc
      obtain rfl := Option.some.inj h
      exact .receive hpc
    · cases h
  | producer malloc woken => exact moved_producer h
  | worker i io woken => exact moved_worker h
  | main => exact moved_main h
  | wakeup t =>
    obtain ⟨m, hm, rfl⟩ := Option.map_eq_some_iff.mp h
    exact .wakeup hm

end Inversion

section Places

/-! Where each thread stands with the lock. -/

def producerPlace : ProducerPc → Place Cond
  | .testing _ _ => .loop .queue_not_full
  | .signalling => .locked
  | .unlocking => .locked
  | .discarding _ _ => .locked
  | _ => .out

def workerPlace : WorkerPc → Place Cond
  | .testing => .loop .queue_not_empty
  | .signalling _ => .locked
  | .unlocking _ => .locked
  | .leaving => .locked
  | _ => .out

def mainPlace : MainPc → Place Cond
  | .setting => .locked
  | .broadcasting_not_empty => .locked
  | .broadcasting_not_full => .locked
  | .unlocking => .locked
  | _ => .out

def place (p : ProducerPc) (w : Fin n → WorkerPc) (m : MainPc) : Thread n → Place Cond
  | .producer => producerPlace p
  | .worker i => workerPlace (w i)
  | .main => mainPlace m

/-- The lock, and where the program has its threads, agree. -/
def Placed (s : State n) : Prop := Standing s.monitor (place s.producer s.worker s.main)

variable {s s' : State n} {a : Action n} {p p' : ProducerPc} {w : Fin n → WorkerPc} {m m' : MainPc}

private theorem place_producer (p p' : ProducerPc) (w : Fin n → WorkerPc) (m : MainPc) :
    Function.update (place p w m) .producer (producerPlace p') = place p' w m := by
  funext u
  cases u <;> simp [place]

private theorem place_worker (p : ProducerPc) (w : Fin n → WorkerPc) (m : MainPc) (i : Fin n)
    (pc : WorkerPc) : Function.update (place p w m) (.worker i) (workerPlace pc) =
      place p (Function.update w i pc) m := by
  funext u
  cases u with
  | producer => simp [place]
  | main => simp [place]
  | worker j =>
    by_cases hj : j = i
    · subst hj
      simp [place]
    · simp [place, hj]

private theorem place_main (p : ProducerPc) (w : Fin n → WorkerPc) (m m' : MainPc) :
    Function.update (place p w m) .main (mainPlace m') = place p w m' := by
  funext u
  cases u <;> simp [place]

private theorem place_producer_same (h : producerPlace p' = producerPlace p) :
    place p' w m = place p w m := by
  rw [← place_producer p p', h]
  exact Function.update_eq_self _ _

private theorem place_worker_same {i : Fin n} {pc : WorkerPc}
    (h : workerPlace pc = workerPlace (w i)) :
    place p (Function.update w i pc) m = place p w m := by
  rw [← place_worker, h]
  exact Function.update_eq_self _ _

private theorem place_main_same (h : mainPlace m' = mainPlace m) :
    place p w m' = place p w m := by
  rw [← place_main p w m m', h]
  exact Function.update_eq_self _ _

private theorem standing_congr {mon : Monitor (Thread n) Cond} {pl pl' : Thread n → Place Cond}
    (h : Standing mon pl) (heq : pl' = pl) : Standing mon pl' :=
  heq ▸ h

private theorem placed_boot : Placed (State.boot n) :=
  ⟨ok_free, fun t => by cases t <;> rfl⟩

/-- Under the lock or outside, each thread is where its statement says. -/
private theorem placed_moved (h : Placed s) (hmove : Moved queue_max L D s a s') : Placed s' := by
  cases hmove with
  | receive pc => exact standing_congr h (place_producer_same (by rw [pc]; rfl))
  | refuse pc => exact standing_congr h (place_producer_same (by rw [pc]; rfl))
  | allocate pc fresh => exact standing_congr h (place_producer_same (by rw [pc]; rfl))
  | producer_acquire pc monitor =>
    exact standing_congr (h.acquire monitor (p := .loop _) (.inl rfl)) (place_producer _ _ _ _).symm
  | producer_wait pc full running monitor => exact h.wait (by rw [place, pc]; rfl) monitor
  | discard pc owner down =>
    exact standing_congr (h.move owner (p := .locked) rfl) (place_producer _ _ _ _).symm
  | enqueue pc owner room running =>
    exact standing_congr (h.move owner (p := .locked) rfl) (place_producer _ _ _ _).symm
  | producer_signal pc monitor =>
    exact standing_congr (h.signal monitor) (place_producer_same (by rw [pc]; rfl))
  | producer_unlock pc monitor =>
    exact standing_congr (h.release monitor) (place_producer _ _ _ _).symm
  | discard_unlock pc monitor =>
    exact standing_congr (h.release monitor) (place_producer _ _ _ _).symm
  | discard_free pc => exact standing_congr h (place_producer_same (by rw [pc]; rfl))
  | worker_acquire pc monitor =>
    exact standing_congr (h.acquire monitor (p := .loop _) (.inl rfl)) (place_worker _ _ _ _ _).symm
  | worker_wait pc empty running monitor => exact h.wait (by rw [place, pc]; rfl) monitor
  | leave pc owner empty down =>
    exact standing_congr (h.move owner (p := .locked) rfl) (place_worker _ _ _ _ _).symm
  | dequeue pc owner head node =>
    exact standing_congr (h.move owner (p := .locked) rfl) (place_worker _ _ _ _ _).symm
  | worker_signal pc monitor =>
    exact standing_congr (h.signal monitor) (place_worker_same (by rw [pc]; rfl))
  | worker_unlock pc monitor =>
    exact standing_congr (h.release monitor) (place_worker _ _ _ _ _).symm
  | handle pc node => exact standing_congr h (place_worker_same (by rw [pc]; rfl))
  | worker_free pc => exact standing_congr h (place_worker_same (by rw [pc]; rfl))
  | exit pc monitor => exact standing_congr (h.release monitor) (place_worker _ _ _ _ _).symm
  | main_acquire pc monitor =>
    exact standing_congr (h.acquire monitor (p := .locked) rfl) (place_main _ _ _ _).symm
  | shut_down pc => exact standing_congr h (place_main_same (by rw [pc]; rfl))
  | broadcast_not_empty pc monitor =>
    exact standing_congr (h.broadcast monitor) (place_main_same (by rw [pc]; rfl))
  | broadcast_not_full pc monitor =>
    exact standing_congr (h.broadcast monitor) (place_main_same (by rw [pc]; rfl))
  | main_unlock pc monitor => exact standing_congr (h.release monitor) (place_main _ _ _ _).symm
  | join pc exits => exact standing_congr h (place_main_same (by rw [pc]; rfl))
  | wakeup monitor => exact h.wake monitor

end Places

section Nodes

/-! The list in the heap, and which thread has which other node. -/

def nextOf (heap : Nat → Option scan_task) (a : Nat) : Option Nat := (heap a).bind scan_task.next

def tasksAt (heap : Nat → Option scan_task) (l : List Nat) : List ScanTask :=
  l.filterMap fun a => (heap a).map scan_task.task

def producerNode : ProducerPc → Option (ScanRequest × Nat)
  | .locking req task => some (req, task)
  | .testing req task => some (req, task)
  | .discarding req task => some (req, task)
  | .freeing req task => some (req, task)
  | _ => none

def workerNode : WorkerPc → Option Nat
  | .signalling task => some task
  | .unlocking task => some task
  | .handling task => some task
  | .freeing task => some task
  | _ => none

/-- The task that a worker took and did not handle yet. -/
def inHand : WorkerPc → Option Nat
  | .signalling task => some task
  | .unlocking task => some task
  | .handling task => some task
  | _ => none

def takenBy (taken : List (Fin n × ScanTask)) (i : Fin n) : List Nat :=
  (taken.filter fun x => x.1 = i).map fun x => x.2.reqid

def callsBy (calls : List (Fin n × VerdictCall)) (i : Fin n) : List Nat :=
  (calls.filter fun x => x.1 = i).map fun x => x.2.reqid

def pending (heap : Nat → Option scan_task) (hand : Option Nat) : List Nat :=
  ((hand.bind heap).map fun t => t.task.reqid).toList

/-- The queue of a state is a list of nodes in its heap. -/
structure Stored (queue_max : Nat) (s : State n) (l : List Nat) : Prop where
  linked : Linked (nextOf s.heap) s.queue_head l
  tail : s.queue_tail = l.getLast?
  len : s.queue_len = l.length
  bound : l.length ≤ queue_max
  live : ∀ a ∈ l, s.heap a ≠ none

/-- A node that a thread has is its own. -/
structure Owned (s : State n) (l : List Nat) : Prop where
  producer : ∀ req a, producerNode s.producer = some (req, a) →
    s.heap a = some ⟨none, scanTask req⟩ ∧ a ∉ l ∧ ∀ i, workerNode (s.worker i) ≠ some a
  worker : ∀ i a, workerNode (s.worker i) = some a → s.heap a ≠ none ∧ a ∉ l
  apart : ∀ i j a, workerNode (s.worker i) = some a → workerNode (s.worker j) = some a → i = j

structure Recorded (s : State n) (l : List Nat) : Prop where
  fifo : s.accepted.map scanTask = s.taken.map Prod.snd ++ tasksAt s.heap l
  handled : ∀ i, takenBy s.taken i = callsBy s.calls i ++ pending s.heap (inHand (s.worker i))

def Data (queue_max : Nat) (s : State n) : Prop :=
  ∃ l, Stored queue_max s l ∧ Owned s l ∧ Recorded s l

variable {s s' : State n} {a : Action n}

private theorem data_boot : Data queue_max (State.boot n) :=
  ⟨[], ⟨.nil, rfl, rfl, Nat.zero_le _, nofun⟩, ⟨nofun, nofun, nofun⟩, ⟨rfl, fun _ => rfl⟩⟩

/-- Only where the nodes are matters of the threads. -/
private theorem data_pcs {mon : Monitor (Thread n) Cond} {down : Bool} {p : ProducerPc}
    {w : Fin n → WorkerPc} {m : MainPc} {rec drop : List ScanRequest} (h : Data queue_max s)
    (hp : producerNode p = producerNode s.producer)
    (hw : ∀ i, workerNode (w i) = workerNode (s.worker i))
    (hh : ∀ i, inHand (w i) = inHand (s.worker i)) :
    Data queue_max { s with
      monitor := mon, shutting_down := down, producer := p, worker := w, main := m,
      received := rec, dropped := drop } := by
  obtain ⟨l, hs, ho, hr⟩ := h
  refine ⟨l, ⟨hs.linked, hs.tail, hs.len, hs.bound, hs.live⟩, ⟨?_, ?_, ?_⟩, hr.fifo, fun i => ?_⟩
  · intro req a ha
    obtain ⟨hheap, hout, hne⟩ := ho.producer req a (hp ▸ ha)
    exact ⟨hheap, hout, fun i => by rw [hw i]; exact hne i⟩
  · intro i a ha
    exact ho.worker i a (hw i ▸ ha)
  · intro i j a hi hj
    exact ho.apart i j a (hw i ▸ hi) (hw j ▸ hj)
  · rw [hr.handled i]
    exact congrArg (fun x => callsBy s.calls i ++ pending s.heap x) (hh i).symm

private theorem update_same {α β : Type} [DecidableEq α] {γ : Type} (f : β → γ) {w : α → β} {i : α}
    {x : β} (h : f x = f (w i)) (j : α) : f (Function.update w i x j) = f (w j) := by
  by_cases hj : j = i
  · subst hj
    rw [Function.update_self, h]
  · rw [Function.update_of_ne hj]

section Heap

variable {heap heap' : Nat → Option scan_task} {l : List Nat}

private theorem tasksAt_congr (h : ∀ a ∈ l, heap' a = heap a) :
    tasksAt heap' l = tasksAt heap l :=
  List.filterMap_congr fun a ha => by rw [h a ha]

private theorem linked_congr {p : Option Nat} (hl : Linked (nextOf heap) p l)
    (h : ∀ a ∈ l, heap' a = heap a) : Linked (nextOf heap') p l :=
  hl.congr fun a ha => by rw [nextOf, nextOf, h a ha]

private theorem pending_congr {hand : Option Nat} (h : ∀ a, hand = some a → heap' a = heap a) :
    pending heap' hand = pending heap hand := by
  cases hand with
  | none => rfl
  | some a => rw [pending, pending, Option.bind_some, Option.bind_some, h a rfl]

private theorem workerNode_of_inHand {pc : WorkerPc} {a : Nat} (h : inHand pc = some a) :
    workerNode pc = some a := by
  cases pc <;> first | exact h | cases h

/-- A node that is in no list and of no worker may be changed. -/
private theorem stored_update {b : Nat} {x : Option scan_task} (hs : Stored queue_max s l)
    (hb : b ∉ l) : Stored queue_max { s with heap := Function.update s.heap b x } l := by
  have heq : ∀ a ∈ l, Function.update s.heap b x a = s.heap a := by
    intro a ha
    have hne : a ≠ b := fun hab => hb (hab ▸ ha)
    exact Function.update_of_ne hne _ _
  refine ⟨linked_congr hs.linked heq, hs.tail, hs.len, hs.bound, fun a ha => ?_⟩
  show Function.update s.heap b x a ≠ none
  rw [heq a ha]
  exact hs.live a ha

private theorem recorded_update {b : Nat} {x : Option scan_task} (hr : Recorded s l) (hb : b ∉ l)
    (hhand : ∀ i, inHand (s.worker i) ≠ some b) :
    Recorded { s with heap := Function.update s.heap b x } l := by
  refine ⟨hr.fifo.trans ?_, fun i => (hr.handled i).trans ?_⟩
  · refine congrArg (s.taken.map Prod.snd ++ ·) (tasksAt_congr fun a ha => ?_).symm
    have hne : a ≠ b := fun hab => hb (hab ▸ ha)
    exact Function.update_of_ne hne _ _
  · refine congrArg (callsBy s.calls i ++ ·) (pending_congr fun a ha => ?_).symm
    have hne : a ≠ b := fun hab => hhand i (hab ▸ ha)
    exact Function.update_of_ne hne _ _

end Heap

private theorem data_allocate {req : ScanRequest} {task : Nat} (h : Data queue_max s)
    (hfresh : s.heap task = none) :
    Data queue_max { s with
      heap := Function.update s.heap task (some ⟨none, scanTask req⟩)
      producer := .locking req task } := by
  obtain ⟨l, hs, ho, hr⟩ := h
  have hout : task ∉ l := fun hmem => hs.live task hmem hfresh
  have hnode : ∀ i, workerNode (s.worker i) ≠ some task := fun i hi =>
    (ho.worker i task hi).1 hfresh
  have hs' := stored_update (x := some ⟨none, scanTask req⟩) hs hout
  have hr' := recorded_update (x := some ⟨none, scanTask req⟩) hr hout fun i hi =>
    hnode i (workerNode_of_inHand hi)
  refine ⟨l, ⟨hs'.linked, hs'.tail, hs'.len, hs'.bound, hs'.live⟩, ⟨?_, ?_, ho.apart⟩,
    ⟨hr'.fifo, hr'.handled⟩⟩
  · intro r a ha
    obtain ⟨rfl, rfl⟩ := Prod.mk.inj (Option.some.inj ha)
    exact ⟨Function.update_self _ _ _, hout, hnode⟩
  · intro i a ha
    have hne : a ≠ task := fun hat => hnode i (hat ▸ ha)
    refine ⟨?_, (ho.worker i a ha).2⟩
    show Function.update s.heap task _ a ≠ none
    rw [Function.update_of_ne hne]
    exact (ho.worker i a ha).1

private theorem data_discard_free {req : ScanRequest} {task : Nat} (h : Data queue_max s)
    (hpc : s.producer = .freeing req task) :
    Data queue_max { s with
      heap := Function.update s.heap task none
      producer := .idle
      dropped := s.dropped ++ [req] } := by
  obtain ⟨l, hs, ho, hr⟩ := h
  obtain ⟨-, hout, hnode⟩ := ho.producer req task (by rw [hpc]; rfl)
  have hs' := stored_update (x := none) hs hout
  have hr' := recorded_update (x := none) hr hout fun i hi => hnode i (workerNode_of_inHand hi)
  refine ⟨l, ⟨hs'.linked, hs'.tail, hs'.len, hs'.bound, hs'.live⟩, ⟨nofun, ?_, ho.apart⟩,
    ⟨hr'.fifo, hr'.handled⟩⟩
  intro i a ha
  have hne : a ≠ task := fun hat => hnode i (hat ▸ ha)
  refine ⟨?_, (ho.worker i a ha).2⟩
  show Function.update s.heap task _ a ≠ none
  rw [Function.update_of_ne hne]
  exact (ho.worker i a ha).1

private theorem data_worker_free {i : Fin n} {task : Nat} (h : Data queue_max s)
    (hpc : s.worker i = .freeing task) :
    Data queue_max { s with
      heap := Function.update s.heap task none
      worker := Function.update s.worker i .locking } := by
  obtain ⟨l, hs, ho, hr⟩ := h
  have hown : workerNode (s.worker i) = some task := by rw [hpc]; rfl
  obtain ⟨hlive, hout⟩ := ho.worker i task hown
  have hother : ∀ j a, workerNode (Function.update s.worker i .locking j) = some a →
      workerNode (s.worker j) = some a ∧ a ≠ task := by
    intro j a hj
    by_cases hji : j = i
    · subst hji
      simp [workerNode] at hj
    · rw [Function.update_of_ne hji] at hj
      exact ⟨hj, fun hat => hji (ho.apart j i task (hat ▸ hj) hown)⟩
  have hhand : ∀ j, inHand (s.worker j) ≠ some task := by
    intro j hj
    obtain rfl := ho.apart j i task (workerNode_of_inHand hj) hown
    rw [hpc] at hj
    cases hj
  have hs' := stored_update (x := none) hs hout
  have hr' := recorded_update (x := none) hr hout hhand
  refine ⟨l, ⟨hs'.linked, hs'.tail, hs'.len, hs'.bound, hs'.live⟩, ⟨?_, ?_, ?_⟩,
    ⟨hr'.fifo, fun j => ?_⟩⟩
  · intro req a ha
    obtain ⟨hheap, houtp, hnode⟩ := ho.producer req a ha
    have hne : a ≠ task := fun hat => hnode i (hat ▸ hown)
    refine ⟨?_, houtp, fun j hj => hnode j (hother j a hj).1⟩
    show Function.update s.heap task _ a = _
    rw [Function.update_of_ne hne]
    exact hheap
  · intro j a ha
    obtain ⟨hj, hne⟩ := hother j a ha
    refine ⟨?_, (ho.worker j a hj).2⟩
    show Function.update s.heap task _ a ≠ none
    rw [Function.update_of_ne hne]
    exact (ho.worker j a hj).1
  · intro j k a hj hk
    exact ho.apart j k a (hother j a hj).1 (hother k a hk).1
  · have hsame : inHand (Function.update s.worker i .locking j) = inHand (s.worker j) :=
      update_same inHand (by rw [hpc]; rfl) j
    refine (hr'.handled j).trans ?_
    exact congrArg (fun x => callsBy s.calls j ++ pending (Function.update s.heap task none) x)
      hsame.symm

private theorem setNext_of_ne {heap : Nat → Option scan_task} {tail task a : Nat} (h : a ≠ tail) :
    setNext heap tail task a = heap a :=
  Function.update_of_ne h _ _

private theorem nextOf_setNext {heap : Nat → Option scan_task} {tail task : Nat}
    (hlive : heap tail ≠ none) :
    nextOf (setNext heap tail task) = Function.update (nextOf heap) tail (some task) := by
  obtain ⟨t, ht⟩ := Option.ne_none_iff_exists'.mp hlive
  funext a
  by_cases ha : a = tail
  · subst ha
    simp [nextOf, setNext, ht]
  · rw [Function.update_of_ne ha, nextOf, setNext_of_ne ha, nextOf]

private theorem task_setNext {heap : Nat → Option scan_task} {tail task a : Nat} :
    (setNext heap tail task a).map scan_task.task = (heap a).map scan_task.task := by
  by_cases ha : a = tail
  · subst ha
    rw [setNext, Function.update_self, Option.map_map]
    rfl
  · rw [setNext_of_ne ha]

/-- The heap and the pointers after a node is put behind the last one. -/
private theorem enqueued {req : ScanRequest} {task : Nat} {l : List Nat}
    (hs : Stored queue_max s l) (hheap : s.heap task = some ⟨none, scanTask req⟩)
    (hout : task ∉ l) :
    let heap := match s.queue_tail with
      | some tail => setNext s.heap tail task
      | none => s.heap
    let head := match s.queue_tail with
      | some _ => s.queue_head
      | none => some task
    Linked (nextOf heap) head (l ++ [task]) ∧ (∀ a, a ∉ l → heap a = s.heap a) ∧
      ∀ a, (heap a).map scan_task.task = (s.heap a).map scan_task.task := by
  have hnext : nextOf s.heap task = none := by rw [nextOf, hheap]; rfl
  cases htail : s.queue_tail with
  | none =>
    have hl : l = [] := List.getLast?_eq_none_iff.mp (hs.tail.symm.trans htail)
    subst hl
    refine ⟨.cons ?_, fun _ _ => rfl, fun _ => rfl⟩
    rw [hnext]
    exact .nil
  | some tail =>
    have hlast : l.getLast? = some tail := hs.tail.symm.trans htail
    have hmem : tail ∈ l := List.mem_of_getLast? hlast
    refine ⟨?_, fun a ha => setNext_of_ne fun hat => ha (hat ▸ hmem), fun a => task_setNext⟩
    dsimp only
    rw [nextOf_setNext (hs.live tail hmem)]
    exact hs.linked.append hlast hout hnext

private theorem data_enqueue {req : ScanRequest} {task : Nat} (h : Data queue_max s)
    (hpc : s.producer = .testing req task) (hroom : s.queue_len < queue_max) :
    Data queue_max { s with
      heap := match s.queue_tail with
        | some tail => setNext s.heap tail task
        | none => s.heap
      queue_head := match s.queue_tail with
        | some _ => s.queue_head
        | none => some task
      queue_tail := some task
      queue_len := s.queue_len + 1
      producer := .signalling
      accepted := s.accepted ++ [req] } := by
  obtain ⟨l, hs, ho, hr⟩ := h
  obtain ⟨hheap, hout, hnode⟩ := ho.producer req task (by rw [hpc]; rfl)
  obtain ⟨hlinked, hother, htask⟩ := enqueued hs hheap hout
  have hlen := hs.len
  refine ⟨l ++ [task], ⟨hlinked, ?_, ?_, ?_, fun a ha => ?_⟩, ⟨nofun, fun i a ha => ?_, ho.apart⟩,
    ⟨?_, fun i => ?_⟩⟩
  · rw [List.getLast?_append_cons, List.getLast?_singleton]
  · rw [List.length_append, ← hlen]
    rfl
  · rw [List.length_append, ← hlen]
    exact hroom
  · intro hnone
    have hdead : s.heap a = none := Option.map_eq_none_iff.mp
      ((htask a).symm.trans (congrArg (Option.map scan_task.task) hnone))
    rcases List.mem_append.mp ha with hmem | hmem
    · exact hs.live a hmem hdead
    · rw [List.mem_singleton.mp hmem, hheap] at hdead
      cases hdead
  · obtain ⟨hlive, houtw⟩ := ho.worker i a ha
    refine ⟨?_, fun hmem => ?_⟩
    · exact fun hnone => hlive ((hother a houtw).symm.trans hnone)
    · rcases List.mem_append.mp hmem with hmem | hmem
      · exact houtw hmem
      · exact hnode i (List.mem_singleton.mp hmem ▸ ha)
  · have hsame : tasksAt (match s.queue_tail with
        | some tail => setNext s.heap tail task
        | none => s.heap) (l ++ [task]) = tasksAt s.heap (l ++ [task]) :=
      List.filterMap_congr fun a _ => htask a
    have hone : tasksAt s.heap [task] = [scanTask req] := by
      rw [tasksAt, List.filterMap_cons_some (by rw [hheap]; rfl), List.filterMap_nil]
    show (s.accepted ++ [req]).map scanTask = s.taken.map Prod.snd ++ tasksAt _ (l ++ [task])
    rw [hsame, tasksAt, List.filterMap_append, ← tasksAt, ← tasksAt, hone, List.map_append, hr.fifo,
      List.append_assoc]
    rfl
  · refine (hr.handled i).trans
      (congrArg (callsBy s.calls i ++ ·) (pending_congr fun a ha => ?_).symm)
    exact hother a (ho.worker i a (workerNode_of_inHand ha)).2

private theorem filter_append_self {β : Type} (l : List (Fin n × β)) (i : Fin n) (b : β) :
    (l ++ [(i, b)]).filter (fun x => decide (x.1 = i)) =
      l.filter (fun x => decide (x.1 = i)) ++ [(i, b)] := by
  simp

private theorem filter_append_other {β : Type} (l : List (Fin n × β)) {i j : Fin n} (h : j ≠ i)
    (b : β) : (l ++ [(i, b)]).filter (fun x => decide (x.1 = j)) =
      l.filter (fun x => decide (x.1 = j)) := by
  simp [Ne.symm h]

private theorem data_dequeue {i : Fin n} {task : Nat} {t : scan_task} (h : Data queue_max s)
    (hpc : s.worker i = .testing) (hhead : s.queue_head = some task)
    (hheap : s.heap task = some t) :
    Data queue_max { s with
      queue_head := t.next
      queue_tail := if t.next = none then none else s.queue_tail
      queue_len := s.queue_len - 1
      worker := Function.update s.worker i (.signalling task)
      taken := s.taken ++ [(i, t.task)] } := by
  obtain ⟨l, hs, ho, hr⟩ := h
  obtain ⟨rest, rfl, hlinked⟩ := (hhead ▸ hs.linked).pop
  have hnext : nextOf s.heap task = t.next := by rw [nextOf, hheap]; rfl
  rw [hnext] at hlinked
  obtain ⟨hfresh, -⟩ := List.nodup_cons.mp hs.linked.nodup
  have hnode : ∀ j a, workerNode (Function.update s.worker i (.signalling task) j) = some a →
      j = i ∧ a = task ∨ j ≠ i ∧ workerNode (s.worker j) = some a ∧ a ≠ task := by
    intro j a hj
    by_cases hji : j = i
    · subst hji
      rw [Function.update_self] at hj
      exact .inl ⟨rfl, (Option.some.inj hj).symm⟩
    · rw [Function.update_of_ne hji] at hj
      refine .inr ⟨hji, hj, fun hat => (ho.worker j a hj).2 (hat ▸ List.mem_cons_self)⟩
  refine ⟨rest, ⟨hlinked, ?_, ?_, ?_, fun a ha => ?_⟩, ⟨fun req a ha => ?_, fun j a ha => ?_, ?_⟩,
    ⟨?_, fun j => ?_⟩⟩
  · cases rest with
    | nil => rw [hlinked.head_eq]; rfl
    | cons b rest =>
      rw [hlinked.head_eq, List.head?_cons, if_neg nofun, hs.tail, List.getLast?_cons_cons]
  · show s.queue_len - 1 = rest.length
    rw [hs.len]
    rfl
  · have hbound := hs.bound
    rw [List.length_cons] at hbound
    omega
  · exact hs.live a (List.mem_cons_of_mem task ha)
  · obtain ⟨hheapa, houta, hnodea⟩ := ho.producer req a ha
    refine ⟨hheapa, fun hmem => houta (List.mem_cons_of_mem task hmem), fun j hj => ?_⟩
    rcases hnode j a hj with ⟨-, rfl⟩ | ⟨-, hj, -⟩
    · exact houta List.mem_cons_self
    · exact hnodea j hj
  · rcases hnode j a ha with ⟨-, rfl⟩ | ⟨-, hj, -⟩
    · exact ⟨hs.live a List.mem_cons_self, hfresh⟩
    · exact ⟨(ho.worker j a hj).1, fun hmem =>
        (ho.worker j a hj).2 (List.mem_cons_of_mem task hmem)⟩
  · intro j k a hj hk
    rcases hnode j a hj with ⟨rfl, rfl⟩ | ⟨-, hj, hja⟩ <;>
      rcases hnode k _ hk with ⟨rfl, hka⟩ | ⟨-, hk, hka⟩
    · rfl
    · exact absurd rfl hka
    · exact absurd hka hja
    · exact ho.apart j k a hj hk
  · have hone : tasksAt s.heap (task :: rest) = t.task :: tasksAt s.heap rest := by
      rw [tasksAt, List.filterMap_cons_some (by rw [hheap]; rfl), tasksAt]
    refine hr.fifo.trans ?_
    rw [hone, List.map_append, List.append_assoc]
    rfl
  · have hj := hr.handled j
    by_cases hji : j = i
    · subst hji
      rw [hpc] at hj
      show takenBy (s.taken ++ [(j, t.task)]) j =
        callsBy s.calls j ++ pending s.heap (inHand (Function.update s.worker j _ j))
      rw [takenBy, filter_append_self, List.map_append, ← takenBy, hj, Function.update_self]
      simp [pending, inHand, hheap]
    · show takenBy (s.taken ++ [(i, t.task)]) j =
        callsBy s.calls j ++ pending s.heap (inHand (Function.update s.worker i _ j))
      rw [takenBy, filter_append_other _ hji, ← takenBy, hj, Function.update_of_ne hji]

private theorem data_handle {i : Fin n} {task : Nat} {t : scan_task} {io : ScanIo}
    (h : Data queue_max s) (hpc : s.worker i = .handling task) (hheap : s.heap task = some t) :
    Data queue_max { s with
      worker := Function.update s.worker i (.freeing task)
      calls := s.calls ++ [(i, verdictCall L D io t.task)] } := by
  obtain ⟨l, hs, ho, hr⟩ := h
  have hnode : ∀ j, workerNode (Function.update s.worker i (.freeing task) j) =
      workerNode (s.worker j) := update_same workerNode (by rw [hpc]; rfl)
  refine ⟨l, ⟨hs.linked, hs.tail, hs.len, hs.bound, hs.live⟩, ⟨?_, ?_, ?_⟩, hr.fifo,
    fun j => ?_⟩
  · intro req a ha
    obtain ⟨hheapa, houta, hnodea⟩ := ho.producer req a ha
    exact ⟨hheapa, houta, fun j hj => hnodea j (hnode j ▸ hj)⟩
  · exact fun j a ha => ho.worker j a (hnode j ▸ ha)
  · exact fun j k a hj hk => ho.apart j k a (hnode j ▸ hj) (hnode k ▸ hk)
  · have hj := hr.handled j
    by_cases hji : j = i
    · subst hji
      rw [hpc] at hj
      show takenBy s.taken j = callsBy (s.calls ++ [(j, verdictCall L D io t.task)]) j ++
        pending s.heap (inHand (Function.update s.worker j _ j))
      rw [callsBy, filter_append_self, List.map_append, ← callsBy, hj, Function.update_self]
      simp [pending, inHand, hheap, verdictCall_reqid]
    · show takenBy s.taken j = callsBy (s.calls ++ [(i, verdictCall L D io t.task)]) j ++
        pending s.heap (inHand (Function.update s.worker i _ j))
      rw [callsBy, filter_append_other _ hji, ← callsBy, hj, Function.update_of_ne hji]

theorem data_moved (h : Data queue_max s) (hmove : Moved queue_max L D s a s') :
    Data queue_max s' := by
  cases hmove with
  | receive pc => exact data_pcs h (by rw [pc]; rfl) (fun _ => rfl) fun _ => rfl
  | refuse pc => exact data_pcs h (by rw [pc]; rfl) (fun _ => rfl) fun _ => rfl
  | allocate pc fresh => exact data_allocate h fresh
  | producer_acquire pc monitor =>
    refine data_pcs h ?_ (fun _ => rfl) fun _ => rfl
    rcases pc with pc | pc
    · rw [pc]
      rfl
    · rw [pc]
  | producer_wait pc full running monitor => exact data_pcs h rfl (fun _ => rfl) fun _ => rfl
  | discard pc owner down => exact data_pcs h (by rw [pc]; rfl) (fun _ => rfl) fun _ => rfl
  | enqueue pc owner room running => exact data_enqueue h pc room
  | producer_signal pc monitor => exact data_pcs h (by rw [pc]; rfl) (fun _ => rfl) fun _ => rfl
  | producer_unlock pc monitor => exact data_pcs h (by rw [pc]; rfl) (fun _ => rfl) fun _ => rfl
  | discard_unlock pc monitor => exact data_pcs h (by rw [pc]; rfl) (fun _ => rfl) fun _ => rfl
  | discard_free pc => exact data_discard_free h pc
  | worker_acquire pc monitor =>
    refine data_pcs h rfl (update_same workerNode ?_) (update_same inHand ?_) <;>
      rcases pc with pc | pc <;> rw [pc] <;> rfl
  | worker_wait pc empty running monitor => exact data_pcs h rfl (fun _ => rfl) fun _ => rfl
  | leave pc owner empty down =>
    exact data_pcs h rfl (update_same workerNode (by rw [pc]; rfl))
      (update_same inHand (by rw [pc]; rfl))
  | dequeue pc owner head node => exact data_dequeue h pc head node
  | worker_signal pc monitor =>
    exact data_pcs h rfl (update_same workerNode (by rw [pc]; rfl))
      (update_same inHand (by rw [pc]; rfl))
  | worker_unlock pc monitor =>
    exact data_pcs h rfl (update_same workerNode (by rw [pc]; rfl))
      (update_same inHand (by rw [pc]; rfl))
  | handle pc node => exact data_handle h pc node
  | worker_free pc => exact data_worker_free h pc
  | exit pc monitor =>
    exact data_pcs h rfl (update_same workerNode (by rw [pc]; rfl))
      (update_same inHand (by rw [pc]; rfl))
  | main_acquire pc monitor => exact data_pcs h rfl (fun _ => rfl) fun _ => rfl
  | shut_down pc => exact data_pcs h rfl (fun _ => rfl) fun _ => rfl
  | broadcast_not_empty pc monitor => exact data_pcs h rfl (fun _ => rfl) fun _ => rfl
  | broadcast_not_full pc monitor => exact data_pcs h rfl (fun _ => rfl) fun _ => rfl
  | main_unlock pc monitor => exact data_pcs h rfl (fun _ => rfl) fun _ => rfl
  | join pc exits => exact data_pcs h rfl (fun _ => rfl) fun _ => rfl
  | wakeup monitor => exact data_pcs h rfl (fun _ => rfl) fun _ => rfl

end Nodes

section Flow

/-! The requests on their way, and what only happens once `shutting_down` is set. -/

/-- The request that the netlink thread is busy with. -/
def current : ProducerPc → List ScanRequest
  | .allocating req => [req]
  | .locking req _ => [req]
  | .testing req _ => [req]
  | .discarding req _ => [req]
  | .freeing req _ => [req]
  | _ => []

def dropping : ProducerPc → Bool
  | .discarding _ _ => true
  | .freeing _ _ => true
  | _ => false

def gone : WorkerPc → Bool
  | .leaving => true
  | .exited => true
  | _ => false

structure Flow (s : State n) : Prop where
  kept : ∀ r, s.received.count r =
    s.accepted.count r + s.dropped.count r + (current s.producer).count r
  dropping : dropping s.producer = true → s.shutting_down = true
  gone : ∀ i, gone (s.worker i) = true → s.shutting_down = true ∧ s.queue_head = none

variable {s s' : State n} {a : Action n}

private theorem flow_boot : Flow (State.boot n) :=
  ⟨fun _ => rfl, nofun, nofun⟩

private theorem flow_producer {mon : Monitor (Thread n) Cond} {heap : Nat → Option scan_task}
    {p : ProducerPc} {rec drop : List ScanRequest} (h : Flow s)
    (hp : dropping p = true → s.shutting_down = true)
    (hcount : ∀ r, rec.count r = s.accepted.count r + drop.count r + (current p).count r) :
    Flow { s with monitor := mon, heap := heap, producer := p, received := rec, dropped := drop } :=
  ⟨hcount, hp, h.gone⟩

private theorem gone_update {i : Fin n} {pc : WorkerPc} {w : Fin n → WorkerPc} {q : Prop}
    (h : ∀ j, gone (w j) = true → q) (hpc : gone pc = true → q) (j : Fin n)
    (hj : gone (Function.update w i pc j) = true) : q := by
  by_cases hji : j = i
  · subst hji
    rw [Function.update_self] at hj
    exact hpc hj
  · rw [Function.update_of_ne hji] at hj
    exact h j hj

theorem flow_moved (h : Flow s) (hmove : Moved queue_max L D s a s') : Flow s' := by
  cases hmove with
  | receive pc =>
    refine flow_producer h nofun fun r => ?_
    have hr := h.kept r
    rw [pc] at hr
    rw [List.count_append, hr]
    rfl
  | refuse pc =>
    refine flow_producer h nofun fun r => ?_
    have hr := h.kept r
    rw [pc] at hr
    rw [List.count_append, hr, ← Nat.add_assoc]
    rfl
  | allocate pc fresh =>
    refine flow_producer h nofun fun r => ?_
    have hr := h.kept r
    rwa [pc] at hr
  | producer_acquire pc monitor =>
    refine flow_producer h nofun fun r => ?_
    have hr := h.kept r
    rcases pc with pc | pc
    · rwa [pc] at hr
    · rwa [pc] at hr
  | producer_wait pc full running monitor => exact flow_producer h h.dropping h.kept
  | discard pc owner down =>
    refine flow_producer h (fun _ => down) fun r => ?_
    have hr := h.kept r
    rwa [pc] at hr
  | enqueue pc owner room running =>
    refine ⟨fun r => ?_, nofun, fun i hi => ?_⟩
    · have hr := h.kept r
      rw [pc] at hr
      rw [List.count_append, hr, Nat.add_right_comm]
      rfl
    · have hdown := (h.gone i hi).1
      rw [running] at hdown
      cases hdown
  | producer_signal pc monitor =>
    refine flow_producer h nofun fun r => ?_
    have hr := h.kept r
    rwa [pc] at hr
  | producer_unlock pc monitor =>
    refine flow_producer h nofun fun r => ?_
    have hr := h.kept r
    rwa [pc] at hr
  | discard_unlock pc monitor =>
    refine flow_producer h (fun _ => h.dropping (by rw [pc]; rfl)) fun r => ?_
    have hr := h.kept r
    rwa [pc] at hr
  | discard_free pc =>
    refine flow_producer h nofun fun r => ?_
    have hr := h.kept r
    rw [pc] at hr
    rw [List.count_append, hr, ← Nat.add_assoc]
    rfl
  | worker_acquire pc monitor => exact ⟨h.kept, h.dropping, gone_update h.gone nofun⟩
  | worker_wait pc empty running monitor => exact ⟨h.kept, h.dropping, h.gone⟩
  | leave pc owner empty down =>
    exact ⟨h.kept, h.dropping, gone_update h.gone fun _ => ⟨down, empty⟩⟩
  | dequeue pc owner head node =>
    refine ⟨h.kept, h.dropping, gone_update (fun j hj => ?_) nofun⟩
    have hempty := (h.gone j hj).2
    rw [head] at hempty
    cases hempty
  | worker_signal pc monitor => exact ⟨h.kept, h.dropping, gone_update h.gone nofun⟩
  | worker_unlock pc monitor => exact ⟨h.kept, h.dropping, gone_update h.gone nofun⟩
  | handle pc node => exact ⟨h.kept, h.dropping, gone_update h.gone nofun⟩
  | worker_free pc => exact ⟨h.kept, h.dropping, gone_update h.gone nofun⟩
  | @exit _ _ i m pc monitor =>
    exact ⟨h.kept, h.dropping, gone_update h.gone fun _ => h.gone i (by rw [pc]; rfl)⟩
  | main_acquire pc monitor => exact ⟨h.kept, h.dropping, h.gone⟩
  | shut_down pc => exact ⟨h.kept, fun _ => rfl, fun i hi => ⟨rfl, (h.gone i hi).2⟩⟩
  | broadcast_not_empty pc monitor => exact ⟨h.kept, h.dropping, h.gone⟩
  | broadcast_not_full pc monitor => exact ⟨h.kept, h.dropping, h.gone⟩
  | main_unlock pc monitor => exact ⟨h.kept, h.dropping, h.gone⟩
  | join pc exits => exact ⟨h.kept, h.dropping, h.gone⟩
  | wakeup monitor => exact ⟨h.kept, h.dropping, h.gone⟩

end Flow

section Wakeups

/-! Wake-ups on their way: a thread woken and not back at its test, one that has the lock and is at
its test, one that has the lock and is about to signal. -/

/-- Whether the thread that has the lock is about to take a task or to signal that there is one. -/
def serving (owner : Option (Thread n)) (p : ProducerPc) (w : Fin n → WorkerPc) : Nat :=
  match owner with
  | some .producer => if p = .signalling then 1 else 0
  | some (.worker i) => if w i = .testing then 1 else 0
  | _ => 0

/-- Each task in the queue has a wake-up on its way while a worker is blocked. -/
def TasksServed (s : State n) : Prop :=
  s.monitor.Served .queue_not_empty
    (s.queue_len - serving s.monitor.owner s.producer s.worker)

variable {s s' : State n} {a : Action n}

private theorem len_of_empty (h : Data queue_max s) (hempty : s.queue_head = none) :
    s.queue_len = 0 := by
  obtain ⟨l, hs, -, -⟩ := h
  rw [hs.len, (hs.linked.eq_nil_iff).mpr hempty]
  rfl

private theorem serving_producer {p p' : ProducerPc} {w : Fin n → WorkerPc}
    {o : Option (Thread n)} (hp : p ≠ .signalling) (hp' : p' ≠ .signalling) :
    serving o p' w = serving o p w := by
  unfold serving
  split
  · rw [if_neg hp, if_neg hp']
  · rfl
  · rfl

private theorem serving_worker {p : ProducerPc} {w : Fin n → WorkerPc} {i : Fin n} {pc : WorkerPc}
    {o : Option (Thread n)} (hw : w i ≠ .testing) (hpc : pc ≠ .testing) :
    serving o p (Function.update w i pc) = serving o p w := by
  unfold serving
  split
  · rfl
  · rename_i j
    by_cases hj : j = i
    · subst hj
      rw [Function.update_self, if_neg hw, if_neg hpc]
    · rw [Function.update_of_ne hj]
  · rfl

section Steps

variable {mon : Monitor (Thread n) Cond} {o : Option (Thread n)} {len : Nat} {p p' : ProducerPc}
  {w w' : Fin n → WorkerPc}

private theorem served_producer
    (h : mon.Served .queue_not_empty (len - serving o p w))
    (howner : mon.owner = o) (hp : p ≠ .signalling) (hp' : p' ≠ .signalling) :
    mon.Served .queue_not_empty (len - serving mon.owner p' w) := by
  rwa [howner, serving_producer hp hp']

private theorem served_worker {i : Fin n} {pc : WorkerPc}
    (h : mon.Served .queue_not_empty (len - serving o p w))
    (howner : mon.owner = o) (hw : w i ≠ .testing) (hpc : pc ≠ .testing) :
    mon.Served .queue_not_empty (len - serving mon.owner p (Function.update w i pc)) := by
  rwa [howner, serving_worker hw hpc]

/-- The lock changes hands between nobody and a thread that does not serve. -/
private theorem served_idle (h : mon.Served .queue_not_empty (len - serving o p w))
    (hold : serving o p w = 0) :
    mon.Served .queue_not_empty (len - serving mon.owner p' w') := by
  rw [hold] at h
  exact h.mono (Nat.sub_le_sub_left (Nat.zero_le _) _)

end Steps

private theorem served_moved (hp : Placed s) (hd : Data queue_max s) (h : TasksServed s)
    (hmove : Moved queue_max L D s a s') : TasksServed s' := by
  rw [TasksServed] at h
  cases hmove with
  | receive pc => exact served_producer h rfl (by simp [pc]) (by simp)
  | refuse pc => exact served_producer h rfl (by simp [pc]) (by simp)
  | allocate pc fresh => exact served_producer h rfl (by simp [pc]) (by simp)
  | producer_acquire pc monitor =>
    refine served_idle (h.enter (fun hw => ?_) monitor) (by rw [(owner_acquire monitor).1]; rfl)
    have hloop := hp.loop_of_woken hw
    rw [place] at hloop
    rcases pc with pc | pc <;> rw [pc] at hloop <;> cases hloop
  | producer_wait pc full running monitor =>
    refine served_idle (h.wait hp.ok (by simp) monitor) ?_
    rw [(owner_wait monitor).1, serving, pc]
    rfl
  | discard pc owner down => exact served_producer h rfl (by simp [pc]) (by simp)
  | enqueue pc owner room running =>
    rw [owner, serving, pc] at h
    show s.monitor.Served _ (s.queue_len + 1 - serving s.monitor.owner .signalling s.worker)
    rw [owner]
    exact h
  | producer_signal pc monitor =>
    rw [(owner_signal monitor).1, serving, pc] at h
    refine (h.signal monitor).mono ?_
    show s.queue_len - _ ≤ s.queue_len - 1 + 1
    omega
  | producer_unlock pc monitor =>
    refine served_idle (h.release hp.ok monitor) ?_
    rw [(owner_release monitor).1, serving, pc]
    rfl
  | discard_unlock pc monitor =>
    refine served_idle (h.release hp.ok monitor) ?_
    rw [(owner_release monitor).1, serving, pc]
    rfl
  | discard_free pc => exact served_producer h rfl (by simp [pc]) (by simp)
  | worker_acquire pc monitor =>
    rw [(owner_acquire monitor).1] at h
    refine (h.acquire monitor).mono ?_
    show s.queue_len - serving _ s.producer (Function.update s.worker _ .testing) ≤ _
    rw [(owner_acquire monitor).2, serving, Function.update_self]
    exact Nat.le_refl _
  | worker_wait pc empty running monitor =>
    show Served _ _ (s.queue_len - _)
    rw [len_of_empty hd empty, Nat.zero_sub]
    exact served_zero _ _
  | leave pc owner empty down =>
    show Served _ _ (s.queue_len - _)
    rw [len_of_empty hd empty, Nat.zero_sub]
    exact served_zero _ _
  | dequeue pc owner head node =>
    rw [owner, serving, if_pos pc] at h
    exact h.mono (Nat.sub_le _ _)
  | worker_signal pc monitor =>
    exact served_worker (h.signal_other monitor)
      ((owner_signal monitor).2.trans (owner_signal monitor).1.symm) (by simp [pc]) (by simp)
  | worker_unlock pc monitor =>
    refine served_idle (h.release hp.ok monitor) ?_
    rw [(owner_release monitor).1, serving, pc]
    rfl
  | handle pc node => exact served_worker h rfl (by simp [pc]) (by simp)
  | worker_free pc => exact served_worker h rfl (by simp [pc]) (by simp)
  | exit pc monitor =>
    refine served_idle (h.release hp.ok monitor) ?_
    rw [(owner_release monitor).1, serving, pc]
    rfl
  | main_acquire pc monitor =>
    refine served_idle (h.enter (fun hw => ?_) monitor) (by rw [(owner_acquire monitor).1]; rfl)
    have hloop := hp.loop_of_woken hw
    rw [place, pc] at hloop
    cases hloop
  | shut_down pc => exact h
  | broadcast_not_empty pc monitor =>
    refine served_idle (h.broadcast monitor) ?_
    rw [(owner_broadcast monitor).1]
    rfl
  | broadcast_not_full pc monitor =>
    refine served_idle (h.broadcast monitor) ?_
    rw [(owner_broadcast monitor).1]
    rfl
  | main_unlock pc monitor =>
    refine served_idle (h.release hp.ok monitor) ?_
    rw [(owner_release monitor).1]
    rfl
  | join pc exits => exact h
  | wakeup monitor =>
    have howner := owner_wake monitor
    show Served _ _ (s.queue_len - serving _ s.producer s.worker)
    rw [howner]
    exact h.wake monitor

/-- What is on its way to a thread that is blocked although its loop could end. -/
structure Awaited (queue_max : Nat) (s : State n) : Prop where
  empty_down : s.shutting_down = true → ∀ i,
    s.monitor.phase (.worker i) = .blocked .queue_not_empty → s.main = .broadcasting_not_empty
  room : s.monitor.phase .producer = .blocked .queue_not_full → s.queue_len < queue_max →
    ∃ i task, s.monitor.owner = some (.worker i) ∧ s.worker i = .signalling task
  full_down : s.shutting_down = true →
    s.monitor.phase .producer = .blocked .queue_not_full →
      s.main = .broadcasting_not_empty ∨ s.main = .broadcasting_not_full

private theorem awaited_boot : Awaited queue_max (State.boot n) :=
  ⟨nofun, nofun, nofun⟩

/-- While another thread has the lock, or nobody, no worker is about to signal. -/
private theorem room_idle {o : Option (Thread n)} (h : Awaited queue_max s)
    (howner : s.monitor.owner = o)
    (ho : ∀ i task, o = some (.worker i) → s.worker i ≠ .signalling task)
    (hb : s.monitor.phase .producer = .blocked .queue_not_full)
    (hlt : s.queue_len < queue_max) : False := by
  obtain ⟨i, task, hi, hpc⟩ := h.room hb hlt
  exact ho i task (howner.symm.trans hi) hpc

private theorem room_update {i : Fin n} {pc : WorkerPc} (h : Awaited queue_max s)
    (hold : ∀ task, s.worker i ≠ .signalling task)
    (hb : s.monitor.phase .producer = .blocked .queue_not_full) (hlt : s.queue_len < queue_max) :
    ∃ j task, s.monitor.owner = some (.worker j) ∧
      Function.update s.worker i pc j = .signalling task := by
  obtain ⟨j, task, hj, hpc⟩ := h.room hb hlt
  have hne : j ≠ i := fun hji => hold task (hji ▸ hpc)
  exact ⟨j, task, hj, (Function.update_of_ne hne _ _).trans hpc⟩

/-- Nobody but the netlink thread waits for room. -/
private theorem only_producer (hp : Placed s) {t : Thread n}
    (hb : s.monitor.phase t = .blocked .queue_not_full) : t = .producer := by
  have hloop := hp.loop_of_blocked hb
  cases t with
  | producer => rfl
  | worker i =>
    rw [place] at hloop
    cases hpc : s.worker i <;> rw [hpc] at hloop <;> cases hloop
  | main =>
    rw [place] at hloop
    cases hpc : s.main <;> rw [hpc] at hloop <;> cases hloop

private theorem awaited_moved (hp : Placed s) (h : Awaited queue_max s)
    (hmove : Moved queue_max L D s a s') : Awaited queue_max s' := by
  cases hmove with
  | receive pc => exact ⟨h.empty_down, h.room, h.full_down⟩
  | refuse pc => exact ⟨h.empty_down, h.room, h.full_down⟩
  | allocate pc fresh => exact ⟨h.empty_down, h.room, h.full_down⟩
  | producer_acquire pc monitor =>
    refine ⟨fun hd i hb => h.empty_down hd i (blocked_of_acquire monitor hb), fun hb hlt => ?_,
      fun hd hb => h.full_down hd (blocked_of_acquire monitor hb)⟩
    exact (room_idle h (owner_acquire monitor).1 (fun _ _ => nofun)
      (blocked_of_acquire monitor hb) hlt).elim
  | producer_wait pc full running monitor =>
    refine ⟨fun hd => ?_, fun hb hlt => absurd hlt (Nat.not_lt_of_le full), fun hd => ?_⟩
    · rw [running] at hd
      cases hd
    · rw [running] at hd
      cases hd
  | discard pc owner down => exact ⟨h.empty_down, h.room, h.full_down⟩
  | enqueue pc owner room running =>
    refine ⟨h.empty_down, fun hb hlt => ?_, h.full_down⟩
    have hin := (hp.ok .producer).mpr owner
    rw [hin] at hb
    cases hb
  | producer_signal pc monitor =>
    refine ⟨fun hd i hb => h.empty_down hd i (blocked_of_signal monitor hb), fun hb hlt => ?_,
      fun hd hb => h.full_down hd (blocked_of_signal monitor hb)⟩
    exact (room_idle h (owner_signal monitor).1 (fun _ _ => nofun)
      (blocked_of_signal monitor hb) hlt).elim
  | producer_unlock pc monitor =>
    refine ⟨fun hd i hb => h.empty_down hd i (blocked_of_release monitor hb), fun hb hlt => ?_,
      fun hd hb => h.full_down hd (blocked_of_release monitor hb)⟩
    exact (room_idle h (owner_release monitor).1 (fun _ _ => nofun)
      (blocked_of_release monitor hb) hlt).elim
  | discard_unlock pc monitor =>
    refine ⟨fun hd i hb => h.empty_down hd i (blocked_of_release monitor hb), fun hb hlt => ?_,
      fun hd hb => h.full_down hd (blocked_of_release monitor hb)⟩
    exact (room_idle h (owner_release monitor).1 (fun _ _ => nofun)
      (blocked_of_release monitor hb) hlt).elim
  | discard_free pc => exact ⟨h.empty_down, h.room, h.full_down⟩
  | worker_acquire pc monitor =>
    refine ⟨fun hd i hb => h.empty_down hd i (blocked_of_acquire monitor hb), fun hb hlt => ?_,
      fun hd hb => h.full_down hd (blocked_of_acquire monitor hb)⟩
    exact (room_idle h (owner_acquire monitor).1 (fun _ _ => nofun)
      (blocked_of_acquire monitor hb) hlt).elim
  | worker_wait pc empty running monitor =>
    refine ⟨fun hd => ?_, fun hb hlt => ?_, fun hd => ?_⟩
    · rw [running] at hd
      cases hd
    · rcases blocked_of_wait monitor hb with ⟨hself, -⟩ | hb
      · cases hself
      · refine (room_idle h (owner_wait monitor).1 (fun j task hj => ?_) hb hlt).elim
        cases hj
        rw [pc]
        nofun
    · rw [running] at hd
      cases hd
  | leave pc owner empty down =>
    exact ⟨h.empty_down, room_update h (fun task => by rw [pc]; nofun), h.full_down⟩
  | @dequeue _ _ i task t pc owner head node =>
    exact ⟨h.empty_down, fun _ _ => ⟨i, task, owner, Function.update_self _ _ _⟩, h.full_down⟩
  | worker_signal pc monitor =>
    refine ⟨fun hd i hb => h.empty_down hd i (blocked_of_signal monitor hb), fun hb hlt => ?_,
      fun hd hb => h.full_down hd (blocked_of_signal monitor hb)⟩
    exact absurd hb (not_blocked_signal monitor fun v hv => only_producer hp hv)
  | worker_unlock pc monitor =>
    refine ⟨fun hd i hb => h.empty_down hd i (blocked_of_release monitor hb), fun hb hlt => ?_,
      fun hd hb => h.full_down hd (blocked_of_release monitor hb)⟩
    refine (room_idle h (owner_release monitor).1 (fun j task hj => ?_)
      (blocked_of_release monitor hb) hlt).elim
    cases hj
    rw [pc]
    nofun
  | handle pc node =>
    exact ⟨h.empty_down, room_update h (fun task => by rw [pc]; nofun), h.full_down⟩
  | worker_free pc =>
    exact ⟨h.empty_down, room_update h (fun task => by rw [pc]; nofun), h.full_down⟩
  | exit pc monitor =>
    refine ⟨fun hd i hb => h.empty_down hd i (blocked_of_release monitor hb), fun hb hlt => ?_,
      fun hd hb => h.full_down hd (blocked_of_release monitor hb)⟩
    refine (room_idle h (owner_release monitor).1 (fun j task hj => ?_)
      (blocked_of_release monitor hb) hlt).elim
    cases hj
    rw [pc]
    nofun
  | main_acquire pc monitor =>
    refine ⟨fun hd i hb => ?_, fun hb hlt => ?_, fun hd hb => ?_⟩
    · have hmain := h.empty_down hd i (blocked_of_acquire monitor hb)
      rw [pc] at hmain
      cases hmain
    · exact (room_idle h (owner_acquire monitor).1 (fun _ _ => nofun)
        (blocked_of_acquire monitor hb) hlt).elim
    · have hmain := h.full_down hd (blocked_of_acquire monitor hb)
      rw [pc] at hmain
      rcases hmain with hmain | hmain <;> cases hmain
  | shut_down pc => exact ⟨fun _ _ _ => rfl, h.room, fun _ _ => .inl rfl⟩
  | broadcast_not_empty pc monitor =>
    refine ⟨fun hd i hb => absurd hb (not_blocked_broadcast monitor _), fun hb hlt => ?_,
      fun _ _ => .inr rfl⟩
    exact (room_idle h (owner_broadcast monitor).1 (fun _ _ => nofun)
      (blocked_of_broadcast monitor hb) hlt).elim
  | broadcast_not_full pc monitor =>
    refine ⟨fun hd i hb => ?_, fun hb => absurd hb (not_blocked_broadcast monitor _),
      fun hd hb => absurd hb (not_blocked_broadcast monitor _)⟩
    have hmain := h.empty_down hd i (blocked_of_broadcast monitor hb)
    rw [pc] at hmain
    cases hmain
  | main_unlock pc monitor =>
    refine ⟨fun hd i hb => ?_, fun hb hlt => ?_, fun hd hb => ?_⟩
    · have hmain := h.empty_down hd i (blocked_of_release monitor hb)
      rw [pc] at hmain
      cases hmain
    · exact (room_idle h (owner_release monitor).1 (fun _ _ => nofun)
        (blocked_of_release monitor hb) hlt).elim
    · have hmain := h.full_down hd (blocked_of_release monitor hb)
      rw [pc] at hmain
      rcases hmain with hmain | hmain <;> cases hmain
  | join pc exits =>
    refine ⟨fun hd i hb => ?_, h.room, fun hd hb => ?_⟩
    · have hmain := h.empty_down hd i hb
      rw [pc] at hmain
      cases hmain
    · have hmain := h.full_down hd hb
      rw [pc] at hmain
      rcases hmain with hmain | hmain <;> cases hmain
  | wakeup monitor =>
    refine ⟨fun hd i hb => h.empty_down hd i (blocked_of_wake monitor hb), fun hb hlt => ?_,
      fun hd hb => h.full_down hd (blocked_of_wake monitor hb)⟩
    obtain ⟨i, task, howner, hpc⟩ := h.room (blocked_of_wake monitor hb) hlt
    exact ⟨i, task, (owner_wake monitor).trans howner, hpc⟩

end Wakeups

section Claims

/-- The invariant of a run. -/
structure Inv (queue_max : Nat) (s : State n) : Prop where
  placed : Placed s
  data : Data queue_max s
  flow : Flow s
  served : TasksServed s
  awaited : Awaited queue_max s

variable {s s' : State n} {a : Action n}

theorem inv_boot (queue_max : Nat) : Inv queue_max (State.boot n) :=
  ⟨placed_boot, data_boot, flow_boot, served_zero _ _, awaited_boot⟩

theorem inv_step {a : Action n} (h : Inv queue_max s) (hs : step queue_max L D s a = some s') :
    Inv queue_max s' := by
  have hmove := moved_of_step hs
  exact ⟨placed_moved h.placed hmove, data_moved h.data hmove, flow_moved h.flow hmove,
    served_moved h.placed h.data h.served hmove, awaited_moved h.placed h.awaited hmove⟩

theorem inv_run {as : List (Action n)}
    (hr : run (step queue_max L D) (State.boot n) as = some s) : Inv queue_max s :=
  run_invariant (Inv queue_max) (fun _ _ _ h hs => inv_step h hs) (inv_boot queue_max) hr

/-- A request is dropped where `malloc` failed, or once `shutting_down` is set. -/
def DropAllowed (s : State n) (a : Action n) : Prop :=
  (∃ req woken, s.producer = .allocating req ∧ a = .producer none woken) ∨ s.shutting_down = true

private theorem dropped_step {a : Action n} (h : Inv queue_max s)
    (hs : step queue_max L D s a = some s') : s'.dropped = s.dropped ∨ DropAllowed s a := by
  have hmove := moved_of_step hs
  cases hmove with
  | discard_free pc => exact .inr (.inr (h.flow.dropping (by rw [pc]; rfl)))
  | @refuse woken req pc => exact .inr (.inl ⟨req, woken, pc, rfl⟩)
  | _ => exact .inl rfl

/-- What holds of the queue in one state. -/
structure QueueSound (queue_max : Nat) (s : State n) : Prop where
  list : ∃ l, Linked (nextOf s.heap) s.queue_head l ∧ s.queue_len = l.length ∧
    s.queue_tail = l.getLast? ∧ s.queue_len ≤ queue_max ∧
      s.accepted.map scanTask = s.taken.map Prod.snd ++ tasksAt s.heap l
  handled : ∀ i, takenBy s.taken i = callsBy s.calls i ++ pending s.heap (inHand (s.worker i))
  drained : 0 < n → (∀ i, s.worker i = .exited) →
    s.accepted.map scanTask = s.taken.map Prod.snd ∧
      ∀ i, takenBy s.taken i = callsBy s.calls i
  kept : s.received.Perm (s.accepted ++ s.dropped ++ current s.producer)
  worker_awaited : ∀ i, s.monitor.phase (.worker i) = .blocked .queue_not_empty →
    (s.shutting_down = true → s.main = .broadcasting_not_empty) ∧
      s.queue_len ≤ s.monitor.wakeups .queue_not_empty +
        serving s.monitor.owner s.producer s.worker
  producer_awaited : s.monitor.phase .producer = .blocked .queue_not_full →
    (s.shutting_down = true → s.main = .broadcasting_not_empty ∨ s.main = .broadcasting_not_full) ∧
      (s.queue_len < queue_max →
        ∃ i task, s.monitor.owner = some (.worker i) ∧ s.worker i = .signalling task)

private theorem sound_of_inv (h : Inv queue_max s) : QueueSound queue_max s := by
  obtain ⟨l, hs, ho, hr⟩ := h.data
  refine ⟨⟨l, hs.linked, hs.len, hs.tail, hs.len ▸ hs.bound, hr.fifo⟩, hr.handled,
    fun hn hexit => ⟨?_, fun i => ?_⟩, ?_, fun i hb => ⟨fun hd => ?_, ?_⟩,
    fun hb => ⟨fun hd => h.awaited.full_down hd hb, h.awaited.room hb⟩⟩
  · have hempty := (h.flow.gone ⟨0, hn⟩ (by rw [hexit]; rfl)).2
    rw [hr.fifo, (hs.linked.eq_nil_iff).mpr hempty]
    exact List.append_nil _
  · rw [hr.handled i, hexit i]
    exact List.append_nil _
  · refine List.perm_iff_count.mpr fun r => ?_
    rw [List.count_append, List.count_append]
    exact h.flow.kept r
  · exact h.awaited.empty_down hd i hb
  · have hserved := h.served ⟨.worker i, hb⟩
    omega

/-- In every state that a run reaches, and at every step from it. -/
theorem scan_queue_sound {as : List (Action n)}
    (hr : run (step queue_max L D) (State.boot n) as = some s) :
    QueueSound queue_max s ∧ ∀ a s', step queue_max L D s a = some s' →
      s'.dropped = s.dropped ∨ DropAllowed s a :=
  ⟨sound_of_inv (inv_run hr), fun _ _ hs => dropped_step (inv_run hr) hs⟩

section Examples

private def request : ScanRequest := ⟨7, 1, lit "/bin/true", []⟩

private def scanned : ScanIo :=
  ⟨none, none, true, [], ERROR_SUCCESS, ⟨none, true, true, true, [], fun _ => true, true⟩,
    ⟨none, true, .tooShort⟩, true⟩

private def library : HashLibrary := ⟨fun _ => [], fun _ _ => 0, fun _ _ => 0⟩

/-- One request, its scan by the only worker, and the shutdown. -/
private def oneScan : List (Action 1) :=
  .receive request :: .producer (some 0) none :: List.replicate 4 (.producer none none) ++
    List.replicate 6 (.worker 0 scanned none) ++ List.replicate 5 .main ++
    List.replicate 3 (.worker 0 scanned none)

theorem scan_queue_sound_one : ∃ s : State 1,
    run (step 1 library ⟨true, [], []⟩) (State.boot 1) oneScan = some s ∧
      s.worker 0 = .exited ∧ s.calls.map (fun x => x.2.reqid) = [7] ∧ QueueSound 1 s ∧
      ∀ a s', step 1 library ⟨true, [], []⟩ s a = some s' →
        s'.dropped = s.dropped ∨ DropAllowed s a :=
  have hr : run (step 1 library ⟨true, [], []⟩) (State.boot 1) oneScan = some _ := rfl
  ⟨_, hr, rfl, rfl, scan_queue_sound hr⟩

end Examples

end Claims

end KernelAv.Daemon.ScanQueueRuns
