/- digest: Processes, hooks and queued work items around the behaviour table, in any order. -/

import KernelAv.Kernel.BehaviorChecks
import KernelAv.Kernel.TrustTable
import KernelAv.Lib.Run

set_option autoImplicit false
set_option relaxedAutoImplicit false

namespace KernelAv.Kernel.BehaviorSystem

open KernelAv.Lib.CText
open KernelAv.Kernel.Paths
open KernelAv.Kernel.SlidingWindow (TickRate hz1000)
open KernelAv.Kernel.BehaviorTable
open KernelAv.Kernel.BehaviorChecks
open KernelAv.Kernel.TrustTable (hash_is_trusted av_behavior_trust_add av_behavior_trust_del
  SHA256_HEX_LEN)

/-- What does not change in a run: the kernel's hash functions and tick rate, the SHA-256 of each
file's content, and the files that can be hashed (regular, not above the size limit). -/
structure Machine where
  hash : KernelHash
  ticks : TickRate
  sha256 : Nat → Bytes
  hashable : Nat → Bool

/-- The file a process runs and, once it has execed itself, the absolute form of the path. -/
structure Image where
  file : Nat
  exec_form : Option Bytes
  deriving DecidableEq

/-- A thread group, with its leader's start time. -/
structure Process where
  start_time : UInt64
  image : Image
  deriving DecidableEq

/-- A path argument and the name of the directory it is relative to, at the time of the call. -/
structure PathArg where
  path : Bytes
  dir : Bytes
  deriving DecidableEq

/-- The resolved absolute form of a path argument. -/
def PathArg.form (a : PathArg) : Bytes :=
  resolve_absolute_path ⟨true, some a.dir, true⟩ a.path PATH_MAX

/-- What the exec hooks capture; `start_time` is that of the calling thread. -/
structure ExecCall where
  tgid : Nat
  target : PathArg
  start_time : UInt64
  deriving DecidableEq

/-- An exec item that has hashed its file and looked the hash up in the trust table. `at_event`
counts the events of the run up to that lookup; the code has no such field. -/
structure HashedExec where
  call : ExecCall
  abs_path : Bytes
  fits : abs_path.length < PATH_MAX
  sha256 : Bytes
  trusted : Bool
  at_event : Nat
  deriving DecidableEq

/-- A queued work item. `caller` is what the process was running when it called `unlink`; the
code's item has no such field. -/
inductive Item where
  | exec (call : ExecCall)
  | record (hashed : HashedExec)
  | openat (tgid : Nat) (path : Bytes) (flags : UInt32)
  | unlink (tgid : Nat) (target : PathArg) (caller : Image)
  | rename (tgid : Nat) (oldpath newpath : Bytes)
  deriving DecidableEq

/-- What is observed of a run; the code keeps no such log. -/
inductive Event where
  | recorded (hashed : HashedExec)
  | evicted (pid : Nat)
  | swept (cur_start : Nat → Option UInt64)
  | untrusted (hex : Bytes)

structure State (M : Machine) where
  procs : Nat → Option Process
  inflight : List ExecCall
  queue : List Item
  trust : TrustTable.Table M.hash
  behavior : BehaviorTable.Table M.hash
  log : List Event

/-- What the calls of a work item return, and the clock it reads. -/
structure WorkIo where
  abs_path_ok : Bool
  resolve : ResolveIo
  jiffies : UInt64
  kzalloc_ok : Bool
  deriving DecidableEq

inductive Action where
  | spawn (pid : Nat) (p : Process)
  | exit (pid : Nat)
  | trustAdd (kmalloc_ok : Bool) (hex name : Bytes)
  | trustDel (hex : Bytes)
  | execve (call : ExecCall)
  | execDone (call : ExecCall) (file : Nat)
  | execFail (call : ExecCall)
  | openat (tgid : Nat) (path : Bytes) (flags : UInt32)
  | unlink (tgid : Nat) (target : PathArg)
  | rename (tgid : Nat) (oldpath newpath : Bytes)
  | hashExec (call : ExecCall) (io : WorkIo) (opened : Option Nat)
  | recordExec (hashed : HashedExec) (io : WorkIo)
  | workOpenat (tgid : Nat) (path : Bytes) (flags : UInt32) (io : WorkIo)
  | workUnlink (tgid : Nat) (target : PathArg) (caller : Image) (io : WorkIo)
  | workRename (tgid : Nat) (oldpath newpath : Bytes) (io io' : WorkIo)
  | sweep

variable {M : Machine}

def State.boot (M : Machine) : State M where
  procs := fun _ => none
  inflight := []
  queue := []
  trust := Lib.Chains.HashTable.empty
  behavior := BehaviorTable.Table.empty
  log := []

namespace State

variable (s : State M)

/-- A worker takes the item off the queue. -/
def take (item : Item) : Option (State M) :=
  if item ∈ s.queue then some { s with queue := s.queue.erase item } else none

def push (item : Item) : State M := { s with queue := item :: s.queue }

def note (es : List Event) : State M := { s with log := es ++ s.log }

/-- `av_openat_work_fn`. -/
def openatWork (tgid : Nat) (path : Bytes) (flags : UInt32) (io : WorkIo) :
    CheckResult M.hash :=
  if !io.abs_path_ok then .early s.behavior none
  else
    av_behavior_check_openat M.ticks s.behavior io.jiffies io.kzalloc_ok tgid
      (resolve_absolute_path io.resolve path PATH_MAX) flags

/-- `av_unlink_work_fn`. -/
def unlinkWork (tgid : Nat) (path : Bytes) (io : WorkIo) : CheckResult M.hash :=
  if !io.abs_path_ok then .early s.behavior none
  else
    av_behavior_check_unlink s.behavior io.jiffies io.kzalloc_ok tgid
      (resolve_absolute_path io.resolve path PATH_MAX)

/-- `av_rename_work_fn`. -/
def renameWork (tgid : Nat) (oldpath newpath : Bytes) (io io' : WorkIo) : CheckResult M.hash :=
  if !io.abs_path_ok || !io'.abs_path_ok then .early s.behavior none
  else
    av_behavior_check_rename M.ticks s.behavior io.jiffies io.kzalloc_ok tgid
      (resolve_absolute_path io.resolve oldpath PATH_MAX)
      (resolve_absolute_path io'.resolve newpath PATH_MAX)

def checked (res : CheckResult M.hash) : State M :=
  { s with behavior := res.table }.note (res.evicted.map Event.evicted).toList

/-- `av_work_fn` up to the first half of `av_behavior_record_exec`: `opened` is the file that was
hashed, if one was. -/
def hashExec (call : ExecCall) (io : WorkIo) (opened : Option Nat) : State M :=
  match opened with
  | none => s
  | some file =>
      if !io.abs_path_ok then s
      else
        s.push (.record ⟨call, resolve_absolute_path io.resolve call.target.path PATH_MAX,
          resolve_length (by decide), M.sha256 file, hash_is_trusted s.trust (M.sha256 file),
          s.log.length⟩)

/-- The second half, under `behavior_lock`. -/
def recordExec (hashed : HashedExec) (io : WorkIo) : State M :=
  let found := (get_or_create_entry s.behavior hashed.call.tgid io.jiffies io.kzalloc_ok).2.isSome
  { s with
    behavior := av_behavior_record_exec s.behavior io.jiffies io.kzalloc_ok hashed.call.tgid
      hashed.abs_path hashed.trusted hashed.call.start_time }.note
    ((if found then [Event.recorded hashed] else []) ++
      ((evictedFor s.behavior hashed.call.tgid).map Event.evicted).toList)

/-- A successful exec: the other threads of the group, and their calls, are gone. -/
def execDone (call : ExecCall) (file : Nat) (p : Process) : State M :=
  { s with
    procs := Function.update s.procs call.tgid
      (some { p with image := ⟨file, some call.target.form⟩ })
    inflight := s.inflight.filter fun c => c.tgid ≠ call.tgid }

end State

def step (s : State M) : Action → Option (State M)
  | .spawn pid p =>
      if s.procs pid = none ∧ p.image.exec_form = none then
        some { s with procs := Function.update s.procs pid (some p) }
      else none
  | .exit pid =>
      some { s with
        procs := Function.update s.procs pid none
        inflight := s.inflight.filter fun c => c.tgid ≠ pid }
  | .trustAdd kmalloc_ok hex name =>
      some { s with trust := (av_behavior_trust_add s.trust kmalloc_ok hex name).2 }
  | .trustDel hex =>
      let r := av_behavior_trust_del s.trust hex
      some ({ s with trust := r.2 }.note (if r.1 = 0 then [.untrusted hex] else []))
  | .execve call =>
      if (s.procs call.tgid).isSome then
        some { s.push (.exec call) with inflight := call :: s.inflight }
      else none
  | .execDone call file =>
      if call ∈ s.inflight then (s.procs call.tgid).map fun p => s.execDone call file p else none
  | .execFail call => some { s with inflight := s.inflight.erase call }
  | .openat tgid path flags => (s.procs tgid).map fun _ => s.push (.openat tgid path flags)
  | .unlink tgid target => (s.procs tgid).map fun p => s.push (.unlink tgid target p.image)
  | .rename tgid oldpath newpath =>
      (s.procs tgid).map fun _ => s.push (.rename tgid oldpath newpath)
  | .hashExec call io opened => (s.take (.exec call)).map fun s => s.hashExec call io opened
  | .recordExec hashed io => (s.take (.record hashed)).map fun s => s.recordExec hashed io
  | .workOpenat tgid path flags io =>
      (s.take (.openat tgid path flags)).map fun s => s.checked (s.openatWork tgid path flags io)
  | .workUnlink tgid target caller io =>
      (s.take (.unlink tgid target caller)).map fun s =>
        s.checked (s.unlinkWork tgid target.path io)
  | .workRename tgid oldpath newpath io io' =>
      (s.take (.rename tgid oldpath newpath)).map fun s =>
        s.checked (s.renameWork tgid oldpath newpath io io')
  | .sweep =>
      let cur_start := fun pid => (s.procs pid).map Process.start_time
      some ({ s with behavior := behavior_gc_fn s.behavior cur_start }.note [.swept cur_start])

/-- The sweep leaves the record of a process that runs with the start time of the record. -/
def keptBySweep (cur_start : Option UInt64) (start_time : UInt64) : Bool :=
  match cur_start with
  | none => false
  | some start => start_time = 0 || start_time = start

/-- The exec item that was the last to be recorded for the process, unless its entry was evicted
or swept since. -/
def lastRecorded (pid : Nat) : List Event → Option HashedExec
  | [] => none
  | .recorded h :: log => if h.call.tgid = pid then some h else lastRecorded pid log
  | .evicted p :: log => if p = pid then none else lastRecorded pid log
  | .swept cur_start :: log =>
      (lastRecorded pid log).filter fun h => keptBySweep (cur_start pid) h.call.start_time
  | .untrusted _ :: log => lastRecorded pid log

/-- The record is the one that the last recorded item wrote. -/
def Matches (r : ExecRecord) : Option HashedExec → Prop
  | some h => r = ⟨h.abs_path, h.trusted, h.call.start_time⟩
  | none => r.exec_path = [] ∧ r.trusted = false

/-- The table holds what the history of recordings, evictions and sweeps says. -/
def Consistent (s : State M) : Prop :=
  ∀ pid, Matches (recordOf s.behavior pid) (lastRecorded pid s.log)

theorem consistent_boot (M : Machine) : Consistent (State.boot M) := fun _ => ⟨rfl, rfl⟩

section Steps

variable {s s' : State M} {a : Action}

private theorem matches_blank : Matches ExecRecord.blank none := ⟨rfl, rfl⟩

private theorem lastRecorded_evictions (o : Option Nat) (pid : Nat) (log : List Event) :
    lastRecorded pid ((o.map Event.evicted).toList ++ log) =
      if o = some pid then none else lastRecorded pid log := by
  cases o with
  | none => rfl
  | some p =>
    show (if p = pid then none else lastRecorded pid log) = _
    simp only [Option.some.injEq]

theorem consistent_checked {res : CheckResult M.hash} (h : Consistent s)
    (hres : Spares s.behavior res) :
    Consistent (s.checked res) := by
  intro pid
  show Matches (recordOf res.table pid)
    (lastRecorded pid ((res.evicted.map Event.evicted).toList ++ s.log))
  rw [hres pid, lastRecorded_evictions]
  split
  · exact matches_blank
  · exact h pid

theorem openatWork_spares (tgid : Nat) (path : Bytes) (flags : UInt32) (io : WorkIo) :
    Spares s.behavior (s.openatWork tgid path flags io) := by
  unfold State.openatWork
  split
  · exact spares_early
  · exact check_openat_spares M.ticks flags

theorem unlinkWork_spares (tgid : Nat) (path : Bytes) (io : WorkIo) :
    Spares s.behavior (s.unlinkWork tgid path io) := by
  unfold State.unlinkWork
  split
  · exact spares_early
  · exact check_unlink_spares

theorem renameWork_spares (tgid : Nat) (oldpath newpath : Bytes) (io io' : WorkIo) :
    Spares s.behavior (s.renameWork tgid oldpath newpath io io') := by
  unfold State.renameWork
  split
  · exact spares_early
  · exact check_rename_spares M.ticks _

theorem consistent_recordExec (h : Consistent s) (hashed : HashedExec) (io : WorkIo) :
    Consistent (s.recordExec hashed io) := by
  intro pid
  show Matches (recordOf (av_behavior_record_exec s.behavior io.jiffies io.kzalloc_ok
    hashed.call.tgid hashed.abs_path hashed.trusted hashed.call.start_time) pid)
    (lastRecorded pid (((if (get_or_create_entry s.behavior hashed.call.tgid io.jiffies
      io.kzalloc_ok).2.isSome then [Event.recorded hashed] else []) ++ _) ++ s.log))
  rw [recordOf_record_exec, strscpy_eq_self hashed.fits, List.append_assoc]
  have hold : Matches (if evictedFor s.behavior hashed.call.tgid = some pid then ExecRecord.blank
      else recordOf s.behavior pid)
      (lastRecorded pid (((evictedFor s.behavior hashed.call.tgid).map Event.evicted).toList ++
        s.log)) := by
    rw [lastRecorded_evictions]
    split
    · exact matches_blank
    · exact h pid
  by_cases hfound : (get_or_create_entry s.behavior hashed.call.tgid io.jiffies
      io.kzalloc_ok).2.isSome = true
  · simp only [hfound, and_true, if_true, List.cons_append, List.nil_append, lastRecorded]
    by_cases hpid : pid = hashed.call.tgid
    · rw [if_pos hpid, if_pos hpid.symm]
      rfl
    · rw [if_neg hpid, if_neg (Ne.symm hpid)]
      exact hold
  · simp only [hfound, Bool.false_eq_true, and_false, if_false, List.nil_append]
    exact hold

theorem consistent_sweep (h : Consistent s) (cur_start : Nat → Option UInt64) :
    Consistent
      ({ s with behavior := behavior_gc_fn s.behavior cur_start }.note [.swept cur_start]) := by
  intro pid
  show Matches (recordOf (behavior_gc_fn s.behavior cur_start) pid)
    ((lastRecorded pid s.log).filter fun h => keptBySweep (cur_start pid) h.call.start_time)
  rw [recordOf_gc]
  have hold := h pid
  cases hl : lastRecorded pid s.log with
  | none =>
    rw [hl] at hold
    unfold gcRecord
    split
    · exact matches_blank
    · split
      · exact ⟨rfl, rfl⟩
      · exact hold
  | some r =>
    rw [hl] at hold
    have hr : recordOf s.behavior pid = ⟨r.abs_path, r.trusted, r.call.start_time⟩ := hold
    rw [hr]
    unfold gcRecord keptBySweep
    cases cur_start pid with
    | none => exact matches_blank
    | some start =>
      dsimp only
      by_cases hstart : r.call.start_time ≠ 0 ∧ r.call.start_time ≠ start
      · rw [if_pos hstart, Option.filter_some, if_neg (by simp [hstart])]
        exact ⟨rfl, rfl⟩
      · rw [if_neg hstart, Option.filter_some, if_pos]
        · rfl
        · simp only [Bool.or_eq_true, decide_eq_true_eq]
          by_contra hne
          exact hstart (not_or.mp hne)

/-- A step that leaves table and history alone. -/
private theorem consistent_same (h : Consistent s) (hbehavior : s'.behavior = s.behavior)
    (hlog : ∀ pid, lastRecorded pid s'.log = lastRecorded pid s.log) : Consistent s' := by
  intro pid
  rw [hbehavior, hlog]
  exact h pid

theorem take_eq {item : Item} {f : State M → State M}
    (hs : (s.take item).map f = some s') :
    item ∈ s.queue ∧ s' = f { s with queue := s.queue.erase item } := by
  unfold State.take at hs
  split at hs
  · rename_i hmem
    obtain rfl := Option.some.inj hs
    exact ⟨hmem, rfl⟩
  · cases hs

theorem step_consistent (h : Consistent s) (hs : step s a = some s') : Consistent s' := by
  have htaken : ∀ item, Consistent { s with queue := s.queue.erase item } :=
    fun _ => consistent_same h rfl fun _ => rfl
  cases a with
  | spawn pid p =>
    simp only [step] at hs
    split at hs
    · obtain rfl := Option.some.inj hs
      exact consistent_same h rfl fun _ => rfl
    · cases hs
  | exit pid =>
    obtain rfl := Option.some.inj hs
    exact consistent_same h rfl fun _ => rfl
  | trustAdd ok hex name =>
    obtain rfl := Option.some.inj hs
    exact consistent_same h rfl fun _ => rfl
  | trustDel hex =>
    obtain rfl := Option.some.inj hs
    refine consistent_same h rfl fun pid => ?_
    show lastRecorded pid ((if _ then [Event.untrusted hex] else []) ++ s.log) = _
    split <;> rfl
  | execve call =>
    simp only [step] at hs
    split at hs
    · obtain rfl := Option.some.inj hs
      exact consistent_same h rfl fun _ => rfl
    · cases hs
  | execDone call file =>
    simp only [step] at hs
    split at hs
    · obtain ⟨p, -, rfl⟩ := Option.map_eq_some_iff.mp hs
      exact consistent_same h rfl fun _ => rfl
    · cases hs
  | execFail call =>
    obtain rfl := Option.some.inj hs
    exact consistent_same h rfl fun _ => rfl
  | openat tgid path flags =>
    obtain ⟨p, -, rfl⟩ := Option.map_eq_some_iff.mp hs
    exact consistent_same h rfl fun _ => rfl
  | unlink tgid target =>
    obtain ⟨p, -, rfl⟩ := Option.map_eq_some_iff.mp hs
    exact consistent_same h rfl fun _ => rfl
  | rename tgid oldpath newpath =>
    obtain ⟨p, -, rfl⟩ := Option.map_eq_some_iff.mp hs
    exact consistent_same h rfl fun _ => rfl
  | hashExec call io opened =>
    obtain ⟨-, rfl⟩ := take_eq hs
    refine consistent_same (htaken (.exec call)) ?_ ?_
    · unfold State.hashExec
      split
      · rfl
      · split <;> rfl
    · intro pid
      unfold State.hashExec
      split
      · rfl
      · split <;> rfl
  | recordExec hashed io =>
    obtain ⟨-, rfl⟩ := take_eq hs
    exact consistent_recordExec (htaken _) hashed io
  | workOpenat tgid path flags io =>
    obtain ⟨-, rfl⟩ := take_eq hs
    exact consistent_checked (htaken _) (openatWork_spares tgid path flags io)
  | workUnlink tgid target caller io =>
    obtain ⟨-, rfl⟩ := take_eq hs
    exact consistent_checked (htaken _) (unlinkWork_spares tgid target.path io)
  | workRename tgid oldpath newpath io io' =>
    obtain ⟨-, rfl⟩ := take_eq hs
    exact consistent_checked (htaken _) (renameWork_spares tgid oldpath newpath io io')
  | sweep =>
    obtain rfl := Option.some.inj hs
    exact consistent_sweep h _

end Steps

/-- A machine to run concrete histories on: file `n` has 64 times the digit `n` as its hash. -/
def digitMachine : Machine where
  hash := ⟨fun _ => 0, fun _ x => ⟨x.toNat % _, Nat.mod_lt _ (by positivity)⟩⟩
  ticks := hz1000
  sha256 := fun file => List.replicate 64 (UInt8.ofNat (48 + file))
  hashable := fun _ => true

/-- All calls of the item succeed, at time 0, with the base directory `/`. -/
def quietIo : WorkIo := ⟨true, ⟨true, some [slash], true⟩, 0, true⟩

end KernelAv.Kernel.BehaviorSystem
