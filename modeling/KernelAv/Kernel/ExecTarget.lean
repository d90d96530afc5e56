/- digest: Which file an exec runs and which one its work item opens, for every process view. -/

import KernelAv.Kernel.Paths
import KernelAv.Lib.PathWalk

set_option autoImplicit false
set_option relaxedAutoImplicit false

namespace KernelAv.Kernel.ExecTarget

open KernelAv.Lib.CText
open KernelAv.Lib.PathWalk
open KernelAv.Kernel.Paths (PATH_MAX slash dot)

def AT_FDCWD : Int := -100
def AT_EMPTY_PATH : Nat := 0x1000
def MAXSYMLINKS : Nat := 40

/-- The mounted file systems. A place is a mount and a dentry on it, so that two mount namespaces
have different places; `regular` gives the inode of a regular file. -/
structure Vfs (τ ν : Type) extends FileTree Bytes τ ν where
  regular : ν → Option Nat
  regular_not_link : ∀ n i, regular n = some i → isLink n = false

/-- What a process brings to a lookup: its task and root, its working directory, its files. -/
structure ProcessView (τ ν : Type) where
  view : View τ ν
  cwd : ν
  fd : Int → Option ν

def component (c : Bytes) : Component Bytes :=
  if c = [] ∨ c = [dot] then .here else if c = [dot, dot] then .up else .name c

def pathText (path : Bytes) : PathText Bytes :=
  ⟨path.head? = some slash, (path.splitOn slash).map component⟩

/-- The two system calls that the module hooks. -/
inductive ExecSyscall where
  | execve (path : Bytes)
  | execveat (dfd : Int) (path : Bytes) (flags : Nat)
  deriving DecidableEq

namespace ExecSyscall

def path : ExecSyscall → Bytes
  | execve path => path
  | execveat _ path _ => path

def dfd : ExecSyscall → Int
  | execve _ => AT_FDCWD
  | execveat dfd _ _ => dfd

def emptyPathFlag : ExecSyscall → Bool
  | execve _ => false
  | execveat _ _ flags => flags &&& AT_EMPTY_PATH ≠ 0

end ExecSyscall

section Calls

variable {τ ν : Type} [DecidableEq ν] (F : Vfs τ ν)

/-- Also where the kernel's own lookups take a descriptor from. -/
def resolve_dfd_path (P : ProcessView τ ν) (dfd : Int) : Option ν :=
  if dfd = AT_FDCWD then some P.cwd else P.fd dfd

/-- The kernel's lookup for the call itself. -/
def execLookup (P : ProcessView τ ν) (call : ExecSyscall) : Option ν :=
  if PATH_MAX ≤ call.path.length then none
  else if call.path = [] then
    if call.emptyPathFlag then resolve_dfd_path P call.dfd else none
  else if call.path.head? = some slash then
    resolve F.toFileTree P.view MAXSYMLINKS (pathText call.path) P.view.root
  else
    (resolve_dfd_path P call.dfd).bind fun base =>
      resolve F.toFileTree P.view MAXSYMLINKS (pathText call.path) base

/-- A call that succeeds runs this inode. -/
def Runs (P : ProcessView τ ν) (call : ExecSyscall) (ino : Nat) : Prop :=
  (execLookup F P call).bind F.regular = some ino

/-- Outcomes of the hook's own calls: the admission, the allocation, the copy of the pathname. -/
structure HookIo where
  admitted : Bool
  kmalloc_ok : Bool
  copied : Bool
  deriving DecidableEq

/-- The path and the base directory in a queued `struct av_work`. -/
structure QueuedPath (ν : Type) where
  path : Bytes
  pwd : ν
  deriving DecidableEq

def handler_pre (io : HookIo) (P : ProcessView τ ν) (path : Bytes) : Option (QueuedPath ν) :=
  if !io.admitted then none
  else if !io.kmalloc_ok then none
  else if !io.copied || path = [] || PATH_MAX ≤ path.length then none
  else some ⟨path, P.cwd⟩

def handler_pre_execveat (io : HookIo) (P : ProcessView τ ν) (dfd : Int) (path : Bytes)
    (empty_path : Bool) : Option (QueuedPath ν) :=
  match resolve_dfd_path P dfd with
  | none => none
  | some base =>
      if !io.admitted then none
      else if !io.kmalloc_ok then none
      else if !io.copied || PATH_MAX ≤ path.length || (path = [] && !empty_path) then none
      else some ⟨path, base⟩

/-- The item that the call's hook queues. -/
def queued (io : HookIo) (P : ProcessView τ ν) : ExecSyscall → Option (QueuedPath ν)
  | .execve path => handler_pre io P path
  | .execveat dfd path flags =>
      handler_pre_execveat io P dfd path (ExecSyscall.execveat dfd path flags).emptyPathFlag

def dentry_open (task : τ) (loc : ν) : Option ν :=
  if !F.isLink loc && F.allows task loc then some loc else none

/-- `filp_open`: the path is walked from the caller's own root. -/
def filp_open (worker : View τ ν) (path : Bytes) : Option ν :=
  (resolve F.toFileTree worker MAXSYMLINKS (pathText path) worker.root).bind
    (dentry_open F worker.task)

/-- `vfs_path_lookup`: the directory it is given is also the root of the walk, which `..` does not
leave and from which absolute links start. -/
def vfs_path_lookup (worker : View τ ν) (pwd : ν) (path : Bytes) : Option ν :=
  resolve F.toFileTree ⟨worker.task, pwd⟩ MAXSYMLINKS (pathText path) pwd

/-- Run by a kernel worker, with its task and root. -/
def open_exec_target (worker : View τ ν) (path : Bytes) (pwd : ν) : Option ν :=
  if path = [] then dentry_open F worker.task pwd
  else if path.head? = some slash then filp_open F worker path
  else (vfs_path_lookup F worker pwd path).bind (dentry_open F worker.task)

/-- The call has a work item, and the item opens this inode. -/
def Hashes (worker : View τ ν) (io : HookIo) (P : ProcessView τ ν) (call : ExecSyscall)
    (ino : Nat) : Prop :=
  ∃ item, queued io P call = some item ∧
    (open_exec_target F worker item.path item.pwd).bind F.regular = some ino

/-- The calls of the hook succeed. -/
structure HookIo.Succeeds (io : HookIo) : Prop where
  admitted : io.admitted = true
  kmalloc_ok : io.kmalloc_ok = true
  copied : io.copied = true

/-- The worker's lookup never parts from the process's: an absolute path starts at the same root,
a relative one never goes up from its base directory nor over an absolute link out of it, no link
on the way says something else to the worker, and the worker may search and open what it needs. -/
structure LookupShared (worker : View τ ν) (P : ProcessView τ ν) (call : ExecSyscall) : Prop where
  base : resolve_dfd_path P call.dfd ≠ none
  absolute : call.path.head? = some slash → worker.root = P.view.root ∧
    WalkSafe F.toFileTree P.view worker MAXSYMLINKS (pathText call.path).components P.view.root
  relative : call.path ≠ [] → call.path.head? ≠ some slash →
    ∀ base, resolve_dfd_path P call.dfd = some base →
      WalkSafe F.toFileTree P.view ⟨worker.task, base⟩ MAXSYMLINKS
        (pathText call.path).components base
  opens : ∀ loc, execLookup F P call = some loc → F.allows worker.task loc = true

end Calls

section Lookups

variable {τ ν : Type} {F : Vfs τ ν} {worker : View τ ν} {io : HookIo} {P : ProcessView τ ν}
  {call : ExecSyscall}

/-- An item is queued exactly if the hook's calls succeed, the descriptor names a file or the
working directory, and the path is not too long, nor empty without the flag. -/
theorem queued_iff {item : QueuedPath ν} : queued io P call = some item ↔
    io.Succeeds ∧ resolve_dfd_path P call.dfd = some item.pwd ∧ item.path = call.path ∧
      call.path.length < PATH_MAX ∧ (call.path = [] → call.emptyPathFlag = true) := by
  obtain ⟨path, pwd⟩ := item
  have hio : io.Succeeds ↔ io.admitted = true ∧ io.kmalloc_ok = true ∧ io.copied = true :=
    ⟨fun h => ⟨h.admitted, h.kmalloc_ok, h.copied⟩, fun h => ⟨h.1, h.2.1, h.2.2⟩⟩
  rw [hio]
  cases call with
  | execve p =>
    simp only [queued, handler_pre, ExecSyscall.dfd, ExecSyscall.path, ExecSyscall.emptyPathFlag,
      resolve_dfd_path, if_true]
    cases io.admitted <;> cases io.kmalloc_ok <;> cases io.copied <;> simp
    constructor
    · rintro ⟨⟨hne, hlen⟩, rfl, rfl⟩
      exact ⟨rfl, rfl, hlen, hne⟩
    · rintro ⟨rfl, rfl, hlen, hne⟩
      exact ⟨⟨hne, hlen⟩, rfl, rfl⟩
  | execveat dfd p flags =>
    simp only [queued, handler_pre_execveat, ExecSyscall.dfd, ExecSyscall.path]
    cases resolve_dfd_path P dfd with
    | none => simp
    | some base =>
      cases io.admitted <;> cases io.kmalloc_ok <;> cases io.copied <;> simp
      constructor
      · rintro ⟨⟨hlen, hne⟩, rfl, rfl⟩
        exact ⟨rfl, rfl, hlen, hne⟩
      · rintro ⟨rfl, rfl, hlen, hne⟩
        exact ⟨⟨hlen, hne⟩, rfl, rfl⟩

private theorem dentry_open_regular {loc : ν} {ino : Nat} (hf : F.regular loc = some ino)
    (ha : F.allows worker.task loc = true) :
    dentry_open F worker.task loc = some loc := by
  rw [dentry_open, F.regular_not_link loc ino hf, ha]
  rfl

variable [DecidableEq ν]

private theorem hashes_of_shared {ino : Nat} (hio : io.Succeeds) (h : LookupShared F worker P call)
    (hruns : Runs F P call ino) : Hashes F worker io P call ino := by
  obtain ⟨base, hbase⟩ := Option.ne_none_iff_exists'.mp h.base
  obtain ⟨loc, hloc, hfile⟩ := Option.bind_eq_some_iff.mp hruns
  have hopen : dentry_open F worker.task loc = some loc :=
    dentry_open_regular hfile (h.opens loc hloc)
  have hlookup := hloc
  rw [execLookup] at hlookup
  split at hlookup
  · cases hlookup
  rename_i hlen
  have hqueued : ∀ hflag : call.path = [] → call.emptyPathFlag = true,
      queued io P call = some ⟨call.path, base⟩ :=
    fun hflag => queued_iff.mpr ⟨hio, hbase, rfl, Nat.lt_of_not_le hlen, hflag⟩
  split at hlookup
  · rename_i hempty
    split at hlookup
    · rename_i hflag
      refine ⟨_, hqueued fun _ => hflag, ?_⟩
      obtain rfl := Option.some.inj (hbase.symm.trans hlookup)
      rw [open_exec_target, if_pos hempty, hopen]
      exact hfile
    · cases hlookup
  rename_i hne
  refine ⟨_, hqueued fun hempty => absurd hempty hne, ?_⟩
  rw [open_exec_target, if_neg hne]
  split at hlookup
  · rename_i habs
    obtain ⟨hroot, hsafe⟩ := h.absolute habs
    have htext : (pathText call.path).absolute = true := decide_eq_true habs
    have hwalk : resolve F.toFileTree worker MAXSYMLINKS (pathText call.path) worker.root =
        some loc := by
      rw [resolve, htext, if_pos rfl] at hlookup ⊢
      rw [hroot]
      exact walk_eq_of_safe hsafe hlookup
    rw [if_pos habs, filp_open, hwalk, Option.bind_some, hopen]
    exact hfile
  · rename_i hrel
    have htext : (pathText call.path).absolute = false := decide_eq_false hrel
    rw [hbase, Option.bind_some] at hlookup
    have hwalk : vfs_path_lookup F worker base call.path = some loc := by
      rw [vfs_path_lookup]
      rw [resolve, htext] at hlookup ⊢
      exact walk_eq_of_safe (h.relative hne hrel base hbase) hlookup
    rw [if_neg hrel, hwalk, Option.bind_some, hopen]
    exact hfile

/-- While the two lookups do not part, the item hashes what the call runs; and a call with an empty
pathname and no AT_EMPTY_PATH queues nothing. -/
theorem hashed_file_is_run_file :
    (∀ (F : Vfs τ ν) (worker : View τ ν) (io : HookIo) (P : ProcessView τ ν) (call : ExecSyscall)
        (ino : Nat), io.Succeeds → LookupShared F worker P call → Runs F P call ino →
          Hashes F worker io P call ino) ∧
      ∀ (io : HookIo) (P : ProcessView τ ν) (dfd : Int) (flags : Nat),
        flags &&& AT_EMPTY_PATH = 0 → queued io P (.execveat dfd [] flags) = none := by
  refine ⟨fun F worker io P call ino hio h hruns => hashes_of_shared hio h hruns, ?_⟩
  intro io P dfd flags hflag
  rw [Option.eq_none_iff_forall_ne_some]
  intro item hitem
  obtain ⟨-, -, -, -, hempty⟩ := queued_iff.mp hitem
  have hset : (ExecSyscall.execveat dfd [] flags).emptyPathFlag = true := hempty rfl
  exact of_decide_eq_true hset hflag

end Lookups

section Examples

/-- The files /x and /a/x, two inodes. -/
private def twoFiles : Vfs Nat Nat where
  directory := fun n => n < 2
  entry := fun n k =>
    if n = 0 ∧ k = lit "a" then some 1
    else if n = 0 ∧ k = lit "x" then some 2
    else if n = 1 ∧ k = lit "x" then some 3
    else none
  parent := fun n => if n < 2 then some 0 else none
  isLink := fun _ => false
  target := fun _ _ => .broken
  allows := fun _ _ => true
  regular := fun n => if n < 2 then none else some n
  regular_not_link := fun _ _ _ => rfl

private def kworker : View Nat Nat := ⟨0, 0⟩

private def ioOk : HookIo := ⟨true, true, true⟩

/-- A process in /a, with the given root directory. -/
private def inA (root : Nat) : ProcessView Nat Nat := ⟨⟨5, root⟩, 1, fun _ => none⟩

theorem relative_exec_hashed :
    Runs twoFiles (inA 0) (.execve (lit "./x")) 3 ∧
      Hashes twoFiles kworker ioOk (inA 0) (.execve (lit "./x")) 3 := by
  have hruns : Runs twoFiles (inA 0) (.execve (lit "./x")) 3 := by
    unfold Runs
    decide +kernel
  refine ⟨hruns, hashed_file_is_run_file.1 _ _ _ _ _ _ ⟨rfl, rfl, rfl⟩ ?_ hruns⟩
  refine ⟨by decide, fun habs => absurd habs (by decide), fun _ _ base hbase => ?_, fun _ _ => rfl⟩
  obtain rfl := Option.some.inj hbase
  have hstep : ∀ c loc, c ≠ .up → StepSafe twoFiles.toFileTree (inA 0).view ⟨0, 1⟩ c loc :=
    fun c loc hc => ⟨rfl, fun h => absurd h hc⟩
  refine And.intro (And.intro (hstep _ _ (by decide)) (And.intro (hstep _ _ (by decide)) ?_)) ?_
  · exact trivial
  · exact trivial

/-- A process in /a that runs ../x runs /x, and the item hashes /a/x; one with the root directory
/a that runs /x runs /a/x, and the item hashes /x. -/
theorem other_file_hashed :
    (Runs twoFiles (inA 0) (.execve (lit "../x")) 2 ∧
      ¬ Hashes twoFiles kworker ioOk (inA 0) (.execve (lit "../x")) 2) ∧
    Runs twoFiles (inA 1) (.execve (lit "/x")) 3 ∧
      ¬ Hashes twoFiles kworker ioOk (inA 1) (.execve (lit "/x")) 3 := by
  have hother : ∀ {P : ProcessView Nat Nat} {call : ExecSyscall} {item : QueuedPath Nat}
      {ino ino' : Nat}, queued ioOk P call = some item →
      (open_exec_target twoFiles kworker item.path item.pwd).bind twoFiles.regular = some ino' →
      ino' ≠ ino → ¬ Hashes twoFiles kworker ioOk P call ino := by
    rintro P call item ino ino' hq hino hne ⟨item', hq', h⟩
    obtain rfl := Option.some.inj (hq.symm.trans hq')
    exact hne (Option.some.inj (hino.symm.trans h))
  have hdots : queued ioOk (inA 0) (.execve (lit "../x")) = some ⟨lit "../x", 1⟩ := by
    decide +kernel
  have habs : queued ioOk (inA 1) (.execve (lit "/x")) = some ⟨lit "/x", 1⟩ := by
    decide +kernel
  have hdecoy : (open_exec_target twoFiles kworker (lit "../x") 1).bind twoFiles.regular =
      some 3 := by
    decide +kernel
  have houtside : (open_exec_target twoFiles kworker (lit "/x") 1).bind twoFiles.regular =
      some 2 := by
    decide +kernel
  refine ⟨⟨?_, hother hdots hdecoy (by decide)⟩, ?_, hother habs houtside (by decide)⟩
  · unfold Runs
    decide +kernel
  · unfold Runs
    decide +kernel

end Examples

end KernelAv.Kernel.ExecTarget
