/- digest: Scans and commands at once on one quarantine, one system call at a time. -/

import KernelAv.Daemon.Quarantine
import KernelAv.Lib.Run

set_option autoImplicit false
set_option relaxedAutoImplicit false

namespace KernelAv.Daemon.QuarantineCalls

open KernelAv.Lib.CText
open KernelAv.Lib.Files
open KernelAv.Daemon.Sidecar
open KernelAv.Daemon.Quarantine

/-- A call of `quarantine_file`, or a command of a client, and how far it is. -/
inductive Call where
  | quarantine (c : Conviction) (p : QuarantineFile)
  | restore (id : Bytes) (p : Restore)
  | delete (id : Bytes) (p : Delete)
  deriving DecidableEq

def Call.step (S : Store) (o : Outcome) (F : Fs) : Call → Fs × Call
  | .quarantine c p => ((p.step S o F c).1, .quarantine c (p.step S o F c).2)
  | .restore id p => ((p.step S o F id).1, .restore id (p.step S o F id).2)
  | .delete id p => ((p.step S o F id).1, .delete id (p.step S o F id).2)

/-- The daemon's calls of any of its threads, and the file system. Beside it stands for each inode
what it had in mode and owner at first: an original what it came with, a copy what its original
came with. -/
structure Avd where
  files : Fs
  calls : List Call
  first : Nat → Stat

inductive Action where
  | convict (c : Conviction)
  | restore (id : Bytes)
  | delete (id : Bytes)
  | call (t : Nat) (o : Outcome)

/-- A new inode comes with what it is created with; a copy takes over what its original came
with. -/
def Avd.firstAfter (d : Avd) (F : Fs) : Call → Nat → Stat
  | .quarantine c (.openCopy _) => Function.update d.first d.files.next (d.first c.fd)
  | .quarantine _ (.openMeta _) =>
      Function.update d.first d.files.next (statOf (F.inodes d.files.next))
  | _ => d.first

/-- After the next system call of the call `x` at place `t`. -/
def Avd.advance (S : Store) (d : Avd) (t : Nat) (x : Call) (o : Outcome) : Avd :=
  ⟨(x.step S o d.files).1, d.calls.set t (x.step S o d.files).2,
    d.firstAfter (x.step S o d.files).1 x⟩

def Avd.step (S : Store) (d : Avd) : Action → Option Avd
  | .convict c =>
      if c.fd < d.files.next then
        some { d with calls := d.calls ++ [.quarantine c .ensure_quarantine_dir] }
      else none
  | .restore id => some { d with calls := d.calls ++ [.restore id (Restore.start S id)] }
  | .delete id => some { d with calls := d.calls ++ [.delete id (Delete.start S id)] }
  | .call t o => d.calls[t]?.map fun x => d.advance S t x o

/-- A `quarantine_file` or a RESTORE that has not come to its end. -/
def Call.inProgress : Call → Bool
  | .quarantine _ (.done _) => false
  | .quarantine _ _ => true
  | .restore _ (.done _) => false
  | .restore _ _ => true
  | .delete _ _ => false

/-- The entry of an inode has its sidecar. -/
def Described (S : Store) (d : Avd) (id : Bytes) (j : Nat) : Prop :=
  ∃ s, d.files.names (S.root, metaName id) = some s ∧
    AttributesBack (d.files.inodes s).data (some (d.first j))

/-- Every entry has the mode 0000, and a sidecar with the mode and the owner that its file had at
first. -/
def Sound (S : Store) (d : Avd) : Prop :=
  ∀ id j, d.files.names (S.root, entryName id) = some j →
    (d.files.inodes j).perm = 0 ∧ Described S d id j

/-- The daemon has just started: what is in the quarantine is sound, and anything else has the
mode and the owner it came with. -/
structure Started (S : Store) (d : Avd) : Prop where
  no_calls : d.calls = []
  sound : Sound S d
  first_eq : ∀ i, (∀ id, d.files.names (S.root, entryName id) ≠ some i) →
    d.first i = statOf (d.files.inodes i)

end KernelAv.Daemon.QuarantineCalls
