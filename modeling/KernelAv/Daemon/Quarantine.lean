/- digest: The quarantine, call by call: `quarantine_file`, and the commands RESTORE and DELETE. -/

import KernelAv.Daemon.Sidecar
import KernelAv.Lib.Files

set_option autoImplicit false
set_option relaxedAutoImplicit false

namespace KernelAv.Daemon.Quarantine

open KernelAv.Lib.CText
open KernelAv.Lib.Files
open KernelAv.Daemon.Sidecar

def NAME_MAX : Nat := 255
def COPY_BUFFER : Nat := 65536
def slash : UInt8 := 47
def dot : UInt8 := 46

/-- What stands after the last slash: the base name of `strrchr`. -/
def basename (path : Bytes) : Bytes := (path.reverse.takeWhile (· ≠ slash)).reverse

/-- What stands before it, the slash included. -/
def dirname (path : Bytes) : Bytes := (path.reverse.dropWhile (· ≠ slash)).reverse

/-- A directory, and a name in it. -/
abbrev Name := Nat × Bytes

abbrev Fs := Disk Name

/-- The directories, which none of the calls below makes, removes or renames: what the part of a
path up to its last slash leads to, and the file system of each directory. -/
structure Store where
  quarantine_dir : Bytes
  dir : Bytes → Option Nat
  dev : Nat → Nat
  root : Nat
  dir_root : dir (quarantine_dir ++ [slash]) = some root
  getpid : Nat

inductive Place where
  | entry (n : Name)
  | directory

namespace Store

variable (S : Store)

def lookup (path : Bytes) : Except Errno Place :=
  if PATH_MAX ≤ path.length then .error .ENAMETOOLONG
  else if path = [] then .error .ENOENT
  else
    match S.dir (dirname path) with
    | none => .error .ENOENT
    | some d =>
        if basename path ∈ [[], [dot], [dot, dot]] then .ok .directory
        else if NAME_MAX < (basename path).length then .error .ENAMETOOLONG
        else .ok (.entry (d, basename path))

/-- A call on the name that a path leads to. -/
def withName {α : Type} (path : Bytes) (f : Name → Except Errno α) : Except Errno α :=
  match S.lookup path with
  | .error e => .error e
  | .ok .directory => .error .EISDIR
  | .ok (.entry n) => f n

variable (F : Fs) (path : Bytes)

def linkat (fd : Nat) : Except Errno Fs :=
  S.withName path fun n => F.linkat n fd fun n => S.dev n.1

def openExcl (mode : UInt32) : Except Errno (Fs × Nat) :=
  S.withName path fun n => F.openExcl n (fun n => S.dev n.1) mode

def openRead : Except Errno Nat := S.withName path F.openRead

/-- The inode, unless the path leads to a directory. -/
def lstat : Except Errno (Option Nat) :=
  match S.lookup path with
  | .error e => .error e
  | .ok .directory => .ok none
  | .ok (.entry n) => (F.lstat n).map some

def unlink : Except Errno Fs := S.withName path F.unlink

def chmod (mode : UInt32) : Except Errno Fs :=
  S.withName path fun n => (F.lstat n).map fun i => F.modify i (Inode.chmod mode)

def rename (newpath : Bytes) : Except Errno Fs :=
  S.withName path fun n => S.withName newpath fun m => F.rename n m fun n => S.dev n.1

end Store

/-- What the environment adds to one call: whether it lets the call succeed, how many bytes a read
or a write takes at most, and the clocks. -/
structure Outcome where
  ok : Bool
  n : Nat
  now : Nat × Nat
  time : Int64
  deriving DecidableEq

def Outcome.call {α : Type} (o : Outcome) (r : Except Errno α) : Except Errno α :=
  if o.ok then r else .error .ENOMEM

/-- After a call whose failure is not looked at. -/
def bestEffort (F : Fs) (r : Except Errno Fs) : Fs :=
  match r with
  | .ok G => G
  | .error _ => F

def statOf (n : Inode) : Stat := ⟨n.st_mode, n.st_uid.val, n.st_gid.val⟩

section Names

variable (S : Store)

/-- The directive `%09ld`. -/
def fmt09 (n : Nat) : Bytes := List.replicate (9 - (fmtNat 10 n).length) 48 ++ fmtNat 10 n

def quarantine_id (now : Nat × Nat) (base : Bytes) : Bytes :=
  fmtNat 10 S.getpid ++ lit "_" ++ fmtNat 10 now.1 ++ fmt09 now.2 ++ lit "_" ++ base

def entryName (id : Bytes) : Bytes := id ++ lit ".quarantined"

def metaName (id : Bytes) : Bytes := id ++ lit ".quarantined.meta"

def dest (id : Bytes) : Bytes := S.quarantine_dir ++ [slash] ++ entryName id

def meta_path (id : Bytes) : Bytes := dest S id ++ lit ".meta"

def quarantine_id_valid (id : Bytes) : Bool :=
  id ≠ [] && !id.contains slash && id ≠ [dot] && id ≠ [dot, dot] && id.length < PATH_MAX - 32

end Names

/-- What `quarantine_file` is called with. -/
structure Conviction where
  fd : Nat
  path : Bytes
  rule_name : Bytes
  sha256_hex : Bytes
  deriving DecidableEq

structure Kept where
  orig_st : Option Stat
  id : Bytes
  deriving DecidableEq

/-- How `quarantine_file` ends: without an entry, or with one, with or without its sidecar, and
with the original removed or not. -/
inductive QuarantineEnd where
  | refused
  | kept (id : Bytes) (meta_ok removed : Bool)
  deriving DecidableEq

/-- The call that `quarantine_file` makes next. -/
inductive QuarantineFile where
  | ensure_quarantine_dir
  | fstat
  | clock_gettime (orig_st : Option Stat)
  | linkat (k : Kept)
  | lseek (k : Kept)
  | openCopy (k : Kept)
  | read (k : Kept) (out_fd off : Nat)
  | write (k : Kept) (out_fd off : Nat) (buf : Bytes)
  | closeCopy (k : Kept) (out_fd : Nat) (copied : Bool)
  | unlinkCopy (k : Kept)
  | openMeta (k : Kept)
  | writeMeta (k : Kept) (mfd : Nat) (rest : Bytes)
  | unlinkMeta (k : Kept)
  | chmod (k : Kept) (meta_ok : Bool)
  | unlinkDest (k : Kept)
  | fstatAgain (k : Kept) (meta_ok : Bool)
  | lstat (k : Kept) (meta_ok : Bool)
  | unlink (k : Kept) (meta_ok : Bool)
  | done (r : QuarantineEnd)
  deriving DecidableEq

section Steps

variable (S : Store) (o : Outcome) (F : Fs)

/-- One call of `quarantine_file`, of `copy_fd_to` or of `write_quarantine_meta`. -/
def QuarantineFile.step (c : Conviction) : QuarantineFile → Fs × QuarantineFile
  | .ensure_quarantine_dir => (F, if o.ok then .fstat else .done .refused)
  | .fstat => (F, .clock_gettime (if o.ok then some (statOf (F.inodes c.fd)) else none))
  | .clock_gettime orig_st =>
      let id := quarantine_id S o.now (basename c.path)
      if PATH_MAX ≤ (dest S id).length then (F, .done .refused) else (F, .linkat ⟨orig_st, id⟩)
  | .linkat k =>
      match o.call (S.linkat F (dest S k.id) c.fd) with
      | .ok G => (G, .openMeta k)
      | .error _ => (F, .lseek k)
  | .lseek k => (F, if o.ok then .openCopy k else .done .refused)
  | .openCopy k =>
      match o.call (S.openExcl F (dest S k.id) 0o600) with
      | .ok (G, out_fd) => (G, .read k out_fd 0)
      | .error _ => (F, .done .refused)
  | .read k out_fd off =>
      let buf := ((F.inodes c.fd).data.drop off).take (min (o.n + 1) COPY_BUFFER)
      if !o.ok then (F, .closeCopy k out_fd false)
      else if buf = [] then (F, .closeCopy k out_fd true)
      else (F, .write k out_fd off buf)
  | .write k out_fd off buf =>
      if o.ok then (F.modify out_fd (Inode.append buf), .read k out_fd (off + buf.length))
      else (F.modify out_fd (Inode.append (buf.dropLast.take o.n)), .closeCopy k out_fd false)
  | .closeCopy k out_fd copied =>
      -- nobody looks at what `close` returns
      (if o.ok then F else F.modify out_fd fun n => { n with data := n.data.take o.n },
        if copied then .openMeta k else .unlinkCopy k)
  | .unlinkCopy k => (bestEffort F (o.call (S.unlink F (dest S k.id))), .done .refused)
  | .openMeta k =>
      match write_quarantine_meta ⟨true, true, true⟩ (dest S k.id) k.orig_st o.time c.path
          c.rule_name c.sha256_hex with
      | none => (F, .chmod k false)
      | some (name, text) =>
          match o.call (S.openExcl F name 0o600) with
          | .ok (G, mfd) => (G, .writeMeta k mfd text)
          | .error _ => (F, .chmod k false)
  | .writeMeta k mfd rest =>
      if o.ok then
        (F.modify mfd (Inode.append (rest.take (o.n + 1))),
          if rest.drop (o.n + 1) = [] then .chmod k true
          else .writeMeta k mfd (rest.drop (o.n + 1)))
      else (F, .unlinkMeta k)
  | .unlinkMeta k => (bestEffort F (o.call (S.unlink F (meta_path S k.id))), .chmod k false)
  | .chmod k meta_ok =>
      match o.call (S.chmod F (dest S k.id) 0) with
      | .ok G => (G, .fstatAgain k meta_ok)
      | .error _ => (F, .unlinkDest k)
  | .unlinkDest k => (bestEffort F (o.call (S.unlink F (dest S k.id))), .done .refused)
  | .fstatAgain k meta_ok =>
      (F, if o.ok then .lstat k meta_ok else .done (.kept k.id meta_ok false))
  | .lstat k meta_ok =>
      match o.call (S.lstat F c.path) with
      | .ok (some i) =>
          if (F.inodes i).st_dev = (F.inodes c.fd).st_dev ∧ i = c.fd then (F, .unlink k meta_ok)
          else (F, .done (.kept k.id meta_ok false))
      | _ => (F, .done (.kept k.id meta_ok false))
  | .unlink k meta_ok =>
      match o.call (S.unlink F c.path) with
      | .ok G => (G, .done (.kept k.id meta_ok true))
      | .error _ => (F, .done (.kept k.id meta_ok false))
  | .done r => (F, .done r)

/-- What the client reads: `OK`, or `ERR` and a text. -/
inductive Reply where
  | ok
  | err (msg : Bytes)
  deriving DecidableEq

/-- The call that `cmd_quarantine_restore` makes next. -/
inductive Restore where
  | fopen
  | fread (mfd : Nat) (text : Bytes)
  | openDest (m : QuarantineMeta)
  | fstat (m : QuarantineMeta) (qfd : Nat)
  | lstat (m : QuarantineMeta) (qfd : Nat)
  | fchmod (m : QuarantineMeta) (qfd : Nat)
  | fchown (m : QuarantineMeta) (qfd : Nat)
  | rename (m : QuarantineMeta)
  | unlinkMeta
  | done (r : Reply)
  deriving DecidableEq

def invalidId : Reply := .err (lit "invalid id")

def pathError : Reply := .err (lit "internal path error")

/-- The paths of an entry and of its sidecar fit their buffers. -/
def pathsFit (id : Bytes) : Bool :=
  (dest S id).length < PATH_MAX * 2 && (meta_path S id).length < PATH_MAX * 2 + 8

def Restore.start (id : Bytes) : Restore :=
  if !quarantine_id_valid id then .done invalidId
  else if !pathsFit S id then .done pathError
  else .fopen

def noMetadata : Reply :=
  .err (lit ("no metadata for this id (quarantined before this feature existed, or corrupt) - " ++
    "cannot determine where to restore it"))

/-- One call of `cmd_quarantine_restore` or of `read_quarantine_meta`. -/
def Restore.step (id : Bytes) : Restore → Fs × Restore
  | .fopen =>
      match o.call (S.openRead F (meta_path S id)) with
      | .ok mfd => (F, .fread mfd [])
      | .error _ => (F, .done noMetadata)
  | .fread mfd text =>
      let buf := ((F.inodes mfd).data.drop text.length).take (o.n + 1)
      -- a failed read ends the loop as the end of the file does
      if o.ok && buf ≠ [] then (F, .fread mfd (text ++ buf))
      else
        match read_quarantine_meta (some text) with
        | none => (F, .done noMetadata)
        | some m => (F, .openDest m)
  | .openDest m =>
      match o.call (S.openRead F (dest S id)) with
      | .ok qfd => (F, .fstat m qfd)
      | .error _ => (F, .done (.err (lit "quarantined file not found")))
  | .fstat m qfd =>
      if !o.ok || !(F.inodes qfd).isReg then
        (F, .done (.err (lit "quarantined file is not a regular file - refusing to restore")))
      else (F, .lstat m qfd)
  | .lstat m qfd =>
      match o.call (S.lstat F m.original_path) with
      | .ok _ => (F, .done (.err (lit "original path is occupied - move or remove it first")))
      | .error _ => (F, .fchmod m qfd)
  | .fchmod m qfd =>
      if o.ok then (F.modify qfd (Inode.chmod m.original_mode), .fchown m qfd)
      else (F, .done (.err (lit "chmod failed")))
  | .fchown m qfd =>
      (if o.ok then F.modify qfd (Inode.chown m.original_uid m.original_gid) else F, .rename m)
  | .rename m =>
      match o.call (S.rename F (dest S id) m.original_path) with
      | .ok G => (G, .unlinkMeta)
      | .error _ => (F, .done (.err (lit
          "rename failed (different filesystem? check /var/lib/av-quarantine manually)")))
  | .unlinkMeta => (bestEffort F (o.call (S.unlink F (meta_path S id))), .done .ok)
  | .done r => (F, .done r)

/-- The call that `cmd_quarantine_delete` makes next. -/
inductive Delete where
  | unlinkDest
  | unlinkMeta
  | done (r : Reply)
  deriving DecidableEq

def Delete.start (id : Bytes) : Delete :=
  if !quarantine_id_valid id then .done invalidId
  else if !pathsFit S id then .done pathError
  else .unlinkDest

def Delete.step (id : Bytes) : Delete → Fs × Delete
  | .unlinkDest =>
      match o.call (S.unlink F (dest S id)) with
      | .ok G => (G, .unlinkMeta)
      | .error .ENOENT => (F, .unlinkMeta)
      | .error _ => (F, .done (.err (lit "delete failed")))
  | .unlinkMeta => (bestEffort F (o.call (S.unlink F (meta_path S id))), .done .ok)
  | .done r => (F, .done r)

end Steps

section Lookups

variable {S : Store} {path id : Bytes}

private theorem takeWhile_base {b : Bytes} (h : slash ∉ b) (p : Bytes) :
    (b.reverse ++ slash :: p).takeWhile (· ≠ slash) = b.reverse := by
  rw [List.takeWhile_append_of_pos]
  · simp
  · intro x hx
    rw [decide_eq_true_eq]
    rintro rfl
    exact h (List.mem_reverse.mp hx)

private theorem dropWhile_base {b : Bytes} (h : slash ∉ b) (p : Bytes) :
    (b.reverse ++ slash :: p).dropWhile (· ≠ slash) = slash :: p := by
  rw [List.dropWhile_append_of_pos]
  · simp
  · intro x hx
    rw [decide_eq_true_eq]
    rintro rfl
    exact h (List.mem_reverse.mp hx)

theorem basename_append {b : Bytes} (h : slash ∉ b) (p : Bytes) :
    basename (p ++ [slash] ++ b) = b := by
  unfold basename
  rw [List.append_assoc, List.reverse_append, List.reverse_append, List.reverse_singleton,
    List.append_assoc, List.singleton_append, takeWhile_base h, List.reverse_reverse]

theorem dirname_append {b : Bytes} (h : slash ∉ b) (p : Bytes) :
    dirname (p ++ [slash] ++ b) = p ++ [slash] := by
  unfold dirname
  rw [List.append_assoc, List.reverse_append, List.reverse_append, List.reverse_singleton,
    List.append_assoc, List.singleton_append, dropWhile_base h, List.reverse_cons,
    List.reverse_reverse]

theorem slash_not_mem_basename (path : Bytes) : slash ∉ basename path := by
  unfold basename
  rw [List.mem_reverse]
  intro h
  have hne := List.mem_takeWhile_imp h
  simp at hne

private theorem slash_not_mem_fmtNat (n : Nat) : slash ∉ fmtNat 10 n :=
  fmtNat_clean (by decide) (by decide) n slash (by decide)

theorem slash_not_mem_id (now : Nat × Nat) {base : Bytes} (h : slash ∉ base) :
    slash ∉ quarantine_id S now base := by
  have hpad : slash ∉ fmt09 now.2 := by
    unfold fmt09
    simp only [List.mem_append, List.mem_replicate, not_or, not_and]
    exact ⟨fun _ => by decide, slash_not_mem_fmtNat _⟩
  simp only [quarantine_id, List.mem_append, not_or]
  exact ⟨⟨⟨⟨⟨slash_not_mem_fmtNat _, by decide⟩, slash_not_mem_fmtNat _⟩, hpad⟩, by decide⟩, h⟩

theorem base_length_lt_id (now : Nat × Nat) (base : Bytes) :
    base.length < (quarantine_id S now base).length := by
  have hbar : (lit "_").length = 1 := by decide
  simp only [quarantine_id, List.length_append, hbar]
  omega

theorem call_ok {α : Type} {o : Outcome} {r : Except Errno α} {a : α} (h : o.call r = .ok a) :
    r = .ok a := by
  unfold Outcome.call at h
  split at h
  · exact h
  · cases h

theorem call_of_ok {α : Type} {o : Outcome} {r : Except Errno α} (h : o.ok = true) :
    o.call r = r := by
  rw [Outcome.call, if_pos h]

theorem withName_ok {α : Type} {f : Name → Except Errno α} {a : α} :
    S.withName path f = .ok a ↔ ∃ n, S.lookup path = .ok (.entry n) ∧ f n = .ok a := by
  unfold Store.withName
  split
  · rename_i e he
    simp [he]
  · rename_i he
    simp [he]
  · rename_i n he
    simp [he]

theorem withName_entry {α : Type} {f : Name → Except Errno α} {n : Name}
    (h : S.lookup path = .ok (.entry n)) : S.withName path f = f n := by
  unfold Store.withName
  rw [h]

/-- What a path leads to by name lies under its base name. -/
theorem lookup_basename {n : Name} (h : S.lookup path = .ok (.entry n)) :
    n.2 = basename path := by
  unfold Store.lookup at h
  repeat' split at h
  any_goals cases h
  rfl

theorem lookup_lengths {n : Name} (h : S.lookup path = .ok (.entry n)) :
    path.length < PATH_MAX ∧ n.2.length ≤ NAME_MAX := by
  unfold Store.lookup at h
  repeat' split at h
  any_goals cases h
  rename_i hpath _ _ _ _ _ hname
  exact ⟨not_le.mp hpath, not_lt.mp hname⟩

theorem lookup_ne_nil {n : Place} (h : S.lookup path = .ok n) : path ≠ [] := by
  rintro rfl
  cases h

private theorem lookup_within {b : Bytes} (hslash : slash ∉ b) (hlong : 2 < b.length) {n : Place}
    (h : S.lookup (S.quarantine_dir ++ [slash] ++ b) = .ok n) : n = .entry (S.root, b) := by
  unfold Store.lookup at h
  rw [dirname_append hslash, basename_append hslash, S.dir_root] at h
  have hname : b ∉ [[], [dot], [dot, dot]] := by
    intro hmem
    simp only [List.mem_cons, List.not_mem_nil, or_false] at hmem
    rcases hmem with rfl | rfl | rfl <;> simp at hlong
  repeat' split at h
  any_goals cases h
  rename_i hd _
  rw [Option.some.inj hd]

private theorem entryName_bare (hid : slash ∉ id) :
    slash ∉ entryName id ∧ 2 < (entryName id).length := by
  have hsuffix : (lit ".quarantined").length = 12 := by decide
  simp only [entryName, List.mem_append, not_or, List.length_append, hsuffix]
  exact ⟨⟨hid, by decide⟩, by omega⟩

private theorem metaName_bare (hid : slash ∉ id) :
    slash ∉ metaName id ∧ 2 < (metaName id).length := by
  have hsuffix : (lit ".quarantined.meta").length = 17 := by decide
  simp only [metaName, List.mem_append, not_or, List.length_append, hsuffix]
  exact ⟨⟨hid, by decide⟩, by omega⟩

theorem lookup_dest (hid : slash ∉ id) {n : Place} (h : S.lookup (dest S id) = .ok n) :
    n = .entry (S.root, entryName id) :=
  lookup_within (entryName_bare hid).1 (entryName_bare hid).2 h

/-- The quarantine directory is there, so a name in it can only be too long. -/
theorem lookup_dest_error (hid : slash ∉ id) {e : Errno} (h : S.lookup (dest S id) = .error e) :
    e = .ENAMETOOLONG := by
  have hslash := (entryName_bare hid).1
  unfold Store.lookup dest at h
  rw [dirname_append hslash, basename_append hslash, S.dir_root] at h
  repeat' split at h
  any_goals cases h
  · rfl
  · rename_i hnil
    simp at hnil
  · rename_i hnone
    cases hnone
  · rfl

theorem meta_path_eq (S : Store) (id : Bytes) :
    meta_path S id = S.quarantine_dir ++ [slash] ++ metaName id := by
  have hsuffix : lit ".quarantined" ++ lit ".meta" = lit ".quarantined.meta" := by decide
  simp only [meta_path, dest, entryName, metaName, List.append_assoc, ← hsuffix]

theorem lookup_meta (hid : slash ∉ id) {n : Place} (h : S.lookup (meta_path S id) = .ok n) :
    n = .entry (S.root, metaName id) := by
  rw [meta_path_eq] at h
  exact lookup_within (metaName_bare hid).1 (metaName_bare hid).2 h

/-- A short name in the quarantine is found. -/
private theorem lookup_short {b : Bytes} (hslash : slash ∉ b) (hlong : 2 < b.length)
    (hpath : (S.quarantine_dir ++ [slash] ++ b).length < PATH_MAX) (hname : b.length ≤ NAME_MAX) :
    S.lookup (S.quarantine_dir ++ [slash] ++ b) = .ok (.entry (S.root, b)) := by
  have hne : b ∉ [[], [dot], [dot, dot]] := by
    intro hmem
    simp only [List.mem_cons, List.not_mem_nil, or_false] at hmem
    rcases hmem with rfl | rfl | rfl <;> simp at hlong
  rw [Store.lookup, if_neg (not_le.mpr hpath), if_neg (by simp), dirname_append hslash,
    basename_append hslash, S.dir_root]
  dsimp only
  rw [if_neg hne, if_neg (not_lt.mpr hname)]

theorem lookup_dest_short (hid : slash ∉ id) (hpath : (dest S id).length < PATH_MAX)
    (hname : (entryName id).length ≤ NAME_MAX) :
    S.lookup (dest S id) = .ok (.entry (S.root, entryName id)) :=
  lookup_short (entryName_bare hid).1 (entryName_bare hid).2 hpath hname

theorem lookup_meta_short (hid : slash ∉ id) (hpath : (meta_path S id).length < PATH_MAX)
    (hname : (metaName id).length ≤ NAME_MAX) :
    S.lookup (meta_path S id) = .ok (.entry (S.root, metaName id)) := by
  rw [meta_path_eq] at hpath ⊢
  exact lookup_short (metaName_bare hid).1 (metaName_bare hid).2 hpath hname

theorem entryName_ne_metaName (id id' : Bytes) : entryName id ≠ metaName id' := by
  intro h
  have hlast := congrArg List.getLast? h
  have hentry : (entryName id).getLast? = some 100 := by
    rw [entryName, List.getLast?_append, show (lit ".quarantined").getLast? = some 100 by decide]
    rfl
  have hmeta : (metaName id').getLast? = some 97 := by
    rw [metaName, List.getLast?_append,
      show (lit ".quarantined.meta").getLast? = some 97 by decide]
    rfl
  rw [hentry, hmeta] at hlast
  exact absurd hlast (by decide)

theorem entry_ne_meta (S : Store) (id id' : Bytes) :
    (S.root, entryName id) ≠ (S.root, metaName id') :=
  fun h => entryName_ne_metaName id id' (congrArg Prod.snd h)

theorem entryName_inj {id id' : Bytes} (h : entryName id = entryName id') : id = id' :=
  List.append_cancel_right h

theorem metaName_inj {id id' : Bytes} (h : metaName id = metaName id') : id = id' :=
  List.append_cancel_right h

end Lookups

section Concrete

/-- A daemon with the quarantine `/q`, and one more directory, `/t`. -/
def twoDirs : Store where
  quarantine_dir := lit "/q"
  dir path := if path = lit "/q/" then some 1 else if path = lit "/t/" then some 2 else none
  dev _ := 0
  root := 1
  dir_root := by decide
  getpid := 7

def user : Owner := ⟨1000, by decide⟩

end Concrete

end KernelAv.Daemon.Quarantine
