/- digest: Files under names: inodes and their attributes, hard links, and the calls on them. -/

import KernelAv.Lib.CText
import Mathlib.Logic.Function.Basic

set_option autoImplicit false
set_option relaxedAutoImplicit false

namespace KernelAv.Lib.Files

open KernelAv.Lib.CText (Bytes)

def S_IFMT : UInt32 := 0o170000
def S_IFREG : UInt32 := 0o100000
def S_IFDIR : UInt32 := 0o040000
def S_IFLNK : UInt32 := 0o120000
def S_IALLUGO : UInt32 := 0o7777
def S_ISUID : UInt32 := 0o4000
def S_ISGID : UInt32 := 0o2000
def S_IXGRP : UInt32 := 0o0010

inductive Errno where
  | ENOENT
  | EEXIST
  | EXDEV
  | EISDIR
  | ELOOP
  | EPERM
  | EBADF
  | ENAMETOOLONG
  | ENOMEM
  deriving DecidableEq

section Attributes

/-- A user or a group; no file belongs to the id -1. -/
abbrev Owner := {id : UInt32 // id ≠ 0xFFFFFFFF}

def Owner.root : Owner := ⟨0, by decide⟩

/-- The id -1 asks for no change. -/
def Owner.set (o : Owner) (id : UInt32) : Owner := if h : id = 0xFFFFFFFF then o else ⟨id, h⟩

@[simp] theorem Owner.set_val (o o' : Owner) : o.set o'.val = o' := by
  unfold Owner.set
  rw [dif_neg o'.property]

structure Inode where
  st_dev : Nat
  st_mode : UInt32
  st_uid : Owner
  st_gid : Owner
  data : Bytes

def Inode.isReg (n : Inode) : Bool := n.st_mode &&& S_IFMT = S_IFREG

def Inode.isDir (n : Inode) : Bool := n.st_mode &&& S_IFMT = S_IFDIR

def Inode.isLnk (n : Inode) : Bool := n.st_mode &&& S_IFMT = S_IFLNK

def Inode.perm (n : Inode) : UInt32 := n.st_mode &&& S_IALLUGO

def Inode.chmod (mode : UInt32) (n : Inode) : Inode :=
  { n with st_mode := n.st_mode &&& ~~~S_IALLUGO ||| mode &&& S_IALLUGO }

/-- A change of owner takes the set-user-ID bit away, and the set-group-ID bit of what its group
may execute, from whoever asks for it. -/
def killPriv (mode : UInt32) : UInt32 :=
  let mode := mode &&& ~~~S_ISUID
  if mode &&& (S_ISGID ||| S_IXGRP) = S_ISGID ||| S_IXGRP then mode &&& ~~~S_ISGID else mode

/-- Of anything but a directory. -/
def Inode.chown (uid gid : UInt32) (n : Inode) : Inode :=
  { n with st_mode := killPriv n.st_mode, st_uid := n.st_uid.set uid, st_gid := n.st_gid.set gid }

def Inode.append (buf : Bytes) (n : Inode) : Inode := { n with data := n.data ++ buf }

private theorem and_set {a m k : UInt32} : (a &&& ~~~k ||| m &&& k) &&& k = m &&& k := by
  apply UInt32.toBitVec_inj.mp
  ext i
  simp
  grind

private theorem and_other {a m k f : UInt32} (h : k &&& f = 0) :
    (a &&& ~~~k ||| m &&& k) &&& f = a &&& f := by
  have hbits := congrArg UInt32.toBitVec h
  apply UInt32.toBitVec_inj.mp
  ext i hi
  have hbit := congrArg (fun v => v.getLsbD i) hbits
  simp at hbit ⊢
  grind

private theorem and_not_self {m k : UInt32} : m &&& ~~~k &&& k = 0 := by
  rw [UInt32.and_assoc, UInt32.and_comm (~~~k), UInt32.and_not_self, UInt32.and_zero]

private theorem and_not_eq {m k : UInt32} (h : m &&& k = 0) : m &&& ~~~k = m := by
  have hbits := congrArg UInt32.toBitVec h
  apply UInt32.toBitVec_inj.mp
  ext i hi
  have hbit := congrArg (fun v => v.getLsbD i) hbits
  simp at hbit ⊢
  grind

@[simp] theorem Inode.chmod_chmod (a b : UInt32) (n : Inode) :
    (n.chmod a).chmod b = n.chmod b := by
  have hrest : (n.st_mode &&& ~~~S_IALLUGO ||| a &&& S_IALLUGO) &&& ~~~S_IALLUGO =
      n.st_mode &&& ~~~S_IALLUGO := by
    apply UInt32.toBitVec_inj.mp
    ext i
    simp
    grind
  simp only [chmod, hrest]

private theorem killPriv_rest (mode : UInt32) :
    killPriv mode &&& ~~~S_IALLUGO = mode &&& ~~~S_IALLUGO := by
  have hclear : ∀ m k : UInt32, k &&& ~~~S_IALLUGO = 0 →
      m &&& ~~~k &&& ~~~S_IALLUGO = m &&& ~~~S_IALLUGO := by
    intro m k hk
    have hbits := congrArg UInt32.toBitVec hk
    apply UInt32.toBitVec_inj.mp
    ext i hi
    have hbit := congrArg (fun v => v.getLsbD i) hbits
    simp at hbit ⊢
    grind
  unfold killPriv
  dsimp only
  split
  · rw [hclear _ _ (by decide), hclear _ _ (by decide)]
  · exact hclear _ _ (by decide)

/-- What a change of owner has taken away, the next change of the mode sets. -/
theorem Inode.chmod_chown (uid gid mode : UInt32) (n : Inode) : (n.chown uid gid).chmod mode =
    { n.chmod mode with st_uid := n.st_uid.set uid, st_gid := n.st_gid.set gid } := by
  simp only [chmod, chown, killPriv_rest]

theorem Owner.set_set {o : Owner} {id next : UInt32} (h : next ≠ 0xFFFFFFFF) :
    (o.set id).set next = o.set next := by
  unfold Owner.set
  rw [dif_neg h, dif_neg h]

theorem Inode.isLnk_of_isReg {n : Inode} (h : n.isReg = true) : n.isLnk = false := by
  simp only [isReg, decide_eq_true_eq] at h
  rw [isLnk, h]
  decide

theorem Inode.isDir_of_isReg {n : Inode} (h : n.isReg = true) : n.isDir = false := by
  simp only [isReg, decide_eq_true_eq] at h
  rw [isDir, h]
  decide

private theorem and_not_other {m k f : UInt32} (h : k &&& f = 0) : m &&& ~~~k &&& f = m &&& f := by
  have hother := and_other (a := m) (m := 0) h
  rwa [UInt32.zero_and, UInt32.or_zero] at hother

@[simp] theorem Inode.isReg_chown (uid gid : UInt32) (n : Inode) :
    (n.chown uid gid).isReg = n.isReg := by
  have htype : killPriv n.st_mode &&& S_IFMT = n.st_mode &&& S_IFMT := by
    unfold killPriv
    dsimp only
    split
    · rw [and_not_other (by decide), and_not_other (by decide)]
    · exact and_not_other (by decide)
  rw [Inode.isReg, Inode.isReg, chown, htype]

@[simp] theorem Inode.perm_chmod (mode : UInt32) (n : Inode) :
    (n.chmod mode).perm = mode &&& S_IALLUGO := and_set

@[simp] theorem Inode.isReg_chmod (mode : UInt32) (n : Inode) :
    (n.chmod mode).isReg = n.isReg := by
  have htype : (n.chmod mode).st_mode &&& S_IFMT = n.st_mode &&& S_IFMT := and_other (by decide)
  rw [Inode.isReg, Inode.isReg, htype]

theorem Inode.perm_chown_zero {uid gid : UInt32} {n : Inode} (h : n.perm = 0) :
    (n.chown uid gid).perm = 0 := by
  have hmask : ∀ k, n.st_mode &&& k &&& S_IALLUGO = 0 := by
    intro k
    rw [UInt32.and_assoc, UInt32.and_comm k, ← UInt32.and_assoc]
    show n.perm &&& k = 0
    rw [h, UInt32.zero_and]
  show killPriv n.st_mode &&& S_IALLUGO = 0
  unfold killPriv
  dsimp only
  split
  · rw [UInt32.and_assoc n.st_mode]
    exact hmask _
  · exact hmask _

/-- The bits that a change of owner would take away are not set. -/
def survivesChown (mode : UInt32) : Bool :=
  mode &&& S_ISUID = 0 && mode &&& (S_ISGID ||| S_IXGRP) ≠ S_ISGID ||| S_IXGRP

private theorem and_within {m k : UInt32} (h : S_IALLUGO &&& k = k) :
    m &&& S_IALLUGO &&& k = m &&& k := by
  rw [UInt32.and_assoc, h]

theorem survivesChown_congr {mode mode' : UInt32}
    (h : mode &&& S_IALLUGO = mode' &&& S_IALLUGO) : survivesChown mode = survivesChown mode' := by
  have hbits : ∀ k, S_IALLUGO &&& k = k → mode &&& k = mode' &&& k := by
    intro k hk
    rw [← and_within hk, h, and_within hk]
  rw [survivesChown, survivesChown, hbits _ (by decide), hbits _ (by decide)]

theorem killPriv_keeps_iff (mode : UInt32) :
    killPriv mode &&& S_IALLUGO = mode &&& S_IALLUGO ↔ survivesChown mode = true := by
  have hsuid : S_IALLUGO &&& S_ISUID = S_ISUID := by decide
  have hsgid : S_IALLUGO &&& S_ISGID = S_ISGID := by decide
  simp only [survivesChown, Bool.and_eq_true, decide_eq_true_eq]
  constructor
  · intro h
    have hbits : ∀ k, S_IALLUGO &&& k = k → killPriv mode &&& k = mode &&& k := by
      intro k hk
      rw [← and_within hk, h, and_within hk]
    have hzero : mode &&& S_ISUID = 0 := by
      rw [← hbits _ hsuid]
      unfold killPriv
      dsimp only
      split
      · rw [UInt32.and_assoc (mode &&& ~~~S_ISUID), UInt32.and_comm (~~~S_ISGID),
          ← UInt32.and_assoc, and_not_self, UInt32.zero_and]
      · exact and_not_self
    refine ⟨hzero, fun hgroup => ?_⟩
    have hkill : killPriv mode = mode &&& ~~~S_ISGID := by
      unfold killPriv
      dsimp only
      rw [and_not_eq hzero, if_pos hgroup]
    have hnone : mode &&& S_ISGID = 0 := by
      rw [← hbits _ hsgid, hkill]
      exact and_not_self
    have hpart : (S_ISGID ||| S_IXGRP) &&& S_ISGID = S_ISGID := by decide
    have hsome : mode &&& S_ISGID = S_ISGID :=
      calc mode &&& S_ISGID = mode &&& (S_ISGID ||| S_IXGRP) &&& S_ISGID := by
            rw [UInt32.and_assoc, hpart]
        _ = S_ISGID := by rw [hgroup, hpart]
    exact absurd (hnone.symm.trans hsome) (by decide)
  · rintro ⟨hzero, hgroup⟩
    have hkill : killPriv mode = mode := by
      unfold killPriv
      dsimp only
      rw [and_not_eq hzero, if_neg hgroup]
    rw [hkill]

end Attributes

section Names

variable {σ : Type}

/-- Names, the inodes they lead to, and the number of names that each inode has. -/
structure Disk (σ : Type) where
  names : σ → Option Nat
  inodes : Nat → Inode
  links : Nat → Nat
  next : Nat
  names_lt : ∀ s i, names s = some i → i < next

namespace Disk

section Plain

variable (F : Disk σ) (s : σ) (i : Nat)

def modify (f : Inode → Inode) : Disk σ :=
  { F with inodes := Function.update F.inodes i (f (F.inodes i)) }

/-- `open` with `O_RDONLY | O_NOFOLLOW`, by root. -/
def openRead : Except Errno Nat :=
  match F.names s with
  | none => .error .ENOENT
  | some i => if (F.inodes i).isLnk then .error .ELOOP else .ok i

def lstat : Except Errno Nat :=
  match F.names s with
  | none => .error .ENOENT
  | some i => .ok i

variable {F s i} {j : Nat}

@[simp] theorem names_modify (f : Inode → Inode) : (F.modify i f).names = F.names := rfl

@[simp] theorem next_modify (f : Inode → Inode) : (F.modify i f).next = F.next := rfl

@[simp] theorem inodes_modify_self (f : Inode → Inode) :
    (F.modify i f).inodes i = f (F.inodes i) := Function.update_self ..

theorem inodes_modify_of_ne (f : Inode → Inode) (h : j ≠ i) :
    (F.modify i f).inodes j = F.inodes j := Function.update_of_ne h ..

theorem lstat_ok : F.lstat s = .ok i ↔ F.names s = some i := by
  unfold lstat
  split
  · rename_i hnone
    simp [hnone]
  · rename_i hsome
    simp [hsome]

end Plain

/-- But for the names of its own, a program has only made new files. -/
structure Frame (own : σ → Prop) (F G : Disk σ) : Prop where
  next_le : F.next ≤ G.next
  data : ∀ i < F.next, (G.inodes i).data = (F.inodes i).data
  names : ∀ s, ¬ own s → G.names s = F.names s

section Frames

variable {own : σ → Prop} {F G : Disk σ} {i : Nat} {f : Inode → Inode}

theorem Frame.refl (own : σ → Prop) (F : Disk σ) : Frame own F F :=
  ⟨Nat.le_refl _, fun _ _ => rfl, fun _ _ => rfl⟩

/-- What is written to a new file leaves the others as they are. -/
theorem Frame.modify_new (h : Frame own F G) (hi : F.next ≤ i) :
    Frame own F (G.modify i f) where
  next_le := h.next_le
  data j hj := by
    have hne : j ≠ i := (hj.trans_le hi).ne
    rw [inodes_modify_of_ne f hne, h.data j hj]
  names := h.names

theorem data_modify (hf : ∀ n, (f n).data = n.data) (i j : Nat) :
    ((G.modify i f).inodes j).data = (G.inodes j).data := by
  by_cases hj : j = i
  · subst hj
    rw [inodes_modify_self, hf]
  · rw [inodes_modify_of_ne f hj]

theorem Frame.modify_kept (h : Frame own F G) (hf : ∀ n, (f n).data = n.data) :
    Frame own F (G.modify i f) where
  next_le := h.next_le
  data j hj := by rw [data_modify hf, h.data j hj]
  names := h.names

theorem Frame.mono {own' : σ → Prop} (h : Frame own F G) (hsub : ∀ s, own s → own' s) :
    Frame own' F G :=
  ⟨h.next_le, h.data, fun s hs => h.names s (mt (hsub s) hs)⟩

end Frames

variable [DecidableEq σ]

section Calls

variable (F : Disk σ) (s t : σ) (i : Nat)

/-- One name more for an inode. -/
def link (h : i < F.next) : Disk σ :=
  { F with
    names := Function.update F.names s (some i)
    links := Function.update F.links i (F.links i + 1)
    names_lt := by
      intro t j hj
      by_cases ht : t = s
      · subst ht
        rw [Function.update_self] at hj
        exact Option.some.inj hj ▸ h
      · rw [Function.update_of_ne ht] at hj
        exact F.names_lt t j hj }

/-- A new inode, under a name. -/
def create (node : Inode) : Disk σ where
  names := Function.update F.names s (some F.next)
  inodes := Function.update F.inodes F.next node
  links := Function.update F.links F.next 1
  next := F.next + 1
  names_lt := by
    intro t j hj
    by_cases ht : t = s
    · subst ht
      rw [Function.update_self] at hj
      exact Option.some.inj hj ▸ Nat.lt_succ_self _
    · rw [Function.update_of_ne ht] at hj
      exact Nat.lt_succ_of_lt (F.names_lt t j hj)

/-- The name goes; its inode stays for those who hold a descriptor of it. -/
def remove : Disk σ :=
  { F with
    names := Function.update F.names s none
    links := (F.names s).elim F.links fun i => Function.update F.links i (F.links i - 1)
    names_lt := by
      intro t j hj
      by_cases ht : t = s
      · subst ht
        rw [Function.update_self] at hj
        cases hj
      · rw [Function.update_of_ne ht] at hj
        exact F.names_lt t j hj }

/-- The name `t` takes over what `s` leads to. -/
def move : Disk σ :=
  { (F.remove t).remove s with
    names := Function.update (Function.update F.names t (F.names s)) s none
    links := (F.remove t).links
    names_lt := by
      intro u j hj
      by_cases hs : u = s
      · subst hs
        rw [Function.update_self] at hj
        cases hj
      · rw [Function.update_of_ne hs] at hj
        by_cases ht : u = t
        · subst ht
          rw [Function.update_self] at hj
          exact F.names_lt s j hj
        · rw [Function.update_of_ne ht] at hj
          exact F.names_lt u j hj }

/-- One name, of one file. -/
def single (node : Inode) : Disk σ where
  names t := if t = s then some 0 else none
  inodes _ := node
  links _ := 1
  next := 1
  names_lt := by
    intro t i h
    split at h
    · exact Option.some.inj h ▸ Nat.one_pos
    · cases h

-- the file system that each name lies on
variable (dev : σ → Nat)

/-- `linkat` of a descriptor. -/
def linkat : Except Errno (Disk σ) :=
  if h : i < F.next then
    if (F.inodes i).isDir then .error .EPERM
    else if F.links i = 0 then .error .ENOENT
    else if (F.names s).isSome then .error .EEXIST
    else if (F.inodes i).st_dev ≠ dev s then .error .EXDEV
    else .ok (F.link s i h)
  else .error .EBADF

/-- `open` with `O_CREAT | O_EXCL`, by root: the file system afterwards, and the new inode. -/
def openExcl (mode : UInt32) : Except Errno (Disk σ × Nat) :=
  if (F.names s).isSome then .error .EEXIST
  else .ok (F.create s ⟨dev s, S_IFREG ||| mode, Owner.root, Owner.root, []⟩, F.next)

def unlink : Except Errno (Disk σ) :=
  match F.names s with
  | none => .error .ENOENT
  | some i => if (F.inodes i).isDir then .error .EISDIR else .ok (F.remove s)

/-- `rename` of anything but a directory. Two names of one inode both stay. -/
def rename : Except Errno (Disk σ) :=
  match F.names s with
  | none => .error .ENOENT
  | some i =>
      if dev s ≠ dev t then .error .EXDEV
      else
        match F.names t with
        | none => .ok (F.move s t)
        | some j =>
            if j = i then .ok F
            else if (F.inodes j).isDir then .error .EISDIR
            else .ok (F.move s t)

end Calls

section Facts

variable {F : Disk σ} {s t u : σ} {i j : Nat}

@[simp] theorem names_link_self (h : i < F.next) : (F.link s i h).names s = some i :=
  Function.update_self ..

theorem names_link_of_ne (h : i < F.next) (hne : t ≠ s) :
    (F.link s i h).names t = F.names t := Function.update_of_ne hne ..

@[simp] theorem inodes_link (h : i < F.next) : (F.link s i h).inodes = F.inodes := rfl

@[simp] theorem next_link (h : i < F.next) : (F.link s i h).next = F.next := rfl

variable {node : Inode}

@[simp] theorem names_single_self : (single s node).names s = some 0 := if_pos rfl

theorem names_single_of_ne (hne : t ≠ s) : (single s node).names t = none := if_neg hne

@[simp] theorem inodes_single : (single s node).inodes i = node := rfl

@[simp] theorem names_create_self : (F.create s node).names s = some F.next :=
  Function.update_self ..

theorem names_create_of_ne (hne : t ≠ s) : (F.create s node).names t = F.names t :=
  Function.update_of_ne hne ..

@[simp] theorem inodes_create_self : (F.create s node).inodes F.next = node :=
  Function.update_self ..

theorem inodes_create_of_ne (h : i ≠ F.next) :
    (F.create s node).inodes i = F.inodes i := Function.update_of_ne h ..

@[simp] theorem next_create : (F.create s node).next = F.next + 1 := rfl

@[simp] theorem names_remove_self : (F.remove s).names s = none := Function.update_self ..

theorem names_remove_of_ne (hne : t ≠ s) : (F.remove s).names t = F.names t :=
  Function.update_of_ne hne ..

theorem names_of_remove (h : (F.remove s).names t = some i) : t ≠ s ∧ F.names t = some i := by
  have hne : t ≠ s := by
    rintro rfl
    rw [names_remove_self] at h
    cases h
  rw [names_remove_of_ne hne] at h
  exact ⟨hne, h⟩

@[simp] theorem inodes_remove : (F.remove s).inodes = F.inodes := rfl

@[simp] theorem next_remove : (F.remove s).next = F.next := rfl

@[simp] theorem names_move_source : (F.move s t).names s = none := Function.update_self ..

theorem names_move_target (hne : t ≠ s) : (F.move s t).names t = F.names s := by
  show Function.update (Function.update F.names t (F.names s)) s none t = _
  rw [Function.update_of_ne hne, Function.update_self]

theorem names_move_of_ne (hs : u ≠ s) (ht : u ≠ t) : (F.move s t).names u = F.names u := by
  show Function.update (Function.update F.names t (F.names s)) s none u = _
  rw [Function.update_of_ne hs, Function.update_of_ne ht]

@[simp] theorem inodes_move : (F.move s t).inodes = F.inodes := rfl

@[simp] theorem next_move : (F.move s t).next = F.next := rfl

variable {dev : σ → Nat} {G : Disk σ}

theorem linkat_ok (h : F.linkat s i dev = .ok G) :
    F.names s = none ∧ ∃ hi : i < F.next, G = F.link s i hi := by
  unfold linkat at h
  split at h
  · rename_i hi
    repeat' split at h
    any_goals cases h
    rename_i hnone _
    exact ⟨Option.not_isSome_iff_eq_none.mp hnone, hi, rfl⟩
  · cases h

theorem openExcl_ok {mode : UInt32} (h : F.openExcl s dev mode = .ok (G, i)) :
    F.names s = none ∧ i = F.next ∧
      G = F.create s ⟨dev s, S_IFREG ||| mode, Owner.root, Owner.root, []⟩ := by
  unfold openExcl at h
  split at h
  · cases h
  · rename_i hnone
    cases h
    exact ⟨Option.not_isSome_iff_eq_none.mp hnone, rfl, rfl⟩

theorem unlink_ok (h : F.unlink s = .ok G) : (∃ i, F.names s = some i) ∧ G = F.remove s := by
  unfold unlink at h
  split at h
  · cases h
  · rename_i i hsome
    split at h
    · cases h
    · cases h
      exact ⟨⟨i, hsome⟩, rfl⟩

theorem rename_ok (h : F.rename s t dev = .ok G) :
    ∃ i, F.names s = some i ∧ dev s = dev t ∧
      ((F.names t = some i ∧ G = F) ∨ (F.names t ≠ some i ∧ G = F.move s t)) := by
  unfold rename at h
  split at h
  · cases h
  · rename_i i hsome
    split at h
    · cases h
    · rename_i hdev
      refine ⟨i, hsome, not_not.mp hdev, ?_⟩
      split at h
      · rename_i hnone
        cases h
        exact Or.inr ⟨by simp [hnone], rfl⟩
      · rename_i j hj
        split at h
        · rename_i hsame
          cases h
          exact Or.inl ⟨hsame ▸ hj, rfl⟩
        · rename_i hdiffer
          split at h
          · cases h
          · cases h
            refine Or.inr ⟨fun hi => hdiffer ?_, rfl⟩
            exact Option.some.inj (hj.symm.trans hi)

end Facts

section OwnNames

variable {own : σ → Prop} {F G : Disk σ} {s : σ} {i : Nat} {node : Inode}

theorem Frame.link (h : Frame own F G) (hs : own s) (hi : i < G.next) :
    Frame own F (G.link s i hi) where
  next_le := h.next_le
  data := h.data
  names t ht := by
    have hne : t ≠ s := fun heq => ht (heq ▸ hs)
    rw [names_link_of_ne hi hne, h.names t ht]

theorem Frame.create (h : Frame own F G) (hs : own s) : Frame own F (G.create s node) where
  next_le := Nat.le_succ_of_le h.next_le
  data j hj := by
    have hne : j ≠ G.next := (hj.trans_le h.next_le).ne
    rw [inodes_create_of_ne hne, h.data j hj]
  names t ht := by
    have hne : t ≠ s := fun heq => ht (heq ▸ hs)
    rw [names_create_of_ne hne, h.names t ht]

theorem Frame.remove (h : Frame own F G) (hs : own s) : Frame own F (G.remove s) where
  next_le := h.next_le
  data := h.data
  names t ht := by
    have hne : t ≠ s := fun heq => ht (heq ▸ hs)
    rw [names_remove_of_ne hne, h.names t ht]

end OwnNames

end Disk

end Names

end KernelAv.Lib.Files
