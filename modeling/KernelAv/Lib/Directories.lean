/- digest: Trees of directories, what a user may do to them, and those that others cannot change. -/

import KernelAv.Lib.Files
import KernelAv.Lib.PathWalk
import Mathlib.Data.Set.Defs
import Mathlib.Logic.Relation

set_option autoImplicit false
set_option relaxedAutoImplicit false

namespace KernelAv.Lib.Directories

open KernelAv.Lib.Files (S_IFMT S_IFDIR S_IFLNK)
open KernelAv.Lib.PathWalk

section Permissions

def S_ISVTX : UInt32 := 0o1000
def S_IWGRP : UInt32 := 0o0020
def S_IWOTH : UInt32 := 0o0002

/-- What `lstat` tells of an inode. -/
structure Stat where
  st_mode : UInt32
  st_uid : UInt32
  st_gid : UInt32
  deriving DecidableEq

def S_ISDIR (mode : UInt32) : Bool := mode &&& S_IFMT = S_IFDIR

def S_ISLNK (mode : UInt32) : Bool := mode &&& S_IFMT = S_IFLNK

/-- Someone besides the owner may write. -/
def Stat.Shared (s : Stat) : Prop := s.st_mode &&& (S_IWGRP ||| S_IWOTH) ≠ 0

def Stat.Sticky (s : Stat) : Prop := s.st_mode &&& S_ISVTX ≠ 0

instance (s : Stat) : Decidable s.Shared := inferInstanceAs (Decidable (_ ≠ _))

instance (s : Stat) : Decidable s.Sticky := inferInstanceAs (Decidable (_ ≠ _))

/-- Who asks. -/
structure Cred where
  uid : UInt32
  groups : List UInt32

inductive Access where
  | write
  | search

def Access.owner : Access → UInt32
  | write => 0o0200
  | search => 0o0100

def Access.group : Access → UInt32
  | write => S_IWGRP
  | search => 0o0010

def Access.other : Access → UInt32
  | write => S_IWOTH
  | search => 0o0001

/-- The first class that the user falls in decides; root may do everything. -/
def Cred.may (c : Cred) (a : Access) (s : Stat) : Bool :=
  if c.uid = 0 then true
  else if c.uid = s.st_uid then s.st_mode &&& a.owner ≠ 0
  else if s.st_gid ∈ c.groups then s.st_mode &&& a.group ≠ 0
  else s.st_mode &&& a.other ≠ 0

private theorem and_part {m a k : UInt32} (h : a &&& k = k) (hzero : m &&& a = 0) :
    m &&& k = 0 := by
  rw [← h, ← UInt32.and_assoc, hzero, UInt32.zero_and]

/-- Whoever writes to what is not theirs is let in by the bits for the group or for the others. -/
theorem Cred.shared_of_may {c : Cred} {s : Stat} (hroot : c.uid ≠ 0) (howner : c.uid ≠ s.st_uid)
    (h : c.may .write s = true) : s.Shared := by
  intro hzero
  rw [may, if_neg hroot, if_neg howner] at h
  split at h
  · exact of_decide_eq_true h (and_part (by decide) hzero)
  · exact of_decide_eq_true h (and_part (by decide) hzero)

end Permissions

section Trees

variable {κ ι : Type}

/-- Inodes: what `lstat` tells of each, the entries and the parent of a directory, the text of a
link. -/
structure Fs (κ ι : Type) where
  root : ι
  stat : ι → Option Stat
  parent : ι → Option ι
  entry : ι → κ → Option ι
  target : ι → PathText κ

namespace Fs

variable (F : Fs κ ι)

def isDir (n : ι) : Bool := (F.stat n).any fun s => S_ISDIR s.st_mode

def isLink (n : ι) : Bool := (F.stat n).any fun s => S_ISLNK s.st_mode

/-- As a path walk sees it. -/
def tree : FileTree κ Cred ι where
  directory := F.isDir
  entry := F.entry
  parent := F.parent
  isLink := F.isLink
  target _ n := .text (F.target n)
  allows c n := (F.stat n).any (c.may .search)

/-- The user may make entries in the directory. -/
def MayWrite (c : Cred) (d : ι) : Prop :=
  ∃ s, F.stat d = some s ∧ S_ISDIR s.st_mode = true ∧ c.may .write s = true ∧
    c.may .search s = true

/-- The user may take an entry for `n` out of the directory: out of a sticky one, only what is
theirs, or as its owner. -/
def MayRemove (c : Cred) (d n : ι) : Prop :=
  F.MayWrite c d ∧ ∀ s t, F.stat d = some s → F.stat n = some t → s.Sticky →
    c.uid = 0 ∨ c.uid = s.st_uid ∨ c.uid = t.st_uid

/-- Nobody but the owner may write to the directory. -/
def Unshared (d : ι) : Prop := ∀ s, F.stat d = some s → ¬ s.Shared

/-- Every directory but the root hangs by one entry, in its parent. -/
structure Tree : Prop where
  root_dir : F.isDir F.root = true
  root_parent : F.parent F.root = some F.root
  entry_dir : ∀ d k n, F.entry d k = some n → F.isDir d = true
  entry_live : ∀ d k n, F.entry d k = some n → (F.stat n).isSome = true
  entry_root : ∀ d k n, F.entry d k = some n → n ≠ F.root
  entry_parent : ∀ d k n, F.entry d k = some n → F.isDir n = true → F.parent n = some d
  entry_name : ∀ d k k' n, F.entry d k = some n → F.entry d k' = some n → F.isDir n = true →
    k = k'

section Changes

variable [DecidableEq κ] [DecidableEq ι]

def setStat (n : ι) (s : Stat) : Fs κ ι := { F with stat := Function.update F.stat n (some s) }

/-- A new inode, without a name. -/
def make (n : ι) (s : Stat) (t : PathText κ) : Fs κ ι :=
  { F.setStat n s with target := Function.update F.target n t }

def drop (d : ι) (k : κ) : Fs κ ι :=
  { F with entry := Function.update F.entry d (Function.update (F.entry d) k none) }

/-- An entry for `n`, whose parent this becomes if it is a directory. -/
def place (d : ι) (k : κ) (n : ι) : Fs κ ι :=
  { F with
    entry := Function.update F.entry d (Function.update (F.entry d) k (some n))
    parent := if F.isDir n then Function.update F.parent n (some d) else F.parent }

/-- What the system calls of a user do to the tree. The kernel refuses some more of them, such as
a directory that would move below itself. -/
inductive Step (c : Cred) : Fs κ ι → Prop where
  | create {d n : ι} {k : κ} {s : Stat} (t : PathText κ) (hwrite : F.MayWrite c d)
      (hfree : F.entry d k = none) (hnew : F.stat n = none) (howner : s.st_uid = c.uid) :
      Step c ((F.make n s t).place d k n)
  | link {d n : ι} {k : κ} (hwrite : F.MayWrite c d) (hfree : F.entry d k = none)
      (hlive : (F.stat n).isSome = true) (hfile : F.isDir n = false) : Step c (F.place d k n)
  | remove {d n : ι} {k : κ} (hentry : F.entry d k = some n) (hmay : F.MayRemove c d n)
      (hempty : ∀ k', F.entry n k' = none) : Step c (F.drop d k)
  | rename {d d' n : ι} {k k' : κ} (hentry : F.entry d k = some n) (hmay : F.MayRemove c d n)
      (hwrite : F.MayWrite c d')
      (hover : ∀ m, F.entry d' k' = some m → F.MayRemove c d' m ∧ ∀ k'', F.entry m k'' = none) :
      Step c ((F.drop d k).place d' k' n)
  | exchange {d d' n n' : ι} {k k' : κ} (hentry : F.entry d k = some n)
      (hentry' : F.entry d' k' = some n') (hmay : F.MayRemove c d n)
      (hmay' : F.MayRemove c d' n') :
      Step c ((((F.drop d k).drop d' k').place d k n').place d' k' n)
  | setattr {n : ι} {s s' : Stat} (hstat : F.stat n = some s) (howner : s.st_uid = c.uid)
      (hsame : s'.st_uid = s.st_uid) (htype : s'.st_mode &&& S_IFMT = s.st_mode &&& S_IFMT) :
      Step c (F.setStat n s')

end Changes

variable {F} {G : Fs κ ι} {d n a : ι} {k y : κ}

theorem isSome_of_isDir (h : F.isDir n = true) : (F.stat n).isSome = true := by
  rw [isDir, Option.any_eq_true] at h
  obtain ⟨s, hs, -⟩ := h
  rw [hs]
  rfl

/-- A number that no inode has is not that of a directory. -/
theorem ne_of_new (hnew : F.stat n = none) (hd : F.isDir d = true) : d ≠ n := by
  rintro rfl
  have hlive := isSome_of_isDir hd
  rw [hnew] at hlive
  cases hlive

theorem MayWrite.isDir {c : Cred} (h : F.MayWrite c d) : F.isDir d = true := by
  obtain ⟨s, hs, hdir, -⟩ := h
  rw [Fs.isDir, hs]
  exact hdir

theorem Tree.entry_unique (h : F.Tree) (hdir : F.isDir n = true) (hn : F.entry d k = some n)
    (hm : F.entry a y = some n) : a = d ∧ y = k := by
  have hp := h.entry_parent a y n hm hdir
  rw [h.entry_parent d k n hn hdir] at hp
  obtain rfl := Option.some.inj hp
  exact ⟨rfl, h.entry_name d y k n hm hn hdir⟩

/-- What is live stays so, and of its type. -/
private theorem Tree.restat (h : F.Tree) (hroot : G.root = F.root)
    (hparent : G.parent = F.parent) (hentry : G.entry = F.entry)
    (hstat : ∀ a, (F.stat a).isSome = true →
      (G.stat a).isSome = true ∧ G.isDir a = F.isDir a) : G.Tree where
  root_dir := by
    rw [hroot, (hstat _ (isSome_of_isDir h.root_dir)).2]
    exact h.root_dir
  root_parent := by
    rw [hroot, hparent]
    exact h.root_parent
  entry_dir a y m hm := by
    rw [hentry] at hm
    have hdir := h.entry_dir a y m hm
    rw [(hstat a (isSome_of_isDir hdir)).2]
    exact hdir
  entry_live a y m hm := by
    rw [hentry] at hm
    exact (hstat m (h.entry_live a y m hm)).1
  entry_root a y m hm := by
    rw [hentry] at hm
    rw [hroot]
    exact h.entry_root a y m hm
  entry_parent a y m hm hdir := by
    rw [hentry] at hm
    rw [(hstat m (h.entry_live a y m hm)).2] at hdir
    rw [hparent]
    exact h.entry_parent a y m hm hdir
  entry_name a y y' m hm hm' hdir := by
    rw [hentry] at hm hm'
    rw [(hstat m (h.entry_live a y m hm)).2] at hdir
    exact h.entry_name a y y' m hm hm' hdir

end Fs

end Trees

section Stats

variable {κ ι : Type} [DecidableEq ι] {F : Fs κ ι} {n a : ι} {s : Stat}

open Fs

private theorem stat_setStat_of_ne (hne : a ≠ n) : (F.setStat n s).stat a = F.stat a :=
  Function.update_of_ne hne ..

private theorem stat_setStat_self : (F.setStat n s).stat n = some s := Function.update_self ..

theorem Fs.Tree.make (h : F.Tree) (hnew : F.stat n = none) (s : Stat) (t : PathText κ) :
    (F.make n s t).Tree := by
  refine h.restat rfl rfl rfl fun a ha => ?_
  have hne : a ≠ n := by
    rintro rfl
    rw [hnew] at ha
    cases ha
  have hstat : (F.make n s t).stat a = F.stat a := stat_setStat_of_ne hne
  rw [isDir, isDir, hstat]
  exact ⟨ha, rfl⟩

theorem Fs.Tree.setStat (h : F.Tree) {s' : Stat} (hstat : F.stat n = some s)
    (htype : s'.st_mode &&& S_IFMT = s.st_mode &&& S_IFMT) : (F.setStat n s').Tree := by
  refine h.restat rfl rfl rfl fun a ha => ?_
  by_cases hne : a = n
  · subst hne
    rw [isDir, isDir, stat_setStat_self, hstat]
    refine ⟨rfl, ?_⟩
    show S_ISDIR s'.st_mode = S_ISDIR s.st_mode
    rw [S_ISDIR, S_ISDIR, htype]
  · rw [isDir, isDir, stat_setStat_of_ne hne]
    exact ⟨ha, rfl⟩

end Stats

section Changed

variable {κ ι : Type} [DecidableEq κ] [DecidableEq ι] {F G : Fs κ ι}
variable {d n a m : ι} {k y : κ}

open Fs

private theorem entry_drop :
    (F.drop d k).entry a y = some m ↔ ¬(a = d ∧ y = k) ∧ F.entry a y = some m := by
  by_cases ha : a = d
  · subst ha
    by_cases hy : y = k
    · subst hy
      simp [drop]
    · simp [drop, hy]
  · simp [drop, ha]

private theorem entry_place : (F.place d k n).entry a y = some m ↔
    a = d ∧ y = k ∧ m = n ∨ ¬(a = d ∧ y = k) ∧ F.entry a y = some m := by
  by_cases ha : a = d
  · subst ha
    by_cases hy : y = k
    · subst hy
      simp only [place, Function.update_self, true_and, not_true_eq_false, false_and, or_false]
      exact ⟨fun h => (Option.some.inj h).symm, fun h => congrArg some h.symm⟩
    · simp [place, hy]
  · simp [place, ha]

private theorem parent_place_of_ne (hne : m ≠ n) : (F.place d k n).parent m = F.parent m := by
  show (if F.isDir n then Function.update F.parent n (some d) else F.parent) m = F.parent m
  split
  · exact Function.update_of_ne hne ..
  · rfl

private theorem parent_place_self (h : F.isDir n = true) :
    (F.place d k n).parent n = some d := by
  show (if F.isDir n then Function.update F.parent n (some d) else F.parent) n = some d
  rw [if_pos h, Function.update_self]

theorem Fs.Tree.drop (h : F.Tree) (d : ι) (k : κ) : (F.drop d k).Tree where
  root_dir := h.root_dir
  root_parent := h.root_parent
  entry_dir a y m hm := h.entry_dir a y m (entry_drop.mp hm).2
  entry_live a y m hm := h.entry_live a y m (entry_drop.mp hm).2
  entry_root a y m hm := h.entry_root a y m (entry_drop.mp hm).2
  entry_parent a y m hm := h.entry_parent a y m (entry_drop.mp hm).2
  entry_name a y y' m hm hm' := h.entry_name a y y' m (entry_drop.mp hm).2 (entry_drop.mp hm').2

/-- An inode gets a name; a directory that has one already gets no second. -/
theorem Fs.Tree.place (h : F.Tree) (hd : F.isDir d = true) (hlive : (F.stat n).isSome = true)
    (hroot : n ≠ F.root)
    (honly : F.isDir n = true → ∀ a y, F.entry a y = some n → a = d ∧ y = k) :
    (F.place d k n).Tree where
  root_dir := h.root_dir
  root_parent := (parent_place_of_ne hroot.symm).trans h.root_parent
  entry_dir a y m hm := by
    rcases entry_place.mp hm with ⟨rfl, -, -⟩ | ⟨-, hold⟩
    · exact hd
    · exact h.entry_dir a y m hold
  entry_live a y m hm := by
    rcases entry_place.mp hm with ⟨-, -, rfl⟩ | ⟨-, hold⟩
    · exact hlive
    · exact h.entry_live a y m hold
  entry_root a y m hm := by
    rcases entry_place.mp hm with ⟨-, -, rfl⟩ | ⟨-, hold⟩
    · exact hroot
    · exact h.entry_root a y m hold
  entry_parent a y m hm hdir := by
    by_cases hmn : m = n
    · subst hmn
      rcases entry_place.mp hm with ⟨rfl, -, -⟩ | ⟨hne, hold⟩
      · exact parent_place_self hdir
      · exact absurd (honly hdir a y hold) hne
    · rw [parent_place_of_ne hmn]
      rcases entry_place.mp hm with ⟨-, -, hsame⟩ | ⟨-, hold⟩
      · exact absurd hsame hmn
      · exact h.entry_parent a y m hold hdir
  entry_name a y y' m hm hm' hdir := by
    by_cases hmn : m = n
    · subst hmn
      have hname : ∀ z, (F.place d k m).entry a z = some m → z = k := by
        intro z hz
        rcases entry_place.mp hz with ⟨-, rfl, -⟩ | ⟨-, hold⟩
        · rfl
        · exact (honly hdir a z hold).2
      rw [hname y hm, hname y' hm']
    · have hold : ∀ z, (F.place d k n).entry a z = some m → F.entry a z = some m := by
        intro z hz
        rcases entry_place.mp hz with ⟨-, -, hsame⟩ | ⟨-, hold⟩
        · exact absurd hsame hmn
        · exact hold
      exact h.entry_name a y y' m (hold y hm) (hold y' hm') hdir

/-- Whatever a user does, the directories stay a tree. -/
theorem Fs.Step.tree {c : Cred} (h : F.Tree) (hstep : Step F c G) : G.Tree := by
  cases hstep with
  | @create d n k s t hwrite hfree hnew howner =>
    have hunused : ∀ a y, F.entry a y ≠ some n := by
      intro a y hm
      have hlive := h.entry_live a y n hm
      rw [hnew] at hlive
      cases hlive
    have hmade := h.make hnew s t
    refine hmade.place ?_ ?_ ?_ ?_
    · have hstat : (F.make n s t).stat d = F.stat d :=
        stat_setStat_of_ne (ne_of_new hnew hwrite.isDir)
      rw [isDir, hstat]
      exact hwrite.isDir
    · have hstat : (F.make n s t).stat n = some s := stat_setStat_self
      rw [hstat]
      rfl
    · exact (ne_of_new hnew h.root_dir).symm
    · exact fun _ a y hm => absurd hm (hunused a y)
  | @link d n k hwrite hfree hlive hfile =>
    refine h.place hwrite.isDir hlive ?_ ?_
    · rintro rfl
      rw [h.root_dir] at hfile
      cases hfile
    · intro hdir
      rw [hfile] at hdir
      cases hdir
  | @remove d n k hentry hmay hempty => exact h.drop d k
  | @rename d d' n k k' hentry hmay hwrite hover =>
    refine (h.drop d k).place hwrite.isDir (h.entry_live d k n hentry)
      (h.entry_root d k n hentry) fun hdir a y hm => ?_
    obtain ⟨hne, hold⟩ := entry_drop.mp hm
    exact absurd (h.entry_unique hdir hentry hold) hne
  | @exchange d d' n n' k k' hentry hentry' hmay hmay' =>
    have hplaced : (((F.drop d k).drop d' k').place d k n').Tree := by
      refine ((h.drop d k).drop d' k').place (h.entry_dir d k n hentry)
        (h.entry_live d' k' n' hentry') (h.entry_root d' k' n' hentry') fun hdir a y hm => ?_
      obtain ⟨hne, hold⟩ := entry_drop.mp hm
      exact absurd (h.entry_unique hdir hentry' (entry_drop.mp hold).2) hne
    refine hplaced.place (h.entry_dir d' k' n' hentry') (h.entry_live d k n hentry)
      (h.entry_root d k n hentry) fun hdir a y hm => ?_
    rcases entry_place.mp hm with ⟨rfl, rfl, rfl⟩ | ⟨hne, hold⟩
    · exact h.entry_unique hdir hentry' hentry
    · exact absurd (h.entry_unique hdir hentry (entry_drop.mp (entry_drop.mp hold).2).2) hne
  | @setattr n s s' hstat howner hsame htype => exact h.setStat hstat htype

end Changed

section Kept

variable {κ ι : Type} {F G H : Fs κ ι} {D : Set ι} {euid : UInt32} {c : Cred}
variable {d n : ι} {k : κ}

/-- Neither root nor the user `euid`. -/
structure Other (euid : UInt32) (c : Cred) : Prop where
  not_root : c.uid ≠ 0
  not_euid : c.uid ≠ euid

/-- Directories up to the root, of root or of the user `euid`, that nobody else may write to
unless they are sticky. -/
structure Guarded (euid : UInt32) (D : Set ι) (F : Fs κ ι) : Prop where
  dir : ∀ d ∈ D, F.isDir d = true
  owner : ∀ d ∈ D, ∀ s, F.stat d = some s → s.st_uid = 0 ∨ s.st_uid = euid
  sticky : ∀ d ∈ D, ∀ s, F.stat d = some s → s.Shared → s.Sticky
  parent : ∀ d ∈ D, ∃ p ∈ D, F.parent d = some p

/-- The directories are the same, and lead to each other as before; in those that nobody shares
nothing has changed. -/
structure Keeps (D : Set ι) (F G : Fs κ ι) : Prop where
  root : G.root = F.root
  stat : ∀ d ∈ D, G.stat d = F.stat d
  parent : ∀ d ∈ D, G.parent d = F.parent d
  entry : ∀ d ∈ D, ∀ k, ∀ n ∈ D, G.entry d k = some n ↔ F.entry d k = some n
  unshared : ∀ d ∈ D, F.Unshared d → G.entry d = F.entry d

theorem Keeps.refl (D : Set ι) (F : Fs κ ι) : Keeps D F F :=
  ⟨rfl, fun _ _ => rfl, fun _ _ => rfl, fun _ _ _ _ _ => Iff.rfl, fun _ _ _ => rfl⟩

theorem Keeps.unshared_iff (h : Keeps D F G) (hd : d ∈ D) : G.Unshared d ↔ F.Unshared d := by
  rw [Fs.Unshared, Fs.Unshared, h.stat d hd]

theorem Keeps.trans (h : Keeps D F G) (h' : Keeps D G H) : Keeps D F H where
  root := h'.root.trans h.root
  stat d hd := (h'.stat d hd).trans (h.stat d hd)
  parent d hd := (h'.parent d hd).trans (h.parent d hd)
  entry d hd k n hn := (h'.entry d hd k n hn).trans (h.entry d hd k n hn)
  unshared d hd hs :=
    (h'.unshared d hd ((h.unshared_iff hd).mpr hs)).trans (h.unshared d hd hs)

theorem Guarded.keeps (hg : Guarded euid D F) (h : Keeps D F G) : Guarded euid D G where
  dir d hd := by
    rw [Fs.isDir, h.stat d hd]
    exact hg.dir d hd
  owner d hd s hs := hg.owner d hd s (h.stat d hd ▸ hs)
  sticky d hd s hs := hg.sticky d hd s (h.stat d hd ▸ hs)
  parent d hd := by
    rw [h.parent d hd]
    exact hg.parent d hd

/-- Only a directory that the others share may be written to by them. -/
theorem Guarded.shared_of_mayWrite (hg : Guarded euid D F) (hc : Other euid c) (hd : d ∈ D)
    (h : F.MayWrite c d) : ∃ s, F.stat d = some s ∧ s.Shared := by
  obtain ⟨s, hs, -, hwrite, -⟩ := h
  refine ⟨s, hs, Cred.shared_of_may hc.not_root ?_ hwrite⟩
  rcases hg.owner d hd s hs with howner | howner
  · rw [howner]
    exact hc.not_root
  · rw [howner]
    exact hc.not_euid

theorem Guarded.not_unshared (hg : Guarded euid D F) (hc : Other euid c) (hd : d ∈ D)
    (h : F.MayWrite c d) : ¬ F.Unshared d := by
  intro hun
  obtain ⟨s, hs, hshared⟩ := hg.shared_of_mayWrite hc hd h
  exact hun s hs hshared

theorem Guarded.not_mayRemove (hg : Guarded euid D F) (hc : Other euid c) (hd : d ∈ D)
    (hn : n ∈ D) : ¬ F.MayRemove c d n := by
  rintro ⟨hwrite, hsticky⟩
  obtain ⟨s, hs, hshared⟩ := hg.shared_of_mayWrite hc hd hwrite
  obtain ⟨t, ht⟩ := Option.isSome_iff_exists.mp (Fs.isSome_of_isDir (hg.dir n hn))
  have hother : ∀ u : UInt32, u = 0 ∨ u = euid → c.uid ≠ u := by
    rintro u (rfl | rfl)
    · exact hc.not_root
    · exact hc.not_euid
  rcases hsticky s t hs ht (hg.sticky d hd s hs hshared) with hroot | hdir | hown
  · exact hc.not_root hroot
  · exact hother _ (hg.owner d hd s hs) hdir
  · exact hother _ (hg.owner n hn t ht) hown

/-- An entry that leads to one of the directories stands in one of them. -/
theorem Guarded.entry_mem (hg : Guarded euid D F) (htree : F.Tree) (hn : n ∈ D)
    (h : F.entry d k = some n) : d ∈ D := by
  obtain ⟨p, hp, hparent⟩ := hg.parent n hn
  rw [htree.entry_parent d k n h (hg.dir n hn)] at hparent
  exact Option.some.inj hparent ▸ hp

/-- No other user takes away, renames or replaces an entry for one of the directories. -/
theorem Guarded.denied (hg : Guarded euid D F) (htree : F.Tree) (hc : Other euid c)
    (h : F.entry d k = some n) (hmay : F.MayRemove c d n) : n ∉ D := by
  intro hn
  exact hg.not_mayRemove hc (hg.entry_mem htree hn h) hn hmay

end Kept

section Steps

variable {κ ι : Type} [DecidableEq ι] {F G : Fs κ ι} {D : Set ι}
variable {euid : UInt32} {c : Cred} {d n : ι} {k : κ}

private theorem Keeps.setStat (hn : n ∉ D) (s : Stat) : Keeps D F (F.setStat n s) where
  root := rfl
  stat a ha := by
    have hne : a ≠ n := fun heq => hn (heq ▸ ha)
    exact stat_setStat_of_ne hne
  parent _ _ := rfl
  entry _ _ _ _ _ := Iff.rfl
  unshared _ _ _ := rfl

private theorem Keeps.make (hn : n ∉ D) (s : Stat) (t : PathText κ) :
    Keeps D F (F.make n s t) :=
  ⟨rfl, (Keeps.setStat hn s).stat, fun _ _ => rfl, fun _ _ _ _ _ => Iff.rfl, fun _ _ _ => rfl⟩

variable [DecidableEq κ]

section Entries

-- a shared directory, out of which no entry for one of the directories goes
variable (hopen : d ∈ D → ¬ F.Unshared d) (hold : ∀ m ∈ D, F.entry d k ≠ some m)

include hopen in
omit [DecidableEq ι] [DecidableEq κ] in
private theorem ne_of_unshared {a : ι} (ha : a ∈ D) (hun : F.Unshared a) : a ≠ d := by
  rintro rfl
  exact hopen ha hun

include hold in
omit [DecidableEq ι] [DecidableEq κ] in
private theorem elsewhere {a m : ι} {y : κ} (hm : m ∈ D) (h : F.entry a y = some m) :
    ¬(a = d ∧ y = k) := by
  rintro ⟨rfl, rfl⟩
  exact hold m hm h

include hopen hold

private theorem Keeps.drop : Keeps D F (F.drop d k) where
  root := rfl
  stat _ _ := rfl
  parent _ _ := rfl
  entry a _ y m hm := by
    rw [entry_drop]
    exact ⟨And.right, fun h => ⟨elsewhere hold hm h, h⟩⟩
  unshared _ ha hun := Function.update_of_ne (ne_of_unshared hopen ha hun) ..

private theorem Keeps.place (hn : n ∉ D) : Keeps D F (F.place d k n) where
  root := rfl
  stat _ _ := rfl
  parent a ha := by
    have hne : a ≠ n := fun heq => hn (heq ▸ ha)
    exact parent_place_of_ne hne
  entry a _ y m hm := by
    rw [entry_place]
    constructor
    · rintro (⟨-, -, rfl⟩ | ⟨-, h⟩)
      · exact absurd hm hn
      · exact h
    · exact fun h => Or.inr ⟨elsewhere hold hm h, h⟩
  unshared _ ha hun := Function.update_of_ne (ne_of_unshared hopen ha hun) ..

end Entries

/-- Whatever another user does, the directories stay as they are. -/
theorem Fs.Step.keeps (htree : F.Tree) (hg : Guarded euid D F) (hc : Other euid c)
    (hstep : Step F c G) : Keeps D F G := by
  have hopen : ∀ {d}, F.MayWrite c d → d ∈ D → ¬ F.Unshared d :=
    fun hwrite hd => hg.not_unshared hc hd hwrite
  cases hstep with
  | @create d n k s t hwrite hfree hnew howner =>
    have hn : n ∉ D := fun hn => ne_of_new hnew (hg.dir n hn) rfl
    have hmade : Keeps D F (F.make n s t) := Keeps.make hn s t
    refine hmade.trans (Keeps.place ?_ ?_ hn)
    · intro hd hun
      exact hopen hwrite hd ((hmade.unshared_iff hd).mp hun)
    · intro m _ hm
      rw [show (F.make n s t).entry d k = F.entry d k from rfl, hfree] at hm
      cases hm
  | @link d n k hwrite hfree hlive hfile =>
    refine Keeps.place (hopen hwrite) ?_ ?_
    · intro m _ hm
      rw [hfree] at hm
      cases hm
    · intro hn
      rw [hg.dir n hn] at hfile
      cases hfile
  | @remove d n k hentry hmay hempty =>
    refine Keeps.drop (hopen hmay.1) fun m hm hold => ?_
    obtain rfl := Option.some.inj (hentry.symm.trans hold)
    exact hg.denied htree hc hentry hmay hm
  | @rename d d' n k k' hentry hmay hwrite hover =>
    have hn : n ∉ D := hg.denied htree hc hentry hmay
    have hdropped : Keeps D F (F.drop d k) := by
      refine Keeps.drop (hopen hmay.1) fun m hm hold => ?_
      exact hn (Option.some.inj (hentry.symm.trans hold) ▸ hm)
    refine hdropped.trans (Keeps.place (hopen hwrite) (fun m hm hold => ?_) hn)
    have hold : F.entry d' k' = some m := (entry_drop.mp hold).2
    exact hg.denied htree hc hold (hover m hold).1 hm
  | @exchange d d' n n' k k' hentry hentry' hmay hmay' =>
    have hn : n ∉ D := hg.denied htree hc hentry hmay
    have hn' : n' ∉ D := hg.denied htree hc hentry' hmay'
    have hother : ∀ m ∈ D, F.entry d k ≠ some m := by
      intro m hm hold
      exact hn (Option.some.inj (hentry.symm.trans hold) ▸ hm)
    have hother' : ∀ m ∈ D, F.entry d' k' ≠ some m := by
      intro m hm hold
      exact hn' (Option.some.inj (hentry'.symm.trans hold) ▸ hm)
    have hfirst : Keeps D F (F.drop d k) := Keeps.drop (hopen hmay.1) hother
    have hsecond : Keeps D (F.drop d k) ((F.drop d k).drop d' k') := by
      refine Keeps.drop (hopen hmay'.1) fun m hm hold => ?_
      exact hother' m hm (entry_drop.mp hold).2
    have hthird : Keeps D ((F.drop d k).drop d' k') (((F.drop d k).drop d' k').place d k n') := by
      refine Keeps.place (hopen hmay.1) (fun m hm hold => ?_) hn'
      exact hother m hm (entry_drop.mp (entry_drop.mp hold).2).2
    refine ((hfirst.trans hsecond).trans hthird).trans
      (Keeps.place (hopen hmay'.1) (fun m hm hold => ?_) hn)
    rcases entry_place.mp hold with ⟨-, -, rfl⟩ | ⟨-, hold⟩
    · exact hn' hm
    · exact hother' m hm (entry_drop.mp (entry_drop.mp hold).2).2
  | @setattr n s s' hstat howner hsame htype =>
    refine Keeps.setStat (fun hn => ?_) s'
    rcases hg.owner n hn s hstat with hroot | heuid
    · exact hc.not_root (howner.symm.trans hroot)
    · exact hc.not_euid (howner.symm.trans heuid)

/-- Other users, in whatever order they come. -/
def Run (euid : UInt32) : Fs κ ι → Fs κ ι → Prop :=
  Relation.ReflTransGen fun F G => ∃ c, Other euid c ∧ F.Step c G

theorem Run.keeps (htree : F.Tree) (hg : Guarded euid D F) (h : Run euid F G) :
    G.Tree ∧ Keeps D F G := by
  induction h with
  | refl => exact ⟨htree, Keeps.refl D F⟩
  | tail _ hstep ih =>
    obtain ⟨htree', hkeeps⟩ := ih
    obtain ⟨c, hc, hstep⟩ := hstep
    exact ⟨hstep.tree htree', hkeeps.trans (hstep.keeps htree' (hg.keeps hkeeps) hc)⟩

end Steps

section Moves

variable {κ ι : Type} [DecidableEq ι] {F G : Fs κ ι} {D : Set ι} {c : Cred}
variable {d n : ι} {comp : Component κ}

/-- A move stays, goes up, or goes down. -/
theorem Fs.Tree.parent_of_move (h : F.Tree)
    (hmove : move F.tree ⟨c, F.root⟩ comp d = .enter n) (hdir : F.isDir n = true) :
    n = d ∨ F.parent d = some n ∨ F.parent n = some d := by
  obtain ⟨-, henters⟩ := move_enter_iff.mp hmove
  cases comp with
  | here => exact Or.inl henters.symm
  | up =>
    rw [Enters] at henters
    split at henters
    · exact Or.inl henters.symm
    · exact Or.inr (Or.inl henters)
  | name k => exact Or.inr (Or.inr (h.entry_parent d k n henters.1 hdir))

/-- A move between the directories is the same afterwards. -/
theorem Keeps.move (h : Keeps D F G) (hd : d ∈ D) (hn : n ∈ D)
    (hmove : move F.tree ⟨c, F.root⟩ comp d = .enter n) :
    move G.tree ⟨c, G.root⟩ comp d = .enter n := by
  have hopen : (G.tree.directory d && G.tree.allows c d) =
      (F.tree.directory d && F.tree.allows c d) := by
    show (G.isDir d && (G.stat d).any _) = (F.isDir d && (F.stat d).any _)
    rw [Fs.isDir, Fs.isDir, h.stat d hd]
  obtain ⟨hsearch, henters⟩ := move_enter_iff.mp hmove
  refine move_enter_iff.mpr ⟨hopen.trans hsearch, ?_⟩
  cases comp with
  | here => exact henters
  | up =>
    rw [Enters] at henters ⊢
    rw [show G.tree.parent d = F.tree.parent d from h.parent d hd, h.root]
    exact henters
  | name k =>
    refine ⟨(h.entry d hd k n hn).mpr henters.1, ?_⟩
    show (G.stat n).any _ = false
    rw [h.stat n hn]
    exact henters.2

end Moves

end KernelAv.Lib.Directories
