/- digest: RESTORE takes a quarantined file back, but for what a change of owner takes away. -/

import KernelAv.Daemon.Quarantine
import KernelAv.Lib.Run

set_option autoImplicit false
set_option relaxedAutoImplicit false

namespace KernelAv.Daemon.RestoreInverse

open KernelAv.Lib.CText
open KernelAv.Lib.Files
open KernelAv.Lib.Lines (nl unlines)
open KernelAv.Lib.Run
open KernelAv.Daemon.Sidecar
open KernelAv.Daemon.Quarantine

variable (S : Store)

/-- `quarantine_file` alone on the file system. -/
def quarantineStep (c : Conviction) (s : Fs × QuarantineFile) (o : Outcome) :
    Option (Fs × QuarantineFile) := some (s.2.step S o s.1 c)

/-- The command RESTORE alone on the file system. -/
def restoreStep (id : Bytes) (s : Fs × Restore) (o : Outcome) : Option (Fs × Restore) :=
  some (s.2.step S o s.1 id)

/-- No call fails, unless it is the link, for which there is the copy. -/
def noFailure (s : Fs × QuarantineFile) (o : Outcome) : Bool :=
  o.ok || match s.2 with
    | .linkat _ => true
    | _ => false

/-- What the file was is at its path again, and nothing of it is left in the quarantine. -/
structure RestoredAt (path id : Bytes) (orig : Inode) (F : Fs) : Prop where
  file : ∃ j, S.lstat F path = .ok (some j) ∧ (F.inodes j).data = orig.data ∧
    (F.inodes j).perm = orig.perm ∧ (F.inodes j).st_uid = orig.st_uid ∧
    (F.inodes j).st_gid = orig.st_gid
  no_entry : F.names (S.root, entryName id) = none
  no_sidecar : F.names (S.root, metaName id) = none

/-- However the reads are cut up, RESTORE comes to its end, replies OK and has undone the
quarantine. -/
def RestoreUndoes (F : Fs) (path id : Bytes) (orig : Inode) : Prop :=
  ∃ n, ∀ os : List Outcome, (∀ o ∈ os, o.ok = true) → n ≤ os.length →
    ∃ G, run (restoreStep S id) (F, Restore.start S id) os = some (G, .done .ok) ∧
      RestoredAt S path id orig G

/-- The entry, with what was in the file. -/
structure Entered (orig : Inode) (F : Fs) (id : Bytes) (j : Nat) : Prop where
  path : S.lookup (dest S id) = .ok (.entry (S.root, entryName id))
  name : F.names (S.root, entryName id) = some j
  reg : (F.inodes j).isReg = true
  data : (F.inodes j).data = orig.data

/-- The sidecar, whatever is in it. -/
structure Accompanied (F : Fs) (id : Bytes) (s : Nat) : Prop where
  path : S.lookup (meta_path S id) = .ok (.entry (S.root, metaName id))
  name : F.names (S.root, metaName id) = some s
  reg : (F.inodes s).isReg = true

/-- The sidecar, up to the text that is still to be written. -/
structure Described (c : Conviction) (orig : Inode) (F : Fs) (id : Bytes) (s : Nat)
    (rest : Bytes) : Prop where
  path : S.lookup (meta_path S id) = .ok (.entry (S.root, metaName id))
  name : F.names (S.root, metaName id) = some s
  reg : (F.inodes s).isReg = true
  text : ∃ time, (F.inodes s).data ++ rest =
    unlines (metaLines (some (statOf orig)) time c.path c.rule_name c.sha256_hex)

/-- The id is the one that `quarantine_file` makes. -/
structure Coined (c : Conviction) (id : Bytes) : Prop where
  no_slash : slash ∉ id
  bar : 95 ∈ id
  longer : (basename c.path).length < id.length

/-- What a successful `quarantine_file` leaves. -/
structure Quarantined (c : Conviction) (orig : Inode) (F : Fs) (id : Bytes) (j s : Nat) :
    Prop where
  coined : Coined c id
  entered : Entered S orig F id j
  described : Described S c orig F id s []
  removed : ∃ n, S.lookup c.path = .ok (.entry n) ∧ F.names n = none

section Quarantining

variable {S} {c : Conviction} {orig : Inode} {F : Fs} {id : Bytes} {j s : Nat}

theorem coined_id (now : Nat × Nat) :
    Coined c (quarantine_id S now (basename c.path)) where
  no_slash := slash_not_mem_id now (slash_not_mem_basename c.path)
  bar := by
    have hbar : lit "_" = [95] := by decide
    simp [quarantine_id, hbar]
  longer := base_length_lt_id now (basename c.path)

/-- The original does not bear the name of its entry or of its sidecar: these are longer. -/
theorem original_apart (h : Coined c id) {n : Name}
    (hn : S.lookup c.path = .ok (.entry n)) :
    n ≠ (S.root, entryName id) ∧ n ≠ (S.root, metaName id) := by
  have hbase := lookup_basename hn
  have hlen := h.longer
  rw [← hbase] at hlen
  refine ⟨?_, ?_⟩
  · rintro rfl
    rw [entryName, List.length_append] at hlen
    omega
  · rintro rfl
    rw [metaName, List.length_append] at hlen
    omega

private theorem isReg_created (dev : Nat) (data : Bytes) :
    (Inode.mk dev (S_IFREG ||| 0o600) Owner.root Owner.root data).isReg = true := by
  show decide ((S_IFREG ||| 0o600) &&& S_IFMT = S_IFREG) = true
  decide

/-- The part of the file that is copied. -/
structure Copied (S : Store) (c : Conviction) (orig : Inode) (F : Fs) (id : Bytes)
    (out_fd off : Nat) : Prop where
  path : S.lookup (dest S id) = .ok (.entry (S.root, entryName id))
  name : F.names (S.root, entryName id) = some out_fd
  reg : (F.inodes out_fd).isReg = true
  data : (F.inodes out_fd).data = orig.data.take off
  source : F.inodes c.fd = orig
  apart : c.fd ≠ out_fd

/-- How far `quarantine_file` is, as long as it may still succeed. -/
def Along (S : Store) (c : Conviction) (orig : Inode) (F : Fs) : QuarantineFile → Prop
  | .ensure_quarantine_dir | .fstat => F.inodes c.fd = orig ∧ c.fd < F.next
  | .clock_gettime orig_st =>
      F.inodes c.fd = orig ∧ c.fd < F.next ∧ orig_st = some (statOf orig)
  | .linkat k | .lseek k | .openCopy k =>
      F.inodes c.fd = orig ∧ c.fd < F.next ∧ k.orig_st = some (statOf orig) ∧ Coined c k.id
  | .read k out_fd off =>
      Copied S c orig F k.id out_fd off ∧ k.orig_st = some (statOf orig) ∧ Coined c k.id
  | .write k out_fd off buf =>
      Copied S c orig F k.id out_fd off ∧ (∃ n, buf = (orig.data.drop off).take n) ∧
        k.orig_st = some (statOf orig) ∧ Coined c k.id
  | .closeCopy k _ copied =>
      copied = true → (∃ j, Entered S orig F k.id j) ∧ k.orig_st = some (statOf orig) ∧
        Coined c k.id
  | .openMeta k =>
      (∃ j, Entered S orig F k.id j) ∧ k.orig_st = some (statOf orig) ∧ Coined c k.id
  | .writeMeta k mfd rest =>
      (∃ j, j ≠ mfd ∧ Entered S orig F k.id j) ∧ Described S c orig F k.id mfd rest ∧ Coined c k.id
  | .chmod k true | .fstatAgain k true | .lstat k true | .unlink k true =>
      (∃ j s, Entered S orig F k.id j ∧ Described S c orig F k.id s []) ∧ Coined c k.id
  | .done (.kept id true true) => ∃ j s, Quarantined S c orig F id j s
  | _ => True

variable {o : Outcome} {k : Kept}

theorem except_map_ok {α β : Type} {r : Except Errno α} {f : α → β} {b : β}
    (h : r.map f = .ok b) : ∃ a, r = .ok a ∧ f a = b := by
  cases r with
  | error e => cases h
  | ok a => exact ⟨a, rfl, Except.ok.inj h⟩

private theorem lt_of_lstat {path : Bytes} {i : Nat} (h : S.lstat F path = .ok (some i)) :
    i < F.next := by
  unfold Store.lstat at h
  split at h
  · cases h
  · cases h
  · obtain ⟨a, ha, hsome⟩ := except_map_ok h
    obtain rfl := Option.some.inj hsome
    exact F.names_lt _ _ (Disk.lstat_ok.mp ha)

private theorem entered_link (h : c.fd < F.next) (hreg : orig.isReg = true)
    (hsource : F.inodes c.fd = orig)
    (hpath : S.lookup (dest S id) = .ok (.entry (S.root, entryName id))) :
    Entered S orig (F.link (S.root, entryName id) c.fd h) id c.fd where
  path := hpath
  name := Disk.names_link_self h
  reg := by rw [Disk.inodes_link, hsource, hreg]
  data := by rw [Disk.inodes_link, hsource]

private theorem along_linkat (hreg : orig.isReg = true)
    (h : Along S c orig F (.linkat k)) :
    Along S c orig ((QuarantineFile.linkat k).step S o F c).1
      ((QuarantineFile.linkat k).step S o F c).2 := by
  obtain ⟨hsource, hfd, hst, hcoined⟩ := h
  rw [QuarantineFile.step]
  split
  · rename_i G hG
    obtain ⟨n, hn, hlink⟩ := withName_ok.mp (call_ok hG)
    obtain ⟨-, hi, rfl⟩ := Disk.linkat_ok hlink
    obtain rfl := Place.entry.inj (lookup_dest hcoined.no_slash hn)
    exact ⟨⟨c.fd, entered_link hi hreg hsource hn⟩, hst, hcoined⟩
  · exact ⟨hsource, hfd, hst, hcoined⟩

private theorem along_openCopy (h : Along S c orig F (.openCopy k)) :
    Along S c orig ((QuarantineFile.openCopy k).step S o F c).1
      ((QuarantineFile.openCopy k).step S o F c).2 := by
  obtain ⟨hsource, hfd, hst, hcoined⟩ := h
  rw [QuarantineFile.step]
  split
  · rename_i G out_fd hG
    obtain ⟨n, hn, hopen⟩ := withName_ok.mp (call_ok hG)
    obtain ⟨-, rfl, rfl⟩ := Disk.openExcl_ok hopen
    obtain rfl := Place.entry.inj (lookup_dest hcoined.no_slash hn)
    refine ⟨⟨hn, Disk.names_create_self, ?_, ?_, ?_, hfd.ne⟩, hst, hcoined⟩
    · rw [Disk.inodes_create_self]
      exact isReg_created _ _
    · rw [Disk.inodes_create_self, List.take_zero]
    · rw [Disk.inodes_create_of_ne hfd.ne, hsource]
  · trivial

private theorem Copied.entered {out_fd off : Nat} (h : Copied S c orig F id out_fd off)
    (hall : orig.data.drop off = []) : Entered S orig F id out_fd where
  path := h.path
  name := h.name
  reg := h.reg
  data := by rw [h.data, List.take_of_length_le (List.drop_eq_nil_iff.mp hall)]

private theorem Copied.append {out_fd off n : Nat} (h : Copied S c orig F id out_fd off) :
    Copied S c orig (F.modify out_fd (Inode.append ((orig.data.drop off).take n))) id out_fd
      (off + ((orig.data.drop off).take n).length) where
  path := h.path
  name := h.name
  reg := by
    rw [Disk.inodes_modify_self]
    exact h.reg
  data := by
    rw [Disk.inodes_modify_self]
    show (F.inodes out_fd).data ++ _ = _
    rw [h.data, List.take_add]
    congr 1
    rw [List.take_eq_take_iff, List.length_take]
    omega
  source := by rw [Disk.inodes_modify_of_ne _ h.apart, h.source]
  apart := h.apart

private theorem along_read {out_fd off : Nat} (h : Along S c orig F (.read k out_fd off)) :
    Along S c orig ((QuarantineFile.read k out_fd off).step S o F c).1
      ((QuarantineFile.read k out_fd off).step S o F c).2 := by
  obtain ⟨hcopied, hst, hcoined⟩ := h
  rw [QuarantineFile.step, hcopied.source]
  split
  · intro hfalse
    cases hfalse
  · split
    · rename_i hend
      intro _
      have hall : orig.data.drop off = [] := by
        rcases List.take_eq_nil_iff.mp hend with hzero | hnil
        · unfold COPY_BUFFER at hzero
          omega
        · exact hnil
      exact ⟨⟨out_fd, hcopied.entered hall⟩, hst, hcoined⟩
    · exact ⟨hcopied, ⟨_, rfl⟩, hst, hcoined⟩

private theorem along_write {out_fd off : Nat} {buf : Bytes} (hok : o.ok = true)
    (h : Along S c orig F (.write k out_fd off buf)) :
    Along S c orig ((QuarantineFile.write k out_fd off buf).step S o F c).1
      ((QuarantineFile.write k out_fd off buf).step S o F c).2 := by
  obtain ⟨hcopied, ⟨n, rfl⟩, hst, hcoined⟩ := h
  rw [QuarantineFile.step]
  rw [if_pos hok]
  exact ⟨hcopied.append, hst, hcoined⟩

private theorem along_closeCopy {out_fd : Nat} {copied : Bool} (hok : o.ok = true)
    (h : Along S c orig F (.closeCopy k out_fd copied)) :
    Along S c orig ((QuarantineFile.closeCopy k out_fd copied).step S o F c).1
      ((QuarantineFile.closeCopy k out_fd copied).step S o F c).2 := by
  rw [QuarantineFile.step]
  rw [if_pos hok]
  cases copied with
  | true => exact h rfl
  | false => trivial

/-- A name that leads nowhere yet is not the name of the entry. -/
private theorem Entered.create {node : Inode} {n : Name} (h : Entered S orig F id j)
    (hn : F.names n = none) : Entered S orig (F.create n node) id j := by
  have hname : (S.root, entryName id) ≠ n := by
    rintro rfl
    rw [h.name] at hn
    cases hn
  have hnode : j ≠ F.next := (F.names_lt _ _ h.name).ne
  constructor
  · exact h.path
  · rw [Disk.names_create_of_ne hname, h.name]
  · rw [Disk.inodes_create_of_ne hnode, h.reg]
  · rw [Disk.inodes_create_of_ne hnode, h.data]

private theorem along_openMeta (h : Along S c orig F (.openMeta k)) :
    Along S c orig ((QuarantineFile.openMeta k).step S o F c).1
      ((QuarantineFile.openMeta k).step S o F c).2 := by
  obtain ⟨⟨j, hentered⟩, hst, hcoined⟩ := h
  rw [QuarantineFile.step]
  split
  · trivial
  · rename_i name text hwrite
    obtain ⟨hname, htext⟩ := written_text hwrite
    split
    · rename_i G mfd hG
      obtain ⟨n, hn, hopen⟩ := withName_ok.mp (call_ok hG)
      obtain ⟨hfree, rfl, rfl⟩ := Disk.openExcl_ok hopen
      rw [hname] at hn
      obtain rfl := Place.entry.inj (lookup_meta hcoined.no_slash hn)
      refine ⟨⟨j, (F.names_lt _ _ hentered.name).ne, hentered.create hfree⟩, ?_, hcoined⟩
      refine ⟨hn, Disk.names_create_self, ?_, o.time, ?_⟩
      · rw [Disk.inodes_create_self]
        exact isReg_created _ _
      · rw [Disk.inodes_create_self, htext, hst]
        rfl
    · trivial

private theorem along_writeMeta {mfd : Nat} {rest : Bytes} (hok : o.ok = true)
    (h : Along S c orig F (.writeMeta k mfd rest)) :
    Along S c orig ((QuarantineFile.writeMeta k mfd rest).step S o F c).1
      ((QuarantineFile.writeMeta k mfd rest).step S o F c).2 := by
  obtain ⟨⟨j, hne, hentered⟩, hdescribed, hcoined⟩ := h
  have hentered' : Entered S orig (F.modify mfd (Inode.append (rest.take (o.n + 1)))) k.id j := by
    constructor
    · exact hentered.path
    · exact hentered.name
    · rw [Disk.inodes_modify_of_ne _ hne, hentered.reg]
    · rw [Disk.inodes_modify_of_ne _ hne, hentered.data]
  have hdescribed' : Described S c orig (F.modify mfd (Inode.append (rest.take (o.n + 1)))) k.id
      mfd (rest.drop (o.n + 1)) := by
    obtain ⟨time, htext⟩ := hdescribed.text
    refine ⟨hdescribed.path, hdescribed.name, ?_, time, ?_⟩
    · rw [Disk.inodes_modify_self]
      exact hdescribed.reg
    · rw [Disk.inodes_modify_self, ← htext]
      show (F.inodes mfd).data ++ rest.take (o.n + 1) ++ rest.drop (o.n + 1) = _
      rw [List.append_assoc, List.take_append_drop]
  rw [QuarantineFile.step]
  rw [if_pos hok]
  dsimp only
  split
  · rename_i hend
    rw [hend] at hdescribed'
    exact ⟨⟨j, mfd, hentered', hdescribed'⟩, hcoined⟩
  · exact ⟨⟨j, hne, hentered'⟩, hdescribed', hcoined⟩

private theorem along_chmod (h : Along S c orig F (.chmod k true)) :
    Along S c orig ((QuarantineFile.chmod k true).step S o F c).1
      ((QuarantineFile.chmod k true).step S o F c).2 := by
  obtain ⟨⟨j, s, hentered, hdescribed⟩, hcoined⟩ := h
  have hreg : ∀ i i', ((F.modify i (Inode.chmod 0)).inodes i').isReg = (F.inodes i').isReg := by
    intro i i'
    by_cases heq : i' = i
    · subst heq
      rw [Disk.inodes_modify_self, Inode.isReg_chmod]
    · rw [Disk.inodes_modify_of_ne _ heq]
  have hdata : ∀ i i', ((F.modify i (Inode.chmod 0)).inodes i').data = (F.inodes i').data := by
    intro i i'
    by_cases heq : i' = i
    · subst heq
      rw [Disk.inodes_modify_self]
      rfl
    · rw [Disk.inodes_modify_of_ne _ heq]
  rw [QuarantineFile.step]
  split
  · rename_i G hG
    obtain ⟨n, -, hmap⟩ := withName_ok.mp (call_ok hG)
    obtain ⟨i, -, rfl⟩ := except_map_ok hmap
    refine ⟨⟨j, s, ⟨hentered.path, hentered.name, ?_, ?_⟩, hdescribed.path, hdescribed.name,
      ?_, ?_⟩, hcoined⟩
    · rw [hreg, hentered.reg]
    · rw [hdata, hentered.data]
    · rw [hreg, hdescribed.reg]
    · rw [hdata]
      exact hdescribed.text
  · trivial

private theorem along_lstat (h : Along S c orig F (.lstat k true)) :
    Along S c orig ((QuarantineFile.lstat k true).step S o F c).1
      ((QuarantineFile.lstat k true).step S o F c).2 := by
  rw [QuarantineFile.step]
  split
  · split
    · exact h
    · trivial
  · trivial

private theorem along_unlink (h : Along S c orig F (.unlink k true)) :
    Along S c orig ((QuarantineFile.unlink k true).step S o F c).1
      ((QuarantineFile.unlink k true).step S o F c).2 := by
  obtain ⟨⟨j, s, hentered, hdescribed⟩, hcoined⟩ := h
  rw [QuarantineFile.step]
  split
  · rename_i G hG
    obtain ⟨n, hn, hunlink⟩ := withName_ok.mp (call_ok hG)
    obtain ⟨-, rfl⟩ := Disk.unlink_ok hunlink
    obtain ⟨hentry, hsidecar⟩ := original_apart hcoined hn
    refine ⟨j, s, hcoined, ⟨hentered.path, ?_, hentered.reg, hentered.data⟩,
      ⟨hdescribed.path, ?_, hdescribed.reg, hdescribed.text⟩, n, hn, Disk.names_remove_self⟩
    · rw [Disk.names_remove_of_ne hentry.symm, hentered.name]
    · rw [Disk.names_remove_of_ne hsidecar.symm, hdescribed.name]
  · trivial

/-- One call keeps `quarantine_file` on its way to success, or ends its chances. -/
theorem along_step {s s' : Fs × QuarantineFile} (hreg : orig.isReg = true)
    (h : Along S c orig s.1 s.2) (hok : noFailure s o = true)
    (hs : quarantineStep S c s o = some s') :
    Along S c orig s'.1 s'.2 := by
  obtain rfl := Option.some.inj hs
  obtain ⟨F, p⟩ := s
  have hsucceeds : (∀ k, p ≠ .linkat k) → o.ok = true := by
    intro hp
    unfold noFailure at hok
    cases p with
    | linkat k => exact absurd rfl (hp k)
    | _ => simpa using hok
  cases p with
  | ensure_quarantine_dir =>
    rw [QuarantineFile.step, hsucceeds (by simp), if_pos rfl]
    exact h
  | fstat =>
    rw [QuarantineFile.step, hsucceeds (by simp), if_pos rfl]
    exact ⟨h.1, h.2, congrArg (fun n => some (statOf n)) h.1⟩
  | clock_gettime orig_st =>
    rw [QuarantineFile.step]
    dsimp only
    split
    · trivial
    · exact ⟨h.1, h.2.1, h.2.2, coined_id o.now⟩
  | linkat k => exact along_linkat hreg h
  | lseek k =>
    rw [QuarantineFile.step, hsucceeds (by simp), if_pos rfl]
    exact h
  | openCopy k => exact along_openCopy h
  | read k out_fd off => exact along_read h
  | write k out_fd off buf => exact along_write (hsucceeds (by simp)) h
  | closeCopy k out_fd copied => exact along_closeCopy (hsucceeds (by simp)) h
  | unlinkCopy k => trivial
  | openMeta k => exact along_openMeta h
  | writeMeta k mfd rest => exact along_writeMeta (hsucceeds (by simp)) h
  | unlinkMeta k => trivial
  | chmod k meta_ok =>
    cases meta_ok with
    | true => exact along_chmod h
    | false =>
      rw [QuarantineFile.step]
      split <;> trivial
  | unlinkDest k => trivial
  | fstatAgain k meta_ok =>
    rw [QuarantineFile.step, hsucceeds (by simp), if_pos rfl]
    cases meta_ok with
    | true => exact h
    | false => trivial
  | lstat k meta_ok =>
    cases meta_ok with
    | true => exact along_lstat h
    | false =>
      rw [QuarantineFile.step]
      split
      · split <;> trivial
      · trivial
  | unlink k meta_ok =>
    cases meta_ok with
    | true => exact along_unlink h
    | false =>
      rw [QuarantineFile.step]
      split <;> trivial
  | done r => exact h

/-- What a successful run of `quarantine_file` leaves. -/
theorem quarantined_of_run {os : List Outcome} {G : Fs} (hreg : (F.inodes c.fd).isReg = true)
    (hfd : c.fd < F.next)
    (hg : Guarded (quarantineStep S c) (fun s o => noFailure s o = true)
      (F, .ensure_quarantine_dir) os)
    (hrun : run (quarantineStep S c) (F, .ensure_quarantine_dir) os =
      some (G, .done (.kept id true true))) :
    ∃ j s, Quarantined S c (F.inodes c.fd) G id j s := by
  have hstart : Along S c (F.inodes c.fd) F .ensure_quarantine_dir := ⟨rfl, hfd⟩
  exact guarded_invariant (fun s => Along S c (F.inodes c.fd) s.1 s.2)
    (fun _ _ _ h hok hs => along_step hreg h hok hs) hstart hg hrun

end Quarantining

section Restoring

variable {S} {c : Conviction} {orig : Inode} {F : Fs} {id : Bytes} {j s : Nat}
variable {m : QuarantineMeta} {n : Name}

/-- The entry has the mode and the owner of its sidecar again. -/
def handedBack (F : Fs) (j : Nat) (m : QuarantineMeta) : Fs :=
  (F.modify j (Inode.chmod m.original_mode)).modify j
    (Inode.chown m.original_uid m.original_gid)

/-- The file system once RESTORE has gone through. -/
def restoredFs (S : Store) (F : Fs) (id : Bytes) (j : Nat) (m : QuarantineMeta) (n : Name) : Fs :=
  ((handedBack F j m).move (S.root, entryName id) n).remove (S.root, metaName id)

private theorem handedBack_self (F : Fs) (j : Nat) (m : QuarantineMeta) :
    (handedBack F j m).inodes j =
      ((F.inodes j).chmod m.original_mode).chown m.original_uid m.original_gid := by
  rw [handedBack, Disk.inodes_modify_self, Disk.inodes_modify_self]

private theorem isReg_handedBack (F : Fs) (j i : Nat) (m : QuarantineMeta) :
    ((handedBack F j m).inodes i).isReg = (F.inodes i).isReg := by
  by_cases heq : i = j
  · subst heq
    rw [handedBack_self, Inode.isReg_chown, Inode.isReg_chmod]
  · rw [handedBack, Disk.inodes_modify_of_ne _ heq, Disk.inodes_modify_of_ne _ heq]

private theorem valid_of_quarantined (h : Quarantined S c orig F id j s) :
    quarantine_id_valid id = true := by
  have hbar := h.coined.bar
  have hslash : id.contains slash = false := by
    simpa using h.coined.no_slash
  have hlen : id.length < PATH_MAX - 32 := by
    have hname := (lookup_lengths h.entered.path).2
    simp only [entryName, List.length_append] at hname
    unfold NAME_MAX at hname
    unfold PATH_MAX
    omega
  have hne : ∀ other : Bytes, 95 ∉ other → id ≠ other := by
    rintro other hno rfl
    exact hno hbar
  simp only [quarantine_id_valid, Bool.and_eq_true, decide_eq_true_eq, hslash, Bool.not_false,
    and_true, ne_eq]
  exact ⟨⟨⟨hne [] (by decide), hne [dot] (by decide)⟩, hne [dot, dot] (by decide)⟩, hlen⟩

private theorem start_fopen (hvalid : quarantine_id_valid id = true)
    (hentry : Entered S orig F id j) (hsidecar : Accompanied S F id s) :
    Restore.start S id = .fopen := by
  have hdest := (lookup_lengths hentry.path).1
  have hmeta := (lookup_lengths hsidecar.path).1
  have hfit : pathsFit S id = true := by
    simp only [pathsFit, Bool.and_eq_true, decide_eq_true_eq]
    exact ⟨by omega, by omega⟩
  rw [Restore.start, hvalid, hfit]
  rfl

private theorem openRead_of {F : Fs} {path : Bytes} {i : Nat} {o : Outcome} (hok : o.ok = true)
    (hpath : S.lookup path = .ok (.entry n)) (hname : F.names n = some i)
    (hreg : (F.inodes i).isReg = true) : o.call (S.openRead F path) = .ok i := by
  rw [Outcome.call, if_pos hok, Store.openRead, withName_entry hpath, Disk.openRead, hname]
  dsimp only
  rw [Inode.isLnk_of_isReg hreg, if_neg Bool.false_ne_true]

/-- Cut up as the reads may be, the whole sidecar is read before it is parsed. -/
private theorem read_leads {text : Bytes} (hdata : (F.inodes s).data = text)
    (hread : read_quarantine_meta (some text) = some m) (k : Nat) :
    ∀ part : Bytes, part <+: text → (text.drop part.length).length ≤ k →
      Leads (restoreStep S id) (fun o => o.ok = true) (k + 1) (F, .fread s part)
        (F, .openDest m) := by
  induction k with
  | zero =>
    intro part hpart hlen
    have hend : text.drop part.length = [] := List.length_eq_zero_iff.mp (Nat.le_zero.mp hlen)
    obtain rfl : part = text :=
      hpart.eq_of_length_le (List.drop_eq_nil_iff.mp hend)
    refine Leads.after fun o ho => ⟨_, ?_, Leads.refl _⟩
    rw [restoreStep, Restore.step, hdata, hend]
    simp [hread]
  | succ k ih =>
    intro part hpart hlen
    refine Leads.after fun o ho => ?_
    by_cases hend : (text.drop part.length).take (o.n + 1) = []
    · have hnil : text.drop part.length = [] := by
        rcases List.take_eq_nil_iff.mp hend with hzero | hnil
        · omega
        · exact hnil
      obtain rfl : part = text :=
        hpart.eq_of_length_le (List.drop_eq_nil_iff.mp hnil)
      refine ⟨_, ?_, (Leads.refl _).mono (Nat.zero_le _)⟩
      rw [restoreStep, Restore.step, hdata, hnil]
      simp [hread]
    · obtain ⟨tail, htail⟩ := hpart
      have hdrop : text.drop part.length = tail := by
        rw [← htail, List.drop_left]
      rw [hdrop] at hend hlen
      have hstep : restoreStep S id (F, .fread s part) o =
          some (F, .fread s (part ++ tail.take (o.n + 1))) := by
        rw [restoreStep, Restore.step, hdata, hdrop]
        simp [ho, hend]
      refine ⟨_, hstep, ih _ ?_ ?_⟩
      · rw [← htail]
        exact (List.prefix_append_right_inj part).mpr (List.take_prefix _ _)
      · rw [List.length_append, ← List.drop_drop, hdrop, List.length_drop]
        have hpos : 0 < (tail.take (o.n + 1)).length := List.length_pos_iff.mpr hend
        omega

private theorem restoreStep_one {p p' : Restore} {F F' : Fs}
    (h : ∀ o : Outcome, o.ok = true → p.step S o F id = (F', p')) :
    Leads (restoreStep S id) (fun o => o.ok = true) 1 (F, p) (F', p') :=
  Leads.one fun o ho => congrArg some (h o ho)

/-- From the open sidecar's record to the reply. -/
private theorem record_leads (hentry : Entered S orig F id j) (hsidecar : Accompanied S F id s)
    (hpath : S.lookup m.original_path = .ok (.entry n)) (hfree : F.names n = none)
    (happart : n ≠ (S.root, entryName id) ∧ n ≠ (S.root, metaName id))
    (hdev : S.dev n.1 = S.dev S.root) :
    Leads (restoreStep S id) (fun o => o.ok = true) 7 (F, .openDest m)
      (restoredFs S F id j m n, .done .ok) := by
  have hopen : Leads (restoreStep S id) (fun o => o.ok = true) 1 (F, .openDest m)
      (F, .fstat m j) := restoreStep_one fun o ho => by
    rw [Restore.step, openRead_of ho hentry.path hentry.name hentry.reg]
  have hfstat : Leads (restoreStep S id) (fun o => o.ok = true) 1 (F, .fstat m j)
      (F, .lstat m j) := restoreStep_one fun o ho => by
    rw [Restore.step, ho, hentry.reg]
    rfl
  have hlstat : Leads (restoreStep S id) (fun o => o.ok = true) 1 (F, .lstat m j)
      (F, .fchmod m j) := restoreStep_one fun o ho => by
    rw [Restore.step, Outcome.call, if_pos ho, Store.lstat, hpath]
    dsimp only
    rw [Disk.lstat, hfree]
    rfl
  have hfchmod : Leads (restoreStep S id) (fun o => o.ok = true) 1 (F, .fchmod m j)
      (F.modify j (Inode.chmod m.original_mode), .fchown m j) := restoreStep_one fun o ho => by
    rw [Restore.step, if_pos ho]
  have hfchown : Leads (restoreStep S id) (fun o => o.ok = true) 1
      (F.modify j (Inode.chmod m.original_mode), .fchown m j)
      (handedBack F j m, .rename m) := restoreStep_one fun o ho => by
    rw [Restore.step, if_pos ho]
    rfl
  have hrename : Leads (restoreStep S id) (fun o => o.ok = true) 1
      (handedBack F j m, .rename m)
      ((handedBack F j m).move (S.root, entryName id) n, .unlinkMeta) :=
    restoreStep_one fun o ho => by
      have hname : (handedBack F j m).names (S.root, entryName id) = some j := hentry.name
      have hnone : (handedBack F j m).names n = none := hfree
      rw [Restore.step, Outcome.call, if_pos ho, Store.rename, withName_entry hentry.path,
        withName_entry hpath, Disk.rename, hname]
      dsimp only
      rw [if_neg (not_not.mpr hdev.symm), hnone]
  have hunlink : Leads (restoreStep S id) (fun o => o.ok = true) 1
      ((handedBack F j m).move (S.root, entryName id) n, .unlinkMeta)
      (restoredFs S F id j m n, .done .ok) := restoreStep_one fun o ho => by
    have hname : ((handedBack F j m).move (S.root, entryName id) n).names (S.root, metaName id) =
        some s :=
      (Disk.names_move_of_ne (entry_ne_meta S id id).symm happart.2.symm).trans hsidecar.name
    have hreg : ((handedBack F j m).inodes s).isReg = true :=
      (isReg_handedBack F j s m).trans hsidecar.reg
    rw [Restore.step, Outcome.call, if_pos ho, Store.unlink, withName_entry hsidecar.path,
      Disk.unlink, hname]
    dsimp only
    rw [Disk.inodes_move, Inode.isDir_of_isReg hreg, if_neg Bool.false_ne_true]
    rfl
  exact hopen.trans (hfstat.trans (hlstat.trans (hfchmod.trans (hfchown.trans
    (hrename.trans hunlink)))))

/-- RESTORE of an entry whose sidecar leads to a free path, up to the reply. -/
theorem reply_leads (hvalid : quarantine_id_valid id = true) (hentry : Entered S orig F id j)
    (hsidecar : Accompanied S F id s)
    (hread : read_quarantine_meta (some (F.inodes s).data) = some m)
    (hpath : S.lookup m.original_path = .ok (.entry n)) (hfree : F.names n = none)
    (happart : n ≠ (S.root, entryName id) ∧ n ≠ (S.root, metaName id))
    (hdev : S.dev n.1 = S.dev S.root) :
    Leads (restoreStep S id) (fun o => o.ok = true) ((F.inodes s).data.length + 9)
      (F, Restore.start S id) (restoredFs S F id j m n, .done .ok) := by
  have hopen : Leads (restoreStep S id) (fun o => o.ok = true) 1 (F, .fopen) (F, .fread s []) :=
    restoreStep_one fun o ho => by
      rw [Restore.step, openRead_of ho hsidecar.path hsidecar.name hsidecar.reg]
  have hloop : Leads (restoreStep S id) (fun o => o.ok = true) ((F.inodes s).data.length + 1)
      (F, .fread s []) (F, .openDest m) :=
    read_leads rfl hread (F.inodes s).data.length [] List.nil_prefix (by simp)
  have hrest := record_leads hentry hsidecar hpath hfree happart hdev
  rw [start_fopen hvalid hentry hsidecar]
  exact (hopen.trans (hloop.trans hrest)).mono (by omega)

/-- What the sidecar of the file is read back as. -/
structure Recorded (c : Conviction) (orig : Inode) (m : QuarantineMeta) : Prop where
  path : m.original_path = c.path
  mode : m.original_mode = orig.perm
  uid : m.original_uid = orig.st_uid.val
  gid : m.original_gid = orig.st_gid.val

private theorem recorded_of_text (hline : nl ∉ c.path) (hpath : c.path ≠ [])
    (hw : Writable c.path c.rule_name c.sha256_hex) (h : Described S c orig F id s []) :
    ∃ m, read_quarantine_meta (some (F.inodes s).data) = some m ∧ Recorded c orig m := by
  obtain ⟨time, htext⟩ := h.text
  rw [List.append_nil] at htext
  obtain ⟨m, hread, hm, hmode, huid, hgid, -⟩ := roundTrips_of_inert time
    hpath hw (inert_of_line hline)
  rw [firstLine_of_line hline] at hm
  rw [htext]
  exact ⟨m, hread, hm, hmode, huid, hgid⟩

/-- RESTORE of what a successful `quarantine_file` has left, up to the reply. -/
private theorem restore_leads (h : Quarantined S c orig F id j s)
    (hread : read_quarantine_meta (some (F.inodes s).data) = some m) (hm : Recorded c orig m)
    (hn : S.lookup c.path = .ok (.entry n)) (hfree : F.names n = none)
    (hdev : S.dev n.1 = S.dev S.root) :
    Leads (restoreStep S id) (fun o => o.ok = true) ((F.inodes s).data.length + 9)
      (F, Restore.start S id) (restoredFs S F id j m n, .done .ok) :=
  reply_leads (valid_of_quarantined h) h.entered ⟨h.described.path, h.described.name,
    h.described.reg⟩ hread (hm.path ▸ hn) hfree (original_apart h.coined hn) hdev

private theorem restored_perm_iff (hm : m.original_mode = orig.perm) :
    (((F.inodes j).chmod m.original_mode).chown m.original_uid m.original_gid).perm = orig.perm ↔
      survivesChown orig.st_mode = true := by
  have hperm : ((F.inodes j).chmod m.original_mode).perm = orig.perm := by
    rw [Inode.perm_chmod, hm, Inode.perm, UInt32.and_assoc, UInt32.and_self]
  have hsurvives : survivesChown ((F.inodes j).chmod m.original_mode).st_mode =
      survivesChown orig.st_mode := survivesChown_congr hperm
  rw [← hsurvives, ← killPriv_keeps_iff, ← hperm]
  rfl

/-- RESTORE has undone the quarantine when the mode survives the change of owner. -/
private theorem restoredFs_at_iff (h : Quarantined S c orig F id j s) (hm : Recorded c orig m)
    (hn : S.lookup c.path = .ok (.entry n)) :
    RestoredAt S c.path id orig (restoredFs S F id j m n) ↔ survivesChown orig.st_mode = true := by
  obtain ⟨hentry, hsidecar⟩ := original_apart h.coined hn
  have hname : (restoredFs S F id j m n).names n = some j := by
    rw [restoredFs, Disk.names_remove_of_ne hsidecar, Disk.names_move_target hentry]
    exact h.entered.name
  have hnode : (restoredFs S F id j m n).inodes j =
      ((F.inodes j).chmod m.original_mode).chown m.original_uid m.original_gid := by
    rw [restoredFs, Disk.inodes_remove, Disk.inodes_move, handedBack_self]
  have hlstat : S.lstat (restoredFs S F id j m n) c.path = .ok (some j) := by
    rw [Store.lstat, hn]
    dsimp only
    rw [Disk.lstat_ok.mpr hname]
    rfl
  constructor
  · intro hat
    obtain ⟨i, hi, -, hperm, -⟩ := hat.file
    obtain rfl := Option.some.inj (Except.ok.inj (hi.symm.trans hlstat))
    rw [hnode] at hperm
    exact (restored_perm_iff hm.mode).mp hperm
  · intro hsurvives
    refine ⟨⟨j, hlstat, ?_⟩, ?_, Disk.names_remove_self⟩
    · rw [hnode]
      refine ⟨h.entered.data, (restored_perm_iff hm.mode).mpr hsurvives, ?_, ?_⟩
      · show (F.inodes j).st_uid.set m.original_uid = orig.st_uid
        rw [hm.uid, Owner.set_val]
      · show (F.inodes j).st_gid.set m.original_gid = orig.st_gid
        rw [hm.gid, Owner.set_val]
    · rw [restoredFs, Disk.names_remove_of_ne (entry_ne_meta S id id), Disk.names_move_source]

private def easy : Outcome := ⟨true, 0, (0, 0), 0⟩

private theorem undoes_iff_survives (h : Quarantined S c orig F id j s) (hline : nl ∉ c.path)
    (hw : Writable c.path c.rule_name c.sha256_hex)
    (hdev : ∀ n, S.lookup c.path = .ok (.entry n) → S.dev n.1 = S.dev S.root) :
    RestoreUndoes S F c.path id orig ↔ survivesChown orig.st_mode = true := by
  obtain ⟨n, hn, hfree⟩ := h.removed
  obtain ⟨m, hread, hm⟩ := recorded_of_text hline (lookup_ne_nil hn) hw h.described
  have hleads := restore_leads h hread hm hn hfree (hdev n hn)
  have hends : ∀ os : List Outcome, (∀ o ∈ os, o.ok = true) →
      (F.inodes s).data.length + 9 ≤ os.length →
      run (restoreStep S id) (F, Restore.start S id) os =
        some (restoredFs S F id j m n, .done .ok) :=
    fun os => hleads.ends fun _ => rfl
  rw [← restoredFs_at_iff h hm hn]
  constructor
  · rintro ⟨k, hundoes⟩
    have hall : ∀ o ∈ List.replicate (k + ((F.inodes s).data.length + 9)) easy, o.ok = true := by
      intro o ho
      rw [List.eq_of_mem_replicate ho]
      rfl
    obtain ⟨G, hG, hat⟩ := hundoes _ hall (by simp)
    have hsame := (hends _ hall (by simp)).symm.trans hG
    rw [(Prod.mk.inj (Option.some.inj hsame)).1]
    exact hat
  · intro hat
    exact ⟨_, fun os hos hlen => ⟨_, hends os hos hlen, hat⟩⟩

end Restoring

/-- After a successful `quarantine_file`, by the link or by the copy, RESTORE undoes it exactly
when the file had no set-user-ID bit, and no set-group-ID bit along with execution by its group:
the mode is set before the owner, and the change of owner takes these bits away. -/
theorem restore_undoes_iff {S : Store} {c : Conviction} {F G : Fs} {id : Bytes}
    {os : List Outcome} (hline : nl ∉ c.path) (hw : Writable c.path c.rule_name c.sha256_hex)
    (hfile : S.lstat F c.path = .ok (some c.fd)) (hreg : (F.inodes c.fd).isReg = true)
    (hdev : ∀ n, S.lookup c.path = .ok (.entry n) → S.dev n.1 = S.dev S.root)
    (hg : Guarded (quarantineStep S c) (fun s o => noFailure s o = true)
      (F, .ensure_quarantine_dir) os)
    (hrun : run (quarantineStep S c) (F, .ensure_quarantine_dir) os =
      some (G, .done (.kept id true true))) :
    RestoreUndoes S G c.path id (F.inodes c.fd) ↔
      survivesChown (F.inodes c.fd).st_mode = true := by
  obtain ⟨j, s, hquarantined⟩ := quarantined_of_run hreg (lt_of_lstat hfile) hg hrun
  exact undoes_iff_survives hquarantined hline hw hdev

/-- One regular file, `/t/a`. -/
private def oneFile (mode : UInt32) : Fs where
  names n := if n = (2, lit "a") then some 0 else none
  inodes _ := ⟨0, S_IFREG ||| mode, user, user, lit "X5O"⟩
  links _ := 1
  next := 1
  names_lt := by
    intro n i h
    split at h
    · cases h
      exact Nat.one_pos
    · cases h

private def eicarFile : Conviction := ⟨0, lit "/t/a", lit "eicar", lit "00"⟩

private theorem eicarFile_writable :
    Writable eicarFile.path eicarFile.rule_name eicarFile.sha256_hex := by
  constructor <;> decide

private theorem twoDirs_one_device (n : Name)
    (_ : twoDirs.lookup eicarFile.path = .ok (.entry n)) :
    twoDirs.dev n.1 = twoDirs.dev twoDirs.root := rfl

private def quick : Outcome := ⟨true, 1000, (5, 42), 7⟩

private def refusedLink : List Outcome :=
  List.replicate 3 quick ++ ⟨false, 0, (5, 42), 7⟩ :: List.replicate 12 quick

/-- An executable of mode 0755, quarantined by the copy, is restored as it was. -/
theorem copied_file_restored :
    ∃ G, run (quarantineStep twoDirs eicarFile) (oneFile 0o755, .ensure_quarantine_dir)
        refusedLink = some (G, .done (.kept (lit "7_5000000042_a") true true)) ∧
      RestoreUndoes twoDirs G (lit "/t/a") (lit "7_5000000042_a") ((oneFile 0o755).inodes 0) := by
  have hend : (run (quarantineStep twoDirs eicarFile) (oneFile 0o755, .ensure_quarantine_dir)
      refusedLink).map Prod.snd = some (.done (.kept (lit "7_5000000042_a") true true)) := by
    decide +kernel
  obtain ⟨⟨G, p⟩, hrun, hp⟩ := Option.map_eq_some_iff.mp hend
  obtain rfl : p = .done (.kept (lit "7_5000000042_a") true true) := hp
  refine ⟨G, hrun, ?_⟩
  exact (restore_undoes_iff (c := eicarFile) (by decide) eicarFile_writable rfl (by decide)
    twoDirs_one_device (by decide +kernel) hrun).mpr (by decide)

/-- A set-user-ID executable comes back without its bit. -/
theorem setuid_file_not_restored :
    ¬ ∀ (S : Store) (c : Conviction) (F G : Fs) (id : Bytes) (os : List Outcome),
        nl ∉ c.path → Writable c.path c.rule_name c.sha256_hex →
        S.lstat F c.path = .ok (some c.fd) → (F.inodes c.fd).isReg = true →
        (∀ n, S.lookup c.path = .ok (.entry n) → S.dev n.1 = S.dev S.root) →
        Guarded (quarantineStep S c) (fun s o => noFailure s o = true)
          (F, .ensure_quarantine_dir) os →
        run (quarantineStep S c) (F, .ensure_quarantine_dir) os =
          some (G, .done (.kept id true true)) →
        RestoreUndoes S G c.path id (F.inodes c.fd) := by
  intro hall
  have hend : (run (quarantineStep twoDirs eicarFile) (oneFile 0o4755, .ensure_quarantine_dir)
      (List.replicate 10 quick)).map Prod.snd =
        some (.done (.kept (lit "7_5000000042_a") true true)) := by decide +kernel
  obtain ⟨⟨G, p⟩, hrun, hp⟩ := Option.map_eq_some_iff.mp hend
  obtain rfl : p = .done (.kept (lit "7_5000000042_a") true true) := hp
  have hguard : Guarded (quarantineStep twoDirs eicarFile) (fun s o => noFailure s o = true)
      (oneFile 0o4755, .ensure_quarantine_dir) (List.replicate 10 quick) := by decide +kernel
  have hundoes := hall twoDirs eicarFile (oneFile 0o4755) G _ _ (by decide) eicarFile_writable rfl
    (by decide) twoDirs_one_device hguard hrun
  obtain ⟨j, s, hquarantined⟩ := quarantined_of_run (F := oneFile 0o4755) (c := eicarFile)
    (by decide) (by decide) hguard hrun
  have hsurvives := (undoes_iff_survives hquarantined (by decide) eicarFile_writable
    twoDirs_one_device).mp hundoes
  exact absurd hsurvives (by decide)

end KernelAv.Daemon.RestoreInverse
