/- digest: A quarantine loses the file only where `close` alone says that the copy is not whole. -/

import KernelAv.Daemon.RestoreInverse

set_option autoImplicit false
set_option relaxedAutoImplicit false

namespace KernelAv.Daemon.QuarantineLoss

open KernelAv.Lib.CText
open KernelAv.Lib.Files
open KernelAv.Lib.Files.Disk (Frame)
open KernelAv.Lib.Run
open KernelAv.Daemon.Sidecar
open KernelAv.Daemon.Quarantine
open KernelAv.Daemon.RestoreInverse

/-- What may happen at a call of `quarantine_file`: bytes of the copy are lost as it is closed,
the last `lstat` finds the scanned inode at the path, the original name is unlinked. -/
inductive Event where
  | lost
  | seen
  | removed
  deriving DecidableEq

variable (S : Store) (c : Conviction) (F G : Fs)

/-- Whether the call is one at which the event happens. -/
def happens (s : Fs × QuarantineFile) (o : Outcome) (e : Event) : Bool :=
  match e, s.2 with
  | .lost, .closeCopy _ out_fd true => !o.ok && o.n < (s.1.inodes out_fd).data.length
  | .seen, .lstat _ _ => o.call (S.lstat s.1 c.path) = .ok (some c.fd)
  | .removed, .unlink _ _ => (o.call (S.unlink s.1 c.path)).isOk
  | _, _ => false

/-- The event happens in the run of `quarantine_file` with these outcomes. -/
def Happens (os : List Outcome) (e : Event) : Prop :=
  Occurs (quarantineStep S c) (fun s o e => happens S c s o e = true) e
    (F, .ensure_quarantine_dir) os

/-- The quarantine holds a new entry, locked, with the bytes of the file. -/
def Secured : Prop :=
  ∃ id j, F.names (S.root, entryName id) = none ∧ G.names (S.root, entryName id) = some j ∧
    (G.inodes j).perm = 0 ∧ (G.inodes j).data = (F.inodes c.fd).data

/-- The original name leads where it led, to what it led to. -/
def Untouched : Prop :=
  ∀ n, S.lookup c.path = .ok (.entry n) →
    G.names n = F.names n ∧ ∀ i, F.names n = some i → (G.inodes i).data = (F.inodes i).data

/-- The file is in the quarantine where its name was unlinked, and where it was otherwise. -/
structure NeverLost (os : List Outcome) : Prop where
  secured : Happens S c F os .removed → Happens S c F os .seen ∧ Secured S c F G
  untouched : ¬ Happens S c F os .removed → Untouched S c F G

/-- The names that `quarantine_file` makes. -/
def own (id : Bytes) (n : Name) : Prop := n = (S.root, entryName id) ∨ n = (S.root, metaName id)

/-- From the making of the entry on. -/
structure Made (id : Bytes) : Prop where
  coined : Coined c id
  fresh : F.names (S.root, entryName id) = none
  frame : Frame (own S id) F G

/-- The copy, on its way. -/
structure Copying (id : Bytes) (out_fd : Nat) : Prop extends Made S c F G id where
  name : G.names (S.root, entryName id) = some out_fd
  new : F.next ≤ out_fd

/-- The entry, which is whole unless something of it was lost. -/
structure Held (lost : Prop) (id : Bytes) (j : Nat) : Prop extends Made S c F G id where
  name : G.names (S.root, entryName id) = some j
  whole : (G.inodes j).data = (F.inodes c.fd).data ↔ ¬ lost

/-- The end of a quarantine that has unlinked the original. -/
structure Gone (lost : Prop) (id : Bytes) (j : Nat) : Prop where
  fresh : F.names (S.root, entryName id) = none
  name : G.names (S.root, entryName id) = some j
  locked : (G.inodes j).perm = 0
  whole : (G.inodes j).data = (F.inodes c.fd).data ↔ ¬ lost
  alone : ∀ id' j', F.names (S.root, entryName id') = none →
    G.names (S.root, entryName id') = some j' → id' = id

/-- What holds of the file system and of the events so far, at each call. -/
def Tracks (h : Event → Prop) : QuarantineFile → Prop
  | .ensure_quarantine_dir | .fstat | .clock_gettime _ => G = F ∧ ¬ h .lost ∧ ¬ h .removed
  | .linkat k | .lseek k | .openCopy k =>
      G = F ∧ Coined c k.id ∧ ¬ h .lost ∧ ¬ h .removed
  | .read k out_fd off =>
      Copying S c F G k.id out_fd ∧ (G.inodes out_fd).data = (F.inodes c.fd).data.take off ∧
        ¬ h .lost ∧ ¬ h .removed
  | .write k out_fd off buf =>
      Copying S c F G k.id out_fd ∧ (G.inodes out_fd).data = (F.inodes c.fd).data.take off ∧
        (∃ n, buf = ((F.inodes c.fd).data.drop off).take n) ∧ ¬ h .lost ∧ ¬ h .removed
  | .closeCopy k out_fd copied =>
      Copying S c F G k.id out_fd ∧
        (copied = true → (G.inodes out_fd).data = (F.inodes c.fd).data) ∧
        ¬ h .lost ∧ ¬ h .removed
  | .unlinkCopy k | .unlinkDest k => Made S c F G k.id ∧ ¬ h .removed
  | .openMeta k | .unlinkMeta k | .chmod k _ =>
      (∃ j, Held S c F G (h .lost) k.id j) ∧ ¬ h .removed
  | .writeMeta k mfd _ =>
      (∃ j, j ≠ mfd ∧ Held S c F G (h .lost) k.id j) ∧ F.next ≤ mfd ∧ ¬ h .removed
  | .fstatAgain k _ | .lstat k _ =>
      (∃ j, Held S c F G (h .lost) k.id j ∧ (G.inodes j).perm = 0) ∧ ¬ h .removed
  | .unlink k _ =>
      (∃ j, Held S c F G (h .lost) k.id j ∧ (G.inodes j).perm = 0) ∧ ¬ h .removed ∧ h .seen
  | .done _ =>
      ¬ h .removed ∧ Untouched S c F G ∨
        h .removed ∧ h .seen ∧ ∃ id j, Gone S c F G (h .lost) id j

variable {S c F G}

section Steps

variable {h : Event → Prop} {o : Outcome} {k : Kept} {id : Bytes} {j : Nat}

theorem Untouched.refl : Untouched S c F F := fun _ _ => ⟨rfl, fun _ _ => rfl⟩

/-- The original has another name than the entry and the sidecar. -/
theorem Made.untouched (hmade : Made S c F G id) : Untouched S c F G := by
  intro n hn
  obtain ⟨hentry, hsidecar⟩ := original_apart hmade.coined hn
  refine ⟨hmade.frame.names n ?_, fun i hi => hmade.frame.data i (F.names_lt n i hi)⟩
  rintro (rfl | rfl)
  · exact hentry rfl
  · exact hsidecar rfl

theorem Made.done {r : QuarantineEnd} (hmade : Made S c F G id) (hnot : ¬ h .removed) :
    Tracks S c F G h (.done r) := Or.inl ⟨hnot, hmade.untouched⟩

/-- No other entry has been made. -/
private theorem Made.alone (hmade : Made S c F G id) {id' : Bytes} {j' : Nat}
    (hfree : F.names (S.root, entryName id') = none)
    (hname : G.names (S.root, entryName id') = some j') : id' = id := by
  by_contra hne
  have hown : ¬ own S id (S.root, entryName id') := by
    rintro (heq | heq)
    · exact hne (entryName_inj (congrArg Prod.snd heq))
    · exact entry_ne_meta S id' id heq
  rw [hmade.frame.names _ hown, hfree] at hname
  cases hname

private theorem tracks_linkat (hinv : Tracks S c F G h (.linkat k)) :
    Tracks S c F ((QuarantineFile.linkat k).step S o G c).1 h
      ((QuarantineFile.linkat k).step S o G c).2 := by
  obtain ⟨rfl, hcoined, hlost, hremoved⟩ := hinv
  rw [QuarantineFile.step]
  split
  · rename_i G' hG'
    obtain ⟨n, hn, hlink⟩ := withName_ok.mp (call_ok hG')
    obtain ⟨hfree, hi, rfl⟩ := Disk.linkat_ok hlink
    obtain rfl := Place.entry.inj (lookup_dest hcoined.no_slash hn)
    refine ⟨⟨c.fd, ⟨⟨hcoined, hfree, ?_⟩, Disk.names_link_self hi, ?_⟩⟩, hremoved⟩
    · exact (Frame.refl (own S k.id) G).link (Or.inl rfl) hi
    · rw [Disk.inodes_link]
      exact iff_of_true rfl hlost
  · exact ⟨rfl, hcoined, hlost, hremoved⟩

private theorem tracks_openCopy (hinv : Tracks S c F G h (.openCopy k)) :
    Tracks S c F ((QuarantineFile.openCopy k).step S o G c).1 h
      ((QuarantineFile.openCopy k).step S o G c).2 := by
  obtain ⟨rfl, hcoined, hlost, hremoved⟩ := hinv
  rw [QuarantineFile.step]
  split
  · rename_i G' out_fd hG'
    obtain ⟨n, hn, hopen⟩ := withName_ok.mp (call_ok hG')
    obtain ⟨hfree, rfl, rfl⟩ := Disk.openExcl_ok hopen
    obtain rfl := Place.entry.inj (lookup_dest hcoined.no_slash hn)
    refine ⟨⟨⟨hcoined, hfree, ?_⟩, Disk.names_create_self, Nat.le_refl _⟩, ?_, hlost, hremoved⟩
    · exact (Frame.refl (own S k.id) G).create (Or.inl rfl)
    · rw [Disk.inodes_create_self, List.take_zero]
  · exact Or.inl ⟨hremoved, Untouched.refl⟩

private theorem Copying.modify {out_fd : Nat} (hcopying : Copying S c F G id out_fd)
    (f : Inode → Inode) : Copying S c F (G.modify out_fd f) id out_fd where
  coined := hcopying.coined
  fresh := hcopying.fresh
  frame := hcopying.frame.modify_new hcopying.new
  name := hcopying.name
  new := hcopying.new

private theorem tracks_read {out_fd off : Nat} (hfd : c.fd < F.next)
    (hinv : Tracks S c F G h (.read k out_fd off)) :
    Tracks S c F ((QuarantineFile.read k out_fd off).step S o G c).1 h
      ((QuarantineFile.read k out_fd off).step S o G c).2 := by
  obtain ⟨hcopying, hdata, hlost, hremoved⟩ := hinv
  rw [QuarantineFile.step, hcopying.frame.data _ hfd]
  split
  · refine ⟨hcopying, ?_, hlost, hremoved⟩
    intro hfalse
    cases hfalse
  · split
    · rename_i hend
      refine ⟨hcopying, fun _ => ?_, hlost, hremoved⟩
      have hall : (F.inodes c.fd).data.drop off = [] := by
        rcases List.take_eq_nil_iff.mp hend with hzero | hnil
        · unfold COPY_BUFFER at hzero
          omega
        · exact hnil
      rw [hdata, List.take_of_length_le (List.drop_eq_nil_iff.mp hall)]
    · exact ⟨hcopying, hdata, ⟨_, rfl⟩, hlost, hremoved⟩

private theorem tracks_write {out_fd off : Nat} {buf : Bytes}
    (hinv : Tracks S c F G h (.write k out_fd off buf)) :
    Tracks S c F ((QuarantineFile.write k out_fd off buf).step S o G c).1 h
      ((QuarantineFile.write k out_fd off buf).step S o G c).2 := by
  obtain ⟨hcopying, hdata, ⟨n, rfl⟩, hlost, hremoved⟩ := hinv
  rw [QuarantineFile.step]
  split
  · refine ⟨hcopying.modify _, ?_, hlost, hremoved⟩
    rw [Disk.inodes_modify_self]
    show (G.inodes out_fd).data ++ _ = _
    rw [hdata, List.take_add]
    congr 1
    rw [List.take_eq_take_iff, List.length_take]
    omega
  · refine ⟨hcopying.modify _, ?_, hlost, hremoved⟩
    intro hfalse
    cases hfalse

/-- Here the bytes get lost that nobody looks for. -/
private theorem tracks_closeCopy {out_fd : Nat} {copied : Bool}
    (hinv : Tracks S c F G h (.closeCopy k out_fd copied)) :
    Tracks S c F ((QuarantineFile.closeCopy k out_fd copied).step S o G c).1
      (fun e => h e ∨ happens S c (G, .closeCopy k out_fd copied) o e = true)
      ((QuarantineFile.closeCopy k out_fd copied).step S o G c).2 := by
  obtain ⟨hcopying, hdata, hlost, hremoved⟩ := hinv
  have hstill : ¬ (h .removed ∨
      happens S c (G, .closeCopy k out_fd copied) o .removed = true) := by
    rintro (hbefore | hnow)
    · exact hremoved hbefore
    · cases hnow
  have hcut := hcopying.modify fun n => { n with data := n.data.take o.n }
  cases copied with
  | false =>
    rw [QuarantineFile.step]
    refine ⟨?_, hstill⟩
    split
    · exact hcopying.toMade
    · exact hcut.toMade
  | true =>
    have hwhole := hdata rfl
    rw [QuarantineFile.step]
    refine ⟨⟨out_fd, ?_⟩, hstill⟩
    by_cases hok : o.ok = true
    · rw [if_pos hok]
      refine ⟨hcopying.toMade, hcopying.name, iff_of_true hwhole ?_⟩
      rintro (hbefore | hnow)
      · exact hlost hbefore
      · simp [happens, hok] at hnow
    · rw [if_neg hok]
      refine ⟨hcut.toMade, hcopying.name, ?_⟩
      rw [Disk.inodes_modify_self, ← hwhole]
      dsimp only
      rw [List.take_eq_self_iff]
      constructor
      · rintro hlen (hbefore | hnow)
        · exact hlost hbefore
        · simp only [happens, Bool.and_eq_true, decide_eq_true_eq] at hnow
          omega
      · intro hnot
        by_contra hlt
        apply hnot
        right
        simp only [happens, Bool.and_eq_true, decide_eq_true_eq]
        exact ⟨by simpa using hok, by omega⟩

private theorem Held.create {lost : Prop} {node : Inode} {n : Name}
    (hheld : Held S c F G lost id j) (hown : own S id n) (hfree : G.names n = none) :
    Held S c F (G.create n node) lost id j where
  coined := hheld.coined
  fresh := hheld.fresh
  frame := hheld.frame.create hown
  name := by
    have hname : (S.root, entryName id) ≠ n := by
      rintro rfl
      rw [hheld.name] at hfree
      cases hfree
    rw [Disk.names_create_of_ne hname, hheld.name]
  whole := by
    have hnode : j ≠ G.next := (G.names_lt _ _ hheld.name).ne
    rw [Disk.inodes_create_of_ne hnode]
    exact hheld.whole

private theorem Held.modify_new {lost : Prop} {i : Nat} {f : Inode → Inode}
    (hheld : Held S c F G lost id j) (hi : F.next ≤ i) (hne : j ≠ i) :
    Held S c F (G.modify i f) lost id j where
  coined := hheld.coined
  fresh := hheld.fresh
  frame := hheld.frame.modify_new hi
  name := hheld.name
  whole := by
    rw [Disk.inodes_modify_of_ne f hne]
    exact hheld.whole

private theorem Held.modify_kept {lost : Prop} {i : Nat} {f : Inode → Inode}
    (hheld : Held S c F G lost id j) (hf : ∀ n, (f n).data = n.data) :
    Held S c F (G.modify i f) lost id j where
  coined := hheld.coined
  fresh := hheld.fresh
  frame := hheld.frame.modify_kept hf
  name := hheld.name
  whole := by
    rw [Disk.data_modify hf]
    exact hheld.whole

private theorem tracks_openMeta (hinv : Tracks S c F G h (.openMeta k)) :
    Tracks S c F ((QuarantineFile.openMeta k).step S o G c).1 h
      ((QuarantineFile.openMeta k).step S o G c).2 := by
  obtain ⟨⟨j, hheld⟩, hremoved⟩ := hinv
  rw [QuarantineFile.step]
  split
  · exact ⟨⟨j, hheld⟩, hremoved⟩
  · rename_i name text hwrite
    obtain ⟨hname, htext⟩ := written_text hwrite
    split
    · rename_i G' mfd hG'
      obtain ⟨n, hn, hopen⟩ := withName_ok.mp (call_ok hG')
      obtain ⟨hfree, rfl, rfl⟩ := Disk.openExcl_ok hopen
      rw [hname] at hn
      obtain rfl := Place.entry.inj (lookup_meta hheld.coined.no_slash hn)
      refine ⟨⟨j, (G.names_lt _ _ hheld.name).ne, ?_⟩, hheld.frame.next_le, hremoved⟩
      exact hheld.create (Or.inr rfl) hfree
    · exact ⟨⟨j, hheld⟩, hremoved⟩

private theorem tracks_writeMeta {mfd : Nat} {rest : Bytes}
    (hinv : Tracks S c F G h (.writeMeta k mfd rest)) :
    Tracks S c F ((QuarantineFile.writeMeta k mfd rest).step S o G c).1 h
      ((QuarantineFile.writeMeta k mfd rest).step S o G c).2 := by
  obtain ⟨⟨j, hne, hheld⟩, hnew, hremoved⟩ := hinv
  rw [QuarantineFile.step]
  split
  · have hheld' := hheld.modify_new (f := Inode.append (rest.take (o.n + 1))) hnew hne
    dsimp only
    split
    · exact ⟨⟨j, hheld'⟩, hremoved⟩
    · exact ⟨⟨j, hne, hheld'⟩, hnew, hremoved⟩
  · exact ⟨⟨j, hheld⟩, hremoved⟩

/-- An `unlink` that nobody looks at takes the name away, or does nothing. -/
private theorem bestEffort_unlink (path : Bytes) :
    bestEffort G (o.call (S.unlink G path)) = G ∨
      ∃ n, S.lookup path = .ok (.entry n) ∧
        bestEffort G (o.call (S.unlink G path)) = G.remove n := by
  unfold bestEffort
  split
  · rename_i G' hG'
    obtain ⟨n, hn, hunlink⟩ := withName_ok.mp (call_ok hG')
    obtain ⟨-, rfl⟩ := Disk.unlink_ok hunlink
    exact Or.inr ⟨n, hn, rfl⟩
  · exact Or.inl rfl

private theorem Made.unlink_dest (hmade : Made S c F G id) :
    Made S c F (bestEffort G (o.call (S.unlink G (dest S id)))) id := by
  rcases bestEffort_unlink (S := S) (o := o) (G := G) (dest S id) with hsame | ⟨n, hn, hgone⟩
  · rwa [hsame]
  · obtain rfl := Place.entry.inj (lookup_dest hmade.coined.no_slash hn)
    rw [hgone]
    exact ⟨hmade.coined, hmade.fresh, hmade.frame.remove (Or.inl rfl)⟩

private theorem tracks_unlinkMeta (hinv : Tracks S c F G h (.unlinkMeta k)) :
    Tracks S c F ((QuarantineFile.unlinkMeta k).step S o G c).1 h
      ((QuarantineFile.unlinkMeta k).step S o G c).2 := by
  obtain ⟨⟨j, hheld⟩, hremoved⟩ := hinv
  rw [QuarantineFile.step]
  refine ⟨⟨j, ?_⟩, hremoved⟩
  rcases bestEffort_unlink (S := S) (o := o) (G := G) (meta_path S k.id) with
    hsame | ⟨n, hn, hgone⟩
  · rwa [hsame]
  · obtain rfl := Place.entry.inj (lookup_meta hheld.coined.no_slash hn)
    rw [hgone]
    refine ⟨⟨hheld.coined, hheld.fresh, hheld.frame.remove (Or.inr rfl)⟩, ?_, hheld.whole⟩
    rw [Disk.names_remove_of_ne (entry_ne_meta S k.id k.id), hheld.name]

private theorem tracks_chmod {meta_ok : Bool} (hinv : Tracks S c F G h (.chmod k meta_ok)) :
    Tracks S c F ((QuarantineFile.chmod k meta_ok).step S o G c).1 h
      ((QuarantineFile.chmod k meta_ok).step S o G c).2 := by
  obtain ⟨⟨j, hheld⟩, hremoved⟩ := hinv
  rw [QuarantineFile.step]
  split
  · rename_i G' hG'
    obtain ⟨n, hn, hmap⟩ := withName_ok.mp (call_ok hG')
    obtain ⟨i, hi, rfl⟩ := except_map_ok hmap
    obtain rfl := Place.entry.inj (lookup_dest hheld.coined.no_slash hn)
    obtain rfl := Option.some.inj (hheld.name.symm.trans (Disk.lstat_ok.mp hi))
    refine ⟨⟨j, hheld.modify_kept fun _ => rfl, ?_⟩, hremoved⟩
    rw [Disk.inodes_modify_self, Inode.perm_chmod]
    decide
  · exact ⟨hheld.toMade, hremoved⟩

private theorem tracks_lstat {meta_ok : Bool} (hinv : Tracks S c F G h (.lstat k meta_ok)) :
    Tracks S c F ((QuarantineFile.lstat k meta_ok).step S o G c).1
      (fun e => h e ∨ happens S c (G, .lstat k meta_ok) o e = true)
      ((QuarantineFile.lstat k meta_ok).step S o G c).2 := by
  obtain ⟨⟨j, hheld, hlocked⟩, hremoved⟩ := hinv
  have hstill : ¬ (h .removed ∨ happens S c (G, .lstat k meta_ok) o .removed = true) := by
    rintro (hbefore | hnow)
    · exact hremoved hbefore
    · cases hnow
  have hheld' : Held S c F G (h .lost ∨ happens S c (G, .lstat k meta_ok) o .lost = true)
      k.id j := by
    simpa [happens] using hheld
  rw [QuarantineFile.step]
  split
  · rename_i i hi
    split
    · rename_i hsame
      refine ⟨⟨j, hheld', hlocked⟩, hstill, Or.inr ?_⟩
      simp only [happens, decide_eq_true_eq]
      rw [hi, hsame.2]
    · exact hheld.toMade.done hstill
  · exact hheld.toMade.done hstill

private theorem tracks_unlink {meta_ok : Bool} (hinv : Tracks S c F G h (.unlink k meta_ok)) :
    Tracks S c F ((QuarantineFile.unlink k meta_ok).step S o G c).1
      (fun e => h e ∨ happens S c (G, .unlink k meta_ok) o e = true)
      ((QuarantineFile.unlink k meta_ok).step S o G c).2 := by
  obtain ⟨⟨j, hheld, hlocked⟩, hremoved, hseen⟩ := hinv
  have hwhole : (G.inodes j).data = (F.inodes c.fd).data ↔
      ¬ (h .lost ∨ happens S c (G, .unlink k meta_ok) o .lost = true) := by
    simpa [happens] using hheld.whole
  rw [QuarantineFile.step]
  split
  · rename_i G' hG'
    obtain ⟨n, hn, hunlink⟩ := withName_ok.mp (call_ok hG')
    obtain ⟨-, rfl⟩ := Disk.unlink_ok hunlink
    obtain ⟨hentry, -⟩ := original_apart hheld.coined hn
    refine Or.inr ⟨Or.inr ?_, Or.inl hseen, k.id, j, hheld.fresh, ?_, hlocked, hwhole, ?_⟩
    · simp only [happens]
      rw [hG']
      rfl
    · rw [Disk.names_remove_of_ne hentry.symm, hheld.name]
    · intro id' j' hfree hname
      exact hheld.toMade.alone hfree (Disk.names_of_remove hname).2
  · rename_i hfailed
    refine hheld.toMade.done ?_
    rintro (hbefore | hnow)
    · exact hremoved hbefore
    · simp only [happens] at hnow
      rw [hfailed] at hnow
      cases hnow

end Steps

/-- One call keeps track. -/
theorem tracks_step (hfd : c.fd < F.next) {h : Event → Prop} {s s' : Fs × QuarantineFile}
    {o : Outcome} (hinv : Tracks S c F s.1 h s.2) (hs : quarantineStep S c s o = some s') :
    Tracks S c F s'.1 (fun e => h e ∨ happens S c s o e = true) s'.2 := by
  obtain rfl := Option.some.inj hs
  obtain ⟨G, p⟩ := s
  have hquiet : (∀ e, happens S c (G, p) o e = false) →
      (fun e => h e ∨ happens S c (G, p) o e = true) = h := by
    intro hnone
    funext e
    rw [hnone e]
    simp
  cases p with
  | closeCopy k out_fd copied => exact tracks_closeCopy hinv
  | lstat k meta_ok => exact tracks_lstat hinv
  | unlink k meta_ok => exact tracks_unlink hinv
  | ensure_quarantine_dir =>
    rw [hquiet (by intro e; cases e <;> rfl), QuarantineFile.step]
    obtain ⟨rfl, hlost, hremoved⟩ := hinv
    dsimp only
    split
    · exact ⟨rfl, hlost, hremoved⟩
    · exact Or.inl ⟨hremoved, Untouched.refl⟩
  | fstat =>
    rw [hquiet (by intro e; cases e <;> rfl), QuarantineFile.step]
    exact hinv
  | clock_gettime orig_st =>
    rw [hquiet (by intro e; cases e <;> rfl), QuarantineFile.step]
    obtain ⟨rfl, hlost, hremoved⟩ := hinv
    dsimp only
    split
    · exact Or.inl ⟨hremoved, Untouched.refl⟩
    · exact ⟨rfl, coined_id o.now, hlost, hremoved⟩
  | linkat k =>
    rw [hquiet (by intro e; cases e <;> rfl)]
    exact tracks_linkat hinv
  | lseek k =>
    rw [hquiet (by intro e; cases e <;> rfl), QuarantineFile.step]
    obtain ⟨rfl, hcoined, hlost, hremoved⟩ := hinv
    dsimp only
    split
    · exact ⟨rfl, hcoined, hlost, hremoved⟩
    · exact Or.inl ⟨hremoved, Untouched.refl⟩
  | openCopy k =>
    rw [hquiet (by intro e; cases e <;> rfl)]
    exact tracks_openCopy hinv
  | read k out_fd off =>
    rw [hquiet (by intro e; cases e <;> rfl)]
    exact tracks_read hfd hinv
  | write k out_fd off buf =>
    rw [hquiet (by intro e; cases e <;> rfl)]
    exact tracks_write hinv
  | unlinkCopy k =>
    rw [hquiet (by intro e; cases e <;> rfl), QuarantineFile.step]
    exact hinv.1.unlink_dest.done hinv.2
  | openMeta k =>
    rw [hquiet (by intro e; cases e <;> rfl)]
    exact tracks_openMeta hinv
  | writeMeta k mfd rest =>
    rw [hquiet (by intro e; cases e <;> rfl)]
    exact tracks_writeMeta hinv
  | unlinkMeta k =>
    rw [hquiet (by intro e; cases e <;> rfl)]
    exact tracks_unlinkMeta hinv
  | chmod k meta_ok =>
    rw [hquiet (by intro e; cases e <;> rfl)]
    exact tracks_chmod hinv
  | unlinkDest k =>
    rw [hquiet (by intro e; cases e <;> rfl), QuarantineFile.step]
    exact hinv.1.unlink_dest.done hinv.2
  | fstatAgain k meta_ok =>
    rw [hquiet (by intro e; cases e <;> rfl), QuarantineFile.step]
    dsimp only
    split
    · exact hinv
    · obtain ⟨⟨j, hheld, -⟩, hremoved⟩ := hinv
      exact hheld.toMade.done hremoved
  | done r =>
    rw [hquiet (by intro e; cases e <;> rfl), QuarantineFile.step]
    exact hinv

/-- The run keeps track of its events. -/
theorem tracks_run (hfd : c.fd < F.next) {os : List Outcome} {p : QuarantineFile}
    (hrun : run (quarantineStep S c) (F, .ensure_quarantine_dir) os = some (G, p)) :
    Tracks S c F G (Happens S c F os) p := by
  have hstart : Tracks S c F F (fun _ => False) .ensure_quarantine_dir := ⟨rfl, id, id⟩
  have hend := history_invariant (fun s o e => happens S c s o e = true)
    (fun h s => Tracks S c F s.1 h s.2) (fun h s o s' => tracks_step hfd) hstart hrun
  have hsame : (fun e => False ∨ Occurs (quarantineStep S c)
      (fun s o e => happens S c s o e = true) e (F, .ensure_quarantine_dir) os) =
      Happens S c F os := by
    funext e
    rw [false_or]
    rfl
  rwa [hsame] at hend

/-- At every call, the original is where it was, unless it has gone. -/
private theorem untouched_or_gone {h : Event → Prop} {p : QuarantineFile}
    (hinv : Tracks S c F G h p) :
    ¬ h .removed ∧ Untouched S c F G ∨
      h .removed ∧ h .seen ∧ ∃ id j, Gone S c F G (h .lost) id j := by
  cases p with
  | done r => exact hinv
  | ensure_quarantine_dir | fstat | clock_gettime _ =>
    obtain ⟨rfl, -, hremoved⟩ := hinv
    exact Or.inl ⟨hremoved, Untouched.refl⟩
  | linkat k | lseek k | openCopy k =>
    obtain ⟨rfl, -, -, hremoved⟩ := hinv
    exact Or.inl ⟨hremoved, Untouched.refl⟩
  | read k out_fd off | closeCopy k out_fd copied =>
    obtain ⟨hcopying, -, -, hremoved⟩ := hinv
    exact Or.inl ⟨hremoved, hcopying.toMade.untouched⟩
  | write k out_fd off buf =>
    obtain ⟨hcopying, -, -, -, hremoved⟩ := hinv
    exact Or.inl ⟨hremoved, hcopying.toMade.untouched⟩
  | unlinkCopy k | unlinkDest k => exact Or.inl ⟨hinv.2, hinv.1.untouched⟩
  | openMeta k | unlinkMeta k | chmod k meta_ok =>
    obtain ⟨⟨j, hheld⟩, hremoved⟩ := hinv
    exact Or.inl ⟨hremoved, hheld.toMade.untouched⟩
  | writeMeta k mfd rest =>
    obtain ⟨⟨j, -, hheld⟩, -, hremoved⟩ := hinv
    exact Or.inl ⟨hremoved, hheld.toMade.untouched⟩
  | fstatAgain k meta_ok | lstat k meta_ok =>
    obtain ⟨⟨j, hheld, -⟩, hremoved⟩ := hinv
    exact Or.inl ⟨hremoved, hheld.toMade.untouched⟩
  | unlink k meta_ok =>
    obtain ⟨⟨j, hheld, -⟩, hremoved, -⟩ := hinv
    exact Or.inl ⟨hremoved, hheld.toMade.untouched⟩

/-- The one entry that has been made is the one that is whole or not. -/
private theorem Gone.secured_iff {lost : Prop} {id : Bytes} {j : Nat}
    (hgone : Gone S c F G lost id j) : Secured S c F G ↔ ¬ lost := by
  constructor
  · rintro ⟨id', j', hfree, hname, -, hdata⟩
    obtain rfl := hgone.alone id' j' hfree hname
    obtain rfl := Option.some.inj (hgone.name.symm.trans hname)
    exact hgone.whole.mp hdata
  · intro hnot
    exact ⟨id, j, hgone.fresh, hgone.name, hgone.locked, hgone.whole.mpr hnot⟩

private theorem neverLost_of_tracks {os : List Outcome} {p : QuarantineFile}
    (hinv : Tracks S c F G (Happens S c F os) p) :
    NeverLost S c F G os ↔ ¬ (Happens S c F os .lost ∧ Happens S c F os .removed) := by
  rcases untouched_or_gone hinv with ⟨hremoved, huntouched⟩ | ⟨hremoved, hseen, id, j, hgone⟩
  · refine iff_of_true ⟨fun h => absurd h hremoved, fun _ => huntouched⟩ ?_
    rintro ⟨-, h⟩
    exact hremoved h
  · rw [not_and', ← hgone.secured_iff]
    constructor
    · rintro ⟨hsecured, -⟩ -
      exact (hsecured hremoved).2
    · intro hsecured
      exact ⟨fun _ => ⟨hseen, hsecured hremoved⟩, fun h => absurd hremoved h⟩

/-- Whatever the calls of `quarantine_file` do, and wherever it is, the file is where its name was
or in the quarantine as a whole, unless the close of the finished copy has lost some of it and the
name was unlinked all the same: `copy_fd_to` does not look at what `close` returns. -/
theorem never_lost_iff {S : Store} {c : Conviction} {F G : Fs} {os : List Outcome}
    {p : QuarantineFile} (hfd : c.fd < F.next)
    (hrun : run (quarantineStep S c) (F, .ensure_quarantine_dir) os = some (G, p)) :
    NeverLost S c F G os ↔ ¬ (Happens S c F os .lost ∧ Happens S c F os .removed) :=
  neverLost_of_tracks (tracks_run hfd hrun)

/-- One regular file, `/t/a`. -/
private def onlyCopy : Fs := Disk.single (2, lit "a") ⟨0, S_IFREG ||| 0o644, user, user, lit "X5O"⟩

private def falsePositive : Conviction := ⟨0, lit "/t/a", lit "eicar", lit "00"⟩

/-- The link is refused and the copy closes with or without an error. -/
private def copying (closes : Bool) : List Outcome :=
  let fine : Outcome := ⟨true, 1000, (5, 42), 7⟩
  List.replicate 3 fine ++ ⟨false, 0, (5, 42), 7⟩ :: List.replicate 5 fine ++
    ⟨closes, 0, (5, 42), 7⟩ :: List.replicate 6 fine

/-- With no error, the copy is kept and the name unlinked. -/
theorem copy_kept : ∃ G, run (quarantineStep twoDirs falsePositive)
      (onlyCopy, .ensure_quarantine_dir) (copying true) =
        some (G, .done (.kept (lit "7_5000000042_a") true true)) ∧
    NeverLost twoDirs falsePositive onlyCopy G (copying true) := by
  have hend : (run (quarantineStep twoDirs falsePositive) (onlyCopy, .ensure_quarantine_dir)
      (copying true)).map Prod.snd = some (.done (.kept (lit "7_5000000042_a") true true)) := by
    decide +kernel
  obtain ⟨⟨G, p⟩, hrun, hp⟩ := Option.map_eq_some_iff.mp hend
  obtain rfl : p = .done (.kept (lit "7_5000000042_a") true true) := hp
  refine ⟨G, hrun, (never_lost_iff Nat.one_pos hrun).mpr ?_⟩
  rintro ⟨hlost, -⟩
  unfold Happens at hlost
  revert hlost
  decide +kernel

/-- The disk takes nothing of the copy, `close` says so, and the only copy is unlinked. -/
theorem only_copy_lost :
    ¬ ∀ (S : Store) (c : Conviction) (F G : Fs) (os : List Outcome) (p : QuarantineFile),
        c.fd < F.next →
        run (quarantineStep S c) (F, .ensure_quarantine_dir) os = some (G, p) →
        NeverLost S c F G os := by
  intro hall
  have hend : (run (quarantineStep twoDirs falsePositive) (onlyCopy, .ensure_quarantine_dir)
      (copying false)).isSome = true := by
    decide +kernel
  obtain ⟨⟨G, p⟩, hrun⟩ := Option.isSome_iff_exists.mp hend
  have hnever := hall twoDirs falsePositive onlyCopy G _ p Nat.one_pos hrun
  refine (neverLost_of_tracks (tracks_run Nat.one_pos hrun)).mp hnever ⟨?_, ?_⟩
  · unfold Happens
    decide +kernel
  · unfold Happens
    decide +kernel

end KernelAv.Daemon.QuarantineLoss
