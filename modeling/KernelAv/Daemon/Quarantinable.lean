/- digest: Which names the quarantine takes: a long one stays where it is, or has no sidecar. -/

import KernelAv.Daemon.ControlProtocol
import KernelAv.Daemon.QuarantineLoss

set_option autoImplicit false
set_option relaxedAutoImplicit false

namespace KernelAv.Daemon.Quarantinable

open KernelAv.Lib.CText
open KernelAv.Lib.Files
open KernelAv.Lib.Lines
open KernelAv.Lib.Run
open KernelAv.Daemon.Sidecar
open KernelAv.Daemon.Quarantine
open KernelAv.Daemon.ControlSocket (finish quarantineEnd)
open KernelAv.Daemon.ControlProtocol (finish_ends run_of_finish CopiesApart quarantineRank
  descends_step)
open KernelAv.Daemon.RestoreInverse
open KernelAv.Daemon.QuarantineLoss (Tracks tracks_step tracks_run Made Held Gone)

variable (S : Store) (c : Conviction) (F G : Fs) (id : Bytes)

/-- The original name is gone, and the quarantine holds a new entry, locked, with a sidecar that
`read_quarantine_meta` accepts. -/
structure Stored : Prop where
  removed : ∀ n, S.lookup c.path = .ok (.entry n) → G.names n = none
  kept : ∃ id j s m, F.names (S.root, entryName id) = none ∧
    G.names (S.root, entryName id) = some j ∧ (G.inodes j).perm = 0 ∧
    G.names (S.root, metaName id) = some s ∧
    read_quarantine_meta (some (G.inodes s).data) = some m

/-- With these outcomes `quarantine_file` comes to its end, and the file is stored then. -/
def Quarantines (outcomes : Nat → Outcome) : Prop :=
  ∃ k G r, run (quarantineStep S c) (F, .ensure_quarantine_dir) ((List.range k).map outcomes) =
    some (G, .done r) ∧ Stored S c F G

/-- A convicted file: a regular one that is at its path, which is absolute. -/
structure Convicted (n : Name) : Prop where
  absolute : c.path.head? = some slash
  writable : Writable c.path c.rule_name c.sha256_hex
  found : S.lookup c.path = .ok (.entry n)
  name : F.names n = some c.fd
  reg : (F.inodes c.fd).isReg = true

/-- A quarantine directory with a short path, in which nothing has the id that is coined now. -/
structure Ready : Prop where
  short : S.quarantine_dir.length ≤ 64
  no_entry : F.names (S.root, entryName id) = none
  no_sidecar : F.names (S.root, metaName id) = none

/-- The name of the sidecar, which is longer than the name of the entry, fits a directory. -/
def SidecarFits : Prop := (metaName id).length ≤ NAME_MAX

def EntryFits : Prop := (entryName id).length ≤ NAME_MAX

/-- What is left in the quarantine beside the entry: a sidecar, where its name fits. -/
def Sided (k : Kept) (meta_ok : Bool) : Prop :=
  (meta_ok = true ∧ SidecarFits k.id) ∨
    (meta_ok = false ∧ ¬ SidecarFits k.id ∧ G.names (S.root, metaName k.id) = none)

/-- How far `quarantine_file` is, with the names it has coined, as long as no call fails. -/
def Placed (n : Name) (k : Kept) : QuarantineFile → Prop
  | .ensure_quarantine_dir | .fstat | .clock_gettime _ => False
  | .linkat k' | .lseek k' | .openCopy k' => k' = k ∧ G = F
  | .read k' _ _ | .write k' _ _ _ | .openMeta k' =>
      k' = k ∧ EntryFits k.id ∧ (G.inodes c.fd).isReg = true ∧
        G.names (S.root, metaName k.id) = none
  | .closeCopy k' _ copied =>
      k' = k ∧ EntryFits k.id ∧ (G.inodes c.fd).isReg = true ∧
        G.names (S.root, metaName k.id) = none ∧ copied = true
  | .writeMeta k' _ _ => k' = k ∧ EntryFits k.id ∧ SidecarFits k.id ∧ (G.inodes c.fd).isReg = true
  | .chmod k' meta_ok | .fstatAgain k' meta_ok | .lstat k' meta_ok | .unlink k' meta_ok =>
      k' = k ∧ EntryFits k.id ∧ (G.inodes c.fd).isReg = true ∧ Sided S G k meta_ok
  | .done (.kept id meta_ok removed) =>
      id = k.id ∧ removed = true ∧ G.names n = none ∧
        (∃ j, G.names (S.root, entryName k.id) = some j) ∧ Sided S G k meta_ok
  | .done .refused => G = F ∧ ¬ EntryFits k.id
  | .unlinkCopy _ | .unlinkMeta _ | .unlinkDest _ => False

section Steps

variable {S c F G} {n : Name} {k : Kept} {o : Outcome} {h : QuarantineLoss.Event → Prop}

theorem SidecarFits.entry {id : Bytes} (hfits : SidecarFits id) : EntryFits id := by
  have hlens : (lit ".quarantined").length = 12 ∧ (lit ".quarantined.meta").length = 17 := by
    decide
  unfold SidecarFits metaName at hfits
  unfold EntryFits entryName
  rw [List.length_append] at hfits ⊢
  omega

private theorem Ready.dest_short {id : Bytes} (hready : Ready S F id) (hfits : EntryFits id) :
    (meta_path S id).length < PATH_MAX := by
  have hshort := hready.short
  have hmeta : (lit ".meta").length = 5 := by decide
  unfold EntryFits NAME_MAX at hfits
  rw [meta_path, dest, List.length_append, List.length_append, List.length_append, hmeta,
    List.length_singleton]
  unfold PATH_MAX
  omega

private theorem Ready.dest_found {id : Bytes} (hready : Ready S F id) (hslash : slash ∉ id)
    (hfits : EntryFits id) : S.lookup (dest S id) = .ok (.entry (S.root, entryName id)) := by
  have hmeta := hready.dest_short hfits
  rw [meta_path, List.length_append] at hmeta
  exact lookup_dest_short hslash (by omega) hfits

private theorem fits_of_dest {id : Bytes} {m : Name} (hslash : slash ∉ id)
    (hfound : S.lookup (dest S id) = .ok (.entry m)) : EntryFits id := by
  have hlen := (lookup_lengths hfound).2
  obtain rfl := Place.entry.inj (lookup_dest hslash hfound)
  exact hlen

private theorem isReg_modify {f : Inode → Inode} (hf : ∀ n, (f n).isReg = n.isReg) (i j : Nat) :
    ((G.modify i f).inodes j).isReg = (G.inodes j).isReg := by
  by_cases hj : j = i
  · subst hj
    rw [Disk.inodes_modify_self, hf]
  · rw [Disk.inodes_modify_of_ne f hj]

/-- What the calls are about, from the naming on. -/
structure Setting (S : Store) (c : Conviction) (F : Fs) (n : Name) (k : Kept) : Prop extends
    Convicted S c F n, Ready S F k.id where
  coined : Coined c k.id

private theorem Setting.fd_lt (hset : Setting S c F n k) : c.fd < F.next :=
  F.names_lt _ _ hset.name

/-- The original is still where it was. -/
private theorem Setting.still (hset : Setting S c F n k) {id : Bytes} (hmade : Made S c F G id) :
    G.names n = some c.fd := by
  rw [(hmade.untouched n hset.found).1, hset.name]

private theorem placed_linkat (hset : Setting S c F n k)
    (hplaced : Placed S c F G n k (.linkat k)) :
    Placed S c F ((QuarantineFile.linkat k).step S o G c).1 n k
      ((QuarantineFile.linkat k).step S o G c).2 := by
  obtain ⟨-, rfl⟩ := hplaced
  rw [QuarantineFile.step]
  split
  · rename_i G' hG'
    obtain ⟨m, hm, hlink⟩ := withName_ok.mp (call_ok hG')
    obtain ⟨-, hi, rfl⟩ := Disk.linkat_ok hlink
    have hfits := fits_of_dest hset.coined.no_slash hm
    obtain rfl := Place.entry.inj (lookup_dest hset.coined.no_slash hm)
    refine ⟨rfl, hfits, hset.reg, ?_⟩
    rw [Disk.names_link_of_ne hi (entry_ne_meta S k.id k.id).symm, hset.no_sidecar]
  · exact ⟨rfl, rfl⟩

private theorem placed_openCopy (hset : Setting S c F n k) (hok : o.ok = true)
    (hplaced : Placed S c F G n k (.openCopy k)) :
    Placed S c F ((QuarantineFile.openCopy k).step S o G c).1 n k
      ((QuarantineFile.openCopy k).step S o G c).2 := by
  obtain ⟨-, rfl⟩ := hplaced
  by_cases hfits : EntryFits k.id
  · have hopen : S.openExcl G (dest S k.id) 0o600 = .ok (G.create (S.root, entryName k.id)
        ⟨S.dev S.root, S_IFREG ||| 0o600, Owner.root, Owner.root, []⟩, G.next) := by
      rw [Store.openExcl, withName_entry (hset.dest_found hset.coined.no_slash hfits),
        Disk.openExcl, hset.no_entry]
      rfl
    rw [QuarantineFile.step, call_of_ok hok, hopen]
    refine ⟨rfl, hfits, ?_, ?_⟩
    · rw [Disk.inodes_create_of_ne hset.fd_lt.ne, hset.reg]
    · rw [Disk.names_create_of_ne (entry_ne_meta S k.id k.id).symm, hset.no_sidecar]
  · rw [QuarantineFile.step]
    split
    · rename_i G' out_fd hG'
      obtain ⟨m, hm, -⟩ := withName_ok.mp (call_ok hG')
      exact absurd (fits_of_dest hset.coined.no_slash hm) hfits
    · exact ⟨rfl, hfits⟩

private theorem placed_openMeta (hset : Setting S c F n k) (hok : o.ok = true)
    (htracks : Tracks S c F G h (.openMeta k)) (hplaced : Placed S c F G n k (.openMeta k)) :
    Placed S c F ((QuarantineFile.openMeta k).step S o G c).1 n k
      ((QuarantineFile.openMeta k).step S o G c).2 := by
  obtain ⟨-, hfits, hreg, hnone⟩ := hplaced
  obtain ⟨⟨j, hheld⟩, -⟩ := htracks
  have hfd : c.fd ≠ G.next := (hset.fd_lt.trans_le hheld.frame.next_le).ne
  rw [QuarantineFile.step, write_fits _ _ _ _ _ (hset.dest_short hfits)]
  by_cases hsidecar : SidecarFits k.id
  · have hfound := lookup_meta_short hset.coined.no_slash (hset.dest_short hfits) hsidecar
    have hopen : S.openExcl G (meta_path S k.id) 0o600 = .ok (G.create (S.root, metaName k.id)
        ⟨S.dev S.root, S_IFREG ||| 0o600, Owner.root, Owner.root, []⟩, G.next) := by
      rw [Store.openExcl, withName_entry hfound, Disk.openExcl, hnone]
      rfl
    dsimp only
    rw [call_of_ok hok, show dest S k.id ++ lit ".meta" = meta_path S k.id from rfl, hopen]
    refine ⟨rfl, hfits, hsidecar, ?_⟩
    rw [Disk.inodes_create_of_ne hfd, hreg]
  · dsimp only
    split
    · rename_i G' mfd hG'
      obtain ⟨m, hm, -⟩ := withName_ok.mp (call_ok hG')
      have hlen := (lookup_lengths hm).2
      obtain rfl := Place.entry.inj (lookup_meta hset.coined.no_slash hm)
      exact absurd hlen hsidecar
    · exact ⟨rfl, hfits, hreg, Or.inr ⟨rfl, hsidecar, hnone⟩⟩

private theorem placed_chmod {meta_ok : Bool} (hset : Setting S c F n k) (hok : o.ok = true)
    (htracks : Tracks S c F G h (.chmod k meta_ok))
    (hplaced : Placed S c F G n k (.chmod k meta_ok)) :
    Placed S c F ((QuarantineFile.chmod k meta_ok).step S o G c).1 n k
      ((QuarantineFile.chmod k meta_ok).step S o G c).2 := by
  obtain ⟨-, hfits, hreg, hsided⟩ := hplaced
  obtain ⟨⟨j, hheld⟩, -⟩ := htracks
  have hchmod : S.chmod G (dest S k.id) 0 = .ok (G.modify j (Inode.chmod 0)) := by
    rw [Store.chmod, withName_entry (hset.dest_found hset.coined.no_slash hfits),
      Disk.lstat_ok.mpr hheld.name]
    rfl
  rw [QuarantineFile.step, call_of_ok hok, hchmod]
  refine ⟨rfl, hfits, ?_, hsided⟩
  rw [isReg_modify (Inode.isReg_chmod 0), hreg]

private theorem placed_lstat {meta_ok : Bool} (hset : Setting S c F n k) (hok : o.ok = true)
    (htracks : Tracks S c F G h (.lstat k meta_ok))
    (hplaced : Placed S c F G n k (.lstat k meta_ok)) :
    Placed S c F ((QuarantineFile.lstat k meta_ok).step S o G c).1 n k
      ((QuarantineFile.lstat k meta_ok).step S o G c).2 := by
  obtain ⟨⟨j, hheld, -⟩, -⟩ := htracks
  have hlstat : S.lstat G c.path = .ok (some c.fd) := by
    rw [Store.lstat, hset.found]
    dsimp only
    rw [Disk.lstat_ok.mpr (hset.still hheld.toMade)]
    rfl
  rw [QuarantineFile.step, call_of_ok hok, hlstat]
  dsimp only
  rw [if_pos ⟨rfl, rfl⟩]
  exact hplaced

private theorem placed_unlink {meta_ok : Bool} (hset : Setting S c F n k) (hok : o.ok = true)
    (htracks : Tracks S c F G h (.unlink k meta_ok))
    (hplaced : Placed S c F G n k (.unlink k meta_ok)) :
    Placed S c F ((QuarantineFile.unlink k meta_ok).step S o G c).1 n k
      ((QuarantineFile.unlink k meta_ok).step S o G c).2 := by
  obtain ⟨-, -, hreg, hsided⟩ := hplaced
  obtain ⟨⟨j, hheld, -⟩, -, -⟩ := htracks
  obtain ⟨hentry, hsidecar⟩ := original_apart hset.coined hset.found
  have hunlink : S.unlink G c.path = .ok (G.remove n) := by
    rw [Store.unlink, withName_entry hset.found, Disk.unlink, hset.still hheld.toMade]
    dsimp only
    rw [Inode.isDir_of_isReg hreg, if_neg Bool.false_ne_true]
  rw [QuarantineFile.step, call_of_ok hok, hunlink]
  refine ⟨rfl, rfl, Disk.names_remove_self, ⟨j, ?_⟩, ?_⟩
  · rw [Disk.names_remove_of_ne hentry.symm, hheld.name]
  · unfold Sided
    rw [Disk.names_remove_of_ne hsidecar.symm]
    exact hsided

/-- A call that does not fail brings the file nearer to its place. -/
private theorem placed_step {s s' : Fs × QuarantineFile} (hset : Setting S c F n k)
    (hok : o.ok = true) (htracks : Tracks S c F s.1 h s.2) (hplaced : Placed S c F s.1 n k s.2)
    (hs : quarantineStep S c s o = some s') : Placed S c F s'.1 n k s'.2 := by
  obtain rfl := Option.some.inj hs
  obtain ⟨G, p⟩ := s
  cases p with
  | ensure_quarantine_dir | fstat | clock_gettime _ | unlinkCopy _ | unlinkMeta _ | unlinkDest _ =>
    exact hplaced.elim
  | linkat k' =>
    obtain rfl := hplaced.1
    exact placed_linkat hset hplaced
  | lseek k' =>
    rw [QuarantineFile.step, if_pos hok]
    exact hplaced
  | openCopy k' =>
    obtain rfl := hplaced.1
    exact placed_openCopy hset hok hplaced
  | read k' out_fd off =>
    rw [QuarantineFile.step]
    dsimp only
    rw [hok]
    split
    · rename_i hfalse
      cases hfalse
    · split
      · exact ⟨hplaced.1, hplaced.2.1, hplaced.2.2.1, hplaced.2.2.2, rfl⟩
      · exact hplaced
  | write k' out_fd off buf =>
    obtain ⟨rfl, hfits, hreg, hnone⟩ := hplaced
    rw [QuarantineFile.step, if_pos hok]
    refine ⟨rfl, hfits, ?_, hnone⟩
    have hkept : ∀ n : Inode, (n.append buf).isReg = n.isReg := fun _ => rfl
    rw [isReg_modify hkept, hreg]
  | closeCopy k' out_fd copied =>
    obtain ⟨rfl, hfits, hreg, hnone, rfl⟩ := hplaced
    rw [QuarantineFile.step, if_pos hok]
    exact ⟨rfl, hfits, hreg, hnone⟩
  | openMeta k' =>
    obtain rfl := hplaced.1
    exact placed_openMeta hset hok htracks hplaced
  | writeMeta k' mfd rest =>
    obtain ⟨rfl, hfits, hsidecar, hreg⟩ := hplaced
    have hkept : ∀ n : Inode, (n.append (rest.take (o.n + 1))).isReg = n.isReg := fun _ => rfl
    have hreg' := hreg
    rw [← isReg_modify hkept mfd] at hreg'
    rw [QuarantineFile.step, if_pos hok]
    dsimp only
    split
    · exact ⟨rfl, hfits, hreg', Or.inl ⟨rfl, hsidecar⟩⟩
    · exact ⟨rfl, hfits, hsidecar, hreg'⟩
  | chmod k' meta_ok =>
    obtain rfl := hplaced.1
    exact placed_chmod hset hok htracks hplaced
  | fstatAgain k' meta_ok =>
    rw [QuarantineFile.step, if_pos hok]
    exact hplaced
  | lstat k' meta_ok =>
    obtain rfl := hplaced.1
    exact placed_lstat hset hok htracks hplaced
  | unlink k' meta_ok =>
    obtain rfl := hplaced.1
    exact placed_unlink hset hok htracks hplaced
  | done r => exact hplaced

end Steps

section Runs

variable {S c F G} {n : Name} {outcomes : Nat → Outcome}

/-- What `quarantine_file` keeps of its naming. -/
def keptAs (S : Store) (c : Conviction) (F : Fs) (now : Nat × Nat) : Kept :=
  ⟨some (statOf (F.inodes c.fd)), quarantine_id S now (basename c.path)⟩

/-- Where `quarantine_file` is once it has coined its names. -/
def named (S : Store) (c : Conviction) (F : Fs) (now : Nat × Nat) : QuarantineFile :=
  if PATH_MAX ≤ (dest S (keptAs S c F now).id).length then .done .refused
  else .linkat (keptAs S c F now)

private theorem run_named (hok : ∀ i, (outcomes i).ok = true) (k : Nat) :
    run (quarantineStep S c) (F, .ensure_quarantine_dir) ((List.range (k + 3)).map outcomes) =
      run (quarantineStep S c) (F, named S c F (outcomes 2).now)
        ((List.range k).map fun i => outcomes (i + 3)) := by
  have hlist : (List.range (k + 3)).map outcomes =
      outcomes 0 :: outcomes 1 :: outcomes 2 :: (List.range k).map fun i => outcomes (i + 3) := by
    rw [List.range_succ_eq_map, List.range_succ_eq_map, List.range_succ_eq_map]
    simp [Function.comp_def]
  have hnamed : QuarantineFile.step S (outcomes 2) F c
      (.clock_gettime (some (statOf (F.inodes c.fd)))) = (F, named S c F (outcomes 2).now) := by
    by_cases hlong : PATH_MAX ≤ (dest S (keptAs S c F (outcomes 2).now).id).length
    · rw [named, if_pos hlong]
      exact if_pos hlong
    · rw [named, if_neg hlong]
      exact if_neg hlong
  rw [hlist, run, quarantineStep, Option.bind_some, QuarantineFile.step, if_pos (hok 0), run,
    quarantineStep, Option.bind_some, QuarantineFile.step, if_pos (hok 1), run, quarantineStep,
    Option.bind_some, hnamed]

/-- A run that has ended has coined its names. -/
private theorem ended_after_naming (hok : ∀ i, (outcomes i).ok = true) {m : Nat}
    {r : QuarantineEnd} (hrun : run (quarantineStep S c) (F, .ensure_quarantine_dir)
      ((List.range m).map outcomes) = some (G, .done r)) :
    run (quarantineStep S c) (F, named S c F (outcomes 2).now)
      ((List.range (m - 3)).map fun i => outcomes (i + 3)) = some (G, .done r) := by
  match m, hrun with
  | 0, hrun => cases hrun
  | 1, hrun =>
    simp [List.range_succ, run, quarantineStep, QuarantineFile.step, hok] at hrun
  | 2, hrun =>
    simp [List.range_succ, run, quarantineStep, QuarantineFile.step, hok] at hrun
  | k + 3, hrun =>
    rw [run_named hok] at hrun
    exact hrun

/-- Where `quarantine_file` ends. -/
private theorem placed_of_run {k : Kept} (hset : Setting S c F n k)
    (hk : k = keptAs S c F (outcomes 2).now) (hok : ∀ i, (outcomes i).ok = true) {m : Nat}
    {r : QuarantineEnd} (hrun : run (quarantineStep S c) (F, .ensure_quarantine_dir)
      ((List.range m).map outcomes) = some (G, .done r)) :
    (∃ h, Tracks S c F G h (.done r)) ∧ Placed S c F G n k (.done r) := by
  have hshort : EntryFits k.id → (dest S k.id).length < PATH_MAX := by
    intro hfits
    have hmeta := hset.dest_short hfits
    rw [meta_path, List.length_append] at hmeta
    omega
  have hstart : (∃ h, Tracks S c F F h (named S c F (outcomes 2).now)) ∧
      Placed S c F F n k (named S c F (outcomes 2).now) := by
    unfold named
    rw [← hk]
    split
    · rename_i hlong
      refine ⟨⟨fun _ => False, Or.inl ⟨id, QuarantineLoss.Untouched.refl⟩⟩, rfl, fun hfits => ?_⟩
      exact absurd (hshort hfits) (not_lt.mpr hlong)
    · exact ⟨⟨fun _ => False, rfl, hset.coined, id, id⟩, rfl, rfl⟩
  have hguard : Guarded (quarantineStep S c) (fun _ o => o.ok = true)
      (F, named S c F (outcomes 2).now) ((List.range (m - 3)).map fun i => outcomes (i + 3)) := by
    refine guarded_of_forall fun o ho _ => ?_
    obtain ⟨i, -, rfl⟩ := List.mem_map.mp ho
    exact hok _
  refine guarded_invariant (fun s => (∃ h, Tracks S c F s.1 h s.2) ∧ Placed S c F s.1 n k s.2)
    ?_ hstart hguard (ended_after_naming hok hrun)
  rintro s o s' ⟨⟨h, htracks⟩, hplaced⟩ hok' hs
  exact ⟨⟨_, tracks_step hset.fd_lt htracks hs⟩, placed_step hset hok' htracks hplaced hs⟩

/-- `quarantine_file` comes to its end. -/
private theorem ends (hfd : c.fd < F.next) (outcomes : Nat → Outcome) :
    ∃ m G r, run (quarantineStep S c) (F, .ensure_quarantine_dir)
      ((List.range m).map outcomes) = some (G, .done r) := by
  have hstart : CopiesApart c.fd F .ensure_quarantine_dir := hfd
  have hends : ∃ m x, finish (fun o F p => QuarantineFile.step S o F c p) quarantineEnd
      ((List.range m).map outcomes) F .ensure_quarantine_dir = some x :=
    finish_ends (CopiesApart c.fd) (quarantineRank c.fd)
      (fun _ _ _ hinv hend => descends_step hinv hend) hstart outcomes
  have hdone : ∀ (p : QuarantineFile) (r : QuarantineEnd), quarantineEnd p = some r →
      p = .done r := by
    intro p r hp
    cases p with
    | done r' => exact congrArg _ (Option.some.inj hp)
    | _ => cases hp
  obtain ⟨m, ⟨G, r⟩, hfinish⟩ := hends
  have hstop : ∀ (p : QuarantineFile) (r : QuarantineEnd), quarantineEnd p = some r →
      ∀ (o : Outcome) (F : Fs), QuarantineFile.step S o F c p = (F, p) := by
    intro p r hp o F
    obtain rfl := hdone p r hp
    rfl
  obtain ⟨p, hp, hrun⟩ := run_of_finish hstop hfinish
  obtain rfl := hdone p r hp
  exact ⟨m, G, r, hrun⟩

end Runs

section Main

variable {S c F G} {n : Name} {outcomes : Nat → Outcome}

private theorem first_ne_nil (h : c.path.head? = some slash) : firstLine c.path ≠ [] := by
  intro hnil
  rcases firstLine_eq_nil.mp hnil with hempty | hnl
  · rw [hempty] at h
    cases h
  · rw [h] at hnl
    exact absurd hnl (by decide)

/-- Once the sidecar has its name, what is in it decides. -/
private theorem stored_iff_accepted {id : Bytes} {j s : Nat} {lost : Prop}
    (hconv : Convicted S c F n) (hgone : Gone S c F G lost id j)
    (h : Quarantined S c (F.inodes c.fd) G id j s) :
    Stored S c F G ↔ lastField tagPath (extraLines c.path) ≠ some [] := by
  obtain ⟨time, htext⟩ := h.described.text
  rw [List.append_nil] at htext
  rw [← accepted_iff (some (statOf (F.inodes c.fd))) time hconv.writable
    (first_ne_nil hconv.absolute), ← htext]
  constructor
  · rintro ⟨-, id', j', s', m, hfree, hname, -, hs, hread⟩
    obtain rfl := hgone.alone id' j' hfree hname
    obtain rfl := Option.some.inj (h.described.name.symm.trans hs)
    exact ⟨m, hread⟩
  · rintro ⟨m, hread⟩
    refine ⟨fun n' hn' => ?_, id, j, s, m, hgone.fresh, hgone.name, hgone.locked,
      h.described.name, hread⟩
    obtain ⟨n'', hn'', hnone⟩ := h.removed
    obtain rfl := Place.entry.inj (Except.ok.inj (hn'.symm.trans hn''))
    exact hnone

/-- At the end, the file is stored when the sidecar has its name and its path. -/
private theorem stored_iff {k : Kept} (hset : Setting S c F n k)
    (hk : k = keptAs S c F (outcomes 2).now) (hok : ∀ i, (outcomes i).ok = true) {m : Nat}
    {r : QuarantineEnd} (hrun : run (quarantineStep S c) (F, .ensure_quarantine_dir)
      ((List.range m).map outcomes) = some (G, .done r)) :
    Stored S c F G ↔
      SidecarFits k.id ∧ lastField tagPath (extraLines c.path) ≠ some [] := by
  obtain ⟨⟨h, htracks⟩, hplaced⟩ := placed_of_run hset hk hok hrun
  cases r with
  | refused =>
    obtain ⟨rfl, hfits⟩ := hplaced
    refine iff_of_false ?_ fun hboth => hfits hboth.1.entry
    intro hstored
    have hgone := hstored.removed n hset.found
    rw [hset.name] at hgone
    cases hgone
  | kept id' meta_ok removed =>
    obtain ⟨rfl, rfl, hgone, ⟨j, hj⟩, hsided⟩ := hplaced
    rcases htracks with ⟨-, huntouched⟩ | ⟨-, -, id'', j'', hend⟩
    · have hstill := (huntouched n hset.found).1
      rw [hgone, hset.name] at hstill
      cases hstill
    · obtain rfl := hend.alone _ _ hset.no_entry hj
      rcases hsided with ⟨rfl, hfits⟩ | ⟨rfl, hfits, hnone⟩
      · have hguard : Guarded (quarantineStep S c) (fun s o => noFailure s o = true)
            (F, .ensure_quarantine_dir) ((List.range m).map outcomes) := by
          refine guarded_of_forall fun o ho s => ?_
          obtain ⟨i, -, rfl⟩ := List.mem_map.mp ho
          rw [noFailure, hok i, Bool.true_or]
        obtain ⟨j', s, hquarantined⟩ := quarantined_of_run hset.reg hset.fd_lt hguard hrun
        obtain rfl := Option.some.inj (hend.name.symm.trans hquarantined.entered.name)
        rw [stored_iff_accepted hset.toConvicted hend hquarantined]
        exact (and_iff_right hfits).symm
      · refine iff_of_false ?_ fun hboth => hfits hboth.1
        rintro ⟨-, id', j', s, m, hfree, hname, -, hs, -⟩
        obtain rfl := hend.alone _ _ hfree hname
        rw [hnone] at hs
        cases hs

private theorem quarantines_of_setting {k : Kept} (hset : Setting S c F n k)
    (hk : k = keptAs S c F (outcomes 2).now) (hok : ∀ i, (outcomes i).ok = true) :
    Quarantines S c F outcomes ↔
      SidecarFits k.id ∧ lastField tagPath (extraLines c.path) ≠ some [] := by
  constructor
  · rintro ⟨m, G, r, hrun, hstored⟩
    exact (stored_iff hset hk hok hrun).mp hstored
  · intro hcond
    obtain ⟨m, G, r, hrun⟩ := ends (S := S) hset.fd_lt outcomes
    exact ⟨m, G, r, hrun, (stored_iff hset hk hok hrun).mpr hcond⟩

end Main

/-- When no call fails but the link, a convicted file gets into the quarantine exactly when the
name of its sidecar is one that a directory takes, and the path does not make the sidecar name an
empty one: `quarantine_file` checks the length of the whole path only. -/
theorem quarantines_iff {S : Store} {c : Conviction} {F : Fs} {n : Name}
    {outcomes : Nat → Outcome} (hconv : Convicted S c F n) (hok : ∀ i, (outcomes i).ok = true)
    (hready : Ready S F (quarantine_id S (outcomes 2).now (basename c.path))) :
    Quarantines S c F outcomes ↔
      SidecarFits (quarantine_id S (outcomes 2).now (basename c.path)) ∧
        lastField tagPath (extraLines c.path) ≠ some [] :=
  quarantines_of_setting (k := keptAs S c F (outcomes 2).now)
    { hconv, hready with coined := coined_id _ } rfl hok

section Concrete

/-- One regular file in `/t`. -/
private def oneNamed (base : Bytes) : Fs :=
  Disk.single (2, base) ⟨0, S_IFREG ||| 0o644, user, user, lit "X5O"⟩

private def named_by (base : Bytes) : Conviction :=
  ⟨0, lit "/t/" ++ base, lit "eicar", lit "00"⟩

private def untroubled (_ : Nat) : Outcome := ⟨true, 100, (5, 42), 7⟩

/-- A base name of 230 bytes. -/
private def longBase : Bytes := List.replicate 230 97

private theorem found_of_base {base : Bytes} (hslash : slash ∉ base)
    (hlen : base.length ≤ NAME_MAX) (hplain : base ∉ [[], [dot], [dot, dot]]) :
    twoDirs.lookup (lit "/t/" ++ base) = .ok (.entry (2, base)) := by
  have hsplit : lit "/t/" ++ base = lit "/t" ++ [slash] ++ base := rfl
  have hdir : twoDirs.dir (lit "/t" ++ [slash]) = some 2 := by decide
  have hpath : (lit "/t" ++ [slash] ++ base).length < PATH_MAX := by
    have hlen' : (lit "/t").length = 2 := by decide
    rw [List.length_append, List.length_append, hlen', List.length_singleton]
    unfold NAME_MAX at hlen
    unfold PATH_MAX
    omega
  rw [hsplit, Store.lookup, if_neg (not_le.mpr hpath), if_neg (by simp), dirname_append hslash,
    basename_append hslash, hdir]
  dsimp only
  rw [if_neg hplain, if_neg (not_lt.mpr hlen)]

private theorem convicted_of_base {base : Bytes} (hslash : slash ∉ base)
    (hlen : base.length ≤ NAME_MAX) (hplain : base ∉ [[], [dot], [dot, dot]])
    (hclean : (0 : UInt8) ∉ base) :
    Convicted twoDirs (named_by base) (oneNamed base) (2, base) where
  absolute := rfl
  writable := by
    have hrule : (0 : UInt8) ∉ lit "eicar" ∧ nl ∉ lit "eicar" ∧
        (lit "eicar").length ≤ AV_RULE_NAME_MAXLEN := by decide
    have hsha : (0 : UInt8) ∉ lit "00" ∧ nl ∉ lit "00" ∧ (lit "00").length ≤ 64 := by decide
    refine ⟨?_, ?_, hrule.1, hrule.2.1, hrule.2.2, hsha.1, hsha.2.1, hsha.2.2⟩
    · show (0 : UInt8) ∉ lit "/t/" ++ base
      simp only [List.mem_append, not_or]
      exact ⟨by decide, hclean⟩
    · show (lit "/t/" ++ base).length < PATH_MAX
      have hdir : (lit "/t/").length = 3 := by decide
      rw [List.length_append, hdir]
      unfold NAME_MAX at hlen
      unfold PATH_MAX
      omega
  found := found_of_base hslash hlen hplain
  name := Disk.names_single_self
  reg := by
    rw [oneNamed, Disk.inodes_single]
    decide

private theorem ready_of_base (base id : Bytes) : Ready twoDirs (oneNamed base) id := by
  have hapart : ∀ b, (twoDirs.root, b) ≠ ((2, base) : Name) := by
    intro b h
    exact absurd (congrArg Prod.fst h) (show ¬ twoDirs.root = 2 by decide)
  exact ⟨by decide, Disk.names_single_of_ne (hapart _), Disk.names_single_of_ne (hapart _)⟩

/-- A file of a short name gets into the quarantine. -/
theorem short_name_quarantined : Quarantines twoDirs (named_by (lit "a")) (oneNamed (lit "a"))
    untroubled :=
  (quarantines_iff (convicted_of_base (by decide) (by decide) (by decide) (by decide))
    (fun _ => rfl) (ready_of_base _ _)).mpr
      ⟨Nat.le_of_ble_eq_true (by decide +kernel), by decide +kernel⟩

/-- A file of a long name stays where it is. -/
theorem long_name_stays :
    ¬ ∀ (S : Store) (c : Conviction) (F : Fs) (n : Name) (outcomes : Nat → Outcome),
        Convicted S c F n → (∀ i, (outcomes i).ok = true) →
        Ready S F (quarantine_id S (outcomes 2).now (basename c.path)) →
        Quarantines S c F outcomes := by
  intro hall
  have hconv : Convicted twoDirs (named_by longBase) (oneNamed longBase) (2, longBase) :=
    convicted_of_base (by decide +kernel) (by decide +kernel) (by decide +kernel)
      (by decide +kernel)
  have hready := ready_of_base longBase (quarantine_id twoDirs (untroubled 2).now
    (basename (named_by longBase).path))
  have hfits := ((quarantines_of_setting (k := keptAs twoDirs (named_by longBase)
    (oneNamed longBase) (untroubled 2).now) { hconv, hready with coined := coined_id _ } rfl
    fun _ => rfl).mp (hall _ _ _ _ untroubled hconv (fun _ => rfl) hready)).1
  revert hfits
  unfold SidecarFits
  decide +kernel

end Concrete

end KernelAv.Daemon.Quarantinable
