/- digest: Each system call of a scan and of a command keeps what holds of the quarantine. -/

import KernelAv.Daemon.QuarantineInvariant

set_option autoImplicit false
set_option relaxedAutoImplicit false

namespace KernelAv.Daemon.QuarantineSteps

open KernelAv.Lib.CText
open KernelAv.Lib.Files
open KernelAv.Lib.Lines (nl unlines)
open KernelAv.Daemon.Sidecar
open KernelAv.Daemon.Quarantine
open KernelAv.Daemon.QuarantineCalls
open KernelAv.Daemon.QuarantineInvariant

section Steps

variable {S : Store} {d d' : Avd} {x x' : Call} {t : Nat}

/-- A call that has no id before its entry is described, and writes nothing. -/
structure Plain (S : Store) (x : Call) : Prop where
  pending : Call.pending S x = none
  describing : Call.describing x = none
  handle : Call.handle x = none

theorem ne_some {α : Type} {o : Option α} {a : α} {P : Prop} (h : o = none)
    (ha : o = some a) : P := by
  rw [h] at ha
  cases ha

/-- Between calls that are plain, only the names, the modes and the locks matter. -/
private theorem change_plain (hx : Plain S x) (hx' : Plain S x') (hholds : Call.holds S x' = none)
    (hnext : d.files.next ≤ d'.files.next) (hfirst : ∀ i < d.files.next, d'.first i = d.first i)
    (hdata : ∀ i, (d'.files.inodes i).data = (d.files.inodes i).data)
    (hentry : ∀ id j, d'.files.names (S.root, entryName id) = some j →
      d.files.names (S.root, entryName id) = some j)
    (hsidecar : ∀ id s, d'.files.names (S.root, metaName id) = some s →
      d.files.names (S.root, metaName id) = some s)
    (hkept : ∀ id s, d.files.names (S.root, metaName id) = some s →
      d'.files.names (S.root, metaName id) = some s ∨
        d'.files.names (S.root, entryName id) = none)
    (hlocks : ∀ id j, d'.files.names (S.root, entryName id) = some j →
      (d.files.inodes j).perm = 0 → (d'.files.inodes j).perm = 0 ∨
        Call.unlocks x' = some id ∨ ∃ (u : Nat) (y : Call), u ≠ t ∧ d.calls[u]? = some y ∧
          Call.unlocks y = some id)
    (hunlocks : ∀ id, Call.unlocks x = some id → Call.unlocks x' = some id ∨
      ∀ j, d'.files.names (S.root, entryName id) = some j → (d'.files.inodes j).perm = 0)
    (hcleaning : ∀ id, Call.cleaning x' = some id → Call.cleaning x = some id ∨
      ∀ y ∈ d.calls, Call.pending S y ≠ some id)
    (hok : CallOk S d' x') : Change S d d' t x x' where
  next_le := hnext
  first := hfirst
  data i _ _ := hdata i
  entry id j hj := Or.inl (hentry id j hj)
  sidecar id s hs := Or.inl (hsidecar id s hs)
  kept := hkept
  locks id j hj hzero _ := hlocks id j hj hzero
  unlocks := hunlocks
  describes _ h := ne_some hx.describing h
  creates _ _ h := ne_some hx.pending h
  handle _ h := ne_some hx'.handle h
  writes _ _ h := ne_some hx'.handle h
  holds _ h := ne_some hholds h
  pending _ h := ne_some hx'.pending h
  cleaning := hcleaning
  ok := hok

/-- Nothing but where the call is changes. -/
private theorem change_idle (hx : Plain S x) (hx' : Plain S x') (hholds : Call.holds S x' = none)
    (hfiles : d'.files = d.files) (hfirst : ∀ i < d.files.next, d'.first i = d.first i)
    (hunlocks : ∀ id, Call.unlocks x = some id →
      d.files.names (S.root, entryName id) = none)
    (hcleaning : ∀ id, Call.cleaning x' = some id → Call.cleaning x = some id ∨
      ∀ y ∈ d.calls, Call.pending S y ≠ some id)
    (hok : CallOk S d' x') : Change S d d' t x x' := by
  refine change_plain hx hx' hholds ?_ hfirst ?_ ?_ ?_ ?_ ?_ ?_ hcleaning hok
  · rw [hfiles]
  · intro i
    rw [hfiles]
  · intro id j hj
    rwa [hfiles] at hj
  · intro id s hs
    rwa [hfiles] at hs
  · intro id s hs
    rw [hfiles]
    exact Or.inl hs
  · intro id j _ hzero
    rw [hfiles]
    exact Or.inl hzero
  · intro id hid
    refine Or.inr fun j hj => ?_
    rw [hfiles, hunlocks id hid] at hj
    cases hj

/-- A name goes. -/
private theorem change_remove {n : Name} (hx : Plain S x) (hx' : Plain S x')
    (hholds : Call.holds S x' = none) (hfiles : d'.files = d.files.remove n)
    (hfirst : d'.first = d.first)
    (hsidecar : ∀ id, n = (S.root, metaName id) →
      d.files.names (S.root, entryName id) = none)
    (hunlocks : ∀ id, Call.unlocks x = some id → n = (S.root, entryName id))
    (hcleaning : ∀ id, Call.cleaning x' = some id → Call.cleaning x = some id ∨
      ∀ y ∈ d.calls, Call.pending S y ≠ some id)
    (hok : CallOk S d' x') : Change S d d' t x x' := by
  refine change_plain hx hx' hholds ?_ ?_ ?_ ?_ ?_ ?_ ?_ ?_ hcleaning hok
  · rw [hfiles, Disk.next_remove]
  · intro i _
    rw [hfirst]
  · intro i
    rw [hfiles, Disk.inodes_remove]
  · intro id j hj
    rw [hfiles] at hj
    exact (Disk.names_of_remove hj).2
  · intro id s hs
    rw [hfiles] at hs
    exact (Disk.names_of_remove hs).2
  · intro id s hs
    rw [hfiles]
    by_cases hn : (S.root, metaName id) = n
    · right
      have hne : (S.root, entryName id) ≠ n := by
        rw [← hn]
        exact entry_ne_meta S id id
      rw [Disk.names_remove_of_ne hne, hsidecar id hn.symm]
    · rw [Disk.names_remove_of_ne hn]
      exact Or.inl hs
  · intro id j _ hzero
    rw [hfiles, Disk.inodes_remove]
    exact Or.inl hzero
  · intro id hid
    refine Or.inr fun j hj => ?_
    obtain rfl := hunlocks id hid
    rw [hfiles, Disk.names_remove_self] at hj
    cases hj

/-- The mode or the owner of an inode is set. -/
private theorem change_modify {i : Nat} {f : Inode → Inode} (hx : Plain S x) (hx' : Plain S x')
    (hholds : Call.holds S x' = none) (hfiles : d'.files = d.files.modify i f)
    (hfirst : d'.first = d.first) (hdata : ∀ n, (f n).data = n.data)
    (hlocks : ∀ id, d.files.names (S.root, entryName id) = some i →
      (d.files.inodes i).perm = 0 → (f (d.files.inodes i)).perm = 0 ∨
        Call.unlocks x' = some id ∨ ∃ (u : Nat) (y : Call), u ≠ t ∧ d.calls[u]? = some y ∧
          Call.unlocks y = some id)
    (hunlocks : ∀ id, Call.unlocks x = some id → Call.unlocks x' = some id ∨
      d.files.names (S.root, entryName id) = some i ∧ (f (d.files.inodes i)).perm = 0)
    (hcleaning : Call.cleaning x' = none) (hok : CallOk S d' x') : Change S d d' t x x' := by
  refine change_plain hx hx' hholds ?_ ?_ ?_ ?_ ?_ ?_ ?_ ?_ (fun _ h => ne_some hcleaning h) hok
  · rw [hfiles, Disk.next_modify]
  · intro j _
    rw [hfirst]
  · intro j
    rw [hfiles]
    by_cases hj : j = i
    · subst hj
      rw [Disk.inodes_modify_self, hdata]
    · rw [Disk.inodes_modify_of_ne _ hj]
  · intro id j hj
    rwa [hfiles] at hj
  · intro id s hs
    rwa [hfiles] at hs
  · intro id s hs
    rw [hfiles]
    exact Or.inl hs
  · intro id j hj hzero
    rw [hfiles] at hj ⊢
    by_cases hji : j = i
    · subst hji
      rw [Disk.inodes_modify_self]
      exact hlocks id hj hzero
    · rw [Disk.inodes_modify_of_ne _ hji]
      exact Or.inl hzero
  · intro id hid
    rcases hunlocks id hid with hstill | ⟨hname, hzero⟩
    · exact Or.inl hstill
    · refine Or.inr fun j hj => ?_
      rw [hfiles] at hj ⊢
      obtain rfl := Option.some.inj (hname.symm.trans hj)
      rw [Disk.inodes_modify_self, hzero]

theorem free_of_pending {id : Bytes} (hok : CallOk S d x) (h : Call.pending S x = some id) :
    Fits S id ∧ d.files.names (S.root, entryName id) = none ∧
      d.files.names (S.root, metaName id) = none := by
  unfold Call.pending at h
  split at h
  all_goals try split at h
  all_goals cases h
  all_goals
    rename_i henters
    exact hok.2.2.2 henters

/-- A `quarantine_file` goes on with the same id, and writes to nothing but its own inode. -/
private theorem change_within (hinv : Inv S d) (hx : d.calls[t]? = some x)
    (hnames : d'.files.names = d.files.names) (hnext : d'.files.next = d.files.next)
    (hfirst : d'.first = d.first)
    (hdata : ∀ i, Call.handle x ≠ some i → (d'.files.inodes i).data = (d.files.inodes i).data)
    (hperm : ∀ i, (d'.files.inodes i).perm = (d.files.inodes i).perm)
    (hpending : Call.pending S x' = Call.pending S x)
    (hdescribing : Call.describing x' = Call.describing x)
    (hunlocks : Call.unlocks x' = Call.unlocks x) (hholds : Call.holds S x' = Call.holds S x)
    (hcleaning : Call.cleaning x' = none)
    (hhandle : ∀ h, Call.handle x' = some h → Call.handle x = some h)
    (hok : CallOk S d' x') : Change S d d' t x x' where
  next_le := hnext.ge
  first i _ := by rw [hfirst]
  data i _ hi := hdata i hi
  entry id j hj := Or.inl (by rwa [hnames] at hj)
  sidecar id s hs := Or.inl (by rwa [hnames] at hs)
  kept id s hs := Or.inl (by rwa [hnames])
  locks id j _ hzero _ := Or.inl ((hperm j).trans hzero)
  unlocks id hid := Or.inl (hunlocks.trans hid)
  describes id hid := Or.inl (hdescribing.trans hid)
  creates id j hid hj := by
    rw [hnames, (free_of_pending (hinv.calls t x hx) hid).2.1] at hj
    cases hj
  handle h hh := Or.inl (hhandle h hh)
  writes h id hh hs := by
    rw [hnames] at hs
    rw [hdescribing]
    exact hinv.writers t x h id hx (hhandle h hh) hs
  holds id hid := Or.inl (hholds ▸ hid)
  pending id hid := Or.inl (hpending ▸ hid)
  cleaning id hid := ne_some hcleaning hid
  ok := hok

/-- A call that matters to no other. -/
structure Resting (S : Store) (x : Call) : Prop extends Plain S x where
  unlocks : Call.unlocks x = none
  holds : Call.holds S x = none
  cleaning : Call.cleaning x = none

/-- The calls on nothing that another call works on. -/
def Call.rests : Call → Bool
  | .quarantine _ .ensure_quarantine_dir | .quarantine _ .fstat | .quarantine _ (.clock_gettime _)
  | .quarantine _ (.unlinkDest _) | .quarantine _ (.fstatAgain _ _) | .quarantine _ (.lstat _ _)
  | .quarantine _ (.unlink _ _) | .quarantine _ (.done _) => true
  | .restore _ .fopen | .restore _ (.fread _ _) | .restore _ (.openDest _)
  | .restore _ (.fstat _ _) | .restore _ (.lstat _ _) | .restore _ (.fchmod _ _)
  | .restore _ (.done _) => true
  | .delete _ .unlinkDest | .delete _ (.done _) => true
  | _ => false

theorem resting_of_rests (h : Call.rests x = true) : Resting S x := by
  unfold Call.rests at h
  split at h
  all_goals first
    | exact ⟨⟨rfl, rfl, rfl⟩, rfl, rfl, rfl⟩
    | cases h

private theorem change_rest (hx : Call.rests x = true) (hx' : Call.rests x' = true)
    (hfiles : d'.files = d.files) (hfirst : ∀ i < d.files.next, d'.first i = d.first i)
    (hok : CallOk S d' x') : Change S d d' t x x' := by
  have hrests := resting_of_rests (S := S) hx
  have hrests' := resting_of_rests (S := S) hx'
  exact change_idle hrests.toPlain hrests'.toPlain hrests'.holds hfiles hfirst
    (fun _ h => ne_some hrests.unlocks h) (fun _ h => ne_some hrests'.cleaning h) hok

end Steps

section QuarantineSteps

variable {S : Store} {d : Avd} {t : Nat} {o : Outcome} {c : Conviction} {p : QuarantineFile}
variable {k : Kept}

/-- The daemon after a system call of a `quarantine_file`. -/
def afterQuarantine (S : Store) (d : Avd) (cs : List Call) (o : Outcome) (c : Conviction)
    (p : QuarantineFile) : Avd :=
  ⟨(p.step S o d.files c).1, cs, d.firstAfter (p.step S o d.files c).1 (.quarantine c p)⟩

/-- A `quarantine_file` takes an id that nobody uses. -/
private theorem change_naming_roles {d' : Avd} {orig_st : Option Stat}
    (hfiles : d'.files = d.files) (hfirst : d'.first = d.first)
    (hnobody : ∀ id, Call.pending S (.quarantine c (.linkat k)) = some id →
      ∀ y ∈ d.calls, Call.uses S y ≠ some id)
    (hok : CallOk S d' (.quarantine c (.linkat k))) :
    Change S d d' t (.quarantine c (.clock_gettime orig_st)) (.quarantine c (.linkat k)) where
  next_le := hfiles ▸ le_rfl
  first i _ := by rw [hfirst]
  data i _ _ := by rw [hfiles]
  entry id j hj := Or.inl (by rwa [hfiles] at hj)
  sidecar id s hs := Or.inl (by rwa [hfiles] at hs)
  kept id s hs := Or.inl (by rwa [hfiles])
  locks id j _ hzero _ := Or.inl (by rwa [hfiles])
  unlocks _ h := ne_some rfl h
  describes _ h := ne_some rfl h
  creates _ _ h := ne_some rfl h
  handle _ h := ne_some rfl h
  writes _ _ h := ne_some rfl h
  holds id hid := by
    refine Or.inr (hnobody id ?_)
    simpa [Call.holds, Call.describing] using hid
  pending id hid := Or.inr (hnobody id hid)
  cleaning _ h := ne_some rfl h
  ok := hok

private theorem change_naming {orig_st : Option Stat} (cs : List Call)
    (hok : CallOk S d (.quarantine c (.clock_gettime orig_st)))
    (hfree : Undisturbed S d o (.quarantine c (.clock_gettime orig_st))) :
    Change S d (afterQuarantine S d cs o c (.clock_gettime orig_st)) t
      (.quarantine c (.clock_gettime orig_st))
      (.quarantine c ((QuarantineFile.clock_gettime orig_st).step S o d.files c).2) := by
  unfold afterQuarantine
  rw [QuarantineFile.step]
  split
  · exact change_rest rfl rfl rfl (fun _ _ => rfl) ⟨hok.1, hok.2.1, trivial⟩
  · have hnobody : ∀ id, Call.pending S (.quarantine c (.linkat
        ⟨orig_st, quarantine_id S o.now (basename c.path)⟩)) = some id →
        ∀ y ∈ d.calls, Call.uses S y ≠ some id := by
      intro id hid
      simp only [Call.pending] at hid
      split at hid
      · rename_i henters
        cases hid
        exact (hfree henters).2.2.2
      · cases hid
    refine change_naming_roles rfl rfl hnobody ⟨hok.1, hok.2.1, hok.2.2, fun henters => ?_⟩
    obtain ⟨hmeta, hentry, hsidecar, -⟩ := hfree henters
    exact ⟨fits_of_lookups (slash_not_mem_id o.now (slash_not_mem_basename c.path)) henters hmeta,
      hentry, hsidecar⟩

private theorem enters_of_lookup {id : Bytes} {n : Place} (h : S.lookup (dest S id) = .ok n) :
    enters S id = true := by
  unfold enters
  rw [h]

/-- The entry that was announced is made. -/
private theorem change_enter {d' : Avd} {x x' : Call} {i : Nat}
    (hpending : Call.pending S x = some k.id)
    (hplain : Call.handle x = none ∧ Call.describing x = none ∧ Call.unlocks x = none)
    (hnames : d'.files.names =
      Function.update d.files.names (S.root, entryName k.id) (some i))
    (hnext : d.files.next ≤ d'.files.next)
    (hinodes : ∀ i < d.files.next, d'.files.inodes i = d.files.inodes i)
    (hfirst : ∀ i < d.files.next, d'.first i = d.first i)
    (hrole : Call.describing x' = some k.id ∧ Call.unlocks x' = some k.id ∧
      Call.holds S x' = some k.id ∧ Call.pending S x' = none ∧ Call.cleaning x' = none)
    (hhandle : ∀ h, Call.handle x' = some h → h = d.files.next)
    (hok : CallOk S d' x') : Change S d d' t x x' := by
  have hmeta : ∀ id, d'.files.names (S.root, metaName id) = d.files.names (S.root, metaName id) :=
    fun id => by rw [hnames, Function.update_of_ne (entry_ne_meta S k.id id).symm]
  have hentry : ∀ id, id ≠ k.id →
      d'.files.names (S.root, entryName id) = d.files.names (S.root, entryName id) := by
    intro id hid
    have hne : ((S.root, entryName id) : Name) ≠ (S.root, entryName k.id) :=
      fun h => hid (entryName_inj (congrArg Prod.snd h))
    rw [hnames, Function.update_of_ne hne]
  have hid_of : ∀ id, Call.pending S x = some id → id = k.id :=
    fun id hid => Option.some.inj (hid.symm.trans hpending)
  obtain ⟨hdescribing, hunlocks, hholds, hpending', hcleaning⟩ := hrole
  obtain ⟨hx_handle, hx_describing, hx_unlocks⟩ := hplain
  refine ⟨hnext, hfirst, ?_, ?_, ?_, ?_, ?_, ?_, ?_, ?_, ?_, ?_, ?_, ?_, ?_, hok⟩
  · intro i hi _
    rw [hinodes i hi]
  · intro id j hj
    by_cases hid : id = k.id
    · exact Or.inr (hid ▸ hpending)
    · rw [hentry id hid] at hj
      exact Or.inl hj
  · intro id s hs
    rw [hmeta] at hs
    exact Or.inl hs
  · intro id s hs
    rw [hmeta]
    exact Or.inl hs
  · intro id j _ hzero hj
    rw [hinodes j (d.files.names_lt _ _ hj)]
    exact Or.inl hzero
  · exact fun _ h => ne_some hx_unlocks h
  · exact fun _ h => ne_some hx_describing h
  · intro id j hid _
    rw [hid_of id hid]
    exact ⟨hunlocks, hdescribing⟩
  · exact fun h hh => Or.inr (hhandle h hh)
  · intro h id hh hs
    rw [hmeta, hhandle h hh] at hs
    exact absurd (d.files.names_lt _ _ hs) (lt_irrefl _)
  · intro id hid
    rw [hholds] at hid
    exact Or.inl (hid ▸ holds_of_pending hpending)
  · exact fun _ h => ne_some hpending' h
  · exact fun _ h => ne_some hcleaning h

private theorem change_linkat (cs : List Call) (hinv : Inv S d)
    (hx : d.calls[t]? = some (.quarantine c (.linkat k))) :
    Change S d (afterQuarantine S d cs o c (.linkat k)) t (.quarantine c (.linkat k))
      (.quarantine c ((QuarantineFile.linkat k).step S o d.files c).2) := by
  have hok := hinv.calls t _ hx
  obtain ⟨hfd, hadmissible, hst, hfree⟩ := hinv.calls t _ hx
  unfold afterQuarantine
  rw [QuarantineFile.step]
  split
  · rename_i G hG
    have hlink : S.linkat d.files (dest S k.id) c.fd = .ok G := call_ok hG
    obtain ⟨n, hn, hlink⟩ := withName_ok.mp hlink
    have henters := enters_of_lookup hn
    obtain ⟨hfits, hentry, hmeta⟩ := hfree henters
    obtain ⟨-, hi, rfl⟩ := Disk.linkat_ok hlink
    obtain rfl := Place.entry.inj (lookup_dest hfits.no_slash hn)
    refine change_enter (if_pos henters) ⟨rfl, rfl, rfl⟩ rfl le_rfl (fun _ _ => rfl)
      (fun _ _ => rfl) ⟨rfl, rfl, rfl, rfl, rfl⟩ (fun _ h => ne_some rfl h)
      ⟨hfd, hadmissible, hst, hfits, fun j hj => ?_, ?_⟩
    · rw [Disk.names_link_self] at hj
      rw [← Option.some.inj hj]
    · rw [Disk.names_link_of_ne _ (entry_ne_meta S k.id k.id).symm, hmeta]
  · exact change_within hinv hx rfl rfl rfl (fun _ _ => rfl) (fun _ => rfl) rfl rfl rfl rfl rfl
      (fun _ h => ne_some rfl h) hok

private theorem change_lseek (cs : List Call) (hinv : Inv S d) (ho : o.ok = true)
    (hx : d.calls[t]? = some (.quarantine c (.lseek k))) :
    Change S d (afterQuarantine S d cs o c (.lseek k)) t (.quarantine c (.lseek k))
      (.quarantine c ((QuarantineFile.lseek k).step S o d.files c).2) := by
  have hok := hinv.calls t _ hx
  unfold afterQuarantine
  rw [QuarantineFile.step, if_pos ho]
  exact change_within hinv hx rfl rfl rfl (fun _ _ => rfl) (fun _ => rfl) rfl rfl rfl rfl rfl
    (fun _ h => ne_some rfl h) hok

private theorem change_openCopy (cs : List Call) (hinv : Inv S d) (ho : o.ok = true)
    (hx : d.calls[t]? = some (.quarantine c (.openCopy k))) :
    Change S d (afterQuarantine S d cs o c (.openCopy k)) t (.quarantine c (.openCopy k))
      (.quarantine c ((QuarantineFile.openCopy k).step S o d.files c).2) := by
  have hok := hinv.calls t _ hx
  obtain ⟨hfd, hadmissible, hst, hfree⟩ := hinv.calls t _ hx
  have hfirst : ∀ (v : Stat) (i : Nat), i < d.files.next →
      Function.update d.first d.files.next v i = d.first i :=
    fun v i hi => Function.update_of_ne hi.ne _ _
  unfold afterQuarantine
  rw [QuarantineFile.step, call_of_ok ho]
  split
  · rename_i G out_fd hG
    obtain ⟨n, hn, hopen⟩ := withName_ok.mp hG
    have henters := enters_of_lookup hn
    obtain ⟨hfits, hentry, hmeta⟩ := hfree henters
    obtain ⟨-, rfl, rfl⟩ := Disk.openExcl_ok hopen
    obtain rfl := Place.entry.inj (lookup_dest hfits.no_slash hn)
    refine change_enter (if_pos henters) ⟨rfl, rfl, rfl⟩ rfl (Nat.le_succ _)
      (fun i hi => Disk.inodes_create_of_ne hi.ne) (hfirst _) ⟨rfl, rfl, rfl, rfl, rfl⟩
      (fun h hh => (Option.some.inj hh).symm)
      ⟨Nat.lt_succ_of_lt hfd, hadmissible, stamped_frame (hfirst _ _ hfd) hst, hfits,
        Nat.lt_succ_self _, ?_, ?_, ?_⟩
    · have hself : Function.update d.first d.files.next (d.first c.fd) d.files.next =
          d.first c.fd := Function.update_self ..
      exact hself.trans (hfirst _ _ hfd).symm
    · intro j hj
      rw [Disk.names_create_self] at hj
      exact (Option.some.inj hj).symm
    · rw [Disk.names_create_of_ne (entry_ne_meta S k.id k.id).symm, hmeta]
  · -- with a name that fits, the copy is always made
    rename_i e he
    have hnot : enters S k.id = false := by
      by_contra henters
      obtain ⟨hfits, hentry, -⟩ := hfree (Bool.not_eq_false _ ▸ henters)
      rw [Store.openExcl, withName_entry hfits.entry, Disk.openExcl, hentry] at he
      cases he
    have hpending : Call.pending S (.quarantine c (.openCopy k)) = none := by
      simp only [Call.pending, hnot, Bool.false_eq_true, if_false]
    exact change_idle ⟨hpending, rfl, rfl⟩ ⟨rfl, rfl, rfl⟩ rfl rfl (hfirst _)
      (fun _ h => ne_some rfl h) (fun _ h => ne_some rfl h) ⟨hfd, hadmissible, trivial⟩

private theorem change_read (cs : List Call) {out_fd off : Nat} (hinv : Inv S d)
    (ho : o.ok = true) (hx : d.calls[t]? = some (.quarantine c (.read k out_fd off))) :
    Change S d (afterQuarantine S d cs o c (.read k out_fd off)) t
      (.quarantine c (.read k out_fd off))
      (.quarantine c ((QuarantineFile.read k out_fd off).step S o d.files c).2) := by
  have hok := hinv.calls t _ hx
  obtain ⟨hfd, hadmissible, hphase⟩ := hinv.calls t _ hx
  unfold afterQuarantine
  rw [QuarantineFile.step, ho]
  simp only [Bool.not_true, Bool.false_eq_true, if_false]
  split
  · exact change_within hinv hx rfl rfl rfl (fun _ _ => rfl) (fun _ => rfl) rfl rfl rfl rfl rfl
      (fun _ h => h) ⟨hfd, hadmissible, rfl, hphase⟩
  · exact change_within hinv hx rfl rfl rfl (fun _ _ => rfl) (fun _ => rfl) rfl rfl rfl rfl rfl
      (fun _ h => h) hok

private theorem append_keeps (d : Avd) {i : Nat} (buf : Bytes) (x : Call)
    (hx : Call.handle x = some i) :
    (∀ j, Call.handle x ≠ some j →
      ((d.files.modify i (Inode.append buf)).inodes j).data = (d.files.inodes j).data) ∧
    ∀ j, ((d.files.modify i (Inode.append buf)).inodes j).perm = (d.files.inodes j).perm := by
  refine ⟨fun j hj => ?_, fun j => ?_⟩
  · have hne : j ≠ i := by
      rintro rfl
      exact hj hx
    rw [Disk.inodes_modify_of_ne _ hne]
  · by_cases hj : j = i
    · subst hj
      rw [Disk.inodes_modify_self]
      rfl
    · rw [Disk.inodes_modify_of_ne _ hj]

private theorem change_write (cs : List Call) {out_fd off : Nat} {buf : Bytes} (hinv : Inv S d)
    (ho : o.ok = true) (hx : d.calls[t]? = some (.quarantine c (.write k out_fd off buf))) :
    Change S d (afterQuarantine S d cs o c (.write k out_fd off buf)) t
      (.quarantine c (.write k out_fd off buf))
      (.quarantine c ((QuarantineFile.write k out_fd off buf).step S o d.files c).2) := by
  have hok := hinv.calls t _ hx
  obtain ⟨hdata, hperm⟩ := append_keeps d buf
    (.quarantine c (.write k out_fd off buf)) rfl
  unfold afterQuarantine
  rw [QuarantineFile.step, if_pos ho]
  exact change_within hinv hx rfl rfl rfl hdata hperm rfl rfl rfl rfl rfl (fun _ h => h) hok

private theorem change_closeCopy (cs : List Call) {out_fd : Nat} {copied : Bool} (hinv : Inv S d)
    (ho : o.ok = true) (hx : d.calls[t]? = some (.quarantine c (.closeCopy k out_fd copied))) :
    Change S d (afterQuarantine S d cs o c (.closeCopy k out_fd copied)) t
      (.quarantine c (.closeCopy k out_fd copied))
      (.quarantine c ((QuarantineFile.closeCopy k out_fd copied).step S o d.files c).2) := by
  obtain ⟨hfd, hadmissible, rfl, hst, hfits, -, horig, hname, hmeta⟩ := hinv.calls t _ hx
  unfold afterQuarantine
  rw [QuarantineFile.step, if_pos ho, if_pos rfl]
  refine change_within hinv hx rfl rfl rfl (fun _ _ => rfl) (fun _ => rfl) rfl rfl rfl rfl rfl
    (fun _ h => ne_some rfl h) ⟨hfd, hadmissible, hst, hfits, fun j hj => ?_, hmeta⟩
  rw [hname j hj]
  exact horig

private theorem change_openMeta (cs : List Call) (hinv : Inv S d) (ho : o.ok = true)
    (hx : d.calls[t]? = some (.quarantine c (.openMeta k))) :
    Change S d (afterQuarantine S d cs o c (.openMeta k)) t (.quarantine c (.openMeta k))
      (.quarantine c ((QuarantineFile.openMeta k).step S o d.files c).2) := by
  obtain ⟨hfd, hadmissible, ⟨hst, hinert⟩, hfits, horig, hmeta⟩ := hinv.calls t _ hx
  have hback := (attributesBack_iff o.time hadmissible.writable).mpr hinert
  have hwrite := write_fits (some (d.first c.fd)) o.time c.path c.rule_name c.sha256_hex
    (lookup_lengths hfits.sidecar).1
  have hstep : (QuarantineFile.openMeta k).step S o d.files c =
      (d.files.create (S.root, metaName k.id)
        ⟨S.dev S.root, S_IFREG ||| 0o600, Owner.root, Owner.root, []⟩,
        .writeMeta k d.files.next (unlines (metaLines (some (d.first c.fd)) o.time c.path
          c.rule_name c.sha256_hex))) := by
    have hopen : S.openExcl d.files (dest S k.id ++ lit ".meta") 0o600 =
        .ok (d.files.create (S.root, metaName k.id)
          ⟨S.dev S.root, S_IFREG ||| 0o600, Owner.root, Owner.root, []⟩, d.files.next) := by
      rw [Store.openExcl, ← meta_path, withName_entry hfits.sidecar, Disk.openExcl, hmeta]
      rfl
    rw [QuarantineFile.step, hst, hwrite]
    dsimp only
    rw [call_of_ok ho, hopen]
  have hentry : ∀ (node : Inode) (id : Bytes),
      (d.files.create (S.root, metaName k.id) node).names (S.root, entryName id) =
        d.files.names (S.root, entryName id) :=
    fun node id => Disk.names_create_of_ne (entry_ne_meta S id k.id)
  have hother : ∀ (node : Inode) (id : Bytes), id ≠ k.id →
      (d.files.create (S.root, metaName k.id) node).names (S.root, metaName id) =
        d.files.names (S.root, metaName id) :=
    fun node id hid => Disk.names_create_of_ne
      fun h => hid (metaName_inj (congrArg Prod.snd h))
  have hfirst : ∀ (v : Stat) (i : Nat), i < d.files.next →
      Function.update d.first d.files.next v i = d.first i :=
    fun v i hi => Function.update_of_ne hi.ne _ _
  unfold afterQuarantine
  rw [hstep]
  refine ⟨Nat.le_succ _, hfirst _, ?_, ?_, ?_, ?_, ?_, fun _ h => Or.inl h, fun _ h => Or.inl h,
    fun _ _ h => ne_some rfl h, fun h hh => Or.inr (Option.some.inj hh).symm, ?_,
    fun _ h => Or.inl h, fun _ h => ne_some rfl h, fun _ h => ne_some rfl h, ?_⟩
  · intro i hi _
    exact congrArg Inode.data (Disk.inodes_create_of_ne hi.ne)
  · intro id j hj
    exact Or.inl ((hentry _ id).symm.trans hj)
  · intro id s hs
    by_cases hid : id = k.id
    · subst hid
      exact Or.inr ⟨rfl, (Option.some.inj (Disk.names_create_self.symm.trans hs)).symm⟩
    · exact Or.inl ((hother _ id hid).symm.trans hs)
  · intro id s hs
    have hid : id ≠ k.id := by
      rintro rfl
      rw [hmeta] at hs
      cases hs
    exact Or.inl ((hother _ id hid).trans hs)
  · intro id j _ hzero hj
    refine Or.inl ((congrArg Inode.perm (Disk.inodes_create_of_ne ?_)).trans hzero)
    exact (d.files.names_lt _ _ hj).ne
  · intro h id hh hs
    by_cases hid : id = k.id
    · rw [hid]
      rfl
    · have hold := (hother _ id hid).symm.trans hs
      rw [← Option.some.inj hh] at hold
      exact absurd (d.files.names_lt _ _ hold) (lt_irrefl _)
  · refine ⟨Nat.lt_succ_of_lt hfd, hadmissible, hfits, Nat.lt_succ_self _, ?_, fun j hj => ?_⟩
    · have hdata : ((d.files.create (S.root, metaName k.id) ⟨S.dev S.root, S_IFREG ||| 0o600,
          Owner.root, Owner.root, []⟩).inodes d.files.next).data = [] :=
        congrArg Inode.data Disk.inodes_create_self
      dsimp only [Avd.firstAfter]
      rw [hdata, List.nil_append, hfirst _ _ hfd]
      exact hback
    · have hj' := (hentry _ k.id).symm.trans hj
      refine ⟨?_, Disk.names_create_self⟩
      dsimp only [Avd.firstAfter]
      rw [hfirst _ _ (d.files.names_lt _ _ hj'), hfirst _ _ hfd, horig j hj']

private theorem change_writeMeta (cs : List Call) {mfd : Nat} {rest : Bytes} (hinv : Inv S d)
    (ho : o.ok = true) (hx : d.calls[t]? = some (.quarantine c (.writeMeta k mfd rest))) :
    Change S d (afterQuarantine S d cs o c (.writeMeta k mfd rest)) t
      (.quarantine c (.writeMeta k mfd rest))
      (.quarantine c ((QuarantineFile.writeMeta k mfd rest).step S o d.files c).2) := by
  obtain ⟨hfd, hadmissible, hfits, hlt, hback, hname⟩ := hinv.calls t _ hx
  obtain ⟨hdata, hperm⟩ := append_keeps d (rest.take (o.n + 1))
    (.quarantine c (.writeMeta k mfd rest)) rfl
  have htext : ((d.files.modify mfd (Inode.append (rest.take (o.n + 1)))).inodes mfd).data ++
      rest.drop (o.n + 1) = (d.files.inodes mfd).data ++ rest := by
    rw [Disk.inodes_modify_self]
    show (d.files.inodes mfd).data ++ rest.take (o.n + 1) ++ rest.drop (o.n + 1) = _
    rw [List.append_assoc, List.take_append_drop]
  rw [← htext] at hback
  unfold afterQuarantine
  rw [QuarantineFile.step, if_pos ho]
  dsimp only
  split
  · rename_i hend
    rw [hend, List.append_nil] at hback
    refine ⟨le_rfl, fun _ _ => rfl, fun i _ hi => hdata i hi, fun _ _ h => Or.inl h,
      fun _ _ h => Or.inl h, fun _ _ h => Or.inl h, fun _ j _ hzero _ =>
      Or.inl ((hperm j).trans hzero), fun _ h => Or.inl h, fun id hid => Or.inr fun j hj => ?_,
      fun _ _ h => ne_some rfl h, fun _ h => ne_some rfl h, fun _ _ h => ne_some rfl h,
      fun _ h => Or.inl h, fun _ h => ne_some rfl h, fun _ h => ne_some rfl h,
      hfd, hadmissible, hfits⟩
    obtain rfl := Option.some.inj hid
    obtain ⟨horig, hmeta⟩ := hname j hj
    refine ⟨mfd, hmeta, ?_⟩
    show AttributesBack _ (some (d.first j))
    rw [horig]
    exact hback
  · exact change_within hinv hx rfl rfl rfl hdata hperm rfl rfl rfl rfl rfl (fun _ h => h)
      ⟨hfd, hadmissible, hfits, hlt, hback, hname⟩

private theorem change_chmod (cs : List Call) {meta_ok : Bool} (hinv : Inv S d) (ho : o.ok = true)
    (hx : d.calls[t]? = some (.quarantine c (.chmod k meta_ok))) :
    Change S d (afterQuarantine S d cs o c (.chmod k meta_ok)) t
      (.quarantine c (.chmod k meta_ok))
      (.quarantine c ((QuarantineFile.chmod k meta_ok).step S o d.files c).2) := by
  obtain ⟨hfd, hadmissible, hfits⟩ := hinv.calls t _ hx
  have hzero : ∀ n : Inode, (n.chmod 0).perm = 0 := by
    intro n
    rw [Inode.perm_chmod, UInt32.zero_and]
  unfold afterQuarantine
  rw [QuarantineFile.step, call_of_ok ho, Store.chmod, withName_entry hfits.entry]
  cases hname : d.files.names (S.root, entryName k.id) with
  | none =>
    have hlstat : d.files.lstat (S.root, entryName k.id) = .error .ENOENT := by
      rw [Disk.lstat, hname]
    rw [hlstat]
    refine change_idle ⟨rfl, rfl, rfl⟩ ⟨rfl, rfl, rfl⟩ rfl rfl (fun _ _ => rfl) ?_
      (fun _ h => ne_some rfl h) ⟨hfd, hadmissible, hfits.no_slash⟩
    intro id hid
    obtain rfl := Option.some.inj hid
    exact hname
  | some i =>
    rw [Disk.lstat_ok.mpr hname]
    refine change_modify ⟨rfl, rfl, rfl⟩ ⟨rfl, rfl, rfl⟩ rfl rfl rfl (fun _ => rfl)
      (fun _ _ _ => Or.inl (hzero _)) ?_ rfl ⟨hfd, hadmissible, trivial⟩
    intro id hid
    obtain rfl := Option.some.inj hid
    exact Or.inr ⟨hname, hzero _⟩

private theorem change_unlinkDest (cs : List Call) (hinv : Inv S d)
    (hx : d.calls[t]? = some (.quarantine c (.unlinkDest k))) :
    Change S d (afterQuarantine S d cs o c (.unlinkDest k)) t (.quarantine c (.unlinkDest k))
      (.quarantine c ((QuarantineFile.unlinkDest k).step S o d.files c).2) := by
  obtain ⟨hfd, hadmissible, hslash⟩ := hinv.calls t _ hx
  unfold afterQuarantine
  rw [QuarantineFile.step]
  cases hr : o.call (S.unlink d.files (dest S k.id)) with
  | error e =>
    exact change_rest rfl rfl rfl (fun _ _ => rfl) ⟨hfd, hadmissible, trivial⟩
  | ok G =>
    obtain ⟨n, hn, hunlink⟩ := withName_ok.mp (call_ok hr)
    obtain ⟨-, rfl⟩ := Disk.unlink_ok hunlink
    obtain rfl := Place.entry.inj (lookup_dest hslash hn)
    refine change_remove ⟨rfl, rfl, rfl⟩ ⟨rfl, rfl, rfl⟩ rfl rfl rfl ?_
      (fun _ h => ne_some rfl h) (fun _ h => ne_some rfl h) ⟨hfd, hadmissible, trivial⟩
    intro id hid
    exact absurd hid.symm (entry_ne_meta S k.id id).symm

private theorem change_unlink (cs : List Call) {meta_ok : Bool} (hinv : Inv S d)
    (hx : d.calls[t]? = some (.quarantine c (.unlink k meta_ok))) :
    Change S d (afterQuarantine S d cs o c (.unlink k meta_ok)) t
      (.quarantine c (.unlink k meta_ok))
      (.quarantine c ((QuarantineFile.unlink k meta_ok).step S o d.files c).2) := by
  obtain ⟨hfd, hadmissible, -⟩ := hinv.calls t _ hx
  unfold afterQuarantine
  rw [QuarantineFile.step]
  split
  · rename_i G hG
    obtain ⟨n, hn, hunlink⟩ := withName_ok.mp (call_ok hG)
    obtain ⟨-, rfl⟩ := Disk.unlink_ok hunlink
    refine change_remove ⟨rfl, rfl, rfl⟩ ⟨rfl, rfl, rfl⟩ rfl rfl rfl ?_
      (fun _ h => ne_some rfl h) (fun _ h => ne_some rfl h) ⟨hfd, hadmissible, trivial⟩
    rintro id rfl
    exact absurd hn (hadmissible.no_sidecar id)
  · exact change_rest rfl rfl rfl (fun _ _ => rfl) ⟨hfd, hadmissible, trivial⟩

theorem change_quarantine (cs : List Call) (hinv : Inv S d)
    (hx : d.calls[t]? = some (.quarantine c p))
    (ho : o.ok = true ∨ Call.linking (.quarantine c p) = true)
    (hfree : Undisturbed S d o (.quarantine c p)) :
    Change S d (afterQuarantine S d cs o c p) t (.quarantine c p)
      (.quarantine c (p.step S o d.files c).2) := by
  have hok := hinv.calls t _ hx
  have hsucceeds : (∀ k, p ≠ .linkat k) → o.ok = true := by
    intro hp
    refine ho.resolve_right ?_
    cases p with
    | linkat k => exact absurd rfl (hp k)
    | _ => exact Bool.false_ne_true
  cases p with
  | ensure_quarantine_dir =>
    unfold afterQuarantine
    rw [QuarantineFile.step, hsucceeds (by simp), if_pos rfl]
    exact change_rest rfl rfl rfl (fun _ _ => rfl) hok
  | fstat =>
    unfold afterQuarantine
    rw [QuarantineFile.step, hsucceeds (by simp), if_pos rfl]
    exact change_rest rfl rfl rfl (fun _ _ => rfl) ⟨hok.1, hok.2.1, congrArg some hfree.1, hfree.2⟩
  | clock_gettime orig_st => exact change_naming cs hok hfree
  | linkat k => exact change_linkat cs hinv hx
  | lseek k => exact change_lseek cs hinv (hsucceeds (by simp)) hx
  | openCopy k => exact change_openCopy cs hinv (hsucceeds (by simp)) hx
  | read k out_fd off => exact change_read cs hinv (hsucceeds (by simp)) hx
  | write k out_fd off buf => exact change_write cs hinv (hsucceeds (by simp)) hx
  | closeCopy k out_fd copied => exact change_closeCopy cs hinv (hsucceeds (by simp)) hx
  | unlinkCopy k => exact absurd hok.2.2 id
  | openMeta k => exact change_openMeta cs hinv (hsucceeds (by simp)) hx
  | writeMeta k mfd rest => exact change_writeMeta cs hinv (hsucceeds (by simp)) hx
  | unlinkMeta k => exact absurd hok.2.2 id
  | chmod k meta_ok => exact change_chmod cs hinv (hsucceeds (by simp)) hx
  | unlinkDest k => exact change_unlinkDest cs hinv hx
  | fstatAgain k meta_ok =>
    unfold afterQuarantine
    rw [QuarantineFile.step, hsucceeds (by simp), if_pos rfl]
    exact change_rest rfl rfl rfl (fun _ _ => rfl) hok
  | lstat k meta_ok =>
    unfold afterQuarantine
    rw [QuarantineFile.step]
    split
    · split
      · exact change_rest rfl rfl rfl (fun _ _ => rfl) hok
      · exact change_rest rfl rfl rfl (fun _ _ => rfl) hok
    · exact change_rest rfl rfl rfl (fun _ _ => rfl) hok
  | unlink k meta_ok => exact change_unlink cs hinv hx
  | done r =>
    exact change_rest rfl rfl rfl (fun _ _ => rfl) hok

end QuarantineSteps

section CommandSteps

variable {S : Store} {d : Avd} {t : Nat} {o : Outcome} {id : Bytes}

/-- The daemon after a system call of a RESTORE. -/
def afterRestore (S : Store) (d : Avd) (cs : List Call) (o : Outcome) (id : Bytes)
    (p : Restore) : Avd := ⟨(p.step S o d.files id).1, cs, d.first⟩

/-- The daemon after a system call of a DELETE. -/
def afterDelete (S : Store) (d : Avd) (cs : List Call) (o : Outcome) (id : Bytes)
    (p : Delete) : Avd := ⟨(p.step S o d.files id).1, cs, d.first⟩

private theorem change_fchmod (cs : List Call) {m : QuarantineMeta} {qfd : Nat} (hinv : Inv S d)
    (ho : o.ok = true) (hx : d.calls[t]? = some (.restore id (.fchmod m qfd)))
    (hfree : Undisturbed S d o (.restore id (.fchmod m qfd))) :
    Change S d (afterRestore S d cs o id (.fchmod m qfd)) t (.restore id (.fchmod m qfd))
      (.restore id ((Restore.fchmod m qfd).step S o d.files id).2) := by
  have hok := hinv.calls t _ hx
  unfold afterRestore
  rw [Restore.step, if_pos ho]
  refine change_modify ⟨rfl, rfl, rfl⟩ ⟨rfl, rfl, rfl⟩ rfl rfl rfl (fun _ => rfl) ?_
    (fun _ h => ne_some rfl h) rfl hok
  intro id' hname _
  rcases hfree with hzero | hlast
  · left
    rw [Inode.perm_chmod, hzero]
  · rcases hlast id' hname with rfl | ⟨y, hy, hunlocks⟩
    · exact Or.inr (Or.inl rfl)
    · obtain ⟨u, hu⟩ := List.mem_iff_getElem?.mp hy
      refine Or.inr (Or.inr ⟨u, y, ?_, hu, hunlocks⟩)
      rintro rfl
      obtain rfl := Option.some.inj (hx.symm.trans hu)
      cases hunlocks

private theorem change_fchown (cs : List Call) {m : QuarantineMeta} {qfd : Nat} (hinv : Inv S d)
    (ho : o.ok = true) (hx : d.calls[t]? = some (.restore id (.fchown m qfd))) :
    Change S d (afterRestore S d cs o id (.fchown m qfd)) t (.restore id (.fchown m qfd))
      (.restore id ((Restore.fchown m qfd).step S o d.files id).2) := by
  have hok := hinv.calls t _ hx
  unfold afterRestore
  rw [Restore.step, if_pos ho]
  exact change_modify ⟨rfl, rfl, rfl⟩ ⟨rfl, rfl, rfl⟩ rfl rfl rfl (fun _ => rfl)
    (fun _ _ hzero => Or.inl (Inode.perm_chown_zero hzero)) (fun _ h => Or.inl h) rfl hok

/-- The entry goes back to the path of the original. -/
private theorem change_move {d' : Avd} {m : QuarantineMeta} {n : Name} {i : Nat}
    (hinv : Inv S d)
    (hn : ∀ id', n ≠ (S.root, entryName id') ∧ n ≠ (S.root, metaName id')) (hslash : slash ∉ id)
    (hname : d.files.names (S.root, entryName id) = some i)
    (hfiles : d'.files = d.files.move (S.root, entryName id) n) (hfirst : d'.first = d.first) :
    Change S d d' t (.restore id (.rename m)) (.restore id .unlinkMeta) := by
  have hgone : d'.files.names (S.root, entryName id) = none := by
    rw [hfiles, Disk.names_move_source]
  have hentry : ∀ id', id' ≠ id → d'.files.names (S.root, entryName id') =
      d.files.names (S.root, entryName id') := by
    intro id' hid
    have hne : ((S.root, entryName id') : Name) ≠ (S.root, entryName id) :=
      fun h => hid (entryName_inj (congrArg Prod.snd h))
    rw [hfiles, Disk.names_move_of_ne hne (hn id').1.symm]
  have hmeta : ∀ id', d'.files.names (S.root, metaName id') =
      d.files.names (S.root, metaName id') := by
    intro id'
    rw [hfiles, Disk.names_move_of_ne (entry_ne_meta S id id').symm (hn id').2.symm]
  have hinodes : d'.files.inodes = d.files.inodes := by rw [hfiles, Disk.inodes_move]
  refine change_plain ⟨rfl, rfl, rfl⟩ ⟨rfl, rfl, rfl⟩ rfl ?_ ?_ ?_ ?_ ?_ ?_ ?_ ?_ ?_
    ⟨hslash, hgone⟩
  · rw [hfiles, Disk.next_move]
  · intro j _
    rw [hfirst]
  · intro j
    rw [hinodes]
  · intro id' j hj
    by_cases hid : id' = id
    · rw [hid, hgone] at hj
      cases hj
    · rwa [hentry id' hid] at hj
  · intro id' s hs
    rwa [hmeta] at hs
  · intro id' s hs
    rw [hmeta]
    exact Or.inl hs
  · intro id' j _ hzero
    rw [hinodes]
    exact Or.inl hzero
  · intro id' hid
    obtain rfl := Option.some.inj hid
    refine Or.inr fun j hj => ?_
    rw [hgone] at hj
    cases hj
  · intro id' hid
    obtain rfl := Option.some.inj hid
    refine Or.inr fun y hy hpending => ?_
    -- an id that is announced has no entry yet
    obtain ⟨u, hu⟩ := List.mem_iff_getElem?.mp hy
    rw [(free_of_pending (hinv.calls u y hu) hpending).2.1] at hname
    cases hname

private theorem change_rename (cs : List Call) {m : QuarantineMeta} (hinv : Inv S d)
    (ho : o.ok = true) (hx : d.calls[t]? = some (.restore id (.rename m)))
    (hfree : Undisturbed S d o (.restore id (.rename m))) :
    Change S d (afterRestore S d cs o id (.rename m)) t (.restore id (.rename m))
      (.restore id ((Restore.rename m).step S o d.files id).2) := by
  obtain ⟨hslash, hpath⟩ := hinv.calls t _ hx
  unfold afterRestore
  rw [Restore.step, call_of_ok ho, Store.rename, withName_entry hpath]
  cases hname : d.files.names (S.root, entryName id) with
  | none =>
    have hfails : ∀ G, S.withName m.original_path (fun n => d.files.rename (S.root, entryName id) n
        fun n => S.dev n.1) ≠ .ok G := by
      intro G hG
      obtain ⟨n, -, hrename⟩ := withName_ok.mp hG
      obtain ⟨i, hi, -⟩ := Disk.rename_ok hrename
      rw [hname] at hi
      cases hi
    split
    · rename_i G hG
      exact absurd hG (hfails G)
    · refine change_idle ⟨rfl, rfl, rfl⟩ ⟨rfl, rfl, rfl⟩ rfl rfl (fun _ _ => rfl) ?_
        (fun _ h => ne_some rfl h) trivial
      intro id' hid
      obtain rfl := Option.some.inj hid
      exact hname
  | some i =>
    obtain ⟨n, hn, hdev, hfar, hother, hdir⟩ := hfree i hname
    have hrename : d.files.rename (S.root, entryName id) n (fun n => S.dev n.1) =
        .ok (d.files.move (S.root, entryName id) n) := by
      rw [Disk.rename, hname]
      dsimp only
      rw [if_neg (not_not.mpr hdev.symm)]
      cases hj : d.files.names n with
      | none => rfl
      | some j =>
        have hne : j ≠ i := by
          rintro rfl
          exact hother hj
        dsimp only
        rw [if_neg hne, hdir j hj, if_neg Bool.false_ne_true]
    rw [withName_entry hn, hrename]
    exact change_move hinv hfar hslash hname rfl rfl

/-- A command ends with the sidecar of an entry that is gone. -/
private theorem change_cleaned {d' : Avd} {x x' : Call} (hx : Plain S x)
    (hunlocks : Call.unlocks x = none) (hx' : Call.rests x' = true) (hslash : slash ∉ id)
    (hgone : d.files.names (S.root, entryName id) = none)
    (hfiles : d'.files = bestEffort d.files (o.call (S.unlink d.files (meta_path S id))))
    (hfirst : d'.first = d.first) (hok : CallOk S d' x') : Change S d d' t x x' := by
  have hrests := resting_of_rests (S := S) hx'
  have hcleaning : ∀ id', Call.cleaning x' = some id' → Call.cleaning x = some id' ∨
      ∀ y ∈ d.calls, Call.pending S y ≠ some id' := fun _ h => ne_some hrests.cleaning h
  cases hr : o.call (S.unlink d.files (meta_path S id)) with
  | error e =>
    rw [hr] at hfiles
    exact change_idle hx hrests.toPlain hrests.holds hfiles (fun i _ => by rw [hfirst])
      (fun _ h => ne_some hunlocks h) hcleaning hok
  | ok G =>
    rw [hr] at hfiles
    obtain ⟨n, hn, hunlink⟩ := withName_ok.mp (call_ok hr)
    obtain ⟨-, rfl⟩ := Disk.unlink_ok hunlink
    obtain rfl := Place.entry.inj (lookup_meta hslash hn)
    refine change_remove hx hrests.toPlain hrests.holds hfiles hfirst ?_
      (fun _ h => ne_some hunlocks h) hcleaning hok
    intro id' hid
    rw [← metaName_inj (congrArg Prod.snd hid)]
    exact hgone

theorem change_restore (cs : List Call) {p : Restore} (hinv : Inv S d)
    (hx : d.calls[t]? = some (.restore id p)) (ho : o.ok = true)
    (hfree : Undisturbed S d o (.restore id p)) :
    Change S d (afterRestore S d cs o id p) t (.restore id p)
      (.restore id (p.step S o d.files id).2) := by
  have hok := hinv.calls t _ hx
  cases p with
  | fopen =>
    unfold afterRestore
    rw [Restore.step]
    split
    · exact change_rest rfl rfl rfl (fun _ _ => rfl) hok
    · exact change_rest rfl rfl rfl (fun _ _ => rfl) trivial
  | fread mfd text =>
    unfold afterRestore
    rw [Restore.step]
    split
    · exact change_rest rfl rfl rfl (fun _ _ => rfl) hok
    · split
      · exact change_rest rfl rfl rfl (fun _ _ => rfl) trivial
      · exact change_rest rfl rfl rfl (fun _ _ => rfl) hok
  | openDest m =>
    unfold afterRestore
    rw [Restore.step]
    split
    · rename_i qfd hqfd
      obtain ⟨n, hn, -⟩ := withName_ok.mp (call_ok hqfd)
      obtain rfl := Place.entry.inj (lookup_dest hok hn)
      exact change_rest rfl rfl rfl (fun _ _ => rfl) ⟨hok, hn⟩
    · exact change_rest rfl rfl rfl (fun _ _ => rfl) trivial
  | fstat m qfd =>
    unfold afterRestore
    rw [Restore.step]
    split
    · exact change_rest rfl rfl rfl (fun _ _ => rfl) trivial
    · exact change_rest rfl rfl rfl (fun _ _ => rfl) hok
  | lstat m qfd =>
    unfold afterRestore
    rw [Restore.step]
    split
    · exact change_rest rfl rfl rfl (fun _ _ => rfl) trivial
    · exact change_rest rfl rfl rfl (fun _ _ => rfl) hok
  | fchmod m qfd => exact change_fchmod cs hinv ho hx hfree
  | fchown m qfd => exact change_fchown cs hinv ho hx
  | rename m => exact change_rename cs hinv ho hx hfree
  | unlinkMeta =>
    exact change_cleaned ⟨rfl, rfl, rfl⟩ rfl rfl hok.1 hok.2 rfl rfl trivial
  | done r =>
    exact change_rest rfl rfl rfl (fun _ _ => rfl) hok

private theorem change_unlinkEntry (cs : List Call) (hinv : Inv S d) (ho : o.ok = true)
    (hx : d.calls[t]? = some (.delete id .unlinkDest))
    (hfree : Undisturbed S d o (.delete id .unlinkDest)) :
    Change S d (afterDelete S d cs o id .unlinkDest) t (.delete id .unlinkDest)
      (.delete id (Delete.unlinkDest.step S o d.files id).2) := by
  have hslash : slash ∉ id := hinv.calls t _ hx
  have hnobody : ∀ id', Call.cleaning (.delete id .unlinkMeta) = some id' →
      Call.cleaning (.delete id .unlinkDest) = some id' ∨
        ∀ y ∈ d.calls, Call.pending S y ≠ some id' := by
    intro id' hid
    rw [← Option.some.inj hid]
    exact Or.inr hfree
  unfold afterDelete
  rw [Delete.step, call_of_ok ho]
  cases hr : S.unlink d.files (dest S id) with
  | ok G =>
    obtain ⟨n, hn, hunlink⟩ := withName_ok.mp hr
    obtain ⟨-, rfl⟩ := Disk.unlink_ok hunlink
    obtain rfl := Place.entry.inj (lookup_dest hslash hn)
    refine change_remove ⟨rfl, rfl, rfl⟩ ⟨rfl, rfl, rfl⟩ rfl rfl rfl ?_
      (fun _ h => ne_some rfl h) hnobody ⟨hslash, Disk.names_remove_self⟩
    intro id' hid
    exact absurd hid.symm (entry_ne_meta S id id').symm
  | error e =>
    have hdone : Change S d ⟨d.files, cs, d.first⟩ t (.delete id .unlinkDest)
        (.delete id (.done (.err (lit "delete failed")))) :=
      change_rest rfl rfl rfl (fun _ _ => rfl) trivial
    cases e with
    | ENOENT =>
      have hgone : d.files.names (S.root, entryName id) = none := by
        cases hlookup : S.lookup (dest S id) with
        | error e =>
          rw [Store.unlink, Store.withName, hlookup] at hr
          obtain rfl := Except.error.inj hr
          cases lookup_dest_error hslash hlookup
        | ok n =>
          obtain rfl := lookup_dest hslash hlookup
          rw [Store.unlink, withName_entry hlookup, Disk.unlink] at hr
          split at hr
          · assumption
          · split at hr <;> cases hr
      exact change_idle ⟨rfl, rfl, rfl⟩ ⟨rfl, rfl, rfl⟩ rfl rfl (fun _ _ => rfl)
        (fun _ h => ne_some rfl h) hnobody ⟨hslash, hgone⟩
    | _ => exact hdone

theorem change_delete (cs : List Call) {p : Delete} (hinv : Inv S d)
    (hx : d.calls[t]? = some (.delete id p)) (ho : o.ok = true)
    (hfree : Undisturbed S d o (.delete id p)) :
    Change S d (afterDelete S d cs o id p) t (.delete id p)
      (.delete id (p.step S o d.files id).2) := by
  cases p with
  | unlinkDest => exact change_unlinkEntry cs hinv ho hx hfree
  | unlinkMeta =>
    obtain ⟨hslash, hgone⟩ := hinv.calls t _ hx
    exact change_cleaned ⟨rfl, rfl, rfl⟩ rfl rfl hslash hgone rfl rfl trivial
  | done r =>
    exact change_rest rfl rfl rfl (fun _ _ => rfl) (hinv.calls t _ hx)

end CommandSteps

end KernelAv.Daemon.QuarantineSteps
