/- digest: What holds between the calls on a quarantine, and what one call must leave of it. -/

import KernelAv.Daemon.QuarantineCalls

set_option autoImplicit false
set_option relaxedAutoImplicit false

namespace KernelAv.Daemon.QuarantineInvariant

open KernelAv.Lib.CText
open KernelAv.Lib.Files
open KernelAv.Daemon.Sidecar
open KernelAv.Daemon.Quarantine
open KernelAv.Daemon.QuarantineCalls

section Roles

/-- The id is short enough for an entry. -/
def enters (S : Store) (id : Bytes) : Bool :=
  match S.lookup (dest S id) with
  | .ok _ => true
  | .error _ => false

/-- The id that a call has named, and may yet make an entry for. -/
def Call.pending (S : Store) : Call → Option Bytes
  | .quarantine _ (.linkat k) | .quarantine _ (.lseek k) | .quarantine _ (.openCopy k) =>
      if enters S k.id then some k.id else none
  | _ => none

/-- The id whose entry has no complete sidecar yet. -/
def Call.describing : Call → Option Bytes
  | .quarantine _ (.read k _ _) | .quarantine _ (.write k _ _ _)
  | .quarantine _ (.closeCopy k _ _) | .quarantine _ (.openMeta k)
  | .quarantine _ (.writeMeta k _ _) => some k.id
  | _ => none

/-- The id whose entry is not locked yet, or no longer. -/
def Call.unlocks : Call → Option Bytes
  | .quarantine _ (.chmod k _) => some k.id
  | .restore id (.fchown _ _) | .restore id (.rename _) => some id
  | x => Call.describing x

/-- The id that a `quarantine_file` works on, up to the lock. -/
def Call.holds (S : Store) : Call → Option Bytes
  | .quarantine _ (.chmod k _) => some k.id
  | x => (Call.pending S x).or (Call.describing x)

/-- The inode that a call writes to. -/
def Call.handle : Call → Option Nat
  | .quarantine _ (.read _ h _) | .quarantine _ (.write _ h _ _)
  | .quarantine _ (.closeCopy _ h _) | .quarantine _ (.writeMeta _ h _) => some h
  | _ => none

/-- The id whose sidecar a command removes next. -/
def Call.cleaning : Call → Option Bytes
  | .restore id .unlinkMeta | .delete id .unlinkMeta => some id
  | _ => none

/-- The id that a call in progress is about. -/
def Call.uses (S : Store) : Call → Option Bytes
  | .restore _ (.done _) | .delete _ (.done _) => none
  | .restore id _ | .delete id _ => some id
  | x => Call.holds S x

end Roles

section Condition

variable (S : Store) (d : Avd)

/-- What a scan hands over: texts within the bounds of their buffers, and a path that does not lead
to the sidecar of an entry. -/
structure Admissible (c : Conviction) : Prop where
  writable : Writable c.path c.rule_name c.sha256_hex
  no_sidecar : ∀ id, S.lookup c.path ≠ .ok (.entry (S.root, metaName id))

/-- What a call needs of the others for its next system call. -/
def Undisturbed (o : Outcome) : Call → Prop
  | .quarantine c .fstat =>
      statOf (d.files.inodes c.fd) = d.first c.fd ∧
        AttributesInert (some (d.first c.fd)) c.path
  | .quarantine c (.clock_gettime _) =>
      let id := quarantine_id S o.now (basename c.path)
      enters S id = true → S.lookup (meta_path S id) = .ok (.entry (S.root, metaName id)) ∧
        d.files.names (S.root, entryName id) = none ∧
        d.files.names (S.root, metaName id) = none ∧ ∀ y ∈ d.calls, Call.uses S y ≠ some id
  | .restore id (.fchmod m qfd) =>
      m.original_mode &&& S_IALLUGO = 0 ∨
      ∀ id', d.files.names (S.root, entryName id') = some qfd →
        id' = id ∨ ∃ y ∈ d.calls, Call.unlocks y = some id'
  | .restore id (.rename m) =>
      ∀ i, d.files.names (S.root, entryName id) = some i →
        ∃ n, S.lookup m.original_path = .ok (.entry n) ∧ S.dev n.1 = S.dev S.root ∧
          (∀ id', n ≠ (S.root, entryName id') ∧ n ≠ (S.root, metaName id')) ∧
          d.files.names n ≠ some i ∧ ∀ j, d.files.names n = some j →
            (d.files.inodes j).isDir = false
  | .delete id .unlinkDest => ∀ y ∈ d.calls, Call.pending S y ≠ some id
  | _ => True

/-- The next call may be refused to a link only, for which there is the copy. -/
def Call.linking : Call → Bool
  | .quarantine _ (.linkat _) => true
  | _ => false

/-- No system call fails for an external reason, and calls on one inode or one id keep out of each
other's way: a scan finds the file with the mode and the owner it had at first, and a fresh id; a
RESTORE finds no other locked entry of its inode when it sets the mode, and can rename; a DELETE
does not run ahead of the `quarantine_file` that has named the id. -/
def Apart : Action → Prop
  | .convict c => Admissible S c
  | .call t o => ∀ x, d.calls[t]? = some x →
      (o.ok = true ∨ Call.linking x = true) ∧ Undisturbed S d o x
  | _ => True

end Condition

section Invariant

variable (S : Store) (d : Avd)

/-- The paths of the entry and of its sidecar lead to their names. -/
structure Fits (id : Bytes) : Prop where
  no_slash : slash ∉ id
  entry : S.lookup (dest S id) = .ok (.entry (S.root, entryName id))
  sidecar : S.lookup (meta_path S id) = .ok (.entry (S.root, metaName id))

theorem fits_of_lookups {S : Store} {id : Bytes} (hslash : slash ∉ id)
    (henters : enters S id = true)
    (hmeta : S.lookup (meta_path S id) = .ok (.entry (S.root, metaName id))) : Fits S id := by
  unfold enters at henters
  split at henters
  · rename_i n hn
    exact ⟨hslash, (lookup_dest hslash hn) ▸ hn, hmeta⟩
  · cases henters

/-- What `quarantine_file` has found of the file is what the file had at first. -/
def Stamped (c : Conviction) (orig_st : Option Stat) : Prop :=
  orig_st = some (d.first c.fd) ∧
    AttributesInert (some (d.first c.fd)) c.path

/-- The entry, where there is one, is that of the file or of its copy, and has no sidecar. -/
def Undescribed (c : Conviction) (id : Bytes) : Prop :=
  (∀ j, d.files.names (S.root, entryName id) = some j → d.first j = d.first c.fd) ∧
    d.files.names (S.root, metaName id) = none

/-- The entry, where there is one, is the copy that is being made. -/
def Copying (c : Conviction) (id : Bytes) (out_fd : Nat) : Prop :=
  out_fd < d.files.next ∧ d.first out_fd = d.first c.fd ∧
    (∀ j, d.files.names (S.root, entryName id) = some j → j = out_fd) ∧
    d.files.names (S.root, metaName id) = none

def PhaseOk (c : Conviction) : QuarantineFile → Prop
  | .clock_gettime orig_st => Stamped d c orig_st
  | .linkat k | .lseek k | .openCopy k =>
      Stamped d c k.orig_st ∧ (enters S k.id = true → Fits S k.id ∧
        d.files.names (S.root, entryName k.id) = none ∧
        d.files.names (S.root, metaName k.id) = none)
  | .read k out_fd _ | .write k out_fd _ _ =>
      Stamped d c k.orig_st ∧ Fits S k.id ∧ Copying S d c k.id out_fd
  | .closeCopy k out_fd copied =>
      copied = true ∧ Stamped d c k.orig_st ∧ Fits S k.id ∧ Copying S d c k.id out_fd
  | .openMeta k => Stamped d c k.orig_st ∧ Fits S k.id ∧ Undescribed S d c k.id
  | .writeMeta k mfd rest =>
      Fits S k.id ∧ mfd < d.files.next ∧
        AttributesBack ((d.files.inodes mfd).data ++ rest) (some (d.first c.fd)) ∧
        ∀ j, d.files.names (S.root, entryName k.id) = some j →
          d.first j = d.first c.fd ∧ d.files.names (S.root, metaName k.id) = some mfd
  | .chmod k _ => Fits S k.id
  | .unlinkDest k => slash ∉ k.id
  | .unlinkCopy _ | .unlinkMeta _ => False
  | _ => True

def RestoreOk (id : Bytes) : Restore → Prop
  | .fstat _ _ | .lstat _ _ | .fchmod _ _ | .fchown _ _ | .rename _ =>
      slash ∉ id ∧ S.lookup (dest S id) = .ok (.entry (S.root, entryName id))
  | .unlinkMeta => slash ∉ id ∧ d.files.names (S.root, entryName id) = none
  | .done _ => True
  | _ => slash ∉ id

def DeleteOk (id : Bytes) : Delete → Prop
  | .unlinkDest => slash ∉ id
  | .unlinkMeta => slash ∉ id ∧ d.files.names (S.root, entryName id) = none
  | .done _ => True

def CallOk : Call → Prop
  | .quarantine c p => c.fd < d.files.next ∧ Admissible S c ∧ PhaseOk S d c p
  | .restore id p => RestoreOk S d id p
  | .delete id p => DeleteOk S d id p

/-- Two calls at once: no id is worked on twice, no inode written to by two, and no sidecar removed
of an id that may yet get an entry. -/
structure Compatible (x y : Call) : Prop where
  ids : ∀ id, Call.holds S x = some id → Call.holds S y ≠ some id
  handles : ∀ h, Call.handle x = some h → Call.handle y ≠ some h
  cleaning : ∀ id, Call.pending S x = some id → Call.cleaning y ≠ some id

structure Inv : Prop where
  locked : ∀ id j, d.files.names (S.root, entryName id) = some j →
    (d.files.inodes j).perm = 0 ∨
      ∃ (t : Nat) (x : Call), d.calls[t]? = some x ∧ Call.unlocks x = some id
  described : ∀ id j, d.files.names (S.root, entryName id) = some j → Described S d id j ∨
    ∃ (t : Nat) (x : Call), d.calls[t]? = some x ∧ Call.describing x = some id
  writers : ∀ (t : Nat) (x : Call) h id, d.calls[t]? = some x → Call.handle x = some h →
    d.files.names (S.root, metaName id) = some h → Call.describing x = some id
  calls : ∀ (t : Nat) (x : Call), d.calls[t]? = some x → CallOk S d x
  pairs : ∀ (t u : Nat) (x y : Call), t ≠ u → d.calls[t]? = some x → d.calls[u]? = some y →
    Compatible S x y

end Invariant

section Frames

variable {S : Store} {d d' : Avd} {x x' y : Call} {t : Nat}

/-- What one system call does, as far as the invariant is concerned. -/
structure Change (S : Store) (d d' : Avd) (t : Nat) (x x' : Call) : Prop where
  next_le : d.files.next ≤ d'.files.next
  first : ∀ i < d.files.next, d'.first i = d.first i
  data : ∀ i < d.files.next, Call.handle x ≠ some i →
    (d'.files.inodes i).data = (d.files.inodes i).data
  entry : ∀ id j, d'.files.names (S.root, entryName id) = some j →
    d.files.names (S.root, entryName id) = some j ∨ Call.pending S x = some id
  sidecar : ∀ id s, d'.files.names (S.root, metaName id) = some s →
    d.files.names (S.root, metaName id) = some s ∨
      Call.describing x = some id ∧ s = d.files.next
  kept : ∀ id s, d.files.names (S.root, metaName id) = some s →
    d'.files.names (S.root, metaName id) = some s ∨
      d'.files.names (S.root, entryName id) = none
  locks : ∀ id j, d'.files.names (S.root, entryName id) = some j →
    (d.files.inodes j).perm = 0 → d.files.names (S.root, entryName id) = some j →
    (d'.files.inodes j).perm = 0 ∨ Call.unlocks x' = some id ∨
      ∃ (u : Nat) (y : Call), u ≠ t ∧ d.calls[u]? = some y ∧ Call.unlocks y = some id
  unlocks : ∀ id, Call.unlocks x = some id → Call.unlocks x' = some id ∨
    ∀ j, d'.files.names (S.root, entryName id) = some j → (d'.files.inodes j).perm = 0
  describes : ∀ id, Call.describing x = some id → Call.describing x' = some id ∨
    ∀ j, d'.files.names (S.root, entryName id) = some j → Described S d' id j
  creates : ∀ id j, Call.pending S x = some id →
    d'.files.names (S.root, entryName id) = some j →
    Call.unlocks x' = some id ∧ Call.describing x' = some id
  handle : ∀ h, Call.handle x' = some h → Call.handle x = some h ∨ h = d.files.next
  writes : ∀ h id, Call.handle x' = some h → d'.files.names (S.root, metaName id) = some h →
    Call.describing x' = some id
  holds : ∀ id, Call.holds S x' = some id → Call.holds S x = some id ∨
    ∀ y ∈ d.calls, Call.uses S y ≠ some id
  pending : ∀ id, Call.pending S x' = some id → Call.pending S x = some id ∨
    ∀ y ∈ d.calls, Call.uses S y ≠ some id
  cleaning : ∀ id, Call.cleaning x' = some id → Call.cleaning x = some id ∨
    ∀ y ∈ d.calls, Call.pending S y ≠ some id
  ok : CallOk S d' x'

theorem holds_of_pending {id : Bytes} (h : Call.pending S x = some id) :
    Call.holds S x = some id := by
  unfold Call.holds
  split
  · cases h
  · rw [h, Option.some_or]

theorem holds_of_describing {id : Bytes} (h : Call.describing x = some id) :
    Call.holds S x = some id := by
  unfold Call.describing at h
  split at h
  all_goals cases h
  all_goals rfl

theorem uses_of_holds {id : Bytes} (h : Call.holds S x = some id) : Call.uses S x = some id := by
  cases x with
  | quarantine c p => exact h
  | restore id p => cases h
  | delete id p => cases h

theorem uses_of_cleaning {id : Bytes} (h : Call.cleaning x = some id) :
    Call.uses S x = some id := by
  unfold Call.cleaning at h
  split at h
  all_goals cases h
  all_goals rfl

theorem handle_lt {h : Nat} (hok : CallOk S d x) (hx : Call.handle x = some h) :
    h < d.files.next := by
  unfold Call.handle at hx
  split at hx
  all_goals cases hx
  · exact hok.2.2.2.2.1
  · exact hok.2.2.2.2.1
  · exact hok.2.2.2.2.2.1
  · exact hok.2.2.2.1

theorem stamped_frame {c : Conviction} {orig_st : Option Stat}
    (hfirst : d'.first c.fd = d.first c.fd) (h : Stamped d c orig_st) :
    Stamped d' c orig_st := by
  unfold Stamped at h ⊢
  rw [hfirst]
  exact h

/-- What a call relies on is not touched by what another one does. -/
theorem callOk_frame (hnext : d.files.next ≤ d'.files.next)
    (hfirst : ∀ i < d.files.next, d'.first i = d.first i)
    (hdata : ∀ h, Call.handle y = some h → (d'.files.inodes h).data = (d.files.inodes h).data)
    (hentry : ∀ id j, Call.holds S y = some id ∨ Call.cleaning y = some id →
      d'.files.names (S.root, entryName id) = some j →
      d.files.names (S.root, entryName id) = some j)
    (hsidecar : ∀ id s, Call.holds S y = some id →
      d'.files.names (S.root, metaName id) = some s →
      d.files.names (S.root, metaName id) = some s)
    (hkept : ∀ id s, d.files.names (S.root, metaName id) = some s →
      d'.files.names (S.root, metaName id) = some s ∨
        d'.files.names (S.root, entryName id) = none)
    (h : CallOk S d y) : CallOk S d' y := by
  have hnone : ∀ id, Call.holds S y = some id ∨ Call.cleaning y = some id →
      d.files.names (S.root, entryName id) = none →
      d'.files.names (S.root, entryName id) = none := by
    intro id hid hempty
    cases hj : d'.files.names (S.root, entryName id) with
    | none => rfl
    | some j =>
      rw [hentry id j hid hj] at hempty
      cases hempty
  have hbare : ∀ id, Call.holds S y = some id → d.files.names (S.root, metaName id) = none →
      d'.files.names (S.root, metaName id) = none := by
    intro id hid hempty
    cases hs : d'.files.names (S.root, metaName id) with
    | none => rfl
    | some s =>
      rw [hsidecar id s hid hs] at hempty
      cases hempty
  cases y with
  | restore id p =>
    cases p with
    | unlinkMeta => exact ⟨h.1, hnone id (Or.inr rfl) h.2⟩
    | _ => exact h
  | delete id p =>
    cases p with
    | unlinkMeta => exact ⟨h.1, hnone id (Or.inr rfl) h.2⟩
    | _ => exact h
  | quarantine c p =>
    obtain ⟨hfd, hadmissible, hphase⟩ := h
    refine ⟨lt_of_lt_of_le hfd hnext, hadmissible, ?_⟩
    have hstamped : ∀ orig_st, Stamped d c orig_st → Stamped d' c orig_st :=
      fun _ => stamped_frame (hfirst _ hfd)
    have hpending : ∀ k : Kept,
        (enters S k.id = true → Call.holds S (.quarantine c p) = some k.id) →
        Stamped d c k.orig_st ∧ (enters S k.id = true → Fits S k.id ∧
          d.files.names (S.root, entryName k.id) = none ∧
          d.files.names (S.root, metaName k.id) = none) →
        Stamped d' c k.orig_st ∧ (enters S k.id = true → Fits S k.id ∧
          d'.files.names (S.root, entryName k.id) = none ∧
          d'.files.names (S.root, metaName k.id) = none) := by
      rintro k hk ⟨hst, hfits⟩
      refine ⟨hstamped _ hst, fun henters => ?_⟩
      obtain ⟨hfit, hempty, hbare'⟩ := hfits henters
      exact ⟨hfit, hnone _ (Or.inl (hk henters)) hempty, hbare _ (hk henters) hbare'⟩
    have hcopying : ∀ id out_fd, Call.holds S (.quarantine c p) = some id →
        Copying S d c id out_fd → Copying S d' c id out_fd := by
      rintro id out_fd hid ⟨hlt, horig, hname, hempty⟩
      refine ⟨lt_of_lt_of_le hlt hnext, ?_, fun j hj => hname j (hentry id j (Or.inl hid) hj),
        hbare id hid hempty⟩
      rw [hfirst _ hlt, hfirst _ hfd, horig]
    cases p with
    | clock_gettime orig_st => exact hstamped _ hphase
    | linkat k => exact hpending k (fun he => by simp [Call.holds, Call.pending, he]) hphase
    | lseek k => exact hpending k (fun he => by simp [Call.holds, Call.pending, he]) hphase
    | openCopy k => exact hpending k (fun he => by simp [Call.holds, Call.pending, he]) hphase
    | read k out_fd off =>
      obtain ⟨hst, hfits, hcopy⟩ := hphase
      exact ⟨hstamped _ hst, hfits, hcopying _ _ rfl hcopy⟩
    | write k out_fd off buf =>
      obtain ⟨hst, hfits, hcopy⟩ := hphase
      exact ⟨hstamped _ hst, hfits, hcopying _ _ rfl hcopy⟩
    | closeCopy k out_fd copied =>
      obtain ⟨hcopied, hst, hfits, hcopy⟩ := hphase
      exact ⟨hcopied, hstamped _ hst, hfits, hcopying _ _ rfl hcopy⟩
    | openMeta k =>
      obtain ⟨hst, hfits, horig, hempty⟩ := hphase
      refine ⟨hstamped _ hst, hfits, fun j hj => ?_, hbare _ rfl hempty⟩
      have hj' := hentry _ j (Or.inl rfl) hj
      rw [hfirst _ (d.files.names_lt _ _ hj'), hfirst _ hfd, horig j hj']
    | writeMeta k mfd rest =>
      obtain ⟨hfits, hlt, hback, hname⟩ := hphase
      refine ⟨hfits, lt_of_lt_of_le hlt hnext, ?_, fun j hj => ?_⟩
      · rw [hdata mfd rfl, hfirst _ hfd]
        exact hback
      · have hj' := hentry _ j (Or.inl rfl) hj
        obtain ⟨horig, hmeta⟩ := hname j hj'
        refine ⟨?_, ?_⟩
        · rw [hfirst _ (d.files.names_lt _ _ hj'), hfirst _ hfd, horig]
        · rcases hkept _ _ hmeta with hsame | hgone
          · exact hsame
          · rw [hgone] at hj
            cases hj
    | chmod k meta_ok => exact hphase
    | unlinkDest k => exact hphase
    | unlinkCopy k => exact hphase
    | unlinkMeta k => exact hphase
    | _ => trivial

private theorem set_get {l : List Call} {u : Nat} (hx : l[t]? = some x) :
    (l.set t x')[u]? = some y ↔ (u = t ∧ y = x') ∨ (u ≠ t ∧ l[u]? = some y) := by
  have hlt : t < l.length := (List.getElem?_eq_some_iff.mp hx).1
  rw [List.getElem?_set]
  by_cases hut : u = t
  · subst hut
    rw [if_pos rfl, if_pos hlt]
    simp [eq_comm]
  · rw [if_neg (Ne.symm hut)]
    simp [hut]

private theorem mem_of_get {l : List Call} {u : Nat} (h : l[u]? = some y) : y ∈ l :=
  List.mem_of_getElem? h

section Preserved

variable (hinv : Inv S d) (hx : d.calls[t]? = some x) (hset : d'.calls = d.calls.set t x')
variable (hchange : Change S d d' t x x')

include hinv hx hset hchange

private theorem locked_of_change {id : Bytes} {j : Nat}
    (hj : d'.files.names (S.root, entryName id) = some j) :
    (d'.files.inodes j).perm = 0 ∨
      ∃ (u : Nat) (y : Call), d'.calls[u]? = some y ∧ Call.unlocks y = some id := by
  have hself : Call.unlocks x' = some id → ∃ (u : Nat) (y : Call),
      d'.calls[u]? = some y ∧ Call.unlocks y = some id := by
    intro hid
    refine ⟨t, x', ?_, hid⟩
    rw [hset, set_get hx]
    exact Or.inl ⟨rfl, rfl⟩
  have hother : ∀ (u : Nat) (y : Call), u ≠ t → d.calls[u]? = some y →
      Call.unlocks y = some id → ∃ (u : Nat) (y : Call),
        d'.calls[u]? = some y ∧ Call.unlocks y = some id := by
    intro u y hut hy hid
    refine ⟨u, y, ?_, hid⟩
    rw [hset, set_get hx]
    exact Or.inr ⟨hut, hy⟩
  rcases hchange.entry id j hj with hold | hnew
  · by_cases hid : Call.unlocks x = some id
    · rcases hchange.unlocks id hid with hstill | hzero
      · exact Or.inr (hself hstill)
      · exact Or.inl (hzero j hj)
    · rcases hinv.locked id j hold with hzero | ⟨u, y, hy, hyid⟩
      · rcases hchange.locks id j hj hzero hold with hstill | hnow | ⟨u, y, hut, hy, hyid⟩
        · exact Or.inl hstill
        · exact Or.inr (hself hnow)
        · exact Or.inr (hother u y hut hy hyid)
      · have hut : u ≠ t := by
          rintro rfl
          obtain rfl := Option.some.inj (hx.symm.trans hy)
          exact hid hyid
        exact Or.inr (hother u y hut hy hyid)
  · exact Or.inr (hself (hchange.creates id j hnew hj).1)

private theorem described_of_change {id : Bytes} {j : Nat}
    (hj : d'.files.names (S.root, entryName id) = some j) :
    Described S d' id j ∨
      ∃ (u : Nat) (y : Call), d'.calls[u]? = some y ∧ Call.describing y = some id := by
  have hself : Call.describing x' = some id → ∃ (u : Nat) (y : Call),
      d'.calls[u]? = some y ∧ Call.describing y = some id := by
    intro hid
    refine ⟨t, x', ?_, hid⟩
    rw [hset, set_get hx]
    exact Or.inl ⟨rfl, rfl⟩
  rcases hchange.entry id j hj with hold | hnew
  · by_cases hid : Call.describing x = some id
    · rcases hchange.describes id hid with hstill | hdone
      · exact Or.inr (hself hstill)
      · exact Or.inl (hdone j hj)
    · rcases hinv.described id j hold with ⟨s, hs, hback⟩ | ⟨u, y, hy, hyid⟩
      · -- nobody else writes to a sidecar, so its text stays
        have hname : d'.files.names (S.root, metaName id) = some s := by
          rcases hchange.kept id s hs with hsame | hgone
          · exact hsame
          · rw [hgone] at hj
            cases hj
        have hhandle : Call.handle x ≠ some s := fun h => hid (hinv.writers t x s id hx h hs)
        refine Or.inl ⟨s, hname, ?_⟩
        rw [hchange.data s (d.files.names_lt _ _ hs) hhandle,
          hchange.first j (d.files.names_lt _ _ hold)]
        exact hback
      · have hut : u ≠ t := by
          rintro rfl
          obtain rfl := Option.some.inj (hx.symm.trans hy)
          exact hid hyid
        refine Or.inr ⟨u, y, ?_, hyid⟩
        rw [hset, set_get hx]
        exact Or.inr ⟨hut, hy⟩
  · exact Or.inr (hself (hchange.creates id j hnew hj).2)

omit hset in
private theorem ok_of_change {u : Nat} (hut : u ≠ t) (hy : d.calls[u]? = some y) :
    CallOk S d' y := by
  have hok := hinv.calls u y hy
  have hxy := hinv.pairs t u x y hut.symm hx hy
  have hyx := hinv.pairs u t y x hut hy hx
  refine callOk_frame hchange.next_le hchange.first ?_ ?_ ?_ hchange.kept hok
  · intro h hh
    exact hchange.data h (handle_lt hok hh) (hyx.handles h hh)
  · intro id j hid hj
    rcases hchange.entry id j hj with hold | hnew
    · exact hold
    · rcases hid with hheld | hcleaning
      · exact absurd (holds_of_pending hnew) (hyx.ids id hheld)
      · exact absurd hcleaning (hxy.cleaning id hnew)
  · intro id s hid hs
    rcases hchange.sidecar id s hs with hold | ⟨hnew, -⟩
    · exact hold
    · exact absurd (holds_of_describing hnew) (hyx.ids id hid)

omit hset in
private theorem compatible_of_change {u : Nat} (hut : u ≠ t) (hy : d.calls[u]? = some y) :
    Compatible S x' y ∧ Compatible S y x' := by
  have hxy := hinv.pairs t u x y hut.symm hx hy
  have hyx := hinv.pairs u t y x hut hy hx
  have hlt : ∀ h, Call.handle y = some h → h ≠ d.files.next :=
    fun h hh => (handle_lt (hinv.calls u y hy) hh).ne
  have hmem := mem_of_get hy
  refine ⟨⟨?_, ?_, ?_⟩, ⟨?_, ?_, ?_⟩⟩
  · intro id hid
    rcases hchange.holds id hid with hold | hfresh
    · exact hxy.ids id hold
    · exact fun hheld => hfresh y hmem (uses_of_holds hheld)
  · intro h hh
    rcases hchange.handle h hh with hold | hnew
    · exact hxy.handles h hold
    · exact fun hy' => hlt h hy' hnew
  · intro id hid
    rcases hchange.pending id hid with hold | hfresh
    · exact hxy.cleaning id hold
    · exact fun hcleaning => hfresh y hmem (uses_of_cleaning hcleaning)
  · intro id hid hheld
    rcases hchange.holds id hheld with hold | hfresh
    · exact hyx.ids id hid hold
    · exact hfresh y hmem (uses_of_holds hid)
  · intro h hh hx'
    rcases hchange.handle h hx' with hold | hnew
    · exact hyx.handles h hh hold
    · exact hlt h hh hnew
  · intro id hid hcleaning
    rcases hchange.cleaning id hcleaning with hold | hfree
    · exact hyx.cleaning id hid hold
    · exact hfree y hmem hid

theorem inv_of_change : Inv S d' where
  locked _ _ hj := locked_of_change hinv hx hset hchange hj
  described _ _ hj := described_of_change hinv hx hset hchange hj
  writers u y h id hy hh hname := by
    rw [hset, set_get hx] at hy
    rcases hy with ⟨-, rfl⟩ | ⟨hut, hy⟩
    · exact hchange.writes h id hh hname
    · rcases hchange.sidecar id h hname with hold | ⟨-, hnew⟩
      · exact hinv.writers u y h id hy hh hold
      · exact absurd hnew (handle_lt (hinv.calls u y hy) hh).ne
  calls u y hy := by
    rw [hset, set_get hx] at hy
    rcases hy with ⟨-, rfl⟩ | ⟨hut, hy⟩
    · exact hchange.ok
    · exact ok_of_change hinv hx hchange hut hy
  pairs u v y z huv hy hz := by
    rw [hset, set_get hx] at hy hz
    rcases hy with ⟨rfl, rfl⟩ | ⟨hut, hy⟩
    · rcases hz with ⟨rfl, -⟩ | ⟨hvt, hz⟩
      · exact absurd rfl huv
      · exact (compatible_of_change hinv hx hchange hvt hz).1
    · rcases hz with ⟨rfl, rfl⟩ | ⟨hvt, hz⟩
      · exact (compatible_of_change hinv hx hchange hut hy).2
      · exact hinv.pairs u v y z huv hy hz

end Preserved

end Frames

end KernelAv.Daemon.QuarantineInvariant
