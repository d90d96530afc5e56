/- digest: What a failed RESTORE or DELETE leaves behind, and what a later RESTORE makes of it. -/

import KernelAv.Daemon.ControlProtocol

set_option autoImplicit false
set_option relaxedAutoImplicit false

namespace KernelAv.Daemon.RestoreRetry

open KernelAv.Lib.CText
open KernelAv.Lib.Files
open KernelAv.Daemon.Sidecar (QuarantineMeta read_quarantine_meta)
open KernelAv.Daemon.Quarantine
open KernelAv.Daemon.ControlSocket (finish restoreEnd deleteEnd)
open KernelAv.Daemon.ControlProtocol (finish_ended finish_next finish_ends no_slash restoreRank
  restoreRank_step)

variable (S : Store)

/-- A RESTORE under the outcomes of its calls, up to its reply. -/
def Restores (F : Fs) (id : Bytes) (os : List Outcome) (G : Fs) (r : Reply) : Prop :=
  finish (fun o F p => Restore.step S o F id p) restoreEnd os F (Restore.start S id) = some (G, r)

def Deletes (F : Fs) (id : Bytes) (os : List Outcome) (G : Fs) (r : Reply) : Prop :=
  finish (fun o F p => Delete.step S o F id p) deleteEnd os F (Delete.start S id) = some (G, r)

def renameFailed : Reply :=
  .err (lit "rename failed (different filesystem? check /var/lib/av-quarantine manually)")

/-- No name is made, removed or led elsewhere, no content is changed, and unless it was the rename
that failed nothing is; in any case no attributes but those of the entry are. -/
structure FailsCleanly (F : Fs) (id : Bytes) (G : Fs) (r : Reply) : Prop where
  names : G.names = F.names
  data : ∀ i, (G.inodes i).data = (F.inodes i).data
  unchanged : r ≠ renameFailed → G = F
  others : ∀ i, F.names (S.root, entryName id) ≠ some i → G.inodes i = F.inodes i

/-- Attempts to RESTORE the id, all of which reply ERR. -/
inductive Attempts (id : Bytes) : Fs → Fs → Prop
  | none (F : Fs) : Attempts id F F
  | again {F G G' : Fs} {os : List Outcome} {msg : Bytes} (h : Attempts id F G)
      (hfails : Restores S G id os G' (.err msg)) : Attempts id F G'

/-- A RESTORE in which no call fails comes to this end, however its reads are cut up. -/
def Comes (F : Fs) (id : Bytes) (G : Fs) (r : Reply) : Prop :=
  ∀ outcomes : Nat → Outcome, (∀ i, (outcomes i).ok = true) →
    ∃ k, Restores S F id ((List.range k).map outcomes) G r

/-- Every RESTORE and DELETE that replies ERR has failed cleanly, and after failed attempts a
RESTORE in which no call fails comes to the same end as without them. -/
structure Retriable (F : Fs) (id : Bytes) : Prop where
  restore : ∀ os G msg, Restores S F id os G (.err msg) → FailsCleanly S F id G (.err msg)
  delete : ∀ os G msg, Deletes S F id os G (.err msg) → G = F
  retry : ∃ G r, ∀ F', Attempts S id F F' → Comes S F' id G r

/-- The inode with the mode and the owner of the metadata. -/
def reset (m : QuarantineMeta) (n : Inode) : Inode :=
  (n.chmod m.original_mode).chown m.original_uid m.original_gid

/-- RESTORE gets to the entry and to its sidecar. -/
structure Opened (F : Fs) (id : Bytes) (qfd mfd : Nat) : Prop where
  start : Restore.start S id = .fopen
  sidecar : S.openRead F (meta_path S id) = .ok mfd
  entry : S.openRead F (dest S id) = .ok qfd
  reg : (F.inodes qfd).isReg = true

/-- The whole sidecar says where the entry belongs, and nothing is there. -/
def Passes (F : Fs) (mfd : Nat) (m : QuarantineMeta) : Prop :=
  read_quarantine_meta (some (F.inodes mfd).data) = some m ∧
    ∃ e, S.lstat F m.original_path = .error e

/-- A change of the owner to `id` stays when the next one is to `next`. -/
def Undone (o : Owner) (id next : UInt32) : Prop :=
  next ≠ 0xFFFFFFFF ∨ o.set id = o

/-- What a beginning of the sidecar makes of the entry, the whole sidecar makes good; if RESTORE
does not pass its checks, it is nothing. -/
def Harmless (F : Fs) (id : Bytes) : Prop :=
  ∀ qfd mfd, Opened S F id qfd mfd → ∀ n m',
    read_quarantine_meta (some ((F.inodes mfd).data.take n)) = some m' →
    (∀ m, Passes S F mfd m →
      Undone (F.inodes qfd).st_uid m'.original_uid m.original_uid ∧
        Undone (F.inodes qfd).st_gid m'.original_gid m.original_gid) ∧
    ((∀ m, ¬ Passes S F mfd m) →
      (F.inodes qfd).chmod m'.original_mode = F.inodes qfd ∧
        (F.inodes qfd).chown m'.original_uid m'.original_gid = F.inodes qfd)

section Failing

variable {S} {F G : Fs} {id : Bytes} {p : Restore} {r : Reply}

/-- What holds at the start and is kept by every call holds at the end. -/
private theorem finish_invariant {α β : Type} {step : Outcome → Fs → α → Fs × α}
    {ended : α → Option β} (inv : Fs → α → Prop)
    (hstep : ∀ o F x, ended x = none → inv F x → inv (step o F x).1 (step o F x).2)
    {os : List Outcome} {F G : Fs} {x : α} {b : β} (h : inv F x)
    (hfinish : finish step ended os F x = some (G, b)) : ∃ y, ended y = some b ∧ inv G y := by
  induction os generalizing F x with
  | nil =>
    cases hend : ended x with
    | some c =>
      rw [finish_ended hend] at hfinish
      obtain ⟨rfl, rfl⟩ := Prod.mk.inj (Option.some.inj hfinish)
      exact ⟨x, hend, h⟩
    | none =>
      rw [finish, hend] at hfinish
      cases hfinish
  | cons o os ih =>
    cases hend : ended x with
    | some c =>
      rw [finish_ended hend] at hfinish
      obtain ⟨rfl, rfl⟩ := Prod.mk.inj (Option.some.inj hfinish)
      exact ⟨x, hend, h⟩
    | none =>
      rw [finish_next hend] at hfinish
      exact ih (hstep o F x hend h) hfinish

/-- What an attempt that fails at its rename has made of the entry, by a beginning of the
sidecar. -/
def Changed (S : Store) (F : Fs) (id : Bytes) (qfd : Nat) (m : QuarantineMeta) (G : Fs) : Prop :=
  (∃ mfd, Opened S F id qfd mfd ∧
    ∃ n, read_quarantine_meta (some ((F.inodes mfd).data.take n)) = some m) ∧
  (G = F.modify qfd (Inode.chmod m.original_mode) ∨ G = F.modify qfd (reset m))

/-- The metadata are those of a beginning of the sidecar. -/
def ReadFrom (S : Store) (F : Fs) (id : Bytes) (m : QuarantineMeta) : Prop :=
  Restore.start S id = .fopen ∧ ∃ mfd, S.openRead F (meta_path S id) = .ok mfd ∧
    ∃ n, read_quarantine_meta (some ((F.inodes mfd).data.take n)) = some m

/-- How far an attempt is, as long as it may still fail. -/
def Trying (S : Store) (F : Fs) (id : Bytes) (G : Fs) : Restore → Prop
  | .fopen => G = F ∧ Restore.start S id = .fopen
  | .fread mfd text => G = F ∧ Restore.start S id = .fopen ∧
      S.openRead F (meta_path S id) = .ok mfd ∧ text = (F.inodes mfd).data.take text.length
  | .openDest m => G = F ∧ ReadFrom S F id m
  | .fstat m qfd => G = F ∧ ReadFrom S F id m ∧ S.openRead F (dest S id) = .ok qfd
  | .lstat m qfd | .fchmod m qfd =>
      G = F ∧ ReadFrom S F id m ∧ S.openRead F (dest S id) = .ok qfd ∧
        (F.inodes qfd).isReg = true
  | .fchown m qfd => (ReadFrom S F id m ∧ S.openRead F (dest S id) = .ok qfd ∧
      (F.inodes qfd).isReg = true) ∧ G = F.modify qfd (Inode.chmod m.original_mode)
  | .rename m => ∃ qfd, Changed S F id qfd m G
  | .unlinkMeta => True
  | .done .ok => True
  | .done r => G = F ∨ r = renameFailed ∧ ∃ qfd m, Changed S F id qfd m G

private theorem changed_of_read {m : QuarantineMeta} {qfd : Nat}
    (h : ReadFrom S F id m ∧ S.openRead F (dest S id) = .ok qfd ∧ (F.inodes qfd).isReg = true)
    (hG : G = F.modify qfd (Inode.chmod m.original_mode) ∨ G = F.modify qfd (reset m)) :
    Changed S F id qfd m G := by
  obtain ⟨⟨hstart, mfd, hmeta, n, hread⟩, hdest, hreg⟩ := h
  exact ⟨⟨mfd, ⟨hstart, hmeta, hdest, hreg⟩, n, hread⟩, hG⟩

private theorem modify_modify (F : Fs) (i : Nat) (f g : Inode → Inode) :
    (F.modify i f).modify i g = F.modify i (g ∘ f) := by
  simp only [Disk.modify, Function.update_self, Function.update_idem, Function.comp_apply]

private theorem trying_start : Trying S F id F (Restore.start S id) := by
  unfold Restore.start
  split
  · exact .inl rfl
  split
  · exact .inl rfl
  · rename_i hvalid hfits
    refine ⟨rfl, ?_⟩
    rw [Restore.start, if_neg hvalid, if_neg hfits]

private theorem trying_step (o : Outcome) (h : Trying S F id G p) :
    Trying S F id (p.step S o G id).1 (p.step S o G id).2 := by
  cases p with
  | fopen =>
    obtain ⟨rfl, hstart⟩ := h
    rw [Restore.step]
    split
    · rename_i mfd hopen
      exact ⟨rfl, hstart, call_ok hopen, rfl⟩
    · exact .inl rfl
  | fread mfd text =>
    obtain ⟨rfl, hstart, hopen, htext⟩ := h
    rw [Restore.step]
    split
    · refine ⟨rfl, hstart, hopen, ?_⟩
      have hsplit : ∀ k, text ++ ((G.inodes mfd).data.drop text.length).take k =
          (G.inodes mfd).data.take (text.length + k) := by
        intro k
        rw [List.take_add, ← htext]
      rw [hsplit, List.length_take, List.take_eq_take_iff]
      omega
    · split
      · exact .inl rfl
      · rename_i m hread
        refine ⟨rfl, hstart, mfd, hopen, text.length, ?_⟩
        rw [← htext]
        exact hread
  | openDest m =>
    obtain ⟨rfl, hread⟩ := h
    rw [Restore.step]
    split
    · rename_i qfd hopen
      exact ⟨rfl, hread, call_ok hopen⟩
    · exact .inl rfl
  | fstat m qfd =>
    obtain ⟨rfl, hread, hopen⟩ := h
    rw [Restore.step]
    split
    · exact .inl rfl
    · rename_i hreg
      simp only [Bool.or_eq_true, Bool.not_eq_true', not_or, Bool.not_eq_false] at hreg
      exact ⟨rfl, hread, hopen, hreg.2⟩
  | lstat m qfd =>
    obtain ⟨rfl, hread⟩ := h
    rw [Restore.step]
    split
    · exact .inl rfl
    · exact ⟨rfl, hread⟩
  | fchmod m qfd =>
    obtain ⟨rfl, hread⟩ := h
    rw [Restore.step]
    split
    · exact ⟨hread, rfl⟩
    · exact .inl rfl
  | fchown m qfd =>
    obtain ⟨hread, rfl⟩ := h
    refine ⟨qfd, changed_of_read hread ?_⟩
    dsimp only [Restore.step]
    split
    · right
      rw [modify_modify]
      rfl
    · exact .inl rfl
  | rename m =>
    obtain ⟨qfd, hchanged⟩ := h
    rw [Restore.step]
    split
    · trivial
    · exact .inr ⟨rfl, qfd, m, hchanged⟩
  | unlinkMeta => trivial
  | done r => exact h

/-- A failed attempt has changed nothing, or the entry, and then it was the rename that failed. -/
theorem attempt_cases {os : List Outcome} {msg : Bytes} (h : Restores S F id os G (.err msg)) :
    G = F ∨ .err msg = renameFailed ∧ ∃ qfd m, Changed S F id qfd m G := by
  obtain ⟨y, hend, hy⟩ := finish_invariant (Trying S F id) (fun o G x _ hx => trying_step o hx)
    trying_start h
  cases y <;> try cases hend
  exact hy

/-- The entry is what its path leads to. -/
private theorem opened_name {qfd mfd : Nat} (h : Opened S F id qfd mfd) :
    F.names (S.root, entryName id) = some qfd := by
  have hslash : slash ∉ id := by
    apply no_slash
    by_contra hinvalid
    have hstart := h.start
    rw [Restore.start, if_pos (by simpa using hinvalid)] at hstart
    cases hstart
  obtain ⟨n, hlookup, hopen⟩ := withName_ok.mp h.entry
  obtain rfl := Place.entry.inj (lookup_dest hslash hlookup)
  rw [Disk.openRead] at hopen
  split at hopen
  · cases hopen
  · rename_i i hname
    split at hopen
    · cases hopen
    · rw [hname, Except.ok.inj hopen]

theorem restore_fails_cleanly {os : List Outcome} {msg : Bytes}
    (h : Restores S F id os G (.err msg)) : FailsCleanly S F id G (.err msg) := by
  rcases attempt_cases h with rfl | ⟨hmsg, qfd, m, ⟨mfd, hopened, -⟩, hG⟩
  · exact ⟨rfl, fun _ => rfl, fun _ => rfl, fun _ _ => rfl⟩
  · have hother : ∀ (f : Inode → Inode) (i : Nat), F.names (S.root, entryName id) ≠ some i →
        (F.modify qfd f).inodes i = F.inodes i := by
      intro f i hi
      apply Disk.inodes_modify_of_ne
      rintro rfl
      exact hi (opened_name hopened)
    have hdata : ∀ f : Inode → Inode, (∀ n, (f n).data = n.data) →
        ∀ i, ((F.modify qfd f).inodes i).data = (F.inodes i).data := by
      intro f hf i
      by_cases hi : i = qfd
      · subst hi
        rw [Disk.inodes_modify_self, hf]
      · rw [Disk.inodes_modify_of_ne f hi]
    rcases hG with rfl | rfl
    · exact ⟨rfl, hdata _ fun _ => rfl, fun hne => absurd hmsg hne, hother _⟩
    · exact ⟨rfl, hdata _ fun _ => rfl, fun hne => absurd hmsg hne, hother _⟩

end Failing

section Clean

variable (id : Bytes)

/-- The end of RESTORE from its rename on, if no call fails. -/
def takenBack (F : Fs) (m : QuarantineMeta) : Fs × Reply :=
  match S.rename F (dest S id) m.original_path with
  | .ok G => (bestEffort G (S.unlink G (meta_path S id)), .ok)
  | .error _ => (F, renameFailed)

/-- The end of RESTORE from the occupancy check on. -/
def vacated (F : Fs) (m : QuarantineMeta) (qfd : Nat) : Fs × Reply :=
  match S.lstat F m.original_path with
  | .ok _ => (F, .err (lit "original path is occupied - move or remove it first"))
  | .error _ => takenBack S id (F.modify qfd (reset m)) m

def checked (F : Fs) (m : QuarantineMeta) (qfd : Nat) : Fs × Reply :=
  if !(F.inodes qfd).isReg then
    (F, .err (lit "quarantined file is not a regular file - refusing to restore"))
  else vacated S id F m qfd

def entered (F : Fs) (m : QuarantineMeta) : Fs × Reply :=
  match S.openRead F (dest S id) with
  | .ok qfd => checked S id F m qfd
  | .error _ => (F, .err (lit "quarantined file not found"))

/-- The end of RESTORE from the whole sidecar on. -/
def described (F : Fs) (text : Bytes) : Fs × Reply :=
  match read_quarantine_meta (some text) with
  | none => (F, noMetadata)
  | some m => entered S id F m

/-- The end of RESTORE if no call fails. -/
def restored (F : Fs) : Restore → Fs × Reply
  | .fopen =>
      match S.openRead F (meta_path S id) with
      | .ok mfd => described S id F (F.inodes mfd).data
      | .error _ => (F, noMetadata)
  | .fread mfd text => described S id F (text ++ (F.inodes mfd).data.drop text.length)
  | .openDest m => entered S id F m
  | .fstat m qfd => checked S id F m qfd
  | .lstat m qfd => vacated S id F m qfd
  | .fchmod m qfd => takenBack S id (F.modify qfd (reset m)) m
  | .fchown m qfd =>
      takenBack S id (F.modify qfd (Inode.chown m.original_uid m.original_gid)) m
  | .rename m => takenBack S id F m
  | .unlinkMeta => (bestEffort F (S.unlink F (meta_path S id)), .ok)
  | .done r => (F, r)

variable {S id} {F G : Fs} {r : Reply}

/-- A call that does not fail keeps the end. -/
private theorem restored_step {o : Outcome} (hok : o.ok = true) (p : Restore) :
    restored S id (p.step S o F id).1 (p.step S o F id).2 = restored S id F p := by
  cases p with
  | fopen =>
    rw [Restore.step, call_of_ok hok, restored]
    cases S.openRead F (meta_path S id) with
    | error e => rfl
    | ok mfd => rfl
  | fread mfd text =>
    rw [Restore.step, hok, restored]
    set rest := (F.inodes mfd).data.drop text.length with hrest
    split
    · rw [restored, List.append_assoc, List.length_append, List.length_take]
      congr 2
      rw [← List.drop_drop, ← hrest]
      rcases Nat.le_total (o.n + 1) rest.length with hle | hle
      · rw [Nat.min_eq_left hle, List.take_append_drop]
      · rw [Nat.min_eq_right hle, List.take_of_length_le hle, List.drop_length,
          List.append_nil]
    · rename_i hend
      simp only [Bool.true_and, decide_eq_true_eq, ne_eq, not_not, List.take_eq_nil_iff,
        Nat.add_eq_zero_iff, one_ne_zero, and_false, false_or] at hend
      rw [hend, List.append_nil, described]
      cases read_quarantine_meta (some text) with
      | none => rfl
      | some m => rfl
  | openDest m =>
    rw [Restore.step, call_of_ok hok, restored, entered]
    cases S.openRead F (dest S id) with
    | error e => rfl
    | ok qfd => rfl
  | fstat m qfd =>
    rw [Restore.step, hok, restored, checked, Bool.not_true, Bool.false_or]
    split <;> rfl
  | lstat m qfd =>
    rw [Restore.step, call_of_ok hok, restored, vacated]
    cases S.lstat F m.original_path with
    | error e => rfl
    | ok i => rfl
  | fchmod m qfd =>
    rw [Restore.step, if_pos hok, restored, restored, modify_modify]
    rfl
  | fchown m qfd =>
    rw [Restore.step, if_pos hok]
    rfl
  | rename m =>
    rw [Restore.step, call_of_ok hok, restored, takenBack]
    cases S.rename F (dest S id) m.original_path with
    | error e => rfl
    | ok G => rfl
  | unlinkMeta =>
    rw [Restore.step, call_of_ok hok]
    rfl
  | done r => rfl

/-- A RESTORE in which no call fails ends there. -/
private theorem restored_of_finish {os : List Outcome} {p : Restore} (hok : ∀ o ∈ os, o.ok = true)
    (h : finish (fun o F p => Restore.step S o F id p) restoreEnd os F p = some (G, r)) :
    restored S id F p = (G, r) := by
  induction os generalizing F p with
  | nil =>
    cases p <;> cases h
    rfl
  | cons o os ih =>
    obtain ⟨ho, hos⟩ := List.forall_mem_cons.mp hok
    cases hend : restoreEnd p with
    | some b =>
      rw [finish_ended hend] at h
      obtain ⟨rfl, rfl⟩ := Prod.mk.inj (Option.some.inj h)
      cases p <;> cases hend
      rfl
    | none =>
      rw [finish_next hend] at h
      rw [← restored_step ho]
      exact ih hos h

theorem comes_iff : Comes S F id G r ↔ restored S id F (Restore.start S id) = (G, r) := by
  have hends : ∀ outcomes : Nat → Outcome, ∃ k x,
      finish (fun o F p => Restore.step S o F id p) restoreEnd ((List.range k).map outcomes) F
        (Restore.start S id) = some x :=
    finish_ends (fun _ _ => True) restoreRank
      (fun _ _ _ _ hend => ⟨trivial, restoreRank_step hend⟩) trivial
  have hclean : ∀ outcomes : Nat → Outcome, (∀ i, (outcomes i).ok = true) → ∀ k,
      ∀ o ∈ (List.range k).map outcomes, o.ok = true := by
    intro outcomes hok k o ho
    obtain ⟨i, -, rfl⟩ := List.mem_map.mp ho
    exact hok i
  constructor
  · intro h
    have hok : ∀ i : Nat, ((fun _ => ⟨true, 0, (0, 0), 0⟩ : Nat → Outcome) i).ok = true :=
      fun _ => rfl
    obtain ⟨k, hk⟩ := h _ hok
    exact restored_of_finish (hclean _ hok k) hk
  · intro h outcomes hok
    obtain ⟨k, ⟨G', r'⟩, hk⟩ := hends outcomes
    refine ⟨k, ?_⟩
    rw [restored_of_finish (hclean outcomes hok k) hk] at h
    obtain ⟨rfl, rfl⟩ := Prod.mk.inj h
    exact hk

end Clean

section Resetting

variable {m m' : QuarantineMeta} {n : Inode} {o : Owner} {id next : UInt32}

theorem undone_iff : Undone o id next ↔ (o.set id).set next = o.set next := by
  constructor
  · rintro (hnext | hsame)
    · exact Owner.set_set hnext
    · rw [hsame]
  · intro h
    by_cases hnext : next = 0xFFFFFFFF
    · subst hnext
      exact .inr h
    · exact .inl hnext

theorem reset_chmod (mode : UInt32) : reset m (n.chmod mode) = reset m n := by
  rw [reset, Inode.chmod_chmod, reset]

/-- Of an earlier attempt only a change of owner may be left. -/
theorem reset_reset : reset m (reset m' n) = reset m n ↔
    Undone n.st_uid m'.original_uid m.original_uid ∧
      Undone n.st_gid m'.original_gid m.original_gid := by
  rw [undone_iff, undone_iff, reset, reset, Inode.chmod_chown, Inode.chmod_chmod, reset]
  simp only [Inode.chown, Inode.mk.injEq, and_true, true_and]
  exact Iff.rfl

theorem isReg_reset : (reset m n).isReg = n.isReg := by
  rw [reset, Inode.isReg_chown, Inode.isReg_chmod]

end Resetting

section Retrying

variable {S} {F G : Fs} {id : Bytes} {qfd mfd : Nat} {m : QuarantineMeta}

private theorem openRead_modify {n : Inode} (hn : n.isLnk = (F.inodes qfd).isLnk) (path : Bytes) :
    S.openRead (F.modify qfd fun _ => n) path = S.openRead F path := by
  unfold Store.openRead Store.withName
  cases S.lookup path with
  | error e => rfl
  | ok place =>
    cases place with
    | directory => rfl
    | entry name =>
      show (F.modify qfd fun _ => n).openRead name = F.openRead name
      unfold Disk.openRead
      rw [Disk.names_modify]
      cases F.names name with
      | none => rfl
      | some i =>
        by_cases hi : i = qfd
        · subst hi
          simp only [Disk.inodes_modify_self, hn]
        · simp only [Disk.inodes_modify_of_ne _ hi]

/-- Another inode of the same content in the place of the entry changes nothing in what RESTORE
gets to. -/
private theorem opened_modify {n : Inode} (hopened : Opened S F id qfd mfd)
    (hreg : n.isReg = true) (hdata : n.data = (F.inodes qfd).data) :
    Opened S (F.modify qfd fun _ => n) id qfd mfd ∧
      ((F.modify qfd fun _ => n).inodes mfd).data = (F.inodes mfd).data := by
  have hlnk : n.isLnk = (F.inodes qfd).isLnk := by
    rw [Inode.isLnk_of_isReg hreg, Inode.isLnk_of_isReg hopened.reg]
  refine ⟨⟨hopened.start, ?_, ?_, ?_⟩, ?_⟩
  · rw [openRead_modify hlnk]
    exact hopened.sidecar
  · rw [openRead_modify hlnk]
    exact hopened.entry
  · rw [Disk.inodes_modify_self]
    exact hreg
  · by_cases hi : mfd = qfd
    · subst hi
      rw [Disk.inodes_modify_self, hdata]
    · rw [Disk.inodes_modify_of_ne _ hi]

/-- Where RESTORE gets to the entry and to the sidecar, what is left is in the sidecar. -/
private theorem restored_opened (h : Opened S F id qfd mfd) :
    restored S id F (Restore.start S id) =
      match read_quarantine_meta (some (F.inodes mfd).data) with
      | none => (F, noMetadata)
      | some m => vacated S id F m qfd := by
  rw [h.start, restored, h.sidecar]
  dsimp only
  rw [described]
  cases read_quarantine_meta (some (F.inodes mfd).data) with
  | none => rfl
  | some m =>
    dsimp only
    rw [entered, h.entry]
    dsimp only
    rw [checked, h.reg]
    rfl

private theorem restored_passes (h : Opened S F id qfd mfd) (hm : Passes S F mfd m) :
    restored S id F (Restore.start S id) = takenBack S id (F.modify qfd (reset m)) m := by
  obtain ⟨hread, e, hlstat⟩ := hm
  rw [restored_opened h, hread]
  dsimp only
  rw [vacated, hlstat]

private theorem restored_stays (h : Opened S F id qfd mfd) (hm : ∀ m, ¬ Passes S F mfd m) :
    (restored S id F (Restore.start S id)).1 = F := by
  rw [restored_opened h]
  cases hread : read_quarantine_meta (some (F.inodes mfd).data) with
  | none => rfl
  | some m =>
    dsimp only
    rw [vacated]
    cases hlstat : S.lstat F m.original_path with
    | ok i => rfl
    | error e => exact absurd ⟨hread, e, hlstat⟩ (hm m)

/-- What failed attempts leave: the same, or another inode for the entry that the metadata of the
whole sidecar make the same of. -/
def Kept (S : Store) (F : Fs) (id : Bytes) (G : Fs) : Prop :=
  G = F ∨ ∃ qfd mfd m n, Opened S F id qfd mfd ∧ Passes S F mfd m ∧
    G = F.modify qfd (fun _ => n) ∧ n.isReg = true ∧ n.data = (F.inodes qfd).data ∧
    reset m n = reset m (F.inodes qfd)

private theorem modify_eq_self {f : Inode → Inode} (h : f (F.inodes qfd) = F.inodes qfd) :
    F.modify qfd f = F := by
  rw [Disk.modify, h, Function.update_eq_self]

private theorem modify_const (f : Inode → Inode) :
    F.modify qfd f = F.modify qfd fun _ => f (F.inodes qfd) := rfl

/-- The owner that the whole sidecar does not set is still the one of the entry. -/
private theorem undone_of_reset {n : Inode} {m' : QuarantineMeta}
    (hn : reset m n = reset m (F.inodes qfd))
    (h : Undone (F.inodes qfd).st_uid m'.original_uid m.original_uid ∧
      Undone (F.inodes qfd).st_gid m'.original_gid m.original_gid) :
    Undone n.st_uid m'.original_uid m.original_uid ∧
      Undone n.st_gid m'.original_gid m.original_gid := by
  have huid : n.st_uid.set m.original_uid = (F.inodes qfd).st_uid.set m.original_uid :=
    congrArg Inode.st_uid hn
  have hgid : n.st_gid.set m.original_gid = (F.inodes qfd).st_gid.set m.original_gid :=
    congrArg Inode.st_gid hn
  have hkeep : ∀ {o o' : Owner} {i next : UInt32}, o.set next = o'.set next → Undone o' i next →
      Undone o i next := by
    intro o o' i next hsame hundone
    by_cases hnext : next = 0xFFFFFFFF
    · subst hnext
      obtain rfl : o = o' := hsame
      exact hundone
    · exact .inl hnext
  exact ⟨hkeep huid h.1, hkeep hgid h.2⟩

private theorem kept_step (hharmless : Harmless S F id) (h : Kept S F id G) {os : List Outcome}
    {G' : Fs} {msg : Bytes} (hfails : Restores S G id os G' (.err msg)) : Kept S F id G' := by
  rcases attempt_cases hfails with rfl | ⟨-, q, m', ⟨⟨s, hopened, k, hread⟩, hG'⟩⟩
  · exact h
  rcases h with rfl | ⟨qfd, mfd, m, n, hF, hm, rfl, hreg, hdata, hreset⟩
  · obtain ⟨hpass, hstay⟩ := hharmless q s hopened k m' hread
    by_cases hm : ∃ m, Passes S G s m
    · obtain ⟨m, hm⟩ := hm
      rcases hG' with rfl | rfl
      · exact .inr ⟨q, s, m, _, hopened, hm, modify_const _,
          by rw [Inode.isReg_chmod]; exact hopened.reg, rfl, reset_chmod _⟩
      · exact .inr ⟨q, s, m, _, hopened, hm, modify_const _,
          by rw [isReg_reset]; exact hopened.reg, rfl, reset_reset.mpr (hpass m hm)⟩
    · obtain ⟨hmode, howner⟩ := hstay (not_exists.mp hm)
      left
      rcases hG' with rfl | rfl
      · exact modify_eq_self hmode
      · exact modify_eq_self (by rw [reset, hmode, howner])
  · obtain ⟨hG, hsame⟩ := opened_modify hF hreg hdata
    obtain rfl : q = qfd := Except.ok.inj (hopened.entry.symm.trans hG.entry)
    obtain rfl : s = mfd := Except.ok.inj (hopened.sidecar.symm.trans hG.sidecar)
    rw [hsame] at hread
    obtain ⟨hpass, -⟩ := hharmless q s hF k m' hread
    rw [modify_modify, modify_modify] at hG'
    rcases hG' with rfl | rfl
    · exact .inr ⟨q, s, m, n.chmod m'.original_mode, hF, hm, rfl,
        by rw [Inode.isReg_chmod]; exact hreg, hdata, by rw [reset_chmod, hreset]⟩
    · refine .inr ⟨q, s, m, reset m' n, hF, hm, rfl, by rw [isReg_reset]; exact hreg, hdata, ?_⟩
      rw [reset_reset.mpr (undone_of_reset hreset (hpass m hm)), hreset]

private theorem kept_attempts (hharmless : Harmless S F id) (h : Attempts S id F G) :
    Kept S F id G := by
  induction h with
  | none => exact .inl rfl
  | again h hfails ih => exact kept_step hharmless ih hfails

/-- From what failed attempts leave, RESTORE comes to the same end. -/
private theorem restored_kept (h : Kept S F id G) :
    restored S id G (Restore.start S id) = restored S id F (Restore.start S id) := by
  rcases h with rfl | ⟨qfd, mfd, m, n, hF, hm, rfl, hreg, hdata, hreset⟩
  · rfl
  · obtain ⟨hG, hsame⟩ := opened_modify hF hreg hdata
    have hmG : Passes S (F.modify qfd fun _ => n) mfd m := by
      obtain ⟨hread, e, hlstat⟩ := hm
      refine ⟨?_, e, hlstat⟩
      rw [hsame]
      exact hread
    rw [restored_passes hF hm, restored_passes hG hmG, modify_modify]
    congr 1
    rw [modify_const, modify_const (reset m), Function.comp_apply, hreset]

end Retrying

section Harming

variable {S} {F : Fs} {id : Bytes} {qfd mfd : Nat} {m m' : QuarantineMeta}

private def succeeds (n : Nat) : Outcome := ⟨true, n, (0, 0), 0⟩

private def fails : Outcome := ⟨false, 0, (0, 0), 0⟩

/-- The calls from the entry on, of which the occupancy check and the rename fail, and the change of
owner may. -/
private def renameFails (owned : Bool) : List Outcome :=
  [succeeds 0, succeeds 0, fails, succeeds 0, if owned then succeeds 0 else fails, fails]

private theorem fails_at_rename (hopened : Opened S F id qfd mfd) (owned : Bool) :
    finish (fun o F p => Restore.step S o F id p) restoreEnd (renameFails owned) F
      (.openDest m') =
    some (if owned then F.modify qfd (reset m') else F.modify qfd (Inode.chmod m'.original_mode),
      renameFailed) := by
  have hopen : Restore.step S (succeeds 0) F id (.openDest m') = (F, .fstat m' qfd) := by
    rw [Restore.step, call_of_ok rfl, hopened.entry]
  have hstat : Restore.step S (succeeds 0) F id (.fstat m' qfd) = (F, .lstat m' qfd) := by
    rw [Restore.step, hopened.reg]
    rfl
  rw [renameFails, finish_next rfl, hopen, finish_next rfl, hstat, finish_next rfl]
  cases owned with
  | false => rfl
  | true =>
    show some ((F.modify qfd (Inode.chmod m'.original_mode)).modify qfd
      (Inode.chown m'.original_uid m'.original_gid), renameFailed) = _
    rw [modify_modify]
    rfl

/-- A failed attempt can end with the metadata of any beginning of the sidecar that parses. -/
theorem attempt_fails (hopened : Opened S F id qfd mfd) {n : Nat}
    (hread : read_quarantine_meta (some ((F.inodes mfd).data.take n)) = some m')
    (owned : Bool) : ∃ os, Restores S F id os
      (if owned then F.modify qfd (reset m') else F.modify qfd (Inode.chmod m'.original_mode))
      renameFailed := by
  have hopen : Restore.step S (succeeds 0) F id .fopen = (F, .fread mfd []) := by
    rw [Restore.step, call_of_ok rfl, hopened.sidecar]
  have hstop : ∀ text, read_quarantine_meta (some text) = some m' →
      Restore.step S fails F id (.fread mfd text) = (F, .openDest m') := by
    intro text htext
    rw [Restore.step]
    show (match read_quarantine_meta (some text) with
      | none => (F, Restore.done noMetadata)
      | some m => (F, Restore.openDest m)) = _
    rw [htext]
  by_cases hnil : (F.inodes mfd).data.take n = []
  · refine ⟨succeeds 0 :: fails :: renameFails owned, ?_⟩
    rw [Restores, hopened.start, finish_next rfl, hopen, finish_next rfl,
      hstop [] (by rw [← hnil]; exact hread)]
    exact fails_at_rename hopened owned
  · obtain ⟨k, rfl⟩ : ∃ k, n = k + 1 := by
      cases n with
      | zero => exact absurd (List.take_zero) hnil
      | succ k => exact ⟨k, rfl⟩
    have htake : Restore.step S (succeeds k) F id (.fread mfd []) =
        (F, .fread mfd ((F.inodes mfd).data.take (k + 1))) := by
      rw [Restore.step]
      have hsome : ((succeeds k).ok && decide
          (((F.inodes mfd).data.drop 0).take ((succeeds k).n + 1) ≠ [])) = true := by
        show (true && decide (((F.inodes mfd).data.drop 0).take (k + 1) ≠ [])) = true
        rw [List.drop_zero, Bool.true_and, decide_eq_true_eq]
        exact hnil
      exact if_pos hsome
    refine ⟨succeeds 0 :: succeeds k :: fails :: renameFails owned, ?_⟩
    rw [Restores, hopened.start, finish_next rfl, hopen, finish_next rfl, htake, finish_next rfl,
      hstop _ hread]
    exact fails_at_rename hopened owned

private theorem takenBack_inodes (F : Fs) : (takenBack S id F m).1.inodes = F.inodes := by
  have hbest : ∀ G : Fs, (bestEffort G (S.unlink G (meta_path S id))).inodes = G.inodes := by
    intro G
    unfold bestEffort
    split
    · rename_i hunlink
      obtain ⟨name, -, hname⟩ := withName_ok.mp hunlink
      rw [(Disk.unlink_ok hname).2, Disk.inodes_remove]
    · rfl
  rw [takenBack]
  split
  · rename_i G hrename
    rw [hbest]
    obtain ⟨name, -, hname⟩ := withName_ok.mp hrename
    obtain ⟨target, -, hmoved⟩ := withName_ok.mp hname
    obtain ⟨i, -, -, ⟨-, rfl⟩ | ⟨-, rfl⟩⟩ := Disk.rename_ok hmoved
    · rfl
    · rfl
  · rfl

/-- Where a beginning of the sidecar does harm, an attempt shows it. -/
private theorem harmless_of_retry {G : Fs} {r : Reply}
    (hretry : ∀ F', Attempts S id F F' → Comes S F' id G r) : Harmless S F id := by
  intro qfd mfd hopened n m' hread
  have hsame : ∀ owned : Bool, restored S id
      (if owned then F.modify qfd (reset m') else F.modify qfd (Inode.chmod m'.original_mode))
      (Restore.start S id) = restored S id F (Restore.start S id) := by
    intro owned
    obtain ⟨os, hfails⟩ := attempt_fails hopened hread owned
    rw [comes_iff.mp (hretry _ (.again (.none F) hfails)), comes_iff.mp (hretry F (.none F))]
  have hreset := hsame true
  have hchmod := hsame false
  rw [if_pos rfl] at hreset
  rw [if_neg Bool.false_ne_true] at hchmod
  have hopenedR : Opened S (F.modify qfd (reset m')) id qfd mfd ∧
      ((F.modify qfd (reset m')).inodes mfd).data = (F.inodes mfd).data :=
    opened_modify hopened (by rw [isReg_reset]; exact hopened.reg) rfl
  have hopenedC : Opened S (F.modify qfd (Inode.chmod m'.original_mode)) id qfd mfd ∧
      ((F.modify qfd (Inode.chmod m'.original_mode)).inodes mfd).data = (F.inodes mfd).data :=
    opened_modify hopened (by rw [Inode.isReg_chmod]; exact hopened.reg) rfl
  refine ⟨fun m hm => ?_, fun hm => ?_⟩
  · have hmR : Passes S (F.modify qfd (reset m')) mfd m := by
      obtain ⟨hwhole, e, hlstat⟩ := hm
      refine ⟨?_, e, hlstat⟩
      rw [hopenedR.2]
      exact hwhole
    rw [restored_passes hopened hm, restored_passes hopenedR.1 hmR] at hreset
    have hinodes := congrArg (fun x => x.1.inodes qfd) hreset
    simp only [takenBack_inodes, Disk.inodes_modify_self] at hinodes
    exact reset_reset.mp hinodes
  · have hstays : ∀ f : Inode → Inode, (Opened S (F.modify qfd f) id qfd mfd ∧
        ((F.modify qfd f).inodes mfd).data = (F.inodes mfd).data) →
        restored S id (F.modify qfd f) (Restore.start S id) =
          restored S id F (Restore.start S id) → f (F.inodes qfd) = F.inodes qfd := by
      intro f hf heq
      have hmf : ∀ m, ¬ Passes S (F.modify qfd f) mfd m := by
        rintro m ⟨hwhole, e, hlstat⟩
        rw [hf.2] at hwhole
        exact hm m ⟨hwhole, e, hlstat⟩
      have hfiles := congrArg Prod.fst heq
      rw [restored_stays hf.1 hmf, restored_stays hopened hm] at hfiles
      have hinode := congrArg (fun F : Fs => F.inodes qfd) hfiles
      simpa only [Disk.inodes_modify_self] using hinode
    have hmode := hstays _ hopenedC hchmod
    have howner := hstays _ hopenedR hreset
    rw [reset, hmode] at howner
    exact ⟨hmode, howner⟩

end Harming

section Main

variable {S} {F G : Fs} {id : Bytes}

/-- How far a DELETE is, as long as it may still fail. -/
def Deleting (F G : Fs) : Delete → Prop
  | .unlinkMeta | .done .ok => True
  | _ => G = F

private theorem deleting_start : Deleting F F (Delete.start S id) := by
  unfold Delete.start
  split
  · exact rfl
  split
  · exact rfl
  · exact rfl

private theorem deleting_step (o : Outcome) {p : Delete} (h : Deleting F G p) :
    Deleting F (p.step S o G id).1 (p.step S o G id).2 := by
  cases p with
  | unlinkDest =>
    rw [Delete.step]
    split
    · trivial
    · trivial
    · exact h
  | unlinkMeta => trivial
  | done r => exact h

theorem delete_fails {os : List Outcome} {msg : Bytes} (h : Deletes S F id os G (.err msg)) :
    G = F := by
  obtain ⟨y, hend, hy⟩ := finish_invariant (Deleting F) (fun o G x _ hx => deleting_step o hx)
    deleting_start h
  cases y <;> cases hend
  exact hy

/-- An entry of mode 0 with its sidecar, and another file at the original path. -/
def occupied : Fs where
  names n :=
    if n = (1, entryName (lit "a")) then some 0
    else if n = (1, metaName (lit "a")) then some 1
    else if n = (2, lit "a") then some 2
    else none
  inodes i :=
    ⟨0, S_IFREG, Owner.root, Owner.root, if i = 1 then lit "ORIGINAL_PATH=/t/a\n" else []⟩
  links _ := 1
  next := 3
  names_lt := by
    intro n i h
    split at h
    · obtain rfl := Option.some.inj h
      exact Nat.zero_lt_succ 2
    split at h
    · obtain rfl := Option.some.inj h
      exact Nat.lt_of_sub_eq_succ rfl
    split at h
    · obtain rfl := Option.some.inj h
      exact Nat.lt_succ_self 2
    · cases h

private theorem opened_occupied : Opened twoDirs occupied (lit "a") 0 1 where
  start := by decide
  sidecar := by decide
  entry := by decide
  reg := by decide

end Main

end KernelAv.Daemon.RestoreRetry
