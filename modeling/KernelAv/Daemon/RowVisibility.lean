/- digest: Who gets to see which rows, over one response and over two states of the daemon. -/

import KernelAv.Daemon.QuarantineListing
import KernelAv.Daemon.VerdictHistory

set_option autoImplicit false
set_option relaxedAutoImplicit false

namespace KernelAv.Daemon.RowVisibility

open KernelAv.Lib.CText
open KernelAv.Lib.Lines (nl)
open KernelAv.Daemon.Connection
open KernelAv.Daemon.Sidecar
open KernelAv.Daemon.VerdictHistory
open KernelAv.Daemon.QuarantineListing

section Owners

/-- The known owner of a record's file; -1 stands for a failed `fstat`. -/
def recordOwner (r : verdict_record) : Option UInt32 :=
  if r.uid = 0xFFFFFFFF then none else some r.uid

/-- The known owner of an entry's file, according to its sidecar. -/
def entryOwner (dir : Directory) (name : Bytes) : Option UInt32 :=
  (entryMeta dir name).bind fun m =>
    if m.original_uid = 0xFFFFFFFF then none else some m.original_uid

/-- The peer's credentials were obtained, and it is root or the known owner. -/
def MaySee (cred owner : Option UInt32) : Prop :=
  ∃ u, cred = some u ∧ (u = 0 ∨ owner = some u)

variable {cred : Option UInt32}

private theorem maySee_root (h : cred = some 0) (owner : Option UInt32) : MaySee cred owner :=
  ⟨0, h, .inl rfl⟩

private theorem owner_of_eq {u v : UInt32} (hu : u ≠ 0xFFFFFFFF) (h : v = u) :
    (if v = 0xFFFFFFFF then none else some v) = some u := by
  subst h
  exact if_neg hu

private theorem maySee_record {u : UInt32} {r : verdict_record} (hcred : cred = some u)
    (hu : u ≠ 0xFFFFFFFF)
    (h : verdict_visible_to r (credUid cred) (credRoot cred) = true) :
    MaySee cred (recordOwner r) := by
  subst hcred
  simp only [verdict_visible_to, credRoot, credUid, Option.getD_some, Option.some.injEq,
    Bool.or_eq_true, decide_eq_true_eq, beq_iff_eq] at h
  rcases h with rfl | h
  · exact maySee_root rfl _
  · exact ⟨u, rfl, .inr (owner_of_eq hu h)⟩

private theorem maySee_entry {u : UInt32} {dir : Directory} {name : Bytes}
    (hcred : cred = some u) (hu : u ≠ 0xFFFFFFFF)
    (h : entryVisible dir (credUid cred) (credRoot cred) name = true) :
    MaySee cred (entryOwner dir name) := by
  subst hcred
  simp only [entryVisible, credRoot, credUid, Option.getD_some, Option.some.injEq,
    Bool.or_eq_true, decide_eq_true_eq, Option.any_eq_true, beq_iff_eq] at h
  rcases h with rfl | ⟨m, hm, h⟩
  · exact maySee_root rfl _
  · refine ⟨u, rfl, .inr ?_⟩
    rw [entryOwner, hm]
    exact owner_of_eq hu h

/-- Without credentials nothing may be seen, nor by a peer that goes by the uid of nobody. -/
private theorem not_maySee {r : verdict_record} (h : cred = none ∨ cred = some 0xFFFFFFFF) :
    ¬ MaySee cred (recordOwner r) := by
  rintro ⟨u, hu, hsee⟩
  rcases h with rfl | rfl
  · cases hu
  · obtain rfl := Option.some.inj hu
    rcases hsee with h0 | howner
    · revert h0
      decide
    · rw [recordOwner] at howner
      split at howner
      · cases howner
      · rename_i hne
        exact hne (Option.some.inj howner)

end Owners

section Property

/-- What the ring holds, newest first. -/
def ringRows (h : History) : List verdict_record := (List.range h.count).map h.newest

/-- The rows of the history that belong to a user. -/
def ownRecords (u : UInt32) (h : History) : List verdict_record :=
  (ringRows h).filter fun r => r.uid = u

/-- The entries of the quarantine that belong to a user, with their sidecars. -/
def ownEntries (u : UInt32) (dir : Directory) : List (Bytes × Option QuarantineMeta) :=
  (dir.namelist.filter fun name => (entryMeta dir name).any fun m => m.original_uid = u).map
    fun name => (name, entryMeta dir name)

/-- Both responses are made of rows that the peer may see and nothing else, and for a peer that is
not root they depend on nothing but its own rows. -/
structure Confined (cred : Option UInt32) (alloc : Bool) : Prop where
  verdicts : ∀ (h : History) (n : Nat) (c : Conn), ∃ rs : List verdict_record,
    (∀ r ∈ rs, MaySee cred (recordOwner r)) ∧
      (cmd_verdicts_recent alloc h n (credUid cred) (credRoot cred) c = sendRecords rs c ∨
        cmd_verdicts_recent alloc h n (credUid cred) (credRoot cred) c =
          send_err c (lit "out of memory"))
  entries : ∀ (dir : Directory) (scandir_ok : Bool) (c : Conn), ∃ names : List Bytes,
    (∀ name ∈ names, MaySee cred (entryOwner dir name)) ∧
      (cmd_quarantine_list ⟨scandir_ok, alloc⟩ dir (credUid cred) (credRoot cred) c =
          sendEntries dir names c ∨
        ∃ msg ∈ [lit "could not read quarantine directory", lit "out of memory"],
          cmd_quarantine_list ⟨scandir_ok, alloc⟩ dir (credUid cred) (credRoot cred) c =
            send_err c msg)
  own_records : ∀ u, cred = some u → u ≠ 0 → ∀ (h h' : History) (n : Nat) (c : Conn),
    ownRecords u h = ownRecords u h' →
      cmd_verdicts_recent alloc h n (credUid cred) (credRoot cred) c =
        cmd_verdicts_recent alloc h' n (credUid cred) (credRoot cred) c
  own_entries : ∀ u, cred = some u → u ≠ 0 →
    ∀ (dir dir' : Directory) (scandir_ok : Bool) (c : Conn),
      ownEntries u dir = ownEntries u dir' →
        cmd_quarantine_list ⟨scandir_ok, alloc⟩ dir (credUid cred) (credRoot cred) c =
          cmd_quarantine_list ⟨scandir_ok, alloc⟩ dir' (credUid cred) (credRoot cred) c

end Property

section Responses

variable {cred : Option UInt32} {alloc : Bool} {n : Nat} {c : Conn} {h : History}
  {dir : Directory} {scandir_ok : Bool}

private theorem length_ringRows (h : History) :
    (ringRows h).length ≤ AVD_VERDICT_HISTORY_MAX := by
  rw [ringRows, List.length_map, List.length_range]
  exact h.count_le

/-- The command sends the visible rows of the ring, or an error. -/
private theorem recent_shown (peer_uid : UInt32) (is_root : Bool) :
    cmd_verdicts_recent alloc h n peer_uid is_root c =
      if h.count ≠ 0 ∧ alloc = false then send_err c (lit "out of memory")
      else sendRecords (((ringRows h).filter fun r =>
        verdict_visible_to r peer_uid is_root).take n) c := by
  rw [cmd_verdicts_recent, snapshot]
  split
  · rfl
  · exact sendVerdicts_some (length_ringRows h) c

private theorem list_entries (peer_uid : UInt32) (is_root : Bool) :
    cmd_quarantine_list ⟨scandir_ok, alloc⟩ dir peer_uid is_root c =
      if scandir_ok = false then send_err c (lit "could not read quarantine directory")
      else if dir.namelist ≠ [] ∧ alloc = false then send_err c (lit "out of memory")
      else sendEntries dir (shown dir peer_uid is_root) c := by
  cases scandir_ok with
  | false => rfl
  | true =>
    rw [if_neg (by decide)]
    split
    · rename_i hfull
      rw [cmd_quarantine_list, if_neg (by simp), if_pos hfull]
    · rename_i hroom
      refine list_shown rfl ?_ c
      by_cases hempty : dir.namelist = []
      · exact .inl hempty
      · cases alloc with
        | true => exact .inr rfl
        | false => exact absurd ⟨hempty, rfl⟩ hroom

private theorem verdicts_of_visible
    (hsee : ∀ r, h.count = 0 ∨ alloc = true →
      verdict_visible_to r (credUid cred) (credRoot cred) = true → r ∈ ringRows h →
        MaySee cred (recordOwner r)) :
    ∃ rs : List verdict_record, (∀ r ∈ rs, MaySee cred (recordOwner r)) ∧
      (cmd_verdicts_recent alloc h n (credUid cred) (credRoot cred) c = sendRecords rs c ∨
        cmd_verdicts_recent alloc h n (credUid cred) (credRoot cred) c =
          send_err c (lit "out of memory")) := by
  rw [recent_shown]
  split
  · exact ⟨[], nofun, .inr rfl⟩
  · rename_i hroom
    refine ⟨_, fun r hr => ?_, .inl rfl⟩
    obtain ⟨hring, hvis⟩ := List.mem_filter.mp (List.mem_of_mem_take hr)
    refine hsee r ?_ hvis hring
    by_cases hzero : h.count = 0
    · exact .inl hzero
    · cases alloc with
      | true => exact .inr rfl
      | false => exact absurd ⟨hzero, rfl⟩ hroom

private theorem entries_of_visible
    (hsee : ∀ name, alloc = true ∨ dir.namelist = [] →
      entryVisible dir (credUid cred) (credRoot cred) name = true → name ∈ dir.namelist →
        MaySee cred (entryOwner dir name)) :
    ∃ names : List Bytes, (∀ name ∈ names, MaySee cred (entryOwner dir name)) ∧
      (cmd_quarantine_list ⟨scandir_ok, alloc⟩ dir (credUid cred) (credRoot cred) c =
          sendEntries dir names c ∨
        ∃ msg ∈ [lit "could not read quarantine directory", lit "out of memory"],
          cmd_quarantine_list ⟨scandir_ok, alloc⟩ dir (credUid cred) (credRoot cred) c =
            send_err c msg) := by
  rw [list_entries]
  split
  · exact ⟨[], nofun, .inr ⟨_, List.mem_cons_self, rfl⟩⟩
  split
  · exact ⟨[], nofun, .inr ⟨_, List.mem_cons_of_mem _ List.mem_cons_self, rfl⟩⟩
  rename_i hroom
  refine ⟨_, fun name hname => ?_, .inl rfl⟩
  obtain ⟨hlist, hvis⟩ := List.mem_filter.mp hname
  refine hsee name ?_ hvis hlist
  cases alloc with
  | true => exact .inl rfl
  | false => exact .inr (by simpa using hroom)

/-- A user that is not root sees its own rows. -/
private theorem visible_own {u : UInt32} (hu : u ≠ 0) (h : History) :
    ((ringRows h).filter fun r => verdict_visible_to r (credUid (some u)) (credRoot (some u))) =
      ownRecords u h := by
  simp [ownRecords, verdict_visible_to, credUid, credRoot, hu, beq_eq_decide]

private theorem shown_own {u : UInt32} (hu : u ≠ 0) (dir : Directory) :
    ((shown dir (credUid (some u)) (credRoot (some u))).map fun name =>
      (name, entryMeta dir name)) = ownEntries u dir := by
  have hvis : entryVisible dir (credUid (some u)) (credRoot (some u)) =
      fun name => (entryMeta dir name).any fun m => decide (m.original_uid = u) := by
    funext name
    simp [entryVisible, credUid, credRoot, hu, beq_eq_decide]
  rw [shown, hvis, ownEntries]

/-- The rows of a response depend on the entries and their sidecars only. -/
private theorem sendEntries_congr {dir dir' : Directory} {names names' : List Bytes}
    (h : names.map (fun name => (name, entryMeta dir name)) =
      names'.map fun name => (name, entryMeta dir' name)) :
    sendEntries dir names c = sendEntries dir' names' c := by
  have hlen : names.length = names'.length := by
    simpa using congrArg List.length h
  have hrows : names.map (entryRow dir) = names'.map (entryRow dir') := by
    have hmap := congrArg (List.map fun x : Bytes × Option QuarantineMeta =>
      snprintf_s AVD_ROW_MAX (Lib.Lines.tabbed (entryFields x.1 x.2) ++ [nl])) h
    rw [List.map_map, List.map_map] at hmap
    exact hmap
  rw [sendEntries, sendEntries, hlen, hrows]

end Responses

section Main

/-- Root's credentials; those of a user, while memory lasts; or neither credentials nor memory. -/
def Discerned (cred : Option UInt32) (alloc : Bool) : Prop :=
  cred = some 0 ∨ (∃ u, cred = some u ∧ u ≠ 0xFFFFFFFF ∧ alloc = true) ∨
    (cred = none ∧ alloc = false)

private theorem own_records_of_discerned {u : UInt32} (hu : u ≠ 0) (h h' : History) (n : Nat)
    (c : Conn) (hown : ownRecords u h = ownRecords u h') :
    cmd_verdicts_recent true h n (credUid (some u)) (credRoot (some u)) c =
      cmd_verdicts_recent true h' n (credUid (some u)) (credRoot (some u)) c := by
  rw [recent_shown, recent_shown, if_neg (by simp), if_neg (by simp), visible_own hu,
    visible_own hu, hown]

private theorem own_entries_of_discerned {u : UInt32} (hu : u ≠ 0) (dir dir' : Directory)
    (scandir_ok : Bool) (c : Conn) (hown : ownEntries u dir = ownEntries u dir') :
    cmd_quarantine_list ⟨scandir_ok, true⟩ dir (credUid (some u)) (credRoot (some u)) c =
      cmd_quarantine_list ⟨scandir_ok, true⟩ dir' (credUid (some u)) (credRoot (some u)) c := by
  rw [list_entries, list_entries]
  split
  · rfl
  rw [if_neg (by simp), if_neg (by simp)]
  exact sendEntries_congr (by rw [shown_own hu, shown_own hu, hown])

private theorem confined_of_discerned {cred : Option UInt32} {alloc : Bool}
    (h : Discerned cred alloc) : Confined cred alloc := by
  rcases h with hroot | ⟨u, hcred, hu, rfl⟩ | ⟨rfl, rfl⟩
  · refine ⟨fun h n c => verdicts_of_visible fun r _ _ _ => maySee_root hroot _,
      fun dir ok c => entries_of_visible fun name _ _ _ => maySee_root hroot _, ?_, ?_⟩
    · intro u hu hne
      exact absurd (Option.some.inj (hu.symm.trans hroot)) hne
    · intro u hu hne
      exact absurd (Option.some.inj (hu.symm.trans hroot)) hne
  · refine ⟨fun h n c => verdicts_of_visible fun r _ hvis _ => maySee_record hcred hu hvis,
      fun dir ok c => entries_of_visible fun name _ hvis _ => maySee_entry hcred hu hvis, ?_, ?_⟩
    · rintro v rfl hne
      exact own_records_of_discerned hne
    · rintro v rfl hne
      exact own_entries_of_discerned hne
  · refine ⟨fun h n c => verdicts_of_visible fun r hroom _ hring => ?_,
      fun dir ok c => entries_of_visible fun name hroom _ hlist => ?_, nofun, nofun⟩
    · have hzero : h.count = 0 := by simpa using hroom
      rw [ringRows, hzero] at hring
      cases hring
    · have hempty : dir.namelist = [] := by simpa using hroom
      rw [hempty] at hlist
      cases hlist

/-- The scan of a file whose owner `fstat` gave, or -1. -/
def scanOf (uid : UInt32) : History :=
  record_verdict_history ⟨42, uid, some (lit "/a"), some [], 0, some [], 0, true, 9⟩ History.boot

private def open_conn : Conn := Conn.accept fun _ => none

/-- A peer that goes by the uid -1 gets the record of a file without a known owner. -/
private theorem stray_shown {cred : Option UInt32} (h : cred = none ∨ cred = some 0xFFFFFFFF) :
    (cmd_verdicts_recent true (scanOf 0xFFFFFFFF) 1 (credUid cred) (credRoot cred)
      open_conn).sent = lit "OK\nCOUNT 1\n1\t9\t42\t/a\t\tCLEAN\t\t0\t1\nEND\n" := by
  rcases h with rfl | rfl
  · decide
  · decide

private theorem not_confined_of_stray {cred : Option UInt32}
    (h : cred = none ∨ cred = some 0xFFFFFFFF) : ¬ Confined cred true := by
  intro hconf
  obtain ⟨rs, hsee, hsent⟩ := hconf.verdicts (scanOf 0xFFFFFFFF) 1 open_conn
  have hnone : rs = [] := List.eq_nil_iff_forall_not_mem.mpr fun r hr =>
    not_maySee h (hsee r hr)
  subst hnone
  have hshown := stray_shown h
  rcases hsent with hsent | hsent
  · rw [hsent] at hshown
    revert hshown
    decide
  · rw [hsent] at hshown
    revert hshown
    decide

/-- Without memory a user can tell an empty history from one with another user's record. -/
private theorem not_confined_of_refusal {u : UInt32} (hu : u ≠ 0) :
    ¬ Confined (some u) false := by
  intro hconf
  have hown : ownRecords u History.boot = ownRecords u (scanOf 0) := by
    have hother : ownRecords u (scanOf 0) = [] :=
      List.filter_eq_nil_iff.mpr fun r hr => by
        have huid : r.uid = 0 := by
          obtain rfl := List.mem_singleton.mp hr
          rfl
        simpa [huid] using Ne.symm hu
    rw [hother]
    rfl
  have hsame := hconf.own_records u rfl hu _ _ 1 open_conn hown
  rw [recent_shown, recent_shown, if_neg (by decide), if_pos (by decide)] at hsame
  have hsent := congrArg Conn.sent hsame
  have hempty : sendRecords (((ringRows History.boot).filter fun r =>
      verdict_visible_to r (credUid (some u)) (credRoot (some u))).take 1) open_conn =
        sendRecords [] open_conn := rfl
  rw [hempty] at hsent
  revert hsent
  decide

/-- The listings are confined exactly for a peer with credentials, while memory lasts. -/
theorem rows_confined_iff (cred : Option UInt32) (alloc : Bool) :
    Confined cred alloc ↔ Discerned cred alloc := by
  refine ⟨fun h => ?_, confined_of_discerned⟩
  cases cred with
  | none =>
    cases alloc with
    | true => exact absurd h (not_confined_of_stray (.inl rfl))
    | false => exact .inr (.inr ⟨rfl, rfl⟩)
  | some u =>
    by_cases hu : u = 0
    · exact .inl (by rw [hu])
    cases alloc with
    | false => exact absurd h (not_confined_of_refusal hu)
    | true =>
      refine .inr (.inl ⟨u, rfl, ?_, rfl⟩)
      rintro rfl
      exact not_confined_of_stray (.inr rfl) h

/-- A peer whose lookup of SO_PEERCRED has failed gets a row whose owner nobody knows. -/
theorem unknown_peer_sees_unknown_owner :
    (cmd_verdicts_recent true (scanOf 0xFFFFFFFF) 1 (credUid none) (credRoot none)
      (Conn.accept fun _ => none)).sent =
        lit "OK\nCOUNT 1\n1\t9\t42\t/a\t\tCLEAN\t\t0\t1\nEND\n" ∧
    (∀ r ∈ ringRows (scanOf 0xFFFFFFFF),
      recordOwner r = none ∧ ¬ MaySee none (recordOwner r)) ∧ ¬ Confined none true := by
  refine ⟨by decide, fun r hr => ?_, not_confined_of_stray (.inl rfl)⟩
  obtain rfl := List.mem_singleton.mp hr
  exact ⟨rfl, not_maySee (.inl rfl)⟩

end Main

end KernelAv.Daemon.RowVisibility
