/- digest: When the checks judge a process on its own items, whoever had its pid before. -/

import KernelAv.Kernel.BehaviorChecks
import KernelAv.Lib.Run

set_option autoImplicit false
set_option relaxedAutoImplicit false

namespace KernelAv.Kernel.PidReuse

open KernelAv.Lib.CText
open KernelAv.Lib.Chains
open KernelAv.Lib.Ring
open KernelAv.Lib.Run
open KernelAv.Kernel.Paths
open KernelAv.Kernel.Kill (Detection)
open KernelAv.Kernel.SlidingWindow
open KernelAv.Kernel.BehaviorTable
open KernelAv.Kernel.BehaviorChecks

/-- What a work item asks of the table, with its paths resolved. -/
inductive Job where
  | exec (path : Bytes) (trusted : Bool) (start_time : UInt64)
  | openat (path : Bytes) (flags : UInt32)
  | unlink (path : Bytes)
  | rename (oldpath newpath : Bytes)

structure Work where
  job : Job
  jiffies : UInt64
  kzalloc_ok : Bool

variable {H : KernelHash}

/-- The table afterwards, and the kill that was decided on. -/
def Work.apply (r : TickRate) (t : Table H) (pid : Nat) (w : Work) : Table H × Option Detection :=
  match w.job with
  | .exec path trusted start_time =>
      (av_behavior_record_exec t w.jiffies w.kzalloc_ok pid path trusted start_time, none)
  | .openat path flags =>
      let res := av_behavior_check_openat r t w.jiffies w.kzalloc_ok pid path flags
      (res.table, res.detection)
  | .unlink path =>
      let res := av_behavior_check_unlink t w.jiffies w.kzalloc_ok pid path
      (res.table, res.detection)
  | .rename oldpath newpath =>
      let res := av_behavior_check_rename r t w.jiffies w.kzalloc_ok pid oldpath newpath
      (res.table, res.detection)

/-- What happens around one process: its own items, items of other processes and of earlier
holders of its pid, and sweeps. -/
inductive Event where
  | own (w : Work)
  | other (pid : Nat) (w : Work)
  | sweep (cur_start : Nat → Option UInt64)

def Event.apply (r : TickRate) (pid : Nat) (t : Table H) : Event → Table H
  | .own w => (w.apply r t pid).1
  | .other p w => (w.apply r t p).1
  | .sweep cur_start => behavior_gc_fn t cur_start

/-- The kills that were decided on for the items of the process, in order. -/
def decisions (r : TickRate) (pid : Nat) : Table H → List Event → List (Option Detection)
  | _, [] => []
  | t, .own w :: es => (w.apply r t pid).2 :: decisions r pid (w.apply r t pid).1 es
  | t, .other p w :: es => decisions r pid (w.apply r t p).1 es
  | t, .sweep cur_start :: es => decisions r pid (behavior_gc_fn t cur_start) es

def ownWorks : List Event → List Work
  | [] => []
  | .own w :: es => w :: ownWorks es
  | .other _ _ :: es => ownWorks es
  | .sweep _ :: es => ownWorks es

/-- The item does not end before its lookup. -/
def looksUp : Job → Bool
  | .exec _ _ _ => true
  | .openat path flags =>
      flags &&& (O_WRONLY ||| O_RDWR ||| O_CREAT ||| O_TRUNC) ≠ 0 && !path_is_pseudo_fs path
  | .unlink path => !path_is_pseudo_fs path
  | .rename oldpath newpath => is_extension_append_rename oldpath newpath

/-- The table, and whether an item of the process has looked its entry up. -/
structure Watch (H : KernelHash) where
  table : Table H
  begun : Bool

def Watch.boot (H : KernelHash) : Watch H := ⟨Table.empty, false⟩

def watch (r : TickRate) (pid : Nat) (s : Watch H) (x : Event) : Option (Watch H) :=
  some ⟨x.apply r pid s.table, s.begun ||
    match x with
    | .own w => looksUp w.job
    | _ => false⟩

/-- The entry that a lookup finds or makes. -/
def viewOf (t : Table H) (pid : Nat) : Entry :=
  (t.behavior_table.find? pid).getD (Entry.fresh pid 0)

def blankRing {cap : Nat} (w : PathRing cap) : Bool := w.next = 0 && w.filled = 0

def blankRings (e : Entry) : Bool := blankRing e.recent_path && blankRing e.recent_rename

/-- What the first lookup finds does not tell of an earlier holder: there is nothing in the entry,
or the item is an exec that overwrites it. -/
def cleanFor (e : Entry) : Job → Bool
  | .exec _ _ start_time => e.start_time ≠ start_time || blankRings e
  | _ => e.record = ExecRecord.blank && blankRings e

/-- The table stays below its capacity. The first lookup for the process gets its entry, and finds
it clean; from then on no item of an earlier holder comes, and a sweep sees the process run and
does not take its entry for that of another one. -/
def Apart (pid : Nat) (start_time : UInt64) (s : Watch H) (x : Event) : Prop :=
  s.table.behavior_table_count.toNat < MAX_BEHAVIOR_ENTRIES ∧
  match x with
  | .own w => s.begun = false → looksUp w.job = true →
      w.kzalloc_ok = true ∧ cleanFor (viewOf s.table pid) w.job = true
  | .other p _ => s.begun = true → p ≠ pid
  | .sweep cur_start => s.begun = true → cur_start pid = some start_time ∧
      ∀ e ∈ s.table.behavior_table.find? pid, e.start_time = 0 ∨ e.start_time = start_time

instance (pid : Nat) (start_time : UInt64) (s : Watch H) (x : Event) :
    Decidable (Apart pid start_time s x) := by
  unfold Apart
  cases x <;> infer_instance

section Specification

/-- A recorded exec, on the entry of its process. -/
def recorded (e : Entry) (path : Bytes) (trusted : Bool) (start_time : UInt64) : Entry :=
  if e.start_time ≠ start_time then
    { e with exec_path := strscpy PATH_MAX path, trusted := trusted, start_time := start_time
      }.resetWindows
  else { e with exec_path := strscpy PATH_MAX path, trusted := trusted }

/-- What an item does to the entry of its process, and what it decides, in terms of this entry
alone. -/
def judge (H : KernelHash) (r : TickRate) (e : Entry) (jiffies : UInt64) :
    Job → Entry × Option Detection
  | .exec path trusted start_time => (recorded e path trusted start_time, none)
  | .openat path flags =>
      if !looksUp (.openat path flags) then (e, none)
      else if e.trusted || path_is_rapid_write_noise path then
        (e, convict path (path_is_sensitive path) sensitiveOpen false rapidWrite)
      else
        let (in_window, ring) := sliding_window_note r (H.full_name_hash path) jiffies
          WRITE_OPEN_WINDOW_MS e.recent_path
        ({ e with recent_path := ring }, convict path (path_is_sensitive path) sensitiveOpen
          (WRITE_OPEN_THRESHOLD < in_window) rapidWrite)
  | .unlink path =>
      if !looksUp (.unlink path) then (e, none)
      else
        (e, convict path
          (e.exec_path.head? = some slash && path.head? = some slash && e.exec_path == path)
          selfDelete (path_is_sensitive path) sensitiveUnlink)
  | .rename oldpath newpath =>
      let verdict (rapid : Bool) :=
        convict newpath (path_is_sensitive oldpath || path_is_sensitive newpath) sensitiveRename
          rapid rapidRename
      if !looksUp (.rename oldpath newpath) then (e, verdict false)
      else if e.trusted || path_is_pseudo_fs oldpath || path_is_pseudo_fs newpath ||
          path_is_rapid_write_noise oldpath || path_is_rapid_write_noise newpath then
        (e, verdict false)
      else
        let (in_window, ring) := sliding_window_note r (H.full_name_hash oldpath) jiffies
          RENAME_WINDOW_MS e.recent_rename
        ({ e with recent_rename := ring }, verdict (RENAME_THRESHOLD < in_window))

/-- The process alone, on one entry. -/
def alone (H : KernelHash) (r : TickRate) : Entry → List Work → List (Option Detection)
  | _, [] => []
  | e, w :: ws =>
      let (e, detection) := judge H r { e with last_touched := w.jiffies } w.jiffies w.job
      detection :: alone H r e ws

variable {r : TickRate} {t : Table H} {pid : Nat} {w : Work}

theorem lookup_view (jiffies : UInt64) {ok : Bool}
    (hcount : t.behavior_table_count.toNat < MAX_BEHAVIOR_ENTRIES)
    (h : (t.behavior_table.find? pid).isSome = true ∨ ok = true) :
    ∃ u, get_or_create_entry t pid jiffies ok =
        (u, some { viewOf t pid with last_touched := jiffies }) ∧
      u.behavior_table.find? pid = some { viewOf t pid with last_touched := jiffies } ∧
      (viewOf t pid).pid = pid := by
  cases hfind : t.behavior_table.find? pid with
  | some e =>
    have hkey : e.pid = pid := HashTable.key_of_find? hfind
    have hview : viewOf t pid = e := by rw [viewOf, hfind, Option.getD_some]
    rw [hview]
    refine ⟨_, get_or_create_entry_found hfind, ?_, hkey⟩
    rw [find?_put_touched hfind]
  | none =>
    have hview : viewOf t pid = Entry.fresh pid 0 := by rw [viewOf, hfind, Option.getD_none]
    have hok : ok = true := by
      rcases h with hsome | hok
      · rw [hfind] at hsome
        cases hsome
      · exact hok
    rw [hview, hok]
    have hroom : makeRoom t = some t := if_neg (not_le.mpr hcount)
    rw [get_or_create_entry_new hfind hroom hfind, if_pos rfl]
    exact ⟨_, rfl, (HashTable.find?_add (k := pid) (e := Entry.fresh pid jiffies)
      (h := hfind)).trans (if_pos rfl), rfl⟩

private theorem find?_put_at {u : EntryTable H} {e x : Entry} (hx : x.pid = pid)
    (h : u.find? pid = some e) : (u.put x).find? pid = some x := by
  subst hx
  exact HashTable.find?_put_self h

private theorem recorded_pid (e : Entry) (path : Bytes) (trusted : Bool) (start_time : UInt64) :
    (recorded e path trusted start_time).pid = e.pid := by
  unfold recorded
  split <;> rfl

theorem judge_early {e : Entry} {jiffies : UInt64} {job : Job} (h : looksUp job = false) :
    (judge H r e jiffies job).1 = e ∧
      ∀ e', (judge H r e' jiffies job).2 = (judge H r e jiffies job).2 := by
  cases job with
  | exec path trusted start_time => cases h
  | openat path flags => simp only [judge, h, Bool.not_false, if_true, implies_true, and_self]
  | unlink path => simp only [judge, h, Bool.not_false, if_true, implies_true, and_self]
  | rename oldpath newpath =>
    simp only [judge, h, Bool.not_false, if_true, implies_true, and_self]

/-- An item that ends before its lookup leaves the table alone. -/
theorem apply_early (r : TickRate) (t : Table H) (pid : Nat) (h : looksUp w.job = false)
    (e : Entry) :
    (w.apply r t pid).1 = t ∧ (w.apply r t pid).2 = (judge H r e w.jiffies w.job).2 := by
  obtain ⟨job, jiffies, ok⟩ := w
  cases job with
  | exec path trusted start_time => cases h
  | openat path flags =>
    have hjudge : (judge H r e jiffies (.openat path flags)).2 = none := by
      simp only [judge, h, Bool.not_false, if_true]
    rw [hjudge]
    simp only [looksUp, ne_eq, Bool.and_eq_false_iff, decide_eq_false_iff_not, not_not,
      Bool.not_eq_false'] at h
    unfold Work.apply av_behavior_check_openat
    dsimp only
    split
    · exact ⟨rfl, rfl⟩
    · rename_i hflags
      rw [if_pos (h.resolve_left hflags)]
      exact ⟨rfl, rfl⟩
  | unlink path =>
    have hjudge : (judge H r e jiffies (.unlink path)).2 = none := by
      simp only [judge, h, Bool.not_false, if_true]
    rw [hjudge]
    simp only [looksUp, Bool.not_eq_false'] at h
    unfold Work.apply av_behavior_check_unlink
    dsimp only
    rw [if_pos h]
    exact ⟨rfl, rfl⟩
  | rename oldpath newpath =>
    have hext : is_extension_append_rename oldpath newpath = false := h
    unfold Work.apply av_behavior_check_rename
    simp only [judge, h, hext, Bool.not_false, if_true, Bool.false_eq_true, if_false]
    exact ⟨rfl, rfl⟩

/-- The table does with the entry what the specification says, and decides as it does. -/
theorem apply_spec (hcount : t.behavior_table_count.toNat < MAX_BEHAVIOR_ENTRIES)
    (h : (t.behavior_table.find? pid).isSome = true ∨ w.kzalloc_ok = true)
    (hlooks : looksUp w.job = true) :
    (w.apply r t pid).2 =
        (judge H r { viewOf t pid with last_touched := w.jiffies } w.jiffies w.job).2 ∧
      (w.apply r t pid).1.behavior_table.find? pid = some
        (judge H r { viewOf t pid with last_touched := w.jiffies } w.jiffies w.job).1 := by
  obtain ⟨u, hlookup, hfind, hkey⟩ := lookup_view w.jiffies hcount h
  generalize viewOf t pid = e at hlookup hfind hkey
  obtain ⟨job, jiffies, ok⟩ := w
  dsimp only at hlookup hfind
  cases job with
  | exec path trusted start_time =>
    unfold Work.apply av_behavior_record_exec
    dsimp only
    rw [hlookup]
    refine ⟨rfl, ?_⟩
    have hput := find?_put_at (x := recorded { e with last_touched := jiffies } path trusted
      start_time) ((recorded_pid _ _ _ _).trans hkey) hfind
    exact hput
  | openat path flags =>
    simp only [looksUp, ne_eq, Bool.and_eq_true, decide_eq_true_eq, Bool.not_eq_true'] at hlooks
    unfold Work.apply av_behavior_check_openat judge
    dsimp only
    rw [if_neg hlooks.1, hlooks.2, if_neg Bool.false_ne_true, hlookup]
    simp only [looksUp, ne_eq, hlooks, not_false_eq_true, decide_true, Bool.not_false,
      Bool.and_self, Bool.not_true, Bool.false_eq_true, if_false]
    split
    · exact ⟨rfl, hfind⟩
    · exact ⟨rfl, find?_put_at hkey hfind⟩
  | unlink path =>
    simp only [looksUp, Bool.not_eq_true'] at hlooks
    unfold Work.apply av_behavior_check_unlink judge
    dsimp only
    rw [hlooks, if_neg Bool.false_ne_true, hlookup]
    simp only [looksUp, hlooks, Bool.not_false, Bool.not_true, Bool.false_eq_true, if_false]
    exact ⟨rfl, hfind⟩
  | rename oldpath newpath =>
    have hext : is_extension_append_rename oldpath newpath = true := hlooks
    unfold Work.apply av_behavior_check_rename judge
    dsimp only
    rw [if_pos hext, hlookup]
    simp only [hlooks, Bool.not_true, Bool.false_eq_true, if_false]
    split
    · exact ⟨rfl, hfind⟩
    · exact ⟨rfl, find?_put_at hkey hfind⟩

end Specification

section Others

variable {r : TickRate} {t : Table H} {pid p : Nat} {w : Work} {e : Entry}

private theorem kept_put {u : EntryTable H} {x y : Entry} (hx : x.pid = p) (hne : p ≠ pid)
    (h : u.find? pid = some y) : (u.put x).find? pid = some y := by
  rw [HashTable.find?_put, if_neg (fun heq => hne (heq.trans hx).symm), h]

/-- Items of other processes leave the entry alone. -/
theorem apply_other (hcount : t.behavior_table_count.toNat < MAX_BEHAVIOR_ENTRIES) (hne : p ≠ pid)
    (h : t.behavior_table.find? pid = some e) :
    (w.apply r t p).1.behavior_table.find? pid = some e := by
  have hlook := find?_get_or_create p w.jiffies w.kzalloc_ok hcount h
  rw [if_neg hne.symm] at hlook
  obtain ⟨hfound, -, -⟩ := get_or_create_entry_spec t p w.jiffies w.kzalloc_ok
  obtain ⟨job, jiffies, ok⟩ := w
  dsimp only at hlook hfound
  cases job with
  | exec path trusted start_time =>
    unfold Work.apply av_behavior_record_exec
    dsimp only
    cases hr : get_or_create_entry t p jiffies ok with
    | mk u o =>
      rw [hr] at hlook hfound
      cases o with
      | none => exact hlook
      | some x =>
        obtain ⟨-, hkey, -⟩ := hfound x rfl
        exact kept_put (x := recorded x path trusted start_time)
          ((recorded_pid _ _ _ _).trans hkey) hne hlook
  | openat path flags =>
    unfold Work.apply av_behavior_check_openat
    dsimp only
    split
    · exact h
    split
    · exact h
    cases hr : get_or_create_entry t p jiffies ok with
    | mk u o =>
      rw [hr] at hlook hfound
      cases o with
      | none => exact hlook
      | some x =>
        obtain ⟨-, hkey, -⟩ := hfound x rfl
        dsimp only
        split
        · exact hlook
        · exact kept_put hkey hne hlook
  | unlink path =>
    unfold Work.apply av_behavior_check_unlink
    dsimp only
    split
    · exact h
    · exact hlook
  | rename oldpath newpath =>
    unfold Work.apply av_behavior_check_rename
    dsimp only
    split
    · cases hr : get_or_create_entry t p jiffies ok with
      | mk u o =>
        rw [hr] at hlook hfound
        cases o with
        | none => exact hlook
        | some x =>
          obtain ⟨-, hkey, -⟩ := hfound x rfl
          dsimp only
          split
          · exact hlook
          · exact kept_put hkey hne hlook
    · exact h

/-- A sweep that sees the process run and knows its start time leaves the entry alone. -/
theorem sweep_own {cur_start : Nat → Option UInt64} {start_time : UInt64}
    (hcur : cur_start pid = some start_time)
    (h : t.behavior_table.find? pid = some e)
    (hstart : e.start_time = 0 ∨ e.start_time = start_time) :
    (behavior_gc_fn t cur_start).behavior_table.find? pid = some e := by
  have hkey : e.pid = pid := HashTable.key_of_find? h
  unfold behavior_gc_fn
  rw [HashTable.find?_sweep, h, Option.bind_some, gcEntry, hkey, hcur]
  refine if_neg fun hreset => ?_
  rcases hstart with hzero | hsame
  · exact hreset.1 hzero
  · exact hreset.2 hsame

end Others

section Isolation

variable {r : TickRate} {pid : Nat} {start_time : UInt64} {e e' : Entry}

/-- Two entries that differ in slots which no longer count, at most. -/
structure Alike (e e' : Entry) : Prop where
  record : e.record = e'.record
  writes : ∃ log, Tracks e.recent_path log ∧ Tracks e'.recent_path log
  renames : ∃ log, Tracks e.recent_rename log ∧ Tracks e'.recent_rename log

/-- Nothing of a process has come into the entry. -/
structure Blank (e : Entry) : Prop where
  record : e.record = ExecRecord.blank
  writes : Tracks e.recent_path []
  renames : Tracks e.recent_rename []

private theorem tracks_nil {cap : Nat} {w : PathRing cap} (hnext : w.next = 0)
    (hfilled : w.filled = 0) : Tracks w [] := by
  unfold Tracks
  rw [hnext, hfilled]
  exact holds_nil (hnext ▸ w.next_lt) (by simp [PathRing.slots])

private theorem tracks_of_blank {cap : Nat} {w : PathRing cap} (h : blankRing w = true) :
    Tracks w [] := by
  simp only [blankRing, Bool.and_eq_true, decide_eq_true_eq] at h
  exact tracks_nil h.1 h.2

private theorem tracks_reset {cap : Nat} (w : PathRing cap) : Tracks (resetRing w) [] :=
  tracks_nil rfl rfl

private theorem Blank.touch (h : Blank e) (jiffies : UInt64) :
    Blank { e with last_touched := jiffies } := ⟨h.record, h.writes, h.renames⟩

private theorem Alike.touch (h : Alike e e') (jiffies : UInt64) :
    Alike { e with last_touched := jiffies } { e' with last_touched := jiffies } :=
  ⟨h.record, h.writes, h.renames⟩

private theorem blank_fresh (pid : Nat) (jiffies : UInt64) : Blank (Entry.fresh pid jiffies) :=
  ⟨rfl, tracks_zero, tracks_zero⟩

private theorem blank_alike (h : Blank e) (h' : Blank e') : Alike e e' :=
  ⟨h.record.trans h'.record.symm, ⟨[], h.writes, h'.writes⟩, ⟨[], h.renames, h'.renames⟩⟩

/-- The counter cannot tell two rings apart that hold the entries of one log. -/
private theorem note_alike {cap : Nat} (hash : UInt32) (jiffies : UInt64) (window_ms : Nat)
    {w w' : PathRing cap} {log : List Call} (h : Tracks w log) (h' : Tracks w' log) :
    (sliding_window_note r hash jiffies window_ms w).1 =
        (sliding_window_note r hash jiffies window_ms w').1 ∧
      ∃ log', Tracks (sliding_window_note r hash jiffies window_ms w).2 log' ∧
        Tracks (sliding_window_note r hash jiffies window_ms w').2 log' := by
  have htime : UInt64.ofNat jiffies.toNat = jiffies := UInt64.ofNat_toNat
  have hnote := note_tested r window_ms ⟨hash, jiffies.toNat⟩ h
  have hnote' := note_tested r window_ms ⟨hash, jiffies.toNat⟩ h'
  rw [note] at hnote hnote'
  dsimp only at hnote hnote'
  have hpush := tracks_record ⟨hash, jiffies.toNat⟩ h
  have hpush' := tracks_record ⟨hash, jiffies.toNat⟩ h'
  dsimp only at hpush hpush'
  rw [htime] at hnote hnote' hpush hpush'
  rw [hnote, hnote']
  split
  · exact ⟨rfl, log, h, h'⟩
  · exact ⟨rfl, _, hpush, hpush'⟩

private theorem recorded_alike (path : Bytes) (trusted : Bool) (start_time : UInt64)
    (h : Alike e e') :
    Alike (recorded e path trusted start_time) (recorded e' path trusted start_time) := by
  have hstart : e.start_time = e'.start_time := congrArg ExecRecord.start_time h.record
  unfold recorded
  rw [hstart]
  split
  · exact ⟨rfl, ⟨[], tracks_reset _, tracks_reset _⟩, ⟨[], tracks_reset _, tracks_reset _⟩⟩
  · exact ⟨rfl, h.writes, h.renames⟩

/-- What is decided, and what becomes of the entry, does not depend on slots that do not count. -/
theorem judge_alike (jiffies : UInt64) (job : Job) (h : Alike e e') :
    (judge H r e jiffies job).2 = (judge H r e' jiffies job).2 ∧
      Alike (judge H r e jiffies job).1 (judge H r e' jiffies job).1 := by
  have hpath : e.exec_path = e'.exec_path := congrArg ExecRecord.exec_path h.record
  have htrusted : e.trusted = e'.trusted := congrArg ExecRecord.trusted h.record
  have hstart : e.start_time = e'.start_time := congrArg ExecRecord.start_time h.record
  cases job with
  | exec path trusted start_time => exact ⟨rfl, recorded_alike path trusted start_time h⟩
  | openat path flags =>
    obtain ⟨log, hw, hw'⟩ := h.writes
    obtain ⟨hcount, hrings⟩ := note_alike (r := r) (H.full_name_hash path) jiffies
      WRITE_OPEN_WINDOW_MS hw hw'
    unfold judge
    dsimp only
    rw [htrusted]
    split
    · exact ⟨rfl, h⟩
    split
    · exact ⟨rfl, h⟩
    · rw [hcount]
      refine ⟨rfl, ?_, hrings, h.renames⟩
      show ExecRecord.mk e.exec_path e'.trusted e.start_time = _
      rw [hpath, hstart]
      rfl
  | unlink path =>
    unfold judge
    dsimp only
    rw [hpath]
    split
    · exact ⟨rfl, h⟩
    · exact ⟨rfl, h⟩
  | rename oldpath newpath =>
    obtain ⟨log, hw, hw'⟩ := h.renames
    obtain ⟨hcount, hrings⟩ := note_alike (r := r) (H.full_name_hash oldpath) jiffies
      RENAME_WINDOW_MS hw hw'
    unfold judge
    dsimp only
    rw [htrusted]
    split
    · exact ⟨rfl, h⟩
    split
    · exact ⟨rfl, h⟩
    · rw [hcount]
      refine ⟨rfl, ?_, h.writes, hrings⟩
      show ExecRecord.mk e.exec_path e'.trusted e.start_time = _
      rw [hpath, hstart]
      rfl

/-- On a clean entry the first item does what it does on a blank one. -/
theorem judge_clean (jiffies : UInt64) {job : Job} (h : cleanFor e job = true) (h' : Blank e') :
    (judge H r e jiffies job).2 = (judge H r e' jiffies job).2 ∧
      Alike (judge H r e jiffies job).1 (judge H r e' jiffies job).1 := by
  have hblank : ∀ job', cleanFor e job = (e.record = ExecRecord.blank && blankRings e) →
      (judge H r e jiffies job').2 = (judge H r e' jiffies job').2 ∧
        Alike (judge H r e jiffies job').1 (judge H r e' jiffies job').1 := by
    intro job' hclean
    rw [hclean] at h
    simp only [blankRings, Bool.and_eq_true, decide_eq_true_eq] at h
    obtain ⟨hrecord, hwrites, hrenames⟩ := h
    exact judge_alike jiffies job'
      (blank_alike ⟨hrecord, tracks_of_blank hwrites, tracks_of_blank hrenames⟩ h')
  cases job with
  | exec path trusted start_time =>
    refine ⟨rfl, ?_⟩
    simp only [cleanFor, blankRings, Bool.or_eq_true, Bool.and_eq_true, decide_eq_true_eq] at h
    have hempty : ∀ x : Entry, x.start_time ≠ start_time ∨
        (Tracks x.recent_path [] ∧ Tracks x.recent_rename []) →
        (recorded x path trusted start_time).record =
            ⟨strscpy PATH_MAX path, trusted, start_time⟩ ∧
          Tracks (recorded x path trusted start_time).recent_path [] ∧
          Tracks (recorded x path trusted start_time).recent_rename [] := by
      intro x hx
      unfold recorded
      split
      · exact ⟨rfl, tracks_reset _, tracks_reset _⟩
      · rename_i hsame
        refine ⟨?_, hx.resolve_left hsame⟩
        show ExecRecord.mk _ _ x.start_time = _
        rw [not_not.mp hsame]
    have he := hempty e (h.imp_right fun hr => ⟨tracks_of_blank hr.1, tracks_of_blank hr.2⟩)
    have he' := hempty e' (Or.inr ⟨h'.writes, h'.renames⟩)
    exact ⟨he.1.trans he'.1.symm, ⟨[], he.2.1, he'.2.1⟩, ⟨[], he.2.2, he'.2.2⟩⟩
  | openat path flags => exact hblank _ rfl
  | unlink path => exact hblank _ rfl
  | rename oldpath newpath => exact hblank _ rfl

/-- The entry of the process, once it was looked up, is that of the process alone; before, the
process alone has a blank one. -/
def Follows (pid : Nat) (s : Watch H) (e' : Entry) : Prop :=
  if s.begun = true then ∃ e, s.table.behavior_table.find? pid = some e ∧ Alike e e'
  else Blank e'

/-- An item of the process: it is judged alike, and the entries stay alike. -/
theorem own_follows {s : Watch H} {w : Work} (h : Follows pid s e')
    (hok : Apart pid start_time s (.own w)) :
    (w.apply r s.table pid).2 =
        (judge H r { e' with last_touched := w.jiffies } w.jiffies w.job).2 ∧
      Follows pid ⟨(w.apply r s.table pid).1, s.begun || looksUp w.job⟩
        (judge H r { e' with last_touched := w.jiffies } w.jiffies w.job).1 := by
  obtain ⟨hcount, hfirst⟩ := hok
  cases hlooks : looksUp w.job with
  | false =>
    obtain ⟨htable, hdecision⟩ := apply_early r s.table pid hlooks
      { e' with last_touched := w.jiffies }
    rw [htable, (judge_early hlooks).1, Bool.or_false]
    refine ⟨hdecision, ?_⟩
    unfold Follows at h ⊢
    split
    · rename_i hbegun
      rw [if_pos hbegun] at h
      obtain ⟨e, he, halike⟩ := h
      exact ⟨e, he, halike.record, halike.writes, halike.renames⟩
    · rename_i hbegun
      rw [if_neg hbegun] at h
      exact h.touch w.jiffies
  | true =>
    unfold Follows at h ⊢
    rw [Bool.or_true, if_pos rfl]
    cases hbegun : s.begun with
    | true =>
      rw [if_pos hbegun] at h
      obtain ⟨e, he, halike⟩ := h
      obtain ⟨hdecision, hentry⟩ := apply_spec (r := r) (w := w) hcount
        (Or.inl (by rw [he]; rfl)) hlooks
      have hview : viewOf s.table pid = e := by rw [viewOf, he, Option.getD_some]
      rw [hview] at hdecision hentry
      obtain ⟨hsame, hnext⟩ := judge_alike (H := H) (r := r) w.jiffies w.job
        (halike.touch w.jiffies)
      exact ⟨hdecision.trans hsame, _, hentry, hnext⟩
    | false =>
      rw [if_neg (by simp [hbegun])] at h
      obtain ⟨halloc, hclean⟩ := hfirst hbegun hlooks
      obtain ⟨hdecision, hentry⟩ := apply_spec (r := r) (w := w) hcount (Or.inr halloc) hlooks
      have hclean' :
          cleanFor { viewOf s.table pid with last_touched := w.jiffies } w.job = true := by
        cases hjob : w.job <;> (rw [hjob] at hclean; exact hclean)
      obtain ⟨hsame, hnext⟩ := judge_clean (H := H) (r := r) w.jiffies hclean' (h.touch w.jiffies)
      exact ⟨hdecision.trans hsame, _, hentry, hnext⟩

/-- An event that leaves the entry of a process that has begun leaves what it follows. -/
private theorem follows_kept {s : Watch H} {t : Table H} (h : Follows pid s e')
    (hkept : s.begun = true → ∀ e, s.table.behavior_table.find? pid = some e →
      t.behavior_table.find? pid = some e) : Follows pid ⟨t, s.begun || false⟩ e' := by
  unfold Follows at h ⊢
  rw [Bool.or_false]
  split
  · rename_i hbegun
    rw [if_pos hbegun] at h
    obtain ⟨e, he, halike⟩ := h
    exact ⟨e, hkept hbegun e he, halike⟩
  · rename_i hbegun
    rw [if_neg hbegun] at h
    exact h

/-- A run in which the process is kept apart decides for it what it would decide if the process
were alone. -/
theorem decisions_eq_alone {es : List Event} {s : Watch H} (h : Follows pid s e')
    (hg : Guarded (watch r pid) (Apart pid start_time) s es) :
    decisions r pid s.table es = alone H r e' (ownWorks es) := by
  induction es generalizing s e' with
  | nil => rfl
  | cons x es ih =>
    obtain ⟨hok, hrest⟩ := hg
    have hnext := hrest _ rfl
    cases x with
    | own w =>
      obtain ⟨hsame, hfollows⟩ := own_follows (r := r) h hok
      rw [decisions, ownWorks, alone]
      dsimp only
      rw [hsame, ih hfollows hnext]
    | other p w =>
      rw [decisions, ownWorks]
      refine ih (follows_kept h ?_) hnext
      intro hbegun e he
      exact apply_other hok.1 (hok.2 hbegun) he
    | sweep cur_start =>
      rw [decisions, ownWorks]
      refine ih (follows_kept h ?_) hnext
      intro hbegun e he
      obtain ⟨hcur, hstart⟩ := hok.2 hbegun
      exact sweep_own hcur he (hstart e he)

/-- Two runs that agree on the items of the process, and keep it apart from whoever had its pid
before, decide the same for it. -/
theorem same_decisions_of_apart {es es' : List Event} (hown : ownWorks es = ownWorks es')
    (hg : Guarded (watch r pid) (Apart pid start_time) (Watch.boot H) es)
    (hg' : Guarded (watch r pid) (Apart pid start_time) (Watch.boot H) es') :
    decisions r pid (Table.empty : Table H) es = decisions r pid (Table.empty : Table H) es' := by
  have hboot : Follows pid (Watch.boot H) (Entry.fresh pid 0) := blank_fresh pid 0
  have h := decisions_eq_alone hboot hg
  have h' := decisions_eq_alone hboot hg'
  have hsame : alone H r (Entry.fresh pid 0) (ownWorks es) =
      alone H r (Entry.fresh pid 0) (ownWorks es') := by rw [hown]
  exact h.trans (hsame.trans h'.symm)

end Isolation

/-- The process starts after the earlier holders of its pid are done, every exec of it carries its
start time, sweeps see it run, and no allocation fails. -/
def InOrder (pid : Nat) (start_time : UInt64) (s : Watch H) (x : Event) : Prop :=
  s.table.behavior_table_count.toNat < MAX_BEHAVIOR_ENTRIES ∧
  match x with
  | .own w => w.kzalloc_ok = true ∧ ∀ path trusted st, w.job = .exec path trusted st →
      st = start_time
  | .other p w => w.kzalloc_ok = true ∧ (s.begun = true → p ≠ pid)
  | .sweep cur_start => s.begun = true → cur_start pid = some start_time

private def flatTable : KernelHash := ⟨fun _ => 0, fun _ _ => ⟨0, Nat.two_pow_pos _⟩⟩

private def ownShell : Event := .own ⟨.exec (lit "/bin/sh") false 2, 7, true⟩

private def ownUnlink : Event := .own ⟨.unlink (lit "/tmp/x"), 8, true⟩

/-- The earlier holder of pid 5, with start time 1. -/
private def holderExec : Event := .other 5 ⟨.exec (lit "/tmp/x") true 1, 3, true⟩

private def seesOwn : Event := .sweep fun pid => if pid = 5 then some 2 else none

/-- A process that execs first is not taken for the earlier holder of its pid. -/
theorem exec_forgets_holder :
    decisions hz1000 5 (Table.empty : Table flatTable)
        [holderExec, ownShell, seesOwn, ownUnlink] =
      decisions hz1000 5 (Table.empty : Table flatTable) [ownShell, ownUnlink] := by
  have hapart : Guarded (watch hz1000 5) (Apart 5 2) (Watch.boot flatTable)
      [holderExec, ownShell, seesOwn, ownUnlink] := by decide +kernel
  exact same_decisions_of_apart rfl hapart (by decide +kernel)

/-- A forked process that unlinks before it execs is taken for the earlier holder of its pid, and
killed for deleting its own executable. -/
theorem fork_inherits_holder :
    ¬ ∀ (H : KernelHash) (r : TickRate) (pid : Nat) (start_time : UInt64) (es es' : List Event),
        ownWorks es = ownWorks es' →
        Guarded (watch r pid) (InOrder pid start_time) (Watch.boot H) es →
        Guarded (watch r pid) (InOrder pid start_time) (Watch.boot H) es' →
        decisions r pid (Table.empty : Table H) es =
          decisions r pid (Table.empty : Table H) es' := by
  intro hall
  have hnone : ∀ path trusted st, Job.unlink (lit "/tmp/x") = .exec path trusted st → st = 2 := by
    intro path trusted st h
    cases h
  have hsame := hall flatTable hz1000 5 2 [holderExec, ownUnlink] [ownUnlink] rfl
    ⟨⟨by decide, rfl, by decide⟩, fun s hs => ⟨⟨?_, rfl, hnone⟩, fun _ _ => trivial⟩⟩
    ⟨⟨by decide, rfl, hnone⟩, fun _ _ => trivial⟩
  · have hdiffer : decisions hz1000 5 (Table.empty : Table flatTable) [holderExec, ownUnlink] ≠
        decisions hz1000 5 (Table.empty : Table flatTable) [ownUnlink] := by decide +kernel
    exact hdiffer hsame
  · obtain rfl := Option.some.inj hs
    decide +kernel

end KernelAv.Kernel.PidReuse
