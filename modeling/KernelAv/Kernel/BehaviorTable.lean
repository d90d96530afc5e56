/- digest: The per-process behaviour table: lookup, creation, eviction, exec records and sweeps. -/

import KernelAv.Kernel.Paths
import KernelAv.Kernel.SlidingWindow
import KernelAv.Lib.Chains

set_option autoImplicit false
set_option relaxedAutoImplicit false

namespace KernelAv.Kernel.BehaviorTable

open KernelAv.Lib.CText
open KernelAv.Lib.Chains
open KernelAv.Kernel.Paths (PATH_MAX)
open KernelAv.Kernel.SlidingWindow

def BEHAVIOR_BITS : Nat := 10
def MAX_BEHAVIOR_ENTRIES : Nat := 8192

/-- The kernel's string hash, and its fold of a 32-bit hash into a bucket number. -/
structure KernelHash where
  full_name_hash : Bytes → UInt32
  hash_min : (bits : Nat) → UInt32 → Fin (2 ^ bits)

/-- `struct av_behavior_entry`. -/
structure Entry where
  pid : Nat
  exec_path : Bytes
  recent_path : PathRing MAX_TRACKED_PATHS
  recent_rename : PathRing MAX_TRACKED_RENAMES
  trusted : Bool
  start_time : UInt64
  last_touched : UInt64

/-- A `kzalloc`ed entry as `get_or_create_entry` leaves it. -/
def Entry.fresh (pid : Nat) (jiffies : UInt64) : Entry :=
  ⟨pid, [], PathRing.zero, PathRing.zero, false, 0, jiffies⟩

/-- The cursors set to zero; what the slots hold stays, and counts no more. -/
def resetRing {cap : Nat} (w : PathRing cap) : PathRing cap :=
  { w with
    next := 0
    filled := 0
    next_lt := Nat.lt_of_le_of_lt (Nat.zero_le _) w.next_lt
    filled_le := Nat.zero_le _ }

def Entry.resetWindows (e : Entry) : Entry :=
  { e with recent_path := resetRing e.recent_path, recent_rename := resetRing e.recent_rename }

def pid_key (pid : Nat) : UInt32 := UInt32.ofNat pid

variable (H : KernelHash)

abbrev EntryTable := HashTable Entry.pid fun pid => H.hash_min BEHAVIOR_BITS (pid_key pid)

structure Table where
  behavior_table : EntryTable H
  behavior_table_count : UInt32

variable {H}

def Table.empty : Table H := ⟨HashTable.empty, 0⟩

def time_before (a b : UInt64) : Bool := 2 ^ 63 ≤ (a - b).toNat

/-- The walk of `evict_lru_entry`: the first entry that no later one is older than. -/
def oldest (es : List Entry) : Option Entry :=
  es.foldl
    (fun oldest e =>
      match oldest with
      | none => some e
      | some o => if time_before e.last_touched o.last_touched then some e else some o) none

def evict_lru_entry (t : Table H) : Option (Table H) :=
  match oldest t.behavior_table.entries with
  | none => none
  | some o => some ⟨t.behavior_table.del o.pid, t.behavior_table_count - 1⟩

def makeRoom (t : Table H) : Option (Table H) :=
  if MAX_BEHAVIOR_ENTRIES ≤ t.behavior_table_count.toNat then evict_lru_entry t else some t

/-- An eviction only unlinks. -/
theorem find?_makeRoom {t u : Table H} (hu : makeRoom t = some u) (pid : Nat) :
    u.behavior_table.find? pid = none ∨
      u.behavior_table.find? pid = t.behavior_table.find? pid := by
  unfold makeRoom at hu
  split at hu
  · unfold evict_lru_entry at hu
    split at hu
    · cases hu
    · rename_i o _
      obtain rfl := Option.some.inj hu
      show (t.behavior_table.del o.pid).find? pid = none ∨ _
      rw [HashTable.find?_del]
      split
      · exact Or.inl rfl
      · exact Or.inr rfl
  · obtain rfl := Option.some.inj hu
    exact Or.inr rfl

theorem makeRoom_absent {t u : Table H} {pid : Nat} (hu : makeRoom t = some u)
    (h : t.behavior_table.find? pid = none) : u.behavior_table.find? pid = none := by
  rcases find?_makeRoom hu pid with hnone | hsame
  · exact hnone
  · rw [hsame, h]

/-- The table afterwards, and the entry unless its allocation failed. -/
def get_or_create_entry (t : Table H) (pid : Nat) (jiffies : UInt64) (kzalloc_ok : Bool) :
    Table H × Option Entry :=
  match h : t.behavior_table.find? pid with
  | some e =>
      let e := { e with last_touched := jiffies }
      ({ t with behavior_table := t.behavior_table.put e }, some e)
  | none =>
      match hu : makeRoom t with
      | none => (t, none)
      | some u =>
          if kzalloc_ok then
            (⟨u.behavior_table.add (Entry.fresh pid jiffies) (makeRoom_absent hu h),
              u.behavior_table_count + 1⟩, some (Entry.fresh pid jiffies))
          else (u, none)

def av_behavior_record_exec (t : Table H) (jiffies : UInt64) (kzalloc_ok : Bool)
    (pid : Nat) (path : Bytes) (trusted : Bool) (start_time : UInt64) : Table H :=
  match get_or_create_entry t pid jiffies kzalloc_ok with
  | (t, none) => t
  | (t, some e) =>
      let e := { e with exec_path := strscpy PATH_MAX path, trusted := trusted }
      let e := if e.start_time ≠ start_time then
        { e with start_time := start_time }.resetWindows else e
      { t with behavior_table := t.behavior_table.put e }

/-- What the sweep does with one entry; `cur_start` is the start time of the group that has its
number, if there is one. -/
def gcEntry (cur_start : Nat → Option UInt64) (e : Entry) : Option Entry :=
  match cur_start e.pid with
  | none => none
  | some start =>
      if e.start_time ≠ 0 ∧ e.start_time ≠ start then
        some { e with start_time := start, exec_path := [], trusted := false }.resetWindows
      else some e

theorem gcEntry_pid {cur_start : Nat → Option UInt64} (e x : Entry)
    (h : gcEntry cur_start e = some x) : x.pid = e.pid := by
  unfold gcEntry at h
  split at h
  · cases h
  · split at h <;> (obtain rfl := Option.some.inj h; rfl)

def behavior_gc_fn (t : Table H) (cur_start : Nat → Option UInt64) : Table H :=
  let removed := (t.behavior_table.entries.filter fun e => (gcEntry cur_start e).isNone).length
  ⟨t.behavior_table.sweep (gcEntry cur_start) gcEntry_pid,
    t.behavior_table_count - UInt32.ofNat removed⟩

/-- What the exec items left in an entry. -/
structure ExecRecord where
  exec_path : Bytes
  trusted : Bool
  start_time : UInt64
  deriving DecidableEq

def ExecRecord.blank : ExecRecord := ⟨[], false, 0⟩

def Entry.record (e : Entry) : ExecRecord := ⟨e.exec_path, e.trusted, e.start_time⟩

/-- The table as a total map: a process without an entry has the blank record. -/
def recordOf (t : Table H) (pid : Nat) : ExecRecord :=
  ((t.behavior_table.find? pid).map Entry.record).getD ExecRecord.blank

/-- The process whose entry a lookup evicts. -/
def evictedFor (t : Table H) (pid : Nat) : Option Nat :=
  if (t.behavior_table.find? pid).isNone ∧ MAX_BEHAVIOR_ENTRIES ≤ t.behavior_table_count.toNat then
    (oldest t.behavior_table.entries).map Entry.pid
  else none

section Records

variable {t u : Table H} {pid p : Nat} {jiffies : UInt64} {ok : Bool} {e : Entry}

theorem recordOf_of_find? (h : t.behavior_table.find? pid = some e) :
    recordOf t pid = e.record := by
  rw [recordOf, h]
  rfl

theorem recordOf_of_absent (h : t.behavior_table.find? pid = none) :
    recordOf t pid = ExecRecord.blank := by
  rw [recordOf, h]
  rfl

/-- Replacing an entry by one with the same record changes no record. -/
theorem recordOf_put {x : Entry} {n : UInt32} (h : t.behavior_table.find? x.pid = some e)
    (hx : x.record = e.record) : recordOf ⟨t.behavior_table.put x, n⟩ p = recordOf t p := by
  unfold recordOf
  rw [HashTable.find?_put]
  split
  · rename_i hp
    rw [hp, h, Option.map_some, Option.map_some, Option.map_some, hx]
  · rfl

private theorem recordOf_makeRoom (habsent : t.behavior_table.find? pid = none)
    (hu : makeRoom t = some u) :
    recordOf u p = if evictedFor t pid = some p then ExecRecord.blank else recordOf t p := by
  unfold makeRoom at hu
  split at hu
  · rename_i hfull
    unfold evict_lru_entry at hu
    split at hu
    · cases hu
    · rename_i o ho
      obtain rfl := Option.some.inj hu
      have hev : evictedFor t pid = some o.pid := by
        rw [evictedFor, if_pos ⟨by rw [habsent]; rfl, hfull⟩, ho]
        rfl
      rw [hev]
      unfold recordOf
      rw [HashTable.find?_del]
      by_cases hp : p = o.pid
      · rw [if_pos hp, if_pos (by rw [hp])]
        rfl
      · rw [if_neg hp, if_neg (fun h => hp (Option.some.inj h).symm)]
  · rename_i hfull
    obtain rfl := Option.some.inj hu
    have hev : evictedFor t pid = none := if_neg fun h => hfull h.2
    rw [hev, if_neg (by simp)]

theorem get_or_create_entry_found (h : t.behavior_table.find? pid = some e) :
    get_or_create_entry t pid jiffies ok =
      ({ t with behavior_table := t.behavior_table.put { e with last_touched := jiffies } },
        some { e with last_touched := jiffies }) := by
  unfold get_or_create_entry
  split
  · rename_i x hx
    obtain rfl := Option.some.inj (h.symm.trans hx)
    rfl
  · rename_i hx
    rw [h] at hx
    cases hx

theorem get_or_create_entry_full (h : t.behavior_table.find? pid = none)
    (hroom : makeRoom t = none) : get_or_create_entry t pid jiffies ok = (t, none) := by
  unfold get_or_create_entry
  split
  · rename_i hx
    rw [h] at hx
    cases hx
  · split
    · rfl
    · rename_i hx
      rw [hroom] at hx
      cases hx

theorem get_or_create_entry_new (h : t.behavior_table.find? pid = none)
    (hroom : makeRoom t = some u)
    (habsent : u.behavior_table.find? (Entry.fresh pid jiffies).pid = none) :
    get_or_create_entry t pid jiffies ok =
      if ok then
        (⟨u.behavior_table.add (Entry.fresh pid jiffies) habsent, u.behavior_table_count + 1⟩,
          some (Entry.fresh pid jiffies))
      else (u, none) := by
  unfold get_or_create_entry
  split
  · rename_i hx
    rw [h] at hx
    cases hx
  · split
    · rename_i hx
      rw [hroom] at hx
      cases hx
    · rename_i hx
      obtain rfl := Option.some.inj (hroom.symm.trans hx)
      rfl

theorem find?_put_touched (h : t.behavior_table.find? pid = some e) :
    (t.behavior_table.put { e with last_touched := jiffies }).find? pid =
      some { e with last_touched := jiffies } := by
  have hkey : e.pid = pid := HashTable.key_of_find? h
  subst hkey
  exact HashTable.find?_put_self h

/-- A lookup either makes an entry, found afterwards, or leaves without one; apart from the
eviction it changes no record. -/
theorem get_or_create_entry_spec (t : Table H) (pid : Nat) (jiffies : UInt64) (ok : Bool) :
    (∀ e, (get_or_create_entry t pid jiffies ok).2 = some e →
      (get_or_create_entry t pid jiffies ok).1.behavior_table.find? pid = some e ∧
        e.pid = pid ∧ e.record = recordOf t pid) ∧
    ((get_or_create_entry t pid jiffies ok).2 = none → recordOf t pid = ExecRecord.blank) ∧
    ∀ p, recordOf (get_or_create_entry t pid jiffies ok).1 p =
      if evictedFor t pid = some p then ExecRecord.blank else recordOf t p := by
  cases hfind : t.behavior_table.find? pid with
  | some e =>
    have hpid : e.pid = pid := HashTable.key_of_find? hfind
    rw [get_or_create_entry_found hfind]
    refine ⟨?_, fun h => absurd h (by simp), ?_⟩
    · rintro x hx
      obtain rfl := Option.some.inj hx
      refine ⟨?_, hpid, (recordOf_of_find? hfind).symm⟩
      show (t.behavior_table.put { e with last_touched := jiffies }).find? pid = _
      rw [HashTable.find?_put, if_pos (show pid = e.pid from hpid.symm), hfind]
      rfl
    · intro p
      have hev : evictedFor t pid = none := if_neg fun h => by simp [hfind] at h
      rw [hev, if_neg (by simp)]
      exact recordOf_put (t := t) (e := e) (x := { e with last_touched := jiffies })
        (by rw [show ({ e with last_touched := jiffies } : Entry).pid = pid from hpid, hfind]) rfl
  | none =>
    have hblank := recordOf_of_absent hfind
    cases hroom : makeRoom t with
    | none =>
      rw [get_or_create_entry_full hfind hroom]
      refine ⟨fun e h => absurd h (by simp), fun _ => hblank, ?_⟩
      intro p
      have hev : ∀ q, evictedFor t pid = some q → False := by
        intro q hq
        unfold makeRoom at hroom
        split at hroom
        · unfold evict_lru_entry at hroom
          split at hroom
          · rename_i ho
            rw [evictedFor, ho] at hq
            split at hq <;> cases hq
          · cases hroom
        · cases hroom
      rw [if_neg fun h => hev p h]
    | some u =>
      have habsent : u.behavior_table.find? (Entry.fresh pid jiffies).pid = none :=
        makeRoom_absent hroom hfind
      rw [get_or_create_entry_new hfind hroom habsent]
      have hrecord := fun p => recordOf_makeRoom (p := p) hfind hroom
      split
      · refine ⟨?_, fun h => absurd h (by simp), ?_⟩
        · rintro x hx
          obtain rfl := Option.some.inj hx
          refine ⟨?_, rfl, hblank.symm⟩
          have hadd := HashTable.find?_add (k := pid) (e := Entry.fresh pid jiffies)
            (h := habsent)
          exact hadd.trans (if_pos rfl)
        · intro p
          rw [← hrecord p]
          unfold recordOf
          rw [HashTable.find?_add]
          split
          · rename_i hp
            have hnone : u.behavior_table.find? p = none := by
              rw [hp]
              exact habsent
            rw [hnone]
            rfl
          · rfl
      · exact ⟨fun e h => absurd h (by simp), fun _ => hblank, hrecord⟩

/-- Below the capacity a lookup leaves the entries of other processes alone. -/
theorem find?_get_or_create (tgid : Nat) (jiffies : UInt64) (ok : Bool)
    (hcount : u.behavior_table_count.toNat < MAX_BEHAVIOR_ENTRIES)
    (he : u.behavior_table.find? pid = some e) :
    (get_or_create_entry u tgid jiffies ok).1.behavior_table.find? pid =
      some (if pid = tgid then { e with last_touched := jiffies } else e) := by
  by_cases hpid : pid = tgid
  · subst hpid
    rw [get_or_create_entry_found he, if_pos rfl]
    exact find?_put_touched he
  · rw [if_neg hpid]
    cases hfind : u.behavior_table.find? tgid with
    | some x =>
      have hkey : x.pid = tgid := HashTable.key_of_find? hfind
      rw [get_or_create_entry_found hfind]
      show (u.behavior_table.put { x with last_touched := jiffies }).find? pid = _
      rw [HashTable.find?_put, if_neg (fun heq => hpid (heq.trans hkey)), he]
    | none =>
      have hroom : makeRoom u = some u := if_neg (not_le.mpr hcount)
      rw [get_or_create_entry_new hfind hroom hfind]
      split
      · exact (HashTable.find?_add (k := pid) (e := Entry.fresh tgid jiffies) (h := hfind)).trans
          ((if_neg hpid).trans he)
      · exact he

/-- What a recorded exec does to an entry that is in the table. -/
theorem find?_record_exec (jiffies : UInt64) (ok : Bool) (tgid : Nat) (path : Bytes)
    (trusted : Bool) (start_time : UInt64)
    (hcount : u.behavior_table_count.toNat < MAX_BEHAVIOR_ENTRIES)
    (he : u.behavior_table.find? pid = some e) :
    ∃ e', (av_behavior_record_exec u jiffies ok tgid path trusted start_time).behavior_table.find?
        pid = some e' ∧
      (e'.recent_path = e.recent_path ∧ e'.recent_rename = e.recent_rename ∨
        pid = tgid ∧ e.start_time ≠ start_time) := by
  have hlook := find?_get_or_create tgid jiffies ok hcount he
  obtain ⟨hfound, -, -⟩ := get_or_create_entry_spec u tgid jiffies ok
  unfold av_behavior_record_exec
  split
  · rename_i v hr
    rw [hr] at hlook
    refine ⟨_, hlook, Or.inl ?_⟩
    split <;> exact ⟨rfl, rfl⟩
  · rename_i v x hr
    rw [hr] at hlook hfound
    obtain ⟨hfind, hkey, -⟩ := hfound x rfl
    dsimp only at hlook hfind ⊢
    by_cases hpid : pid = tgid
    · subst hpid
      rw [if_pos rfl] at hlook
      obtain rfl := Option.some.inj (hfind.symm.trans hlook)
      have hkey' : e.pid = pid := hkey
      subst hkey'
      by_cases hstart : e.start_time ≠ start_time
      · rw [if_pos hstart]
        exact ⟨_, HashTable.find?_put_self hfind, Or.inr ⟨rfl, hstart⟩⟩
      · rw [if_neg hstart]
        exact ⟨_, HashTable.find?_put_self hfind, Or.inl ⟨rfl, rfl⟩⟩
    · rw [if_neg hpid] at hlook
      refine ⟨e, ?_, Or.inl ⟨rfl, rfl⟩⟩
      rw [HashTable.find?_put, if_neg, hlook]
      split <;> exact fun heq => hpid (heq.trans hkey)

/-- An exec item that finds or makes an entry writes the record of its process. -/
theorem recordOf_record_exec {path : Bytes} {trusted : Bool} {start_time : UInt64} :
    recordOf (av_behavior_record_exec t jiffies ok pid path trusted start_time) p =
      if p = pid ∧ (get_or_create_entry t pid jiffies ok).2.isSome then
        ⟨strscpy PATH_MAX path, trusted, start_time⟩
      else if evictedFor t pid = some p then ExecRecord.blank else recordOf t p := by
  obtain ⟨hfound, -, hrecord⟩ := get_or_create_entry_spec t pid jiffies ok
  unfold av_behavior_record_exec
  split
  · rename_i u hr
    rw [hr] at hrecord ⊢
    rw [if_neg (by simp)]
    exact hrecord p
  · rename_i u e hr
    rw [hr] at hfound hrecord ⊢
    obtain ⟨hfind, hpid, -⟩ := hfound e rfl
    dsimp only at hrecord hfind ⊢
    simp only [Option.isSome_some, and_true]
    by_cases hp : p = pid
    · subst hp
      rw [if_pos rfl]
      unfold recordOf
      rw [HashTable.find?_put, if_pos (by split <;> exact hpid.symm), hfind]
      split
      · rfl
      · rename_i hstart
        simp only [ne_eq, not_not] at hstart
        simp [Entry.record, hstart]
    · rw [if_neg hp, ← hrecord p]
      unfold recordOf
      rw [HashTable.find?_put, if_neg]
      split <;> exact fun h => hp (h.trans hpid)

/-- The sweep, on records. -/
def gcRecord (cur_start : Option UInt64) (r : ExecRecord) : ExecRecord :=
  match cur_start with
  | none => ExecRecord.blank
  | some start =>
      if r.start_time ≠ 0 ∧ r.start_time ≠ start then ⟨[], false, start⟩ else r

theorem recordOf_gc {cur_start : Nat → Option UInt64} :
    recordOf (behavior_gc_fn t cur_start) p = gcRecord (cur_start p) (recordOf t p) := by
  unfold recordOf behavior_gc_fn
  rw [HashTable.find?_sweep]
  cases hfind : t.behavior_table.find? p with
  | none =>
    unfold gcRecord
    cases cur_start p with
    | none => rfl
    | some start => simp [ExecRecord.blank]
  | some e =>
    obtain rfl : e.pid = p := HashTable.key_of_find? hfind
    rw [Option.bind_some]
    rw [Option.map_some, Option.getD_some]
    unfold gcEntry gcRecord
    cases cur_start e.pid with
    | none => rfl
    | some start =>
      dsimp only
      by_cases h : e.start_time ≠ 0 ∧ e.start_time ≠ start
      · rw [if_pos h, if_pos (show e.record.start_time ≠ 0 ∧ e.record.start_time ≠ start from h)]
        rfl
      · rw [if_neg h, if_neg (show ¬(e.record.start_time ≠ 0 ∧ e.record.start_time ≠ start) from h)]
        rfl

end Records

end KernelAv.Kernel.BehaviorTable
