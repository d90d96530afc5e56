/- digest: The behaviour table over whole runs: its count, its capacity, and who leaves it. -/

import KernelAv.Kernel.BehaviorChecks
import KernelAv.Lib.Run

set_option autoImplicit false
set_option relaxedAutoImplicit false

namespace KernelAv.Kernel.BehaviorEviction

open KernelAv.Lib.CText
open KernelAv.Lib.Chains
open KernelAv.Lib.Run
open KernelAv.Kernel.Paths
open KernelAv.Kernel.SlidingWindow (TickRate hz1000)
open KernelAv.Kernel.BehaviorTable
open KernelAv.Kernel.BehaviorChecks

variable {H : KernelHash}

section Oldest

variable {age : Nat → Nat}

/-- An entry's stamp is its age as a tick counter of 64 bits shows it. -/
def Stamped (age : Nat → Nat) (e : Entry) : Prop := e.last_touched = UInt64.ofNat (age e.pid)

/-- Ages less than half the counter's range apart. -/
def Near (age : Nat → Nat) (e x : Entry) : Prop :=
  age e.pid < age x.pid + 2 ^ 63 ∧ age x.pid < age e.pid + 2 ^ 63

/-- Near stamps are compared as their ages are, across a wrap of the counter. -/
theorem time_before_iff {e x : Entry} (he : Stamped age e) (hx : Stamped age x)
    (hnear : Near age e x) :
    time_before e.last_touched x.last_touched = true ↔ age e.pid < age x.pid := by
  obtain ⟨h₁, h₂⟩ := hnear
  rw [time_before, he, hx, decide_eq_true_iff, UInt64.toNat_sub, UInt64.toNat_ofNat',
    UInt64.toNat_ofNat']
  omega

private theorem oldest_fold (es : List Entry) (o : Entry) (hstamp : ∀ e ∈ o :: es, Stamped age e)
    (hnear : ∀ e ∈ o :: es, ∀ x ∈ o :: es, Near age e x) :
    ∃ r ∈ o :: es, es.foldl (fun oldest e =>
        match oldest with
        | none => some e
        | some o => if time_before e.last_touched o.last_touched then some e else some o)
        (some o) = some r ∧
      ∀ x ∈ o :: es, age r.pid ≤ age x.pid := by
  induction es generalizing o with
  | nil => exact ⟨o, by simp, rfl, by simp⟩
  | cons e es ih =>
    have hcmp := time_before_iff (hstamp e (by simp)) (hstamp o (by simp))
      (hnear e (by simp) o (by simp))
    rw [List.foldl_cons]
    by_cases hlt : time_before e.last_touched o.last_touched = true
    · have hage := hcmp.mp hlt
      obtain ⟨r, hr, hfold, hle⟩ := ih e (fun x hx => hstamp x (List.mem_cons_of_mem o hx))
        (fun x hx y hy => hnear x (List.mem_cons_of_mem o hx) y (List.mem_cons_of_mem o hy))
      refine ⟨r, List.mem_cons_of_mem o hr, by simp only [hlt, if_true]; exact hfold, ?_⟩
      intro x hx
      rcases List.mem_cons.mp hx with rfl | hx
      · exact (hle e (by simp)).trans hage.le
      · exact hle x hx
    · have hage : age o.pid ≤ age e.pid := not_lt.mp fun h => hlt (hcmp.mpr h)
      have hsub : ∀ x, x ∈ o :: es → x ∈ o :: e :: es := by
        intro x hx
        rcases List.mem_cons.mp hx with rfl | hx
        · simp
        · simp [hx]
      obtain ⟨r, hr, hfold, hle⟩ := ih o (fun x hx => hstamp x (hsub x hx))
        (fun x hx y hy => hnear x (hsub x hx) y (hsub y hy))
      refine ⟨r, hsub r hr, by simp only [hlt]; exact hfold, ?_⟩
      intro x hx
      rcases List.mem_cons.mp hx with rfl | hx
      · exact hle x (by simp)
      · rcases List.mem_cons.mp hx with rfl | hx
        · exact (hle o (by simp)).trans hage
        · exact hle x (by simp [hx])

/-- The walk of `evict_lru_entry` finds an entry that no other is older than. -/
theorem oldest_least {es : List Entry} (hne : es ≠ []) (hstamp : ∀ e ∈ es, Stamped age e)
    (hnear : ∀ e ∈ es, ∀ x ∈ es, Near age e x) :
    ∃ r ∈ es, oldest es = some r ∧ ∀ x ∈ es, age r.pid ≤ age x.pid := by
  cases es with
  | nil => exact absurd rfl hne
  | cons o es => exact oldest_fold es o hstamp hnear

end Oldest

section Tables

/-- The count is that of the entries, and they fit the cap. -/
structure Sound (t : Table H) : Prop where
  count : t.behavior_table_count.toNat = t.behavior_table.entries.length
  capacity : t.behavior_table.entries.length ≤ MAX_BEHAVIOR_ENTRIES

/-- When the entry of a process was last touched, as the entry has it. -/
def stamp (t : Table H) (pid : Nat) : Option UInt64 :=
  (t.behavior_table.find? pid).map Entry.last_touched

/-- No entry came, went or was touched. -/
structure SameStamps (t u : Table H) : Prop where
  stamps : ∀ p, stamp u p = stamp t p
  count : u.behavior_table_count = t.behavior_table_count
  length : u.behavior_table.entries.length = t.behavior_table.entries.length

variable {t u : Table H} {pid : Nat} {jiffies : UInt64} {ok : Bool} {e : Entry}

theorem SameStamps.refl (t : Table H) : SameStamps t t := ⟨fun _ => rfl, rfl, rfl⟩

theorem SameStamps.sound (h : SameStamps t u) (hs : Sound t) : Sound u :=
  ⟨by rw [h.count, h.length, hs.count], by rw [h.length]; exact hs.capacity⟩

/-- A write to an entry that leaves its stamp. -/
theorem sameStamps_put {x : Entry} (he : t.behavior_table.find? x.pid = some e)
    (hx : x.last_touched = e.last_touched) :
    SameStamps t { t with behavior_table := t.behavior_table.put x } := by
  refine ⟨fun p => ?_, rfl, ?_⟩
  · unfold stamp
    rw [HashTable.find?_put]
    split
    · rename_i hp
      rw [hp, he, Option.map_some, Option.map_some, Option.map_some, hx]
    · rfl
  · show (t.behavior_table.put x).entries.length = _
    rw [HashTable.entries_put, List.length_map]

theorem stamp_of_removed (h : HashTable.Removed t.behavior_table u.behavior_table e) :
    stamp t e.pid = some e.last_touched ∧ stamp u e.pid = none := by
  rw [stamp, stamp, h.1, h.2]
  exact ⟨rfl, rfl⟩

private theorem not_removed_of_same (h : SameStamps t u) :
    ¬ HashTable.Removed t.behavior_table u.behavior_table e := by
  intro hrem
  obtain ⟨hsome, hnone⟩ := stamp_of_removed hrem
  rw [h.stamps, hsome] at hnone
  cases hnone

/-- The ways through `get_or_create_entry`, as far as the table goes. -/
private theorem get_or_create_cases (t : Table H) (pid : Nat) (jiffies : UInt64) (ok : Bool) :
    (∃ e, t.behavior_table.find? pid = some e ∧ (get_or_create_entry t pid jiffies ok).1 =
      { t with behavior_table := t.behavior_table.put { e with last_touched := jiffies } }) ∨
    (t.behavior_table.find? pid = none ∧
      (makeRoom t = none ∧ (get_or_create_entry t pid jiffies ok).1 = t ∨
        ∃ u, makeRoom t = some u ∧ ((get_or_create_entry t pid jiffies ok).1 = u ∨
          ∃ h : u.behavior_table.find? pid = none, (get_or_create_entry t pid jiffies ok).1 =
            ⟨u.behavior_table.add (Entry.fresh pid jiffies) h, u.behavior_table_count + 1⟩))) := by
  cases hfind : t.behavior_table.find? pid with
  | some e =>
    rw [get_or_create_entry_found hfind]
    exact Or.inl ⟨e, rfl, rfl⟩
  | none =>
    refine Or.inr ⟨rfl, ?_⟩
    cases hroom : makeRoom t with
    | none =>
      rw [get_or_create_entry_full hfind hroom]
      exact Or.inl ⟨rfl, rfl⟩
    | some u =>
      have habsent := makeRoom_absent hroom hfind
      rw [get_or_create_entry_new hfind hroom habsent]
      refine Or.inr ⟨u, rfl, ?_⟩
      split
      · exact Or.inr ⟨habsent, rfl⟩
      · exact Or.inl rfl

private theorem evict_lru_entry_of_oldest {o : Entry}
    (ho : oldest t.behavior_table.entries = some o) :
    evict_lru_entry t = some ⟨t.behavior_table.del o.pid, t.behavior_table_count - 1⟩ := by
  unfold evict_lru_entry
  rw [ho]

/-- Making room in a sound table: nothing goes unless it is full, and then the oldest entry. -/
private theorem makeRoom_spec {age : Nat → Nat} (hs : Sound t)
    (hstamp : ∀ e ∈ t.behavior_table.entries, Stamped age e)
    (hnear : ∀ e ∈ t.behavior_table.entries, ∀ x ∈ t.behavior_table.entries, Near age e x) :
    (t.behavior_table.entries.length < MAX_BEHAVIOR_ENTRIES ∧ makeRoom t = some t) ∨
    ∃ o ∈ t.behavior_table.entries,
      t.behavior_table.entries.length = MAX_BEHAVIOR_ENTRIES ∧
      makeRoom t = some ⟨t.behavior_table.del o.pid, t.behavior_table_count - 1⟩ ∧
      ∀ x ∈ t.behavior_table.entries, age o.pid ≤ age x.pid := by
  by_cases hfull : MAX_BEHAVIOR_ENTRIES ≤ t.behavior_table_count.toNat
  · have hlen : t.behavior_table.entries.length = MAX_BEHAVIOR_ENTRIES :=
      le_antisymm hs.capacity (hs.count ▸ hfull)
    have hne : t.behavior_table.entries ≠ [] := by
      intro hnil
      have hpos : 0 < MAX_BEHAVIOR_ENTRIES := Nat.succ_pos 8191
      rw [hnil, List.length_nil] at hlen
      exact absurd hlen (Nat.ne_of_lt hpos)
    obtain ⟨o, ho, hold, hle⟩ := oldest_least hne hstamp hnear
    have hroom : makeRoom t =
        some ⟨t.behavior_table.del o.pid, t.behavior_table_count - 1⟩ := by
      rw [makeRoom, if_pos hfull]
      exact evict_lru_entry_of_oldest hold
    exact Or.inr ⟨o, ho, hlen, hroom, hle⟩
  · exact Or.inl ⟨by rw [← hs.count]; exact not_le.mp hfull, if_neg hfull⟩

private theorem toNat_one : (1 : UInt32).toNat = 1 := rfl

private theorem sound_del {o : Entry} (hs : Sound t) (ho : o ∈ t.behavior_table.entries) :
    Sound (⟨t.behavior_table.del o.pid, t.behavior_table_count - 1⟩ : Table H) ∧
      (t.behavior_table.del o.pid).entries.length < MAX_BEHAVIOR_ENTRIES := by
  have hlen := HashTable.length_entries_del (HashTable.mem_entries.mp ho)
  have hcap := hs.capacity
  have hcount := hs.count
  have hone : (1 : UInt32).toNat ≤ t.behavior_table_count.toNat := by
    rw [toNat_one, hcount, ← hlen]
    exact Nat.le_add_left 1 _
  refine ⟨⟨?_, ?_⟩, by omega⟩
  · show (t.behavior_table_count - 1).toNat = (t.behavior_table.del o.pid).entries.length
    rw [UInt32.toNat_sub_of_le _ _ hone, hcount, ← hlen, toNat_one]
    exact Nat.add_sub_cancel _ _
  · show (t.behavior_table.del o.pid).entries.length ≤ MAX_BEHAVIOR_ENTRIES
    omega

private theorem sound_add (hs : Sound t) (h : t.behavior_table.find? pid = none)
    (hroom : t.behavior_table.entries.length < MAX_BEHAVIOR_ENTRIES) :
    Sound (⟨t.behavior_table.add (Entry.fresh pid jiffies) h,
      t.behavior_table_count + 1⟩ : Table H) := by
  have hlen := HashTable.length_entries_add (e := Entry.fresh pid jiffies) h
  have hcap : t.behavior_table.entries.length < 8192 := hroom
  refine ⟨?_, ?_⟩
  · show (t.behavior_table_count + 1).toNat = _
    rw [UInt32.toNat_add, hs.count, hlen, toNat_one]
    exact Nat.mod_eq_of_lt (by omega)
  · show (t.behavior_table.add (Entry.fresh pid jiffies) h).entries.length ≤ MAX_BEHAVIOR_ENTRIES
    rw [hlen]
    exact hroom

private theorem stamp_del {o : Nat} {n : UInt32} {p : Nat} {s : UInt64}
    (h : stamp (⟨t.behavior_table.del o, n⟩ : Table H) p = some s) : stamp t p = some s := by
  unfold stamp at h
  rw [HashTable.find?_del] at h
  split at h
  · cases h
  · exact h

private theorem find?_add_fresh (h : t.behavior_table.find? pid = none) (p : Nat) :
    (t.behavior_table.add (Entry.fresh pid jiffies) h).find? p =
      if p = pid then some (Entry.fresh pid jiffies) else t.behavior_table.find? p :=
  HashTable.find?_add (k := p) (e := Entry.fresh pid jiffies) (h := h)

private theorem stamp_add {n : UInt32} {p : Nat} {s : UInt64}
    (habsent : t.behavior_table.find? pid = none)
    (h : stamp (⟨t.behavior_table.add (Entry.fresh pid jiffies) habsent, n⟩ : Table H) p =
      some s) :
    p = pid ∧ s = jiffies ∨ p ≠ pid ∧ stamp t p = some s := by
  rw [stamp] at h
  dsimp only at h
  rw [find?_add_fresh habsent p] at h
  split at h
  · rename_i hp
    exact Or.inl ⟨hp, (Option.some.inj h).symm⟩
  · rename_i hp
    exact Or.inr ⟨hp, h⟩

/-- What the lookup for a process may do: the table stays sound, only the stamp of that process
changes, and an entry goes only from a full table, where no other is older. -/
structure Lookup (age : Nat → Nat) (pid : Nat) (jiffies : UInt64) (t u : Table H) : Prop where
  sound : Sound u
  stamps : ∀ p s, stamp u p = some s → p = pid ∧ s = jiffies ∨ p ≠ pid ∧ stamp t p = some s
  removed : ∀ e, HashTable.Removed t.behavior_table u.behavior_table e →
    t.behavior_table.entries.length = MAX_BEHAVIOR_ENTRIES ∧
      ∀ x ∈ t.behavior_table.entries, age e.pid ≤ age x.pid

variable {age : Nat → Nat}

/-- Writes that leave all stamps may follow a lookup. -/
private theorem Lookup.same {v : Table H} (h : Lookup age pid jiffies t u) (hv : SameStamps u v) :
    Lookup age pid jiffies t v where
  sound := hv.sound h.sound
  stamps p s hp := h.stamps p s (by rw [← hv.stamps]; exact hp)
  removed e he := by
    obtain ⟨hsome, hnone⟩ := stamp_of_removed he
    refine h.removed e ⟨he.1, ?_⟩
    rw [hv.stamps, stamp, Option.map_eq_none_iff] at hnone
    exact hnone

private theorem lookup_found (hs : Sound t) (he : t.behavior_table.find? pid = some e) :
    Lookup age pid jiffies t
      { t with behavior_table := t.behavior_table.put { e with last_touched := jiffies } } := by
  have hkey : e.pid = pid := HashTable.key_of_find? he
  have hlen : (t.behavior_table.put { e with last_touched := jiffies }).entries.length =
      t.behavior_table.entries.length := by
    rw [HashTable.entries_put, List.length_map]
  refine ⟨⟨hs.count.trans hlen.symm, hlen.le.trans hs.capacity⟩, ?_, ?_⟩
  · intro p s hp
    unfold stamp at hp
    rw [HashTable.find?_put] at hp
    split at hp
    · rename_i hpe
      have hppid : p = pid := hpe.trans hkey
      rw [hppid, he] at hp
      exact Or.inl ⟨hppid, (Option.some.inj hp).symm⟩
    · rename_i hpe
      exact Or.inr ⟨fun h => hpe (h.trans hkey.symm), hp⟩
  · rintro x ⟨hsome, hnone⟩
    rw [HashTable.find?_put, hsome] at hnone
    split at hnone <;> cases hnone

private theorem stamp_none_of_absent (h : t.behavior_table.find? pid = none) {p : Nat}
    {s : UInt64} (hp : stamp t p = some s) : p ≠ pid := by
  rintro rfl
  rw [stamp, h] at hp
  cases hp

/-- After room is made for a process without an entry, it gets one or its allocation fails. -/
private theorem lookup_room {v : Table H} (habsent : t.behavior_table.find? pid = none)
    (hsound : Sound u) (hroom : u.behavior_table.entries.length < MAX_BEHAVIOR_ENTRIES)
    (hstamps : ∀ p s, stamp u p = some s → stamp t p = some s)
    (hremoved : ∀ e, HashTable.Removed t.behavior_table u.behavior_table e →
      t.behavior_table.entries.length = MAX_BEHAVIOR_ENTRIES ∧
        ∀ x ∈ t.behavior_table.entries, age e.pid ≤ age x.pid)
    (hv : v = u ∨ ∃ h : u.behavior_table.find? pid = none,
      v = ⟨u.behavior_table.add (Entry.fresh pid jiffies) h, u.behavior_table_count + 1⟩) :
    Lookup age pid jiffies t v := by
  rcases hv with rfl | ⟨h, rfl⟩
  · refine ⟨hsound, fun p s hp => ?_, hremoved⟩
    have hold := hstamps p s hp
    exact Or.inr ⟨stamp_none_of_absent habsent hold, hold⟩
  · refine ⟨sound_add hsound h hroom, fun p s hp => ?_, fun e he => hremoved e ⟨he.1, ?_⟩⟩
    · rcases stamp_add h hp with hnew | ⟨hne, hold⟩
      · exact Or.inl hnew
      · exact Or.inr ⟨hne, hstamps p s hold⟩
    · have hnone := he.2
      dsimp only at hnone
      rw [find?_add_fresh h e.pid] at hnone
      split at hnone
      · cases hnone
      · exact hnone

/-- `get_or_create_entry` from a sound table. -/
theorem get_or_create_lookup (hs : Sound t) (hstamp : ∀ e ∈ t.behavior_table.entries, Stamped age e)
    (hnear : ∀ e ∈ t.behavior_table.entries, ∀ x ∈ t.behavior_table.entries, Near age e x) :
    Lookup age pid jiffies t (get_or_create_entry t pid jiffies ok).1 := by
  rcases get_or_create_cases t pid jiffies ok with ⟨e, he, hput⟩ | ⟨habsent, hrest⟩
  · rw [hput]
    exact lookup_found hs he
  rcases makeRoom_spec hs hstamp hnear with ⟨hroom, hmake⟩ | ⟨o, ho, hfull, hmake, hle⟩
  · rcases hrest with ⟨hfail, -⟩ | ⟨u, hu, hv⟩
    · rw [hmake] at hfail
      cases hfail
    · obtain rfl := Option.some.inj (hmake.symm.trans hu)
      refine lookup_room habsent hs hroom (fun _ _ h => h) (fun e he => ?_) hv
      exact absurd he (not_removed_of_same (SameStamps.refl t))
  · rcases hrest with ⟨hfail, -⟩ | ⟨u, hu, hv⟩
    · rw [hmake] at hfail
      cases hfail
    · obtain rfl := Option.some.inj (hmake.symm.trans hu)
      obtain ⟨hsound, hroom⟩ := sound_del hs ho
      refine lookup_room habsent hsound hroom (fun _ _ h => stamp_del h) (fun e he => ?_) hv
      -- the entry that is gone is the one that was unlinked
      have hgone := (HashTable.removed_iff (HashTable.mem_entries.mp ho)
        (fun k => HashTable.find?_del) e).mp he
      rw [hgone]
      exact ⟨hfull, hle⟩

private theorem gcEntry_kept {cur_start : Nat → Option UInt64} {x : Entry}
    (h : gcEntry cur_start e = some x) : x.last_touched = e.last_touched ∧ x.pid = e.pid := by
  refine ⟨?_, gcEntry_pid e x h⟩
  unfold gcEntry at h
  split at h
  · cases h
  · split at h <;> (obtain rfl := Option.some.inj h; rfl)

private theorem gcEntry_eq_none {cur_start : Nat → Option UInt64}
    (h : gcEntry cur_start e = none) : cur_start e.pid = none := by
  unfold gcEntry at h
  split at h
  · assumption
  · split at h <;> cases h

private theorem length_filterMap_add {α β : Type} (f : α → Option β) (l : List α) :
    (l.filterMap f).length + (l.filter fun a => (f a).isNone).length = l.length := by
  induction l with
  | nil => rfl
  | cons a l ih =>
    cases ha : f a with
    | none =>
      rw [List.filterMap_cons_none ha, List.filter_cons_of_pos (by rw [ha]; rfl),
        List.length_cons, List.length_cons]
      omega
    | some b =>
      rw [List.filterMap_cons_some ha, List.filter_cons_of_neg (by rw [ha]; simp),
        List.length_cons, List.length_cons]
      omega

/-- The sweep subtracts as many as it unlinked. -/
private theorem sound_gc (cur_start : Nat → Option UInt64) (hs : Sound t) :
    Sound (behavior_gc_fn t cur_start) := by
  have hlen := length_filterMap_add (gcEntry cur_start) t.behavior_table.entries
  have hentries : (behavior_gc_fn t cur_start).behavior_table.entries =
      t.behavior_table.entries.filterMap (gcEntry cur_start) :=
    HashTable.entries_sweep _ _ gcEntry_pid
  have hcap : t.behavior_table.entries.length ≤ 8192 := hs.capacity
  generalize hremoved :
    (t.behavior_table.entries.filter fun e => (gcEntry cur_start e).isNone).length = removed at hlen
  have hcount : (behavior_gc_fn t cur_start).behavior_table_count =
      t.behavior_table_count - UInt32.ofNat removed := by
    rw [← hremoved]
    rfl
  have hfit : (UInt32.ofNat removed).toNat = removed := by
    rw [UInt32.toNat_ofNat']
    exact Nat.mod_eq_of_lt (by omega)
  have hle : (UInt32.ofNat removed).toNat ≤ t.behavior_table_count.toNat := by
    rw [hfit, hs.count]
    omega
  refine ⟨?_, ?_⟩
  · rw [hcount, UInt32.toNat_sub_of_le _ _ hle, hfit, hs.count, hentries]
    omega
  · rw [hentries]
    exact le_trans (by omega) hs.capacity

/-- What the sweep may do: the table stays sound, no stamp changes, and an entry goes only when
its process has no live task. -/
theorem behavior_gc_sound (cur_start : Nat → Option UInt64) (hs : Sound t) :
    Sound (behavior_gc_fn t cur_start) ∧
    (∀ p s, stamp (behavior_gc_fn t cur_start) p = some s → stamp t p = some s) ∧
    ∀ e, HashTable.Removed t.behavior_table (behavior_gc_fn t cur_start).behavior_table e →
      cur_start e.pid = none := by
  refine ⟨sound_gc cur_start hs, fun p s hp => ?_, fun e he => ?_⟩
  · unfold stamp behavior_gc_fn at hp
    rw [HashTable.find?_sweep, Option.map_eq_some_iff] at hp
    obtain ⟨x, hx, rfl⟩ := hp
    obtain ⟨y, hy, hyx⟩ := Option.bind_eq_some_iff.mp hx
    rw [stamp, hy, Option.map_some, (gcEntry_kept hyx).1]
  · obtain ⟨hsome, hnone⟩ := he
    rw [behavior_gc_fn, HashTable.find?_sweep, hsome, Option.bind_some] at hnone
    exact gcEntry_eq_none hnone

end Tables

/-- The calls that reach the table, each with the time at which it is made, in ticks since a start
that no counter wraps back to. -/
inductive Call where
  | record_exec (now : Nat) (kzalloc_ok : Bool) (pid : Nat) (path : Bytes) (trusted : Bool)
      (start_time : UInt64)
  | check_openat (now : Nat) (kzalloc_ok : Bool) (pid : Nat) (path : Bytes) (flags : UInt32)
  | check_unlink (now : Nat) (kzalloc_ok : Bool) (pid : Nat) (path : Bytes)
  | check_rename (now : Nat) (kzalloc_ok : Bool) (pid : Nat) (oldpath newpath : Bytes)
  | behavior_gc (now : Nat) (cur_start : Nat → Option UInt64)

namespace Call

def now : Call → Nat
  | record_exec now .. => now
  | check_openat now .. => now
  | check_unlink now .. => now
  | check_rename now .. => now
  | behavior_gc now _ => now

/-- The process whose entry a call looks up, if it gets that far. -/
def touches : Call → Option Nat
  | record_exec _ _ pid _ _ _ => some pid
  | check_openat _ _ pid path flags =>
      if flags &&& (O_WRONLY ||| O_RDWR ||| O_CREAT ||| O_TRUNC) = 0 then none
      else if path_is_pseudo_fs path then none else some pid
  | check_unlink _ _ pid path => if path_is_pseudo_fs path then none else some pid
  | check_rename _ _ pid oldpath newpath =>
      if is_extension_append_rename oldpath newpath then some pid else none
  | behavior_gc _ _ => none

/-- The table after a call; `jiffies` is the time in 64 bits. -/
def run (r : TickRate) (t : Table H) : Call → Table H
  | record_exec now ok pid path trusted start =>
      av_behavior_record_exec t (UInt64.ofNat now) ok pid path trusted start
  | check_openat now ok pid path flags =>
      (av_behavior_check_openat r t (UInt64.ofNat now) ok pid path flags).table
  | check_unlink now ok pid path =>
      (av_behavior_check_unlink t (UInt64.ofNat now) ok pid path).table
  | check_rename now ok pid oldpath newpath =>
      (av_behavior_check_rename r t (UInt64.ofNat now) ok pid oldpath newpath).table
  | behavior_gc _ cur_start => behavior_gc_fn t cur_start

end Call

section Calls

variable {t : Table H} {age : Nat → Nat}

private theorem same_put_of_lookup {pid : Nat} {jiffies : UInt64} {ok : Bool} {u : Table H}
    {e x : Entry} (h : get_or_create_entry t pid jiffies ok = (u, some e)) (hpid : x.pid = e.pid)
    (hx : x.last_touched = e.last_touched) :
    SameStamps u { u with behavior_table := u.behavior_table.put x } := by
  obtain ⟨hfound, -, -⟩ := get_or_create_entry_spec t pid jiffies ok
  rw [h] at hfound
  obtain ⟨hfind, he, -⟩ := hfound e rfl
  exact sameStamps_put (by rw [hpid, he]; exact hfind) hx

private theorem record_exec_same (jiffies : UInt64) (ok : Bool) (pid : Nat) (path : Bytes)
    (trusted : Bool) (start : UInt64) :
    SameStamps (get_or_create_entry t pid jiffies ok).1
      (av_behavior_record_exec t jiffies ok pid path trusted start) := by
  unfold av_behavior_record_exec
  split
  · rename_i u hu
    rw [hu]
    exact SameStamps.refl u
  · rename_i u e hu
    rw [hu]
    dsimp only
    refine same_put_of_lookup hu ?_ ?_ <;> split <;> rfl

/-- Behind its lookup an open writes nothing but a ring. -/
private theorem check_openat_same {r : TickRate} {jiffies : UInt64} {ok : Bool} {pid : Nat}
    {path : Bytes} {flags : UInt32}
    (hflags : ¬ flags &&& (O_WRONLY ||| O_RDWR ||| O_CREAT ||| O_TRUNC) = 0)
    (hpseudo : ¬ path_is_pseudo_fs path = true) :
    SameStamps (get_or_create_entry t pid jiffies ok).1
      (av_behavior_check_openat r t jiffies ok pid path flags).table := by
  rw [av_behavior_check_openat, if_neg hflags, if_neg hpseudo]
  dsimp only
  split
  · rename_i u hu
    rw [hu]
    exact SameStamps.refl u
  · rename_i u e hu
    rw [hu]
    split
    · exact SameStamps.refl u
    · exact same_put_of_lookup hu rfl rfl

private theorem check_rename_same {r : TickRate} {jiffies : UInt64} {ok : Bool} {pid : Nat}
    {oldpath newpath : Bytes} (happend : is_extension_append_rename oldpath newpath = true) :
    SameStamps (get_or_create_entry t pid jiffies ok).1
      (av_behavior_check_rename r t jiffies ok pid oldpath newpath).table := by
  rw [av_behavior_check_rename, if_pos happend]
  dsimp only
  split
  · rename_i u hu
    rw [hu]
    exact SameStamps.refl u
  · rename_i u e hu
    rw [hu]
    split
    · exact SameStamps.refl u
    · exact same_put_of_lookup hu rfl rfl

/-- A call that gets to its lookup does what the lookup does. -/
theorem run_lookup (r : TickRate) {c : Call} {p : Nat} (hp : c.touches = some p) (hs : Sound t)
    (hstamp : ∀ e ∈ t.behavior_table.entries, Stamped age e)
    (hnear : ∀ e ∈ t.behavior_table.entries, ∀ x ∈ t.behavior_table.entries, Near age e x) :
    Lookup age p (UInt64.ofNat c.now) t (c.run r t) := by
  cases c with
  | record_exec now ok pid path trusted start =>
    obtain rfl := Option.some.inj hp
    exact (get_or_create_lookup hs hstamp hnear).same (record_exec_same _ ok pid path trusted start)
  | check_openat now ok pid path flags =>
    rw [Call.touches] at hp
    split at hp
    · cases hp
    rename_i hflags
    split at hp
    · cases hp
    rename_i hpseudo
    obtain rfl := Option.some.inj hp
    exact (get_or_create_lookup hs hstamp hnear).same (check_openat_same hflags hpseudo)
  | check_unlink now ok pid path =>
    rw [Call.touches] at hp
    split at hp
    · cases hp
    rename_i hpseudo
    obtain rfl := Option.some.inj hp
    have hlook : Lookup age pid (UInt64.ofNat now) t
        (get_or_create_entry t pid (UInt64.ofNat now) ok).1 :=
      get_or_create_lookup hs hstamp hnear
    refine hlook.same ?_
    rw [Call.run, av_behavior_check_unlink, if_neg hpseudo]
    exact SameStamps.refl _
  | check_rename now ok pid oldpath newpath =>
    rw [Call.touches] at hp
    split at hp
    · rename_i happend
      obtain rfl := Option.some.inj hp
      exact (get_or_create_lookup hs hstamp hnear).same (check_rename_same happend)
    · cases hp
  | behavior_gc now cur_start => cases hp

/-- Any other call than a sweep leaves the table. -/
theorem run_untouched (r : TickRate) {c : Call} (hc : c.touches = none) :
    c.run r t = t ∨ ∃ now cur_start, c = .behavior_gc now cur_start := by
  cases c with
  | record_exec now ok pid path trusted start => cases hc
  | check_openat now ok pid path flags =>
    refine Or.inl ?_
    rw [Call.touches] at hc
    rw [Call.run, av_behavior_check_openat]
    split at hc
    · rename_i hflags
      rw [if_pos hflags, CheckResult.early]
    rename_i hflags
    split at hc
    · rename_i hpseudo
      rw [if_neg hflags, if_pos hpseudo, CheckResult.early]
    · cases hc
  | check_unlink now ok pid path =>
    refine Or.inl ?_
    rw [Call.touches] at hc
    split at hc
    · rename_i hpseudo
      rw [Call.run, av_behavior_check_unlink, if_pos hpseudo, CheckResult.early]
    · cases hc
  | check_rename now ok pid oldpath newpath =>
    refine Or.inl ?_
    rw [Call.touches] at hc
    split at hc
    · cases hc
    · rename_i happend
      rw [Call.run, av_behavior_check_rename, if_neg happend, CheckResult.early]
  | behavior_gc now cur_start => exact Or.inr ⟨now, cur_start, rfl⟩

end Calls

/-- The table, with the time of the last call that looked up each process; the code keeps only
its 64-bit stamps. -/
structure State (H : KernelHash) where
  table : Table H
  touched : Nat → Nat
  now : Nat

def State.boot (H : KernelHash) : State H := ⟨Table.empty, fun _ => 0, 0⟩

/-- Time does not go back from one call to the next. -/
def step (r : TickRate) (s : State H) (c : Call) : Option (State H) :=
  if s.now ≤ c.now then
    some {
      table := c.run r s.table
      touched := match c.touches with
        | some pid => Function.update s.touched pid c.now
        | none => s.touched
      now := c.now }
  else none

/-- The processes in the table were last looked up within `2 ^ 63` ticks of each other. -/
def Live (s : State H) (_ : Call) : Prop :=
  ∀ e ∈ s.table.behavior_table.entries, ∀ x ∈ s.table.behavior_table.entries, Near s.touched e x

section Runs

/-- The invariant of a run: a sound table whose stamps are the times of the last lookups. -/
structure Inv (s : State H) : Prop where
  sound : Sound s.table
  stamps : ∀ p a, stamp s.table p = some a → a = UInt64.ofNat (s.touched p)

theorem Inv.stamped {s : State H} (h : Inv s) :
    ∀ e ∈ s.table.behavior_table.entries, Stamped s.touched e := by
  intro e he
  refine h.stamps e.pid e.last_touched ?_
  rw [stamp, HashTable.mem_entries.mp he]
  rfl

theorem inv_boot (H : KernelHash) : Inv (State.boot H) where
  sound := ⟨by simp [State.boot, Table.empty, HashTable.empty, HashTable.entries],
    by simp [State.boot, Table.empty, HashTable.empty, HashTable.entries]⟩
  stamps p a h := by simp [State.boot, Table.empty, stamp] at h

theorem step_inv {r : TickRate} {s s' : State H} {c : Call} (h : Inv s) (hlive : Live s c)
    (hstep : step r s c = some s') : Inv s' := by
  rw [step] at hstep
  split at hstep
  swap
  · cases hstep
  obtain rfl := Option.some.inj hstep
  cases hc : c.touches with
  | some pid =>
    have hlook := run_lookup r hc h.sound h.stamped hlive
    refine ⟨hlook.sound, fun p a ha => ?_⟩
    dsimp only at ha ⊢
    rcases hlook.stamps p a ha with ⟨rfl, rfl⟩ | ⟨hne, hold⟩
    · rw [Function.update_self]
    · rw [Function.update_of_ne hne]
      exact h.stamps p a hold
  | none =>
    rcases run_untouched r (t := s.table) hc with hsame | ⟨now, cur_start, rfl⟩
    · rw [hsame]
      exact ⟨h.sound, h.stamps⟩
    · obtain ⟨hsound, hstamps, -⟩ := behavior_gc_sound cur_start h.sound
      exact ⟨hsound, fun p a ha => h.stamps p a (hstamps p a ha)⟩

/-- Who leaves the table in one step. -/
theorem step_removed {r : TickRate} {s s' : State H} {c : Call} {e : Entry} (h : Inv s)
    (hlive : Live s c) (hstep : step r s c = some s')
    (he : HashTable.Removed s.table.behavior_table s'.table.behavior_table e) :
    (∃ now cur_start, c = .behavior_gc now cur_start ∧ cur_start e.pid = none) ∨
      (∃ p, c.touches = some p) ∧
        s.table.behavior_table.entries.length = MAX_BEHAVIOR_ENTRIES ∧
        ∀ x ∈ s.table.behavior_table.entries, s.touched e.pid ≤ s.touched x.pid := by
  rw [step] at hstep
  split at hstep
  swap
  · cases hstep
  obtain rfl := Option.some.inj hstep
  cases hc : c.touches with
  | some pid =>
    have hlook := run_lookup r hc h.sound h.stamped hlive
    exact Or.inr ⟨⟨pid, rfl⟩, hlook.removed e he⟩
  | none =>
    rcases run_untouched r (t := s.table) hc with hsame | ⟨now, cur_start, rfl⟩
    · dsimp only at he
      rw [hsame] at he
      exact absurd he (not_removed_of_same (SameStamps.refl s.table))
    · obtain ⟨-, -, hgone⟩ := behavior_gc_sound cur_start h.sound
      exact Or.inl ⟨now, cur_start, rfl, hgone e he⟩

theorem run_inv {r : TickRate} {s : State H} {calls : List Call}
    (hg : Guarded (step r) Live (State.boot H) calls)
    (hr : run (step r) (State.boot H) calls = some s) : Inv s :=
  guarded_invariant Inv (fun _ _ _ h hlive hstep => step_inv h hlive hstep) (inv_boot H) hg hr

/-- Over any run of calls the count is right and below the cap, no process has two entries, every
entry is in its bucket, and an entry goes in a sweep for want of a live task or, from a full table,
as one that was not touched later than any other. -/
theorem behavior_table_lru (H : KernelHash) (r : TickRate) {s : State H} {calls : List Call}
    (hg : Guarded (step r) Live (State.boot H) calls)
    (hr : run (step r) (State.boot H) calls = some s) :
    s.table.behavior_table_count.toNat = s.table.behavior_table.entries.length ∧
    s.table.behavior_table.entries.length ≤ MAX_BEHAVIOR_ENTRIES ∧
    (s.table.behavior_table.entries.map Entry.pid).Nodup ∧
    (∀ i, ∀ e ∈ s.table.behavior_table.chain i, H.hash_min BEHAVIOR_BITS (pid_key e.pid) = i) ∧
    ∀ c s' e, Live s c → step r s c = some s' →
      HashTable.Removed s.table.behavior_table s'.table.behavior_table e →
      (∃ now cur_start, c = .behavior_gc now cur_start ∧ cur_start e.pid = none) ∨
        s.table.behavior_table.entries.length = MAX_BEHAVIOR_ENTRIES ∧
        ∀ x, s.table.behavior_table.find? x.pid = some x →
          (s'.table.behavior_table.find? x.pid).isSome → s.touched e.pid ≤ s.touched x.pid := by
  have h := run_inv hg hr
  refine ⟨h.sound.count, h.sound.capacity, s.table.behavior_table.keys_nodup,
    s.table.behavior_table.placed, ?_⟩
  intro c s' e hlive hstep he
  rcases step_removed h hlive hstep he with hswept | ⟨-, hfull, hle⟩
  · exact Or.inl hswept
  · exact Or.inr ⟨hfull, fun x hx _ => hle x (HashTable.mem_entries.mpr hx)⟩

instance instDecidableNear (age : Nat → Nat) (e x : Entry) : Decidable (Near age e x) :=
  inferInstanceAs (Decidable (_ ∧ _))

instance instDecidableLive (s : State H) (c : Call) : Decidable (Live s c) :=
  inferInstanceAs (Decidable (∀ e ∈ s.table.behavior_table.entries,
    ∀ x ∈ s.table.behavior_table.entries, Near s.touched e x))

private def oneChain : KernelHash := ⟨fun _ => 0, fun _ _ => ⟨0, Nat.two_pow_pos _⟩⟩

/-- An exec, an unlink by another process after the counter has wrapped, and a sweep that finds
only the second one alive. -/
private def wrapped : List Call :=
  [.record_exec (2 ^ 64 - 1) true 100 (lit "/bin/a") false 7,
    .check_unlink (2 ^ 64) true 101 (lit "/tmp/b"),
    .behavior_gc (2 ^ 64 + 5) fun pid => if pid = 101 then some 7 else none]

theorem behavior_table_lru_wrapped :
    ∃ s, run (step hz1000) (State.boot oneChain) wrapped = some s ∧
      s.table.behavior_table_count.toNat = s.table.behavior_table.entries.length ∧
      s.table.behavior_table.entries.length ≤ MAX_BEHAVIOR_ENTRIES := by
  obtain ⟨s, hr⟩ : ∃ s, run (step hz1000) (State.boot oneChain) wrapped = some s :=
    Option.isSome_iff_exists.mp (by decide +kernel)
  have h := behavior_table_lru oneChain hz1000 (by decide +kernel) hr
  exact ⟨s, hr, h.1, h.2.1⟩

end Runs

end KernelAv.Kernel.BehaviorEviction
