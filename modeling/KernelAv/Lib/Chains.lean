/- digest: Chained hash tables without duplicate keys, read as partial maps. -/

import Mathlib.Data.List.FinRange
import Mathlib.Data.List.Nodup
import Mathlib.Logic.Function.Basic

set_option autoImplicit false
set_option relaxedAutoImplicit false

namespace KernelAv.Lib.Chains

/-- Every entry stands in the chain of its key, and no two entries of a chain have one key. -/
structure HashTable {κ α : Type} {n : Nat} (key : α → κ) (bucket : κ → Fin n) where
  chain : Fin n → List α
  placed : ∀ i, ∀ e ∈ chain i, bucket (key e) = i
  nodup : ∀ i, ((chain i).map key).Nodup

section Lists

variable {κ α : Type} {key : α → κ}

private theorem find?_of_mem [DecidableEq κ] {l : List α} {e : α} (hl : (l.map key).Nodup)
    (he : e ∈ l) :
    l.find? (fun x => key x = key e) = some e := by
  induction l with
  | nil => cases he
  | cons a l ih =>
    obtain ⟨hnot, hl⟩ := List.nodup_cons.mp hl
    rcases List.mem_cons.mp he with rfl | he
    · simp
    · have hne : key a ≠ key e := fun h => hnot (h ▸ List.mem_map_of_mem he)
      rw [List.find?_cons_of_neg (by simpa using hne)]
      exact ih hl he

private theorem nodup_map_replace [DecidableEq κ] (l : List α) (e : α) :
    (l.map fun x => if key x = key e then e else x).map key = l.map key := by
  rw [List.map_map]
  apply List.map_congr_left
  intro x _
  simp only [Function.comp_apply]
  split
  · rename_i h
    exact h.symm
  · rfl

private theorem sublist_filterMap {f : α → Option α} (hf : ∀ e x, f e = some x → key x = key e)
    (l : List α) : ((l.filterMap f).map key).Sublist (l.map key) := by
  induction l with
  | nil => exact List.Sublist.refl _
  | cons a l ih =>
    cases ha : f a with
    | none =>
      rw [List.filterMap_cons_none ha]
      exact ih.cons _
    | some x =>
      rw [List.filterMap_cons_some ha, List.map_cons, List.map_cons, hf a x ha]
      exact ih.cons_cons _

end Lists

namespace HashTable

variable {κ α : Type} {n : Nat} {key : α → κ} {bucket : κ → Fin n}

@[ext] theorem ext {t u : HashTable key bucket} (h : ∀ i, t.chain i = u.chain i) : t = u := by
  obtain ⟨c, _, _⟩ := t
  obtain ⟨d, _, _⟩ := u
  obtain rfl : c = d := funext h
  rfl

def empty : HashTable key bucket where
  chain := fun _ => []
  placed := fun _ _ h => absurd h List.not_mem_nil
  nodup := fun _ => List.nodup_nil

/-- The entries in the order in which a walk over the whole table meets them. -/
def entries (t : HashTable key bucket) : List α := (List.finRange n).flatMap t.chain

theorem keys_nodup (t : HashTable key bucket) : (t.entries.map key).Nodup := by
  rw [entries, List.map_flatMap, List.nodup_flatMap]
  refine ⟨fun i _ => t.nodup i, ?_⟩
  refine (List.nodup_finRange n).imp ?_
  intro i j hij k hi hj
  obtain ⟨e, he, rfl⟩ := List.mem_map.mp hi
  obtain ⟨x, hx, hkey⟩ := List.mem_map.mp hj
  have hb := t.placed j x hx
  rw [hkey, t.placed i e he] at hb
  exact hij hb

theorem entries_nodup (t : HashTable key bucket) : t.entries.Nodup :=
  t.keys_nodup.of_map key

variable [DecidableEq κ]

def find? (t : HashTable key bucket) (k : κ) : Option α :=
  (t.chain (bucket k)).find? fun e => key e = k

variable {t : HashTable key bucket} {k : κ} {e : α}

theorem find?_eq_some : t.find? k = some e ↔ e ∈ t.chain (bucket k) ∧ key e = k := by
  constructor
  · intro h
    exact ⟨List.mem_of_find?_eq_some h, by simpa using List.find?_some h⟩
  · rintro ⟨hmem, rfl⟩
    exact find?_of_mem (t.nodup _) hmem

theorem find?_eq_none : t.find? k = none ↔ ∀ e ∈ t.chain (bucket k), key e ≠ k := by
  rw [find?, List.find?_eq_none]
  simp

theorem key_of_find? (h : t.find? k = some e) : key e = k := (find?_eq_some.mp h).2

theorem mem_chain {i : Fin n} : e ∈ t.chain i ↔ i = bucket (key e) ∧ t.find? (key e) = some e := by
  rw [find?_eq_some]
  constructor
  · intro h
    have hi := t.placed i e h
    exact ⟨hi.symm, by rw [hi]; exact h, rfl⟩
  · rintro ⟨rfl, h, -⟩
    exact h

theorem mem_entries : e ∈ t.entries ↔ t.find? (key e) = some e := by
  rw [entries, List.mem_flatMap]
  constructor
  · rintro ⟨i, -, h⟩
    exact (mem_chain.mp h).2
  · intro h
    exact ⟨bucket (key e), List.mem_finRange _, (find?_eq_some.mp h).1⟩

@[simp] theorem find?_empty : (empty : HashTable key bucket).find? k = none := rfl

/-- A new entry goes to the head of its chain. -/
def add (t : HashTable key bucket) (e : α) (h : t.find? (key e) = none) :
    HashTable key bucket where
  chain := Function.update t.chain (bucket (key e)) (e :: t.chain (bucket (key e)))
  placed := by
    intro i x hx
    by_cases hi : i = bucket (key e)
    · subst hi
      rw [Function.update_self] at hx
      rcases List.mem_cons.mp hx with rfl | hx
      · rfl
      · exact t.placed _ x hx
    · rw [Function.update_of_ne hi] at hx
      exact t.placed i x hx
  nodup := by
    intro i
    by_cases hi : i = bucket (key e)
    · subst hi
      rw [Function.update_self, List.map_cons, List.nodup_cons]
      refine ⟨?_, t.nodup _⟩
      intro hmem
      obtain ⟨x, hx, hkey⟩ := List.mem_map.mp hmem
      exact find?_eq_none.mp h x hx hkey
    · rw [Function.update_of_ne hi]
      exact t.nodup i

theorem find?_add {h : t.find? (key e) = none} :
    (t.add e h).find? k = if k = key e then some e else t.find? k := by
  apply Option.ext
  intro x
  show (t.add e h).find? k = some x ↔ _
  rw [find?_eq_some]
  by_cases hk : k = key e
  · subst hk
    rw [if_pos rfl]
    simp only [add, Function.update_self, List.mem_cons, Option.some.injEq]
    constructor
    · rintro ⟨rfl | hx, hkey⟩
      · rfl
      · exact absurd hkey (find?_eq_none.mp h x hx)
    · rintro rfl
      exact ⟨Or.inl rfl, rfl⟩
  · rw [if_neg hk, find?_eq_some]
    by_cases hb : bucket k = bucket (key e)
    · simp only [add, hb, Function.update_self, List.mem_cons]
      constructor
      · rintro ⟨rfl | hx, hkey⟩
        · exact absurd hkey.symm hk
        · exact ⟨hx, hkey⟩
      · rintro ⟨hx, hkey⟩
        exact ⟨Or.inr hx, hkey⟩
    · simp only [add, Function.update_of_ne hb]

/-- The entry that has the key of `e` becomes `e`, in its place. -/
def put (t : HashTable key bucket) (e : α) : HashTable key bucket where
  chain := fun i => (t.chain i).map fun x => if key x = key e then e else x
  placed := by
    intro i x hx
    obtain ⟨y, hy, rfl⟩ := List.mem_map.mp hx
    split
    · rename_i hkey
      rw [← hkey]
      exact t.placed i y hy
    · exact t.placed i y hy
  nodup := by
    intro i
    rw [nodup_map_replace]
    exact t.nodup i

theorem find?_put : (t.put e).find? k = if k = key e then (t.find? k).map fun _ => e
    else t.find? k := by
  apply Option.ext
  intro x
  show (t.put e).find? k = some x ↔ _
  rw [find?_eq_some]
  simp only [put, List.mem_map]
  by_cases hk : k = key e
  · subst hk
    rw [if_pos rfl, Option.map_eq_some_iff]
    simp only [find?_eq_some]
    constructor
    · rintro ⟨⟨y, hy, rfl⟩, hkey⟩
      by_cases hye : key y = key e
      · exact ⟨y, ⟨hy, hye⟩, by rw [if_pos hye]⟩
      · rw [if_neg hye] at hkey
        exact absurd hkey hye
    · rintro ⟨y, ⟨hy, hye⟩, rfl⟩
      exact ⟨⟨y, hy, by rw [if_pos hye]⟩, rfl⟩
  · rw [if_neg hk, find?_eq_some]
    constructor
    · rintro ⟨⟨y, hy, rfl⟩, hkey⟩
      by_cases hye : key y = key e
      · rw [if_pos hye] at hkey
        exact absurd hkey.symm hk
      · rw [if_neg hye] at hkey ⊢
        exact ⟨hy, hkey⟩
    · rintro ⟨hx, hkey⟩
      have hne : key x ≠ key e := fun h => hk (hkey.symm.trans h)
      exact ⟨⟨x, hx, by rw [if_neg hne]⟩, hkey⟩

theorem find?_put_self {x : α} (h : t.find? (key e) = some x) :
    (t.put e).find? (key e) = some e := by
  rw [find?_put, if_pos rfl, h]
  rfl

/-- A walk over the whole table that keeps, changes or unlinks each entry. -/
def sweep (t : HashTable key bucket) (f : α → Option α)
    (hf : ∀ e x, f e = some x → key x = key e) : HashTable key bucket where
  chain := fun i => (t.chain i).filterMap f
  placed := by
    intro i x hx
    obtain ⟨y, hy, hyx⟩ := List.mem_filterMap.mp hx
    rw [hf y x hyx]
    exact t.placed i y hy
  nodup := fun i => (t.nodup i).sublist (sublist_filterMap hf _)

theorem find?_sweep {f : α → Option α} {hf : ∀ e x, f e = some x → key x = key e} :
    (t.sweep f hf).find? k = (t.find? k).bind f := by
  apply Option.ext
  intro x
  show (t.sweep f hf).find? k = some x ↔ _
  rw [find?_eq_some, Option.bind_eq_some_iff]
  simp only [sweep, List.mem_filterMap, find?_eq_some]
  constructor
  · rintro ⟨⟨y, hy, hyx⟩, hkey⟩
    exact ⟨y, ⟨hy, (hf y x hyx).symm.trans hkey⟩, hyx⟩
  · rintro ⟨y, ⟨hy, hkey⟩, hyx⟩
    exact ⟨⟨y, hy, hyx⟩, (hf y x hyx).trans hkey⟩

def del (t : HashTable key bucket) (k : κ) : HashTable key bucket :=
  t.sweep (fun e => if key e = k then none else some e) (by
    intro e x h
    split at h
    · cases h
    · rw [Option.some.inj h])

theorem find?_del {k' : κ} : (t.del k).find? k' = if k' = k then none else t.find? k' := by
  rw [del, find?_sweep]
  cases hfind : t.find? k' with
  | none => simp
  | some e => rw [Option.bind_some, key_of_find? hfind]

/-! How many entries there are. -/

theorem length_entries_add (h : t.find? (key e) = none) :
    (t.add e h).entries.length = t.entries.length + 1 := by
  have hnot : e ∉ t.entries := fun hmem => by
    rw [mem_entries.mp hmem] at h
    cases h
  have hperm : (t.add e h).entries.Perm (e :: t.entries) := by
    refine (List.perm_ext_iff_of_nodup (entries_nodup _) (t.entries_nodup.cons hnot)).mpr
      fun x => ?_
    rw [List.mem_cons, mem_entries, mem_entries, find?_add]
    by_cases hx : key x = key e
    · rw [if_pos hx, hx, h]
      simp [eq_comm]
    · rw [if_neg hx]
      have hne : x ≠ e := fun heq => hx (heq ▸ rfl)
      simp [hne]
  rw [hperm.length_eq, List.length_cons]

theorem entries_put (t : HashTable key bucket) (e : α) :
    (t.put e).entries = t.entries.map fun x => if key x = key e then e else x := by
  rw [entries, entries, List.map_flatMap]
  rfl

omit [DecidableEq κ] in
theorem entries_sweep (t : HashTable key bucket) (f : α → Option α)
    (hf : ∀ e x, f e = some x → key x = key e) :
    (t.sweep f hf).entries = t.entries.filterMap f := by
  rw [entries, entries, List.filterMap_flatMap]
  rfl

theorem length_entries_del (h : t.find? k = some e) :
    (t.del k).entries.length + 1 = t.entries.length := by
  have hkey := key_of_find? h
  have hnot : e ∉ (t.del k).entries := fun hmem => by
    have hfind := mem_entries.mp hmem
    rw [hkey, find?_del, if_pos rfl] at hfind
    cases hfind
  have hperm : t.entries.Perm (e :: (t.del k).entries) := by
    refine (List.perm_ext_iff_of_nodup t.entries_nodup ((entries_nodup _).cons hnot)).mpr
      fun x => ?_
    rw [List.mem_cons, mem_entries, mem_entries, find?_del]
    by_cases hx : key x = k
    · rw [if_pos hx, hx, h]
      simp [eq_comm]
    · rw [if_neg hx]
      have hne : x ≠ e := fun heq => hx (heq ▸ hkey)
      simp [hne]
  rw [hperm.length_eq, List.length_cons]

theorem mem_of_inserted {u : HashTable key bucket} {x : α}
    (hu : ∀ k, u.find? k = if k = key e then some e else t.find? k) (hx : x ∈ u.entries) :
    x = e ∨ x ∈ t.entries := by
  have hfind := mem_entries.mp hx
  rw [hu] at hfind
  split at hfind
  · exact .inl (Option.some.inj hfind).symm
  · exact .inr (mem_entries.mpr hfind)

theorem mem_of_deleted {u : HashTable key bucket} {x : α}
    (hu : ∀ k, u.find? k = if k = key e then none else t.find? k) (hx : x ∈ u.entries) :
    x ∈ t.entries := by
  have hfind := mem_entries.mp hx
  rw [hu] at hfind
  split at hfind
  · cases hfind
  · exact mem_entries.mpr hfind

/-- The entry is in the second table and its key is not in the first. -/
def Added (t u : HashTable key bucket) (e : α) : Prop :=
  t.find? (key e) = none ∧ u.find? (key e) = some e

/-- The entry is in the first table and its key is not in the second. -/
def Removed (t u : HashTable key bucket) (e : α) : Prop :=
  t.find? (key e) = some e ∧ u.find? (key e) = none

/-- The second table is the first with the entry, whose key was free. -/
def Inserts (t u : HashTable key bucket) (e : α) : Prop :=
  t.find? (key e) = none ∧ ∀ k, u.find? k = if k = key e then some e else t.find? k

/-- The second table is the first without the entry, which was there. -/
def Deletes (t u : HashTable key bucket) (e : α) : Prop :=
  t.find? (key e) = some e ∧ ∀ k, u.find? k = if k = key e then none else t.find? k

theorem Inserts.unique {u : HashTable key bucket} {x : α} (h : Inserts t u e)
    (hx : Inserts t u x) : x = e := by
  have hfound := hx.2 (key x)
  rw [if_pos rfl, h.2] at hfound
  split at hfound
  · exact (Option.some.inj hfound).symm
  · rw [hx.1] at hfound
    cases hfound

theorem Deletes.unique {u : HashTable key bucket} {x : α} (h : Deletes t u e)
    (hx : Deletes t u x) : x = e := by
  have hgone := hx.2 (key x)
  rw [if_pos rfl, h.2] at hgone
  split at hgone
  · rename_i hkey
    have hsome := hx.1
    rw [hkey, h.1] at hsome
    exact (Option.some.inj hsome).symm
  · rw [hx.1] at hgone
    cases hgone

theorem added_iff {u : HashTable key bucket} (h : t.find? (key e) = none)
    (hu : ∀ k, u.find? k = if k = key e then some e else t.find? k) (x : α) :
    Added t u x ↔ x = e := by
  constructor
  · rintro ⟨hnone, hsome⟩
    rw [hu] at hsome
    split at hsome
    · exact (Option.some.inj hsome).symm
    · rw [hnone] at hsome
      cases hsome
  · rintro rfl
    exact ⟨h, by rw [hu, if_pos rfl]⟩

theorem removed_iff {u : HashTable key bucket} (h : t.find? (key e) = some e)
    (hu : ∀ k, u.find? k = if k = key e then none else t.find? k) (x : α) :
    Removed t u x ↔ x = e := by
  constructor
  · rintro ⟨hsome, hnone⟩
    rw [hu] at hnone
    split at hnone
    · rename_i hkey
      rw [hkey, h] at hsome
      exact (Option.some.inj hsome).symm
    · rw [hsome] at hnone
      cases hnone
  · rintro rfl
    exact ⟨h, by rw [hu, if_pos rfl]⟩

end HashTable

end KernelAv.Lib.Chains
