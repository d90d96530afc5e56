/- digest: The protected-path table: add, delete, and the list of paths it stands for. -/

import KernelAv.Kernel.Kill
import KernelAv.Kernel.TrustTable

set_option autoImplicit false
set_option relaxedAutoImplicit false

namespace KernelAv.Kernel.ProtectTable

open KernelAv.Lib.CText
open KernelAv.Lib.Chains
open KernelAv.Kernel.Paths
open KernelAv.Kernel.BehaviorTable (KernelHash)
open KernelAv.Kernel.TrustTable (TRUST_BITS EINVAL ENOMEM EEXIST ENOENT)

variable (H : KernelHash)

def path_key (path : Bytes) : UInt32 := H.full_name_hash path

def protectBucket (path : Bytes) : Fin (2 ^ TRUST_BITS) := H.hash_min TRUST_BITS (path_key H path)

/-- The entries of `protected_table` are their paths. -/
abbrev Table := HashTable (fun path : Bytes => path) (protectBucket H)

variable {H}

/-- The walk over the chain of a path. -/
def onList (t : Table H) (path : Bytes) : Bool :=
  (t.chain (protectBucket H path)).any fun e => e == path

private theorem absent_of_unlisted {t : Table H} {path : Bytes} (h : onList t path = false) :
    t.find? path = none := by
  apply HashTable.find?_eq_none.mpr
  rintro e he rfl
  exact absurd (List.any_eq_false.mp h e he) (by simp)

def av_behavior_protect_add (t : Table H) (kmalloc_ok : Bool) (path : Bytes) : Int × Table H :=
  if path.head? ≠ some slash ∨ PATH_MAX ≤ path.length then (-EINVAL, t)
  else if !kmalloc_ok then (-ENOMEM, t)
  else
    let path := strscpy PATH_MAX path
    if h : onList t path = false then (0, t.add path (absent_of_unlisted h))
    else (-EEXIST, t)

def av_behavior_protect_del (t : Table H) (path : Bytes) : Int × Table H :=
  if onList t path then (0, t.del path) else (-ENOENT, t)

theorem onList_iff {t : Table H} {path : Bytes} :
    onList t path = true ↔ t.find? path = some path := by
  rw [onList, List.any_eq_true, HashTable.find?_eq_some]
  constructor
  · rintro ⟨e, he, heq⟩
    obtain rfl := beq_iff_eq.mp heq
    exact ⟨he, rfl⟩
  · rintro ⟨he, -⟩
    exact ⟨path, he, by simp⟩

/-- The lookup of the kill paths, on the list of the entries. -/
theorem onList_eq (t : Table H) (path : Bytes) :
    onList t path = Kill.path_is_on_protected_list t.entries path := by
  rw [Bool.eq_iff_iff, onList_iff, Kill.path_is_on_protected_list, List.contains_iff_mem,
    HashTable.mem_entries]

/-- An addition lists its path, and no other, when it succeeds. -/
theorem protect_add_spec (t : Table H) (ok : Bool) (path : Bytes) :
    ((av_behavior_protect_add t ok path).1 = 0 ∧ t.find? path = none ∧
      ∀ p, (av_behavior_protect_add t ok path).2.find? p =
        if p = path then some path else t.find? p) ∨
    (av_behavior_protect_add t ok path).1 < 0 ∧ (av_behavior_protect_add t ok path).2 = t := by
  unfold av_behavior_protect_add
  split
  · exact Or.inr ⟨show -EINVAL < 0 by decide, rfl⟩
  · rename_i hvalid
    have htake : strscpy PATH_MAX path = path := by
      apply strscpy_eq_self
      by_contra hlong
      exact hvalid (Or.inr (by omega))
    split
    · exact Or.inr ⟨show -ENOMEM < 0 by decide, rfl⟩
    · dsimp only
      split
      · rename_i hnew
        refine Or.inl ⟨rfl, ?_, ?_⟩
        · rw [htake] at hnew
          exact absent_of_unlisted hnew
        · intro p
          rw [HashTable.find?_add, htake]
      · exact Or.inr ⟨show -EEXIST < 0 by decide, rfl⟩

/-- A deletion takes its path, and no other, off the list when it succeeds. -/
theorem protect_del_spec (t : Table H) (path : Bytes) :
    ((av_behavior_protect_del t path).1 = 0 ∧ t.find? path = some path ∧
      ∀ p, (av_behavior_protect_del t path).2.find? p = if p = path then none else t.find? p) ∨
    (av_behavior_protect_del t path).1 < 0 ∧ (av_behavior_protect_del t path).2 = t := by
  unfold av_behavior_protect_del
  split
  · rename_i hlisted
    exact Or.inl ⟨rfl, onList_iff.mp hlisted, fun p => HashTable.find?_del⟩
  · exact Or.inr ⟨show -ENOENT < 0 by decide, rfl⟩

end KernelAv.Kernel.ProtectTable
