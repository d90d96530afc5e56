/- digest: Singly linked lists in a store, with a pointer to the first node and one to the last. -/

import Mathlib.Data.List.Nodup
import Mathlib.Logic.Function.Basic

set_option autoImplicit false
set_option relaxedAutoImplicit false

namespace KernelAv.Lib.LinkedLists

variable {α : Type}

/-- The nodes reached from a pointer, up to the null pointer. -/
inductive Linked (next : α → Option α) : Option α → List α → Prop
  | nil : Linked next none []
  | cons {a : α} {l : List α} (rest : Linked next (next a) l) : Linked next (some a) (a :: l)

variable {next next' : α → Option α} {p : Option α} {l l' : List α}

theorem Linked.unique (h : Linked next p l) (h' : Linked next p l') : l = l' := by
  induction h generalizing l' with
  | nil =>
    cases h'
    rfl
  | cons _ ih =>
    cases h' with
    | cons rest => rw [ih rest]

theorem Linked.head_eq (h : Linked next p l) : p = l.head? := by
  cases h <;> rfl

theorem Linked.eq_nil_iff (h : Linked next p l) : l = [] ↔ p = none := by
  cases h <;> simp

/-- A list is not changed by what happens to other nodes. -/
theorem Linked.congr (h : Linked next p l) (heq : ∀ a ∈ l, next' a = next a) :
    Linked next' p l := by
  induction h with
  | nil => exact .nil
  | @cons a l _ ih =>
    refine .cons ?_
    rw [heq a List.mem_cons_self]
    exact ih fun b hb => heq b (List.mem_cons_of_mem a hb)

theorem Linked.pop {a : α} (h : Linked next (some a) l) :
    ∃ rest, l = a :: rest ∧ Linked next (next a) rest := by
  cases h with
  | cons rest => exact ⟨_, rfl, rest⟩

/-- The list from a node that is in a list is shorter, so a list meets no node twice. -/
private theorem Linked.suffix_of_mem (h : Linked next p l) {a : α} (ha : a ∈ l) :
    ∃ m, Linked next (some a) m ∧ m <:+ l := by
  induction h with
  | nil => cases ha
  | @cons b l rest ih =>
    rcases List.mem_cons.mp ha with rfl | hmem
    · exact ⟨_, .cons rest, List.suffix_rfl⟩
    · obtain ⟨m, hm, hsuf⟩ := ih hmem
      exact ⟨m, hm, hsuf.trans (List.suffix_cons b l)⟩

theorem Linked.nodup (h : Linked next p l) : l.Nodup := by
  induction h with
  | nil => exact List.nodup_nil
  | @cons a l rest ih =>
    refine List.nodup_cons.mpr ⟨fun hmem => ?_, ih⟩
    obtain ⟨m, hm, hsuf⟩ := rest.suffix_of_mem hmem
    have hlong := hsuf.length_le
    rw [hm.unique (.cons rest), List.length_cons] at hlong
    omega

/-- A new node behind the last one. -/
theorem Linked.append [DecidableEq α] (h : Linked next p l) {a b : α} (hlast : l.getLast? = some a)
    (hnew : b ∉ l) (hb : next b = none) :
    Linked (Function.update next a (some b)) p (l ++ [b]) := by
  have hone : ∀ c, c ≠ b → Linked (Function.update next c (some b)) (some b) [b] := by
    intro c hc
    refine .cons ?_
    rw [Function.update_of_ne hc.symm, hb]
    exact .nil
  induction h with
  | nil => cases hlast
  | @cons c l rest ih =>
    have hcb : c ≠ b := fun h => hnew (h ▸ List.mem_cons_self)
    refine .cons ?_
    cases l with
    | nil =>
      obtain rfl : c = a := by simpa using hlast
      rw [Function.update_self]
      exact hone c hcb
    | cons d l =>
      rw [List.getLast?_cons_cons] at hlast
      have hca : c ≠ a := by
        rintro rfl
        exact (List.nodup_cons.mp (Linked.cons rest).nodup).1 (List.mem_of_getLast? hlast)
      rw [Function.update_of_ne hca]
      exact ih hlast fun h => hnew (List.mem_cons_of_mem c h)

end KernelAv.Lib.LinkedLists
