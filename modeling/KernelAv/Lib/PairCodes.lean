/- digest: Texts with two symbols for each value: writing, reading, and what they undo. -/

import Mathlib.Data.List.Basic

set_option autoImplicit false
set_option relaxedAutoImplicit false

namespace KernelAv.Lib.PairCodes

variable {α β : Type} (enc : α → β × β) (dec : β → β → Option α)

/-- Two symbols for each value. -/
def write : List α → List β
  | [] => []
  | a :: l => (enc a).1 :: (enc a).2 :: write l

/-- A value for every two symbols; a symbol that is left over is none. -/
def read : List β → Option (List α)
  | [] => some []
  | [_] => none
  | x :: y :: s => (dec x y).bind fun a => (read s).map (a :: ·)

variable {enc dec}

theorem write_length (l : List α) : (write enc l).length = 2 * l.length := by
  induction l with
  | nil => rfl
  | cons a l ih =>
    simp only [write, List.length_cons, ih]
    omega

/-- What is written is read back. -/
theorem read_write (h : ∀ a, dec (enc a).1 (enc a).2 = some a) (l : List α) :
    read dec (write enc l) = some l := by
  induction l with
  | nil => rfl
  | cons a l ih => rw [write, read, h, Option.bind_some, ih, Option.map_some]

theorem read_cons {x y : β} {s : List β} {l : List α} (h : read dec (x :: y :: s) = some l) :
    ∃ a l', dec x y = some a ∧ read dec s = some l' ∧ l = a :: l' := by
  rw [read] at h
  obtain ⟨a, ha, hrest⟩ := Option.bind_eq_some_iff.mp h
  obtain ⟨l', hl', rfl⟩ := Option.map_eq_some_iff.mp hrest
  exact ⟨a, l', ha, hl', rfl⟩

theorem read_length {s : List β} {l : List α} (h : read dec s = some l) :
    s.length = 2 * l.length := by
  induction s using read.induct generalizing l with
  | case1 =>
    obtain rfl := Option.some.inj h
    rfl
  | case2 x => cases h
  | case3 x y s ih =>
    obtain ⟨a, l', -, hl', rfl⟩ := read_cons h
    rw [List.length_cons, List.length_cons, List.length_cons, ih hl']
    omega

/-- What is read is written again in the normal form of its symbols. -/
theorem write_read {norm : β → β} (h : ∀ x y a, dec x y = some a → enc a = (norm x, norm y))
    {s : List β} {l : List α} (hread : read dec s = some l) : write enc l = s.map norm := by
  induction s using read.induct generalizing l with
  | case1 =>
    obtain rfl := Option.some.inj hread
    rfl
  | case2 x => cases hread
  | case3 x y s ih =>
    obtain ⟨a, l', ha, hl', rfl⟩ := read_cons hread
    rw [write, h x y a ha, ih hl', List.map_cons, List.map_cons]

/-- A text can be read when its symbols are of the alphabet and come in pairs. -/
theorem read_isSome_iff {valid : β → Prop}
    (h : ∀ x y, (dec x y).isSome = true ↔ valid x ∧ valid y) (s : List β) :
    (read dec s).isSome = true ↔ 2 ∣ s.length ∧ ∀ x ∈ s, valid x := by
  induction s using read.induct with
  | case1 => simp [read]
  | case2 x => simp [read]
  | case3 x y s ih =>
    have hlen : 2 ∣ (x :: y :: s).length ↔ 2 ∣ s.length := by
      rw [List.length_cons, List.length_cons]
      omega
    have hboth : (read dec (x :: y :: s)).isSome = true ↔
        (dec x y).isSome = true ∧ (read dec s).isSome = true := by
      rw [read]
      cases dec x y with
      | none => simp
      | some a => simp
    rw [hboth, h, ih, hlen]
    simp only [List.forall_mem_cons]
    tauto

end KernelAv.Lib.PairCodes
