/- digest: Tables of sums: one entry for each way to pick an entry of every row. -/

import Mathlib.Algebra.Group.Nat.Defs
import Mathlib.Data.List.Basic

set_option autoImplicit false
set_option relaxedAutoImplicit false

namespace KernelAv.Lib.DigitSums

section Sums

/-- The sums of `x` and an entry of every row, the last row's entries changing fastest. -/
def sums : List (List Nat) → Nat → List Nat
  | [], x => [x]
  | p :: ps, x => p.flatMap fun a => sums ps (x + a)

/-- Whether a list begins with these sums and goes on as `k` says. -/
def begins : List (List Nat) → Nat → (List Nat → Bool) → List Nat → Bool
  | [], x, k, r =>
      match r with
      | [] => false
      | y :: r => Nat.beq x y && k r
  | p :: ps, x, k, r => p.foldr (fun a k => begins ps (Nat.add x a) k) k r

theorem begins_iff (k : List Nat → Bool) : ∀ (ps : List (List Nat)) (x : Nat) (r : List Nat),
    begins ps x k r = true ↔ ∃ rest, r = sums ps x ++ rest ∧ k rest = true := by
  intro ps
  induction ps generalizing k with
  | nil =>
      intro x r
      cases r with
      | nil => exact iff_of_false (fun h => nomatch h) fun ⟨_, h, _⟩ => nomatch h
      | cons y r =>
          rw [begins, Bool.and_eq_true, Nat.beq_eq, sums]
          constructor
          · rintro ⟨rfl, hr⟩
            exact ⟨r, rfl, hr⟩
          · rintro ⟨rest, hr, hrest⟩
            obtain ⟨rfl, rfl⟩ := List.cons.inj hr
            exact ⟨rfl, hrest⟩
  | cons p ps ih =>
      intro x
      -- Along the row, the check goes on with what is left of the row.
      have hrow : ∀ (p : List Nat) (r : List Nat),
          p.foldr (fun a k => begins ps (Nat.add x a) k) k r = true ↔
            ∃ rest, r = (p.flatMap fun a => sums ps (x + a)) ++ rest ∧ k rest = true := by
        intro p
        induction p with
        | nil => exact fun r => ⟨fun h => ⟨r, rfl, h⟩, fun ⟨_, hr, h⟩ => hr ▸ h⟩
        | cons a p ihp =>
            intro r
            rw [List.foldr_cons, ih, List.flatMap_cons]
            constructor
            · rintro ⟨rest, rfl, hrest⟩
              obtain ⟨rest', rfl, hrest'⟩ := (ihp rest).mp hrest
              exact ⟨rest', (List.append_assoc _ _ _).symm, hrest'⟩
            · rintro ⟨rest, rfl, hrest⟩
              refine ⟨_, List.append_assoc _ _ _, (ihp _).mpr ⟨rest, rfl, hrest⟩⟩
      exact hrow p

/-- A list that is these sums, no more and no less. -/
theorem begins_nil {ps : List (List Nat)} {r : List Nat}
    (h : begins ps 0 List.isEmpty r = true) : r = sums ps 0 := by
  obtain ⟨rest, rfl, hrest⟩ := (begins_iff List.isEmpty ps 0 r).mp h
  rw [List.isEmpty_iff.mp hrest, List.append_nil]

end Sums

section Entries

variable {α β : Type}

/-- The entries of blocks of one length. -/
theorem getElem?_flatMap {f : α → List β} {m : Nat} : ∀ (p : List α),
    (∀ a ∈ p, (f a).length = m) → ∀ i j, j < m →
      (p.flatMap f)[m * i + j]? = p[i]?.bind fun a => (f a)[j]?
  | [], _, _, _, _ => rfl
  | a :: p, hlen, i, j, hj => by
      have ha := hlen a List.mem_cons_self
      rw [List.flatMap_cons]
      cases i with
      | zero =>
          rw [Nat.mul_zero, Nat.zero_add, List.getElem?_append_left (by omega),
            List.getElem?_cons_zero, Option.bind_some]
      | succ i =>
          have hshift : m * (i + 1) + j = (f a).length + (m * i + j) := by
            rw [ha, Nat.mul_succ]
            omega
          rw [hshift, List.getElem?_append_right (Nat.le_add_right _ _), Nat.add_sub_cancel_left,
            List.getElem?_cons_succ]
          exact getElem?_flatMap p (fun b hb => hlen b (List.mem_cons_of_mem _ hb)) i j hj

theorem sums_length {m : Nat} : ∀ (ps : List (List Nat)), (∀ p ∈ ps, p.length = m) → ∀ x,
    (sums ps x).length = m ^ ps.length
  | [], _, _ => rfl
  | p :: ps, hlen, x => by
      have hp := hlen p List.mem_cons_self
      have hrest := sums_length ps fun q hq => hlen q (List.mem_cons_of_mem _ hq)
      rw [sums, List.length_flatMap, List.length_cons, Nat.pow_succ]
      simp only [hrest, List.map_const', List.sum_replicate_nat, hp]
      exact Nat.mul_comm _ _

/-- An entry is the sum of those that its digits pick, the first row's digit weighing most. -/
theorem sums_getElem? {m : Nat} (p : List Nat) (ps : List (List Nat)) (hp : ∀ q ∈ ps, q.length = m)
    (x i j : Nat) (hj : j < m ^ ps.length) :
    (sums (p :: ps) x)[m ^ ps.length * i + j]? = p[i]?.bind fun a => (sums ps (x + a))[j]? := by
  rw [sums]
  exact getElem?_flatMap p (fun a _ => sums_length ps hp (x + a)) i j hj

end Entries

end KernelAv.Lib.DigitSums
