/- digest: Runs whose indices, sums, differences and quotients are checked. -/

import Mathlib.Data.List.Basic

set_option autoImplicit false
set_option relaxedAutoImplicit false

namespace KernelAv.Lib.Checked

/-- What a checked step can fall over: an index, a word's range, a division, too many rounds. -/
inductive Fault where
  | index
  | overflow
  | zero
  | rounds
deriving DecidableEq, Repr

abbrev Run (α : Type) := Except Fault α

section Steps

variable {α : Type} {n : Nat}

/-- `xs[i]`. -/
def read (xs : Vector α n) (i : Nat) : Run α :=
  if h : i < n then .ok (xs.get ⟨i, h⟩) else .error .index

/-- `xs[i] = x`. -/
def write (xs : Vector α n) (i : Nat) (x : α) : Run (Vector α n) :=
  if h : i < n then .ok (xs.set i x h) else .error .index

/-- `xs[i]`, of a table. -/
def entry (xs : List α) (i : Nat) : Run α :=
  if h : i < xs.length then .ok (xs.get ⟨i, h⟩) else .error .index

/-- `xs[xs_len++] = x`, in an array of `cap` places. -/
def push (cap : Nat) (xs : List α) (x : α) : Run (List α) :=
  if xs.length < cap then .ok (xs ++ [x]) else .error .index

/-- A value that has to stay below a bound. -/
def below (bound v : Nat) : Run Nat := if v < bound then .ok v else .error .overflow

/-- `a - b`. -/
def minus (a b : Nat) : Run Nat := if b ≤ a then .ok (a - b) else .error .overflow

/-- `a / b`. -/
def quotient (a b : Nat) : Run Nat := if b = 0 then .error .zero else .ok (a / b)

theorem read_ok {xs : Vector α n} {i : Nat} (hi : i < n) (d : α) :
    read xs i = .ok (xs.getD i d) := by
  have hget : xs.get ⟨i, hi⟩ = xs.getD i d := by
    rw [Vector.getD, Array.getD_eq_getD_getElem?, Vector.getElem?_toArray,
      Vector.getElem?_eq_getElem hi, Option.getD_some]
    rfl
  rw [read, dif_pos hi, hget]

theorem write_ok {xs : Vector α n} {i : Nat} (hi : i < n) (x : α) :
    write xs i x = .ok (xs.setIfInBounds i x) := by
  have hset : xs.set i x hi = xs.setIfInBounds i x := by
    ext j hj
    rw [Vector.getElem_set, Vector.getElem_setIfInBounds]
  rw [write, dif_pos hi, hset]

theorem entry_ok {xs : List α} {i : Nat} (hi : i < xs.length) (d : α) :
    entry xs i = .ok (xs.getD i d) := by
  have hget : xs.get ⟨i, hi⟩ = xs.getD i d := by
    rw [List.getD_eq_getElem?_getD, List.getElem?_eq_getElem hi, Option.getD_some]
    rfl
  rw [entry, dif_pos hi, hget]

theorem push_ok {cap : Nat} {xs : List α} (h : xs.length < cap) (x : α) :
    push cap xs x = .ok (xs ++ [x]) := if_pos h

theorem below_ok {bound v : Nat} (h : v < bound) : below bound v = .ok v := if_pos h

theorem minus_ok {a b : Nat} (h : b ≤ a) : minus a b = .ok (a - b) := if_pos h

theorem quotient_ok {a b : Nat} (h : b ≠ 0) : quotient a b = .ok (a / b) := if_neg h

end Steps

section Runs

variable {α β : Type}

@[simp] theorem ok_bind (a : α) (f : α → Run β) : (Except.ok a >>= f) = f a := rfl

/-- A checked loop does the rounds of the plain one, as long as what it relies on lasts. -/
theorem foldlM_ok {f : β → α → β} {g : β → α → Run β} {P : List α → β → Prop}
    (hround : ∀ x xs s, P (x :: xs) s → g s x = .ok (f s x) ∧ P xs (f s x)) :
    ∀ xs s, P xs s → xs.foldlM g s = .ok (xs.foldl f s)
  | [], _, _ => rfl
  | x :: xs, s, hs => by
      obtain ⟨hx, hnext⟩ := hround x xs s hs
      rw [List.foldlM_cons, hx, ok_bind, List.foldl_cons]
      exact foldlM_ok hround xs _ hnext

/-- The run that has no value for a loop without end. -/
def ofOption : Option α → Run α
  | some a => .ok a
  | none => .error .rounds

end Runs

end KernelAv.Lib.Checked
