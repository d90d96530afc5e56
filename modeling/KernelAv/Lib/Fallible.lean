/- digest: Sequences of calls that return 0 or an error code, and when all of them succeed. -/

import Mathlib.Logic.Basic

set_option autoImplicit false
set_option relaxedAutoImplicit false

namespace KernelAv.Lib.Fallible

variable {ε α β : Type}

/-- Go on when the test holds, give up with `e` otherwise. -/
def check (b : Bool) (e : ε) : Except ε Unit := if b then .ok () else .error e

/-- Give up with whatever a call returns that does not return 0. -/
def call (ret : Int) : Except Int Unit := if ret = 0 then .ok () else .error ret

/-- The calls made for the members of a list, one after the other, up to the first failure. -/
def callEach (f : α → Except ε Unit) : List α → Except ε Unit
  | [] => .ok ()
  | a :: l => f a >>= fun _ => callEach f l

theorem bind_ok_iff {x : Except ε α} {f : α → Except ε β} {b : β} :
    x >>= f = .ok b ↔ ∃ a, x = .ok a ∧ f a = .ok b := by
  cases x with
  | error e =>
    constructor
    · intro h
      cases h
    · rintro ⟨a, ha, -⟩
      cases ha
  | ok a =>
    constructor
    · intro h
      exact ⟨a, rfl, h⟩
    · rintro ⟨a', ha, h⟩
      obtain rfl := Except.ok.inj ha
      exact h

theorem then_ok_iff {x : Except ε Unit} {y : Except ε β} {b : β} :
    (x >>= fun _ => y) = .ok b ↔ x = .ok () ∧ y = .ok b := by
  rw [bind_ok_iff]
  constructor
  · rintro ⟨⟨⟩, hx, hy⟩
    exact ⟨hx, hy⟩
  · rintro ⟨hx, hy⟩
    exact ⟨(), hx, hy⟩

theorem check_ok_iff {b : Bool} {e : ε} : check b e = .ok () ↔ b = true := by
  cases b <;> simp [check]

theorem call_ok_iff {ret : Int} : call ret = .ok () ↔ ret = 0 := by
  by_cases h : ret = 0 <;> simp [call, h]

theorem callEach_ok_iff {f : α → Except ε Unit} {l : List α} :
    callEach f l = .ok () ↔ ∀ a ∈ l, f a = .ok () := by
  induction l with
  | nil => simp [callEach]
  | cons a l ih => rw [callEach, then_ok_iff, ih, List.forall_mem_cons]

end KernelAv.Lib.Fallible
