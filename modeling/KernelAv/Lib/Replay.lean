/- digest: Entries offered one after another to a partial map that keeps what it has. -/

import Mathlib.Data.List.Nodup
import Mathlib.Logic.Function.Basic

set_option autoImplicit false
set_option relaxedAutoImplicit false

namespace KernelAv.Lib.Replay

variable {κ α : Type} [DecidableEq κ] (key : α → κ)

/-- An entry is taken if its key is free. -/
def offer (m : κ → Option α) (e : α) : κ → Option α :=
  if (m (key e)).isSome then m else Function.update m (key e) (some e)

/-- The list holds the entries of the map, each under its key. -/
def Enumerates (l : List α) (m : κ → Option α) : Prop :=
  ∀ k e, m k = some e ↔ e ∈ l ∧ key e = k

variable {key} {m s : κ → Option α} {l : List α} {e : α} {k : κ}

theorem offer_of_some (h : (m (key e)).isSome = true) : offer key m e = m := if_pos h

theorem offer_apply (m : κ → Option α) (e : α) (k : κ) :
    offer key m e k = (m k).or (if key e = k then some e else none) := by
  unfold offer
  by_cases hk : key e = k
  · subst hk
    cases hm : m (key e) with
    | some x => simp [hm]
    | none => simp
  · rw [if_neg hk, Option.or_none]
    split
    · rfl
    · exact Function.update_of_ne (Ne.symm hk) _ _

/-- What the map had, and of the offers the first one for each key that was free. -/
theorem offers_apply (m : κ → Option α) (l : List α) (k : κ) :
    l.foldl (offer key) m k = (m k).or (l.find? fun e => key e = k) := by
  induction l generalizing m with
  | nil => simp
  | cons e l ih =>
    rw [List.foldl_cons, ih, offer_apply, Option.or_assoc, List.find?_cons]
    by_cases hk : key e = k
    · simp [hk]
    · simp [hk]

/-- What the map had stays. -/
theorem offers_keep (h : m k = some e) : l.foldl (offer key) m k = some e := by
  rw [offers_apply, h, Option.some_or]

/-- The entries of a map, offered to another, give that map exactly when the other had no entry
beyond it. -/
theorem offers_restore_iff (h : Enumerates key l s) :
    l.foldl (offer key) m = s ↔ ∀ k e, m k = some e → s k = some e := by
  constructor
  · intro heq k e hm
    rw [← heq]
    exact offers_keep hm
  · intro hsub
    funext k
    rw [offers_apply]
    cases hm : m k with
    | some e => exact (hsub k e hm).symm
    | none =>
      rw [Option.none_or]
      apply Option.ext
      intro e
      constructor
      · intro hfind
        have hkey : key e = k := by simpa using List.find?_some hfind
        exact (h k e).mpr ⟨List.mem_of_find?_eq_some hfind, hkey⟩
      · intro hs
        obtain ⟨he, hkey⟩ := (h k e).mp hs
        cases hfind : l.find? fun x => key x = k with
        | none => exact absurd hkey (by simpa using List.find?_eq_none.mp hfind e he)
        | some x =>
          have hx : key x = k := by simpa using List.find?_some hfind
          have hsx := (h k x).mpr ⟨List.mem_of_find?_eq_some hfind, hx⟩
          exact hsx.symm.trans hs

end KernelAv.Lib.Replay
