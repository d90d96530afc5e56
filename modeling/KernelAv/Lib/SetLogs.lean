/- digest: A log of additions and deletions, and the set that it comes to. -/

import Mathlib.Data.List.Basic

set_option autoImplicit false
set_option relaxedAutoImplicit false

namespace KernelAv.Lib.SetLogs

variable {κ : Type} [DecidableEq κ]

/-- A key that was added or deleted. -/
structure Change (κ : Type) where
  key : κ
  added : Bool

/-- Whether the last change of the key added it; the log has its oldest change first. -/
def lastAdded (log : List (Change κ)) (k : κ) : Bool :=
  (log.filter fun c => c.key = k).getLast?.any Change.added

@[simp] theorem lastAdded_nil (k : κ) : lastAdded [] k = false := rfl

theorem lastAdded_snoc (log : List (Change κ)) (c : Change κ) (k : κ) :
    lastAdded (log ++ [c]) k = if c.key = k then c.added else lastAdded log k := by
  rw [lastAdded, List.filter_append]
  split
  · rename_i hkey
    rw [List.filter_cons_of_pos (by simpa using hkey), List.filter_nil, List.getLast?_append]
    rfl
  · rename_i hkey
    rw [List.filter_cons_of_neg (by simpa using hkey), List.filter_nil, List.append_nil, lastAdded]

/-- The keys of a map keep to a log when a change of one key leaves there what the log says. -/
theorem follows_snoc {α : Type} {log : List (Change κ)} {key : κ} {x : Option α}
    {find find' : κ → Option α} (h : ∀ k, (find k).isSome = true ↔ lastAdded log k = true)
    (hfind : ∀ k, find' k = if k = key then x else find k) (k : κ) :
    (find' k).isSome = true ↔ lastAdded (log ++ [⟨key, x.isSome⟩]) k = true := by
  rw [hfind, lastAdded_snoc]
  by_cases hk : k = key
  · rw [if_pos hk, if_pos hk.symm]
  · rw [if_neg hk, if_neg (Ne.symm hk)]
    exact h k

end KernelAv.Lib.SetLogs
