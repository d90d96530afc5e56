/- digest: Ring buffers keep the newest entries of a log, and a log may be told what to skip. -/

import Mathlib.Data.List.Rotate

set_option autoImplicit false
set_option relaxedAutoImplicit false

namespace KernelAv.Lib.Ring

variable {α : Type} {cap : Nat} {slots log : List α} {next filled : Nat}

/-- The valid slots, read from the cursor on, are the newest `cap` entries of the log (which is
written newest first), oldest first. -/
structure Holds (cap : Nat) (slots : List α) (next filled : Nat) (log : List α) : Prop where
  size : slots.length = cap
  next_lt : next < cap
  filled_le : filled ≤ cap
  cursor : filled < cap → next = filled
  order : (slots.take filled).rotate next = (log.take cap).reverse

theorem holds_nil (hcap : 0 < cap) (hs : slots.length = cap) : Holds cap slots 0 0 ([] : List α) :=
  ⟨hs, hcap, Nat.zero_le _, fun _ => rfl, by simp⟩

/-- Whatever order the slots are scanned in, they are the newest entries of the log. -/
theorem Holds.perm (h : Holds cap slots next filled log) :
    (slots.take filled).Perm (log.take cap) := by
  have hrot := List.rotate_perm (slots.take filled) next
  rw [h.order] at hrot
  exact hrot.symm.trans (List.reverse_perm _)

private theorem rotate_self {l : List α} {n : Nat} (h : l.length = n) : l.rotate n = l := by
  rw [← h, List.rotate_length]

private theorem take_set_cursor (x : α) (h : next < slots.length) :
    (slots.set next x).take (next + 1) = slots.take next ++ [x] := by
  rw [List.take_add_one, List.take_set_of_le le_rfl]
  simp [h]

theorem Holds.length_of_filling (h : Holds cap slots next filled log) (hf : filled < cap) :
    log.length = filled := by
  have hlen := h.perm.length_eq
  rw [List.length_take, List.length_take, h.size] at hlen
  omega

private theorem push_filling (x : α) (h : Holds cap slots next filled log) (hf : filled < cap) :
    Holds cap (slots.set next x) ((next + 1) % cap) (filled + 1) (x :: log) := by
  obtain rfl := h.cursor hf
  have hlen : log.length = next := h.length_of_filling hf
  have hsize := h.size
  have hold : slots.take next = log.reverse := by
    have hself : (slots.take next).rotate next = slots.take next :=
      rotate_self (by rw [List.length_take]; omega)
    rw [← hself, h.order, List.take_of_length_le (l := log) (by omega)]
  have hvalid : ((slots.set next x).take (next + 1)).length = next + 1 := by
    rw [List.length_take, List.length_set]
    omega
  have hrot : ((slots.set next x).take (next + 1)).rotate ((next + 1) % cap) =
      (slots.set next x).take (next + 1) := by
    rcases Nat.lt_or_ge (next + 1) cap with hlt | hge
    · rw [Nat.mod_eq_of_lt hlt, rotate_self hvalid]
    · obtain rfl : cap = next + 1 := by omega
      rw [Nat.mod_self, List.rotate_zero]
  refine ⟨by rw [List.length_set, hsize], Nat.mod_lt _ (by omega), hf, ?_, ?_⟩
  · intro hlt
    exact Nat.mod_eq_of_lt hlt
  · rw [hrot, take_set_cursor x (by omega), hold, List.take_of_length_le (by simp; omega),
      List.reverse_cons]

private theorem push_full (x : α) (h : Holds cap slots next filled log) (hf : filled = cap) :
    Holds cap (slots.set next x) ((next + 1) % cap) filled (x :: log) := by
  have hsize := h.size
  have hn := h.next_lt
  have hall : ∀ l : List α, l.length = cap → l.take filled = l := by
    intro l hl
    exact List.take_of_length_le (by omega)
  have hset : (slots.set next x).length = cap := by rw [List.length_set, hsize]
  have hdrop : slots.drop next = slots[next] :: slots.drop (next + 1) :=
    List.drop_eq_getElem_cons (by omega)
  -- the cursor stands on the oldest entry, so the write drops exactly that one
  have hcut : slots.drop (next + 1) ++ slots.take next = ((log.take cap).reverse).tail := by
    have horder := h.order
    rw [hall slots hsize, List.rotate_eq_drop_append_take (by omega), hdrop] at horder
    rw [← horder]
    rfl
  have hrot : (slots.set next x).rotate ((next + 1) % cap) =
      slots.drop (next + 1) ++ slots.take next ++ [x] := by
    rw [← hset, List.rotate_mod, List.rotate_eq_drop_append_take (by omega),
      take_set_cursor x (by omega), List.drop_set_of_lt (Nat.lt_succ_self _), List.append_assoc]
  have hnew : ((x :: log).take cap).reverse = ((log.take cap).reverse).tail ++ [x] := by
    obtain ⟨k, rfl⟩ : ∃ k, cap = k + 1 := ⟨cap - 1, by omega⟩
    have hlen := h.perm.length_eq
    rw [List.length_take, List.length_take, hsize] at hlen
    have hdrop : log.take k = (log.take (k + 1)).dropLast := by
      rw [List.dropLast_eq_take, List.length_take, List.take_take]
      congr 1
      omega
    rw [List.take_succ_cons, List.reverse_cons, List.tail_reverse, hdrop]
  refine ⟨hset, Nat.mod_lt _ (by omega), h.filled_le, fun hlt => absurd hf (by omega), ?_⟩
  rw [hall _ hset, hrot, hcut, hnew]

/-- A write at the cursor is a push on the log. -/
theorem Holds.push (x : α) (h : Holds cap slots next filled log) :
    Holds cap (slots.set next x) ((next + 1) % cap) (if filled < cap then filled + 1 else filled)
      (x :: log) := by
  split
  · exact push_filling x h ‹_›
  · exact push_full x h (le_antisymm h.filled_le (not_lt.mp ‹_›))

private theorem Holds.filled_eq (h : Holds cap slots next filled log) :
    (slots.take filled).length = filled := by
  rw [List.length_take, h.size]
  exact min_eq_left h.filled_le

/-- Read backwards from the cursor, the slots are the log. -/
theorem Holds.newest {i : Nat} (h : Holds cap slots next filled log) (hi : i < filled) :
    slots[(next + cap - 1 - i) % cap]? = log[i]? := by
  have hn := h.next_lt
  have hf := h.filled_le
  have hlen : filled = (log.take cap).length := by
    rw [← h.perm.length_eq, h.filled_eq]
  have hlog : ((slots.take filled).rotate next)[filled - 1 - i]? = log[i]? := by
    have htake : (log.take cap)[i]? = log[i]? := List.getElem?_take_of_lt (by omega)
    rw [h.order, List.getElem?_reverse (by omega), ← htake]
    congr 1
    omega
  rw [← hlog, List.getElem?_rotate (by rw [h.filled_eq]; omega), h.filled_eq]
  rcases Nat.lt_or_ge filled cap with hlt | hge
  · obtain rfl := h.cursor hlt
    have hold : next + cap - 1 - i = next - 1 - i + cap := by omega
    have hnew : next - 1 - i + next = next - 1 - i + 1 * next := by omega
    rw [hold, Nat.add_mod_right, Nat.mod_eq_of_lt (by omega), hnew, Nat.add_mul_mod_self_right,
      Nat.mod_eq_of_lt (by omega), List.getElem?_take_of_lt (by omega)]
  · obtain rfl : filled = cap := by omega
    have hcomm : next + filled - 1 - i = filled - 1 - i + next := by omega
    rw [hcomm, List.getElem?_take_of_lt (Nat.mod_lt _ (by omega))]

/-- How many slots are valid. -/
theorem Holds.count (h : Holds cap slots next filled log) : filled = min cap log.length := by
  rw [← List.length_take, ← h.perm.length_eq, h.filled_eq]

section Log

variable (skip : List α → α → Bool)

/-- An item enters the log, in front, unless the log tells to skip it. -/
def enter (log : List α) (x : α) : List α := if skip log x then log else x :: log

def logOf (xs : List α) : List α := xs.foldl (enter skip) []

theorem logOf_snoc (xs : List α) (x : α) :
    logOf skip (xs ++ [x]) = enter skip (logOf skip xs) x := by
  rw [logOf, List.foldl_append, List.foldl_cons, List.foldl_nil, ← logOf]

theorem logOf_sublist (xs : List α) : (logOf skip xs).reverse.Sublist xs := by
  induction xs using List.reverseRecOn with
  | nil => exact List.Sublist.refl _
  | append_singleton xs x ih =>
    rw [logOf_snoc, enter]
    split
    · exact ih.trans (List.sublist_append_left xs [x])
    · rw [List.reverse_cons]
      exact ih.append (List.Sublist.refl [x])

theorem logOf_suffix (xs ys : List α) : logOf skip xs <:+ logOf skip (xs ++ ys) := by
  induction ys using List.reverseRecOn with
  | nil => rw [List.append_nil]
  | append_singleton ys y ih =>
    rw [← List.append_assoc, logOf_snoc, enter]
    split
    · exact ih
    · exact ih.trans (List.suffix_cons _ _)

/-- An entry of the log stands on the log at the time it entered, which did not tell to skip it. -/
theorem logOf_split {xs newer older : List α} {x : α}
    (h : logOf skip xs = newer ++ x :: older) :
    ∃ ys zs, xs = ys ++ x :: zs ∧ logOf skip ys = older ∧ skip older x = false := by
  induction xs using List.reverseRecOn generalizing newer with
  | nil => cases newer <;> cases h
  | append_singleton xs y ih =>
    rw [logOf_snoc, enter] at h
    split at h
    · obtain ⟨ys, zs, rfl, hlog, hskip⟩ := ih h
      exact ⟨ys, zs ++ [y], by simp, hlog, hskip⟩
    · rename_i hskip
      cases newer with
      | nil =>
        obtain ⟨rfl, rfl⟩ := List.cons.inj h
        exact ⟨xs, [], rfl, rfl, by simpa using hskip⟩
      | cons z newer =>
        obtain ⟨ys, zs, rfl, hlog, hskip'⟩ := ih (List.cons.inj h).2
        exact ⟨ys, zs ++ [y], by simp, hlog, hskip'⟩

end Log

end KernelAv.Lib.Ring
