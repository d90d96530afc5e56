/- digest: A text read through a buffer agrees with its lines where no buffer adds to them. -/

import KernelAv.Lib.Lines

set_option autoImplicit false
set_option relaxedAutoImplicit false

namespace KernelAv.Lib.Buffers

open KernelAv.Lib.CText (Bytes)
open KernelAv.Lib.Lines

variable {α : Type} {entry whole : Bytes → Option α} {n k place : Nat} {s l : Bytes}

/-- The buffers of a loop over `fgets`, each with the place in the text where it begins. -/
def placesFuel (n : Nat) : Nat → Nat → Bytes → List (Nat × Bytes)
  | 0, _, _ => []
  | _ + 1, _, [] => []
  | k + 1, place, b :: s =>
      let r := chunk n (b :: s)
      (place, r.1) :: placesFuel n k (place + r.1.length) r.2

def places (n place : Nat) (s : Bytes) : List (Nat × Bytes) := placesFuel n s.length place s

/-- The lines of a text, each with the place where it begins. -/
def starts : Nat → List Bytes → List (Nat × Bytes)
  | _, [] => []
  | place, l :: ls => (place, l) :: starts (place + l.length + 1) ls

/-- What is made of the texts that something is made of. -/
def readings (entry : Bytes → Option α) (texts : List (Nat × Bytes)) : List (Nat × α) :=
  texts.filterMap fun t => (entry t.2).map fun a => (t.1, a)

/-- The buffers are those of the loop. -/
theorem places_texts (size : Nat) (s : Bytes) :
    (places (size - 1) 0 s).map Prod.snd = fgetsAll size s := by
  have hfuel : ∀ k place s,
      (placesFuel (size - 1) k place s).map Prod.snd = fgetsFuel size k s := by
    intro k
    induction k with
    | zero => exact fun _ _ => rfl
    | succ k ih =>
      intro place s
      cases s with
      | nil => rfl
      | cons b s =>
        rw [placesFuel, fgetsFuel, List.map_cons, ih]
  exact hfuel _ _ _

theorem readings_values (texts : List (Nat × Bytes)) :
    (readings entry texts).map Prod.snd = (texts.map Prod.snd).filterMap entry := by
  induction texts with
  | nil => rfl
  | cons t texts ih =>
    rw [readings, List.filterMap_cons, List.map_cons, List.filterMap_cons]
    cases entry t.2 with
    | none => exact ih
    | some a => exact congrArg (a :: ·) ih

theorem readings_cons (t : Nat × Bytes) (texts : List (Nat × Bytes)) :
    readings entry (t :: texts) =
      ((entry t.2).map fun a => (t.1, a)).toList ++ readings entry texts := by
  rw [readings, List.filterMap_cons]
  cases entry t.2 with
  | none => rfl
  | some a => rfl

section Places

private theorem chunk_append (n : Nat) (s : Bytes) : (chunk n s).1 ++ (chunk n s).2 = s := by
  induction n generalizing s with
  | zero => rfl
  | succ n ih =>
    cases s with
    | nil => rfl
    | cons b s =>
      rw [chunk]
      split
      · rfl
      · rw [List.cons_append, ih]

private theorem chunk_pos (hn : 0 < n) (b : UInt8) (s : Bytes) :
    0 < (chunk n (b :: s)).1.length := by
  obtain ⟨n, rfl⟩ : ∃ m, n = m + 1 := ⟨n - 1, by omega⟩
  rw [chunk]
  split
  · exact Nat.one_pos
  · exact Nat.succ_pos _

private theorem chunk_lengths (n : Nat) (s : Bytes) :
    (chunk n s).1.length + (chunk n s).2.length = s.length := by
  have h := congrArg List.length (chunk_append n s)
  rwa [List.length_append] at h

private theorem placesFuel_eq (hn : 0 < n) (k place : Nat) (s : Bytes) (hk : s.length ≤ k) :
    placesFuel n k place s = places n place s := by
  unfold places
  generalize hm : s.length = m at hk
  replace hm : s.length ≤ m := hm.le
  induction k generalizing m place s with
  | zero =>
    obtain rfl : s = [] := List.eq_nil_of_length_eq_zero (by omega)
    cases m <;> rfl
  | succ k ih =>
    cases s with
    | nil => cases m <;> rfl
    | cons b s =>
      have hpos := chunk_pos hn b s
      have hlen := chunk_lengths n (b :: s)
      cases m with
      | zero => simp at hm
      | succ m =>
        rw [placesFuel, placesFuel, ih _ _ m (by omega) (by omega)]

theorem places_nil (n place : Nat) : places n place [] = [] := rfl

/-- The next buffer, and those of the rest of the text. -/
theorem places_of_chunk (hn : 0 < n) {u v : Bytes} (hs : s ≠ []) (h : chunk n s = (u, v)) :
    places n place s = (place, u) :: places n (place + u.length) v := by
  cases s with
  | nil => exact absurd rfl hs
  | cons b s =>
    have hpos := chunk_pos hn b s
    have hlen := chunk_lengths n (b :: s)
    rw [h] at hpos hlen
    dsimp only at hpos hlen
    rw [places, List.length_cons, placesFuel, h]
    dsimp only
    rw [placesFuel_eq hn _ _ _ (by rw [List.length_cons] at hlen; omega)]

end Places

section Lines

/-- What a newline at the end adds to a text that is not empty: nothing, a newline in the last
buffer, or a buffer of its own. -/
private theorem chunk_newline (n : Nat) (s : Bytes) :
    chunk n (s ++ [nl]) = ((chunk n s).1, (chunk n s).2 ++ [nl]) ∨
      chunk n (s ++ [nl]) = (s ++ [nl], []) ∧ chunk n s = (s, []) ∧ nl ∉ s := by
  induction n generalizing s with
  | zero => exact .inl rfl
  | succ n ih =>
    cases s with
    | nil => exact .inr ⟨rfl, rfl, List.not_mem_nil⟩
    | cons b s =>
      rw [List.cons_append, chunk, chunk]
      split
      · exact .inl rfl
      · rename_i hb
        rcases ih s with h | ⟨h, hs, hnl⟩
        · left
          rw [h]
        · right
          rw [h, hs]
          exact ⟨rfl, rfl, List.not_mem_cons_of_ne_of_not_mem (Ne.symm hb) hnl⟩

/-- Where a newline at the end of a buffer changes nothing, one at the end of the text does not. -/
theorem readings_newline (hn : 0 < n) (hline : ∀ u, nl ∉ u → entry (u ++ [nl]) = entry u)
    (hnil : entry [] = none) (place : Nat) (s : Bytes) :
    readings entry (places n place (s ++ [nl])) = readings entry (places n place s) := by
  obtain ⟨m, hm⟩ : ∃ m, s.length ≤ m := ⟨_, le_rfl⟩
  induction m generalizing place s with
  | zero =>
    obtain rfl : s = [] := List.eq_nil_of_length_eq_zero (by omega)
    rw [List.nil_append, places_of_chunk hn (List.cons_ne_nil _ _)
      (chunk_line n [] [] List.not_mem_nil hn), readings_cons, hline [] List.not_mem_nil, hnil,
      places_nil, places_nil]
    rfl
  | succ m ih =>
    cases s with
    | nil => exact ih place [] (Nat.zero_le m)
    | cons b s =>
      have hpos := chunk_pos hn b s
      have hlen := chunk_lengths n (b :: s)
      have hsame : ∀ u v, chunk n (b :: s) = (u, v) →
          places n place (b :: s) = (place, u) :: places n (place + u.length) v :=
        fun u v h => places_of_chunk hn (List.cons_ne_nil _ _) h
      rcases chunk_newline n (b :: s) with h | ⟨h, hs, hnl⟩
      · rw [places_of_chunk hn (by simp) h, hsame _ _ rfl, readings_cons, readings_cons]
        rw [List.length_cons] at hm hlen
        rw [ih (place + (chunk n (b :: s)).1.length) (chunk n (b :: s)).2 (by omega)]
      · rw [places_of_chunk hn (by simp) h, hsame _ _ hs, readings_cons, readings_cons,
          hline _ hnl, places_nil, places_nil]

/-- A line gives what its first buffer gives at its start, and what later buffers give after its
start; by induction on the length of the line. -/
private theorem readings_line (hn : 0 < n) (hline : ∀ u, nl ∉ u → entry (u ++ [nl]) = entry u)
    (hnil : entry [] = none) (hl : nl ∉ l) (place : Nat) (r : Bytes) :
    ∃ later : List (Nat × α),
      readings entry (places n place (l ++ nl :: r)) =
          ((entry (l.take n)).map fun a => (place, a)).toList ++
            (later ++ readings entry (places n (place + l.length + 1) r)) ∧
        (∀ t ∈ later, place < t.1 ∧ t.1 ≤ place + l.length) ∧
        (later = [] ↔ ∀ k, entry ((l.drop (n * (k + 1))).take n) = none) := by
  obtain ⟨m, hm⟩ : ∃ m, l.length ≤ m := ⟨_, le_rfl⟩
  induction m generalizing l place with
  | zero =>
    obtain rfl : l = [] := List.eq_nil_of_length_eq_zero (by omega)
    refine ⟨[], ?_, by simp, by simp [hnil]⟩
    rw [places_of_chunk hn (by simp) (chunk_line n [] r hl hn), readings_cons, hline [] hl]
    simp
  | succ m ih =>
    rcases lt_or_ge l.length n with hshort | hlong
    · refine ⟨[], ?_, by simp, ?_⟩
      · rw [places_of_chunk hn (by simp) (chunk_line n l r hl hshort), readings_cons, hline l hl,
          List.take_of_length_le hshort.le, List.length_append]
        simp [Nat.add_assoc]
      · refine iff_of_true rfl fun k => ?_
        have hle : n ≤ n * (k + 1) := Nat.le_mul_of_pos_right n (Nat.succ_pos k)
        rw [List.drop_of_length_le (by omega), List.take_nil, hnil]
    -- The line goes on in the next buffer, as a line that begins there.
    · have hrest : nl ∉ l.drop n := fun h => hl (List.mem_of_mem_drop h)
      have hlen : (l.drop n).length = l.length - n := List.length_drop
      obtain ⟨later, hread, htags, hnone⟩ := ih hrest (place + n) (by omega)
      have hplace : place + n + (l.drop n).length + 1 = place + l.length + 1 := by omega
      refine ⟨((entry ((l.drop n).take n)).map fun a => (place + n, a)).toList ++ later, ?_, ?_, ?_⟩
      · rw [places_of_chunk hn (by simp) (chunk_long n l (nl :: r) hl hlong), readings_cons,
          List.length_take, Nat.min_eq_left hlong, hread, hplace, List.append_assoc]
      · intro t ht
        rcases List.mem_append.mp ht with ht | ht
        · obtain ⟨a, ha, rfl⟩ := Option.map_eq_some_iff.mp (Option.mem_toList.mp ht)
          dsimp only
          omega
        · have hbounds := htags t ht
          omega
      · rw [List.append_eq_nil_iff, hnone]
        have hshift : ∀ k, (l.drop n).drop (n * (k + 1)) = l.drop (n * (k + 1 + 1)) := by
          intro k
          rw [List.drop_drop, Nat.mul_succ n (k + 1), Nat.add_comm]
        simp only [hshift]
        constructor
        · rintro ⟨hfirst, hall⟩ k
          cases k with
          | zero =>
            rw [Nat.zero_add, Nat.mul_one]
            simpa using hfirst
          | succ k => exact hall k
        · intro hall
          have hfirst := hall 0
          rw [Nat.zero_add, Nat.mul_one] at hfirst
          exact ⟨by rw [hfirst]; rfl, fun k => hall (k + 1)⟩

private theorem mem_readings {texts : List (Nat × Bytes)} {t : Nat × α}
    (h : t ∈ readings entry texts) : ∃ x ∈ texts, t.1 = x.1 := by
  obtain ⟨x, hx, hmap⟩ := List.mem_filterMap.mp h
  obtain ⟨a, -, rfl⟩ := Option.map_eq_some_iff.mp hmap
  exact ⟨x, hx, rfl⟩

private theorem starts_from (place : Nat) (ls : List Bytes) :
    ∀ t ∈ starts place ls, place ≤ t.1 := by
  induction ls generalizing place with
  | nil => simp [starts]
  | cons l ls ih =>
    intro t ht
    rcases List.mem_cons.mp ht with rfl | ht
    · exact le_rfl
    · have hle := ih _ t ht
      omega

private theorem places_from (place : Nat) (s : Bytes) :
    ∀ t ∈ places n place s, place ≤ t.1 := by
  unfold places
  generalize s.length = k
  induction k generalizing place s with
  | zero => simp [placesFuel]
  | succ k ih =>
    cases s with
    | nil => simp [placesFuel]
    | cons b s =>
      intro t ht
      rw [placesFuel] at ht
      rcases List.mem_cons.mp ht with rfl | ht
      · exact le_rfl
      · have hle := ih _ _ t ht
        omega

/-- Lists of which the fronts lie before a place, and the rests after it. -/
private theorem fronts_eq {m : Nat} {a a' b b' : List (Nat × α)} (ha : ∀ t ∈ a, t.1 < m)
    (hb : ∀ t ∈ b, t.1 < m) (ha' : ∀ t ∈ a', m ≤ t.1) (hb' : ∀ t ∈ b', m ≤ t.1) :
    a ++ a' = b ++ b' ↔ a = b ∧ a' = b' := by
  refine ⟨fun h => ?_, fun h => by rw [h.1, h.2]⟩
  have hkeep : ∀ c c' : List (Nat × α), (∀ t ∈ c, t.1 < m) → (∀ t ∈ c', m ≤ t.1) →
      (c ++ c').filter (fun t => decide (t.1 < m)) = c := by
    intro c c' hc hc'
    have hall : c.filter (fun t => decide (t.1 < m)) = c :=
      List.filter_eq_self.mpr fun t ht => by simpa using hc t ht
    have hnone : c'.filter (fun t => decide (t.1 < m)) = [] :=
      List.filter_eq_nil_iff.mpr fun t ht => by simpa using hc' t ht
    rw [List.filter_append, hall, hnone, List.append_nil]
  have heq : a = b := by
    rw [← hkeep a a' ha ha', h, hkeep b b' hb hb']
  refine ⟨heq, ?_⟩
  rw [heq] at h
  exact List.append_cancel_left h

/-- What is read through the buffer is what the lines give, each at its start, exactly if the first
buffer of every line gives what the line gives and no later one gives anything. -/
theorem readings_lines_iff (hn : 0 < n) (hline : ∀ u, nl ∉ u → entry (u ++ [nl]) = entry u)
    (hnil : entry [] = none) (s : Bytes) :
    readings entry (places n 0 s) = readings whole (starts 0 (s.splitOn nl)) ↔
      ∀ l ∈ s.splitOn nl, entry (l.take n) = whole l ∧
        ∀ k, entry ((l.drop (n * (k + 1))).take n) = none := by
  have hlines : ∀ (ls : List Bytes) (place : Nat), (∀ l ∈ ls, nl ∉ l) →
      (readings entry (places n place (unlines ls)) = readings whole (starts place ls) ↔
        ∀ l ∈ ls, entry (l.take n) = whole l ∧
          ∀ k, entry ((l.drop (n * (k + 1))).take n) = none) := by
    intro ls
    induction ls with
    | nil => exact fun _ _ => iff_of_true rfl (by simp)
    | cons l ls ih =>
      intro place hclean
      obtain ⟨hl, hls⟩ := List.forall_mem_cons.mp hclean
      obtain ⟨later, hread, htags, hnone⟩ := readings_line hn hline hnil hl place (unlines ls)
      have hat : ∀ (o : Option α), ∀ t ∈ (o.map fun a => (place, a)).toList, t.1 = place := by
        intro o t ht
        obtain ⟨a, -, rfl⟩ := Option.map_eq_some_iff.mp (Option.mem_toList.mp ht)
        rfl
      have hfront : (((entry (l.take n)).map fun a => (place, a)).toList ++ later =
          ((whole l).map fun a => (place, a)).toList) ↔
            entry (l.take n) = whole l ∧ later = [] := by
        rw [← List.append_nil ((whole l).map fun a => (place, a)).toList,
          fronts_eq (m := place + 1) (fun t ht => by rw [hat _ t ht]; omega)
            (fun t ht => by rw [hat _ t ht]; omega) (fun t ht => (htags t ht).1) (by simp)]
        refine and_congr_left fun _ => ?_
        cases entry (l.take n) <;> cases whole l <;> simp
      rw [unlines_cons, hread, starts, readings_cons, List.forall_mem_cons, ← hnone, ← ih _ hls,
        ← List.append_assoc]
      dsimp only
      rw [fronts_eq (m := place + l.length + 1), hfront]
      · intro t ht
        rcases List.mem_append.mp ht with ht | ht
        · rw [hat _ t ht]
          omega
        · have hbound := (htags t ht).2
          omega
      · intro t ht
        rw [hat _ t ht]
        omega
      · intro t ht
        obtain ⟨x, hx, hplace⟩ := mem_readings ht
        rw [hplace]
        exact places_from _ _ x hx
      · intro t ht
        obtain ⟨x, hx, hplace⟩ := mem_readings ht
        rw [hplace]
        exact starts_from _ _ x hx
  have hclean : ∀ l ∈ s.splitOn nl, nl ∉ l := fun l hl => (splitOn_clean hl).1
  rw [← hlines _ 0 hclean, unlines_splitOn, readings_newline hn hline hnil]

end Lines

end KernelAv.Lib.Buffers
