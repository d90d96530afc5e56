/- digest: The quickselect of TLSH ends, and its quartiles are the values of their ranks. -/

import KernelAv.Daemon.Tlsh
import KernelAv.Lib.Selection

set_option autoImplicit false
set_option relaxedAutoImplicit false

namespace KernelAv.Daemon.TlshQuartiles

open KernelAv.Lib.Selection
open KernelAv.Daemon.Tlsh

section Partition

variable {buf : Buckets} {left right : Nat}

private theorem at_set (buf : Buckets) (i x k : Nat) (hi : i < EFF_BUCKETS) :
    Buckets.at (buf.setIfInBounds i x) k = if k = i then x else buf.at k := by
  have hsize : i < buf.toArray.size := by
    rw [Vector.size_toArray]
    exact hi
  simp only [Buckets.at, Vector.getD, Array.getD_eq_getD_getElem?, Vector.toArray_setIfInBounds,
    Array.getElem?_setIfInBounds, if_pos hsize]
  by_cases hk : k = i
  · rw [if_pos hk.symm, if_pos hk, Option.getD_some]
  · rw [if_neg (Ne.symm hk), if_neg hk]

/-- Two assignments by which two values change places. -/
private theorem at_swap (buf : Buckets) {i j : Nat} (hi : i < EFF_BUCKETS) (hj : j < EFF_BUCKETS)
    (k : Nat) :
    Buckets.at ((buf.setIfInBounds i (buf.at j)).setIfInBounds j (buf.at i)) k =
      buf.at (Equiv.swap i j k) := by
  rw [at_set _ _ _ _ hj, at_set _ _ _ _ hi, Equiv.swap_apply_def]
  by_cases hkj : k = j
  · by_cases hki : k = i
    · rw [if_pos hkj, if_pos hki, ← hki, hkj]
    · rw [if_pos hkj, if_neg hki, if_pos hkj]
  · by_cases hki : k = i
    · rw [if_neg hkj, if_pos hki, if_pos hki]
    · rw [if_neg hkj, if_neg hki, if_neg hki, if_neg hkj]

/-- The loop of `partition` up to `i`: the smaller values stand before `s.1`, the others after. -/
private structure Sifted (buf : Buckets) (left val i : Nat) (s : Nat × Buckets) : Prop where
  bounds : left ≤ s.1 ∧ s.1 ≤ i
  small : ∀ k, left ≤ k → k < s.1 → s.2.at k < val
  large : ∀ k, s.1 ≤ k → k < i → val ≤ s.2.at k
  moved : Rearranged left (i - 1) buf.at s.2.at

private theorem Sifted.step {val i : Nat} {s : Nat × Buckets} (h : Sifted buf left val i s)
    (hi : i < EFF_BUCKETS) : Sifted buf left val (i + 1) (sift val s i) := by
  obtain ⟨ret, b⟩ := s
  have hb := h.bounds
  simp only at hb
  by_cases hlt : b.at i < val
  · have hsift : sift val (ret, b) i =
        (ret + 1, (b.setIfInBounds ret (b.at i)).setIfInBounds i (b.at ret)) := if_pos hlt
    have hat := at_swap b (show ret < EFF_BUCKETS by omega) hi
    rw [hsift]
    refine ⟨by simp only; omega, fun k hk hkr => ?_, fun k hk hki => ?_, ?_⟩
    · simp only at hkr ⊢
      rw [hat]
      rcases Nat.lt_or_eq_of_le (Nat.le_of_lt_succ hkr) with hkl | rfl
      · rw [Equiv.swap_apply_of_ne_of_ne (by omega) (by omega)]
        exact h.small k hk hkl
      · rw [Equiv.swap_apply_left]
        exact hlt
    · simp only at hk ⊢
      rw [hat]
      rcases Nat.lt_or_eq_of_le (Nat.le_of_lt_succ hki) with hkl | rfl
      · rw [Equiv.swap_apply_of_ne_of_ne (by omega) (by omega)]
        exact h.large k (by simp only; omega) hkl
      · rw [Equiv.swap_apply_right]
        exact h.large ret (le_refl _) (by omega)
    · refine (h.moved.mono (le_refl _) (by omega)).trans ?_
      exact Rearranged.of_swap (by omega) (by omega) hat
  · have hsift : sift val (ret, b) i = (ret, b) := if_neg hlt
    rw [hsift]
    refine ⟨by simp only; omega, h.small, fun k hk hki => ?_, ?_⟩
    · rcases Nat.lt_or_eq_of_le (Nat.le_of_lt_succ hki) with hkl | rfl
      · exact h.large k hk hkl
      · exact not_lt.mp hlt
    · exact h.moved.mono (le_refl _) (by omega)

/-- By induction on the number of rounds. -/
private theorem sifted_range (buf : Buckets) (left val n : Nat) (hn : left + n ≤ EFF_BUCKETS) :
    Sifted buf left val (left + n) ((List.range' left n).foldl (sift val) (left, buf)) := by
  induction n with
  | zero =>
      refine ⟨⟨le_refl _, le_refl _⟩, fun k hk hkl => ?_, fun k hk hkl => ?_, Rearranged.refl _ _ _⟩
      · exact absurd hkl (not_lt.mpr hk)
      · exact absurd hkl (not_lt.mpr hk)
  | succ n ih =>
      have hround := (ih (by omega)).step (show left + n < EFF_BUCKETS by omega)
      rw [List.range'_concat, List.foldl_append, Nat.one_mul]
      exact hround

/-- What `partition` does to the values from `left` to `right`. -/
private structure Partitioned (buf : Buckets) (left right : Nat) (s : Nat × Buckets) : Prop where
  bounds : left ≤ s.1 ∧ s.1 ≤ right
  below : ∀ i, left ≤ i → i < s.1 → s.2.at i ≤ s.2.at s.1
  above : ∀ i, s.1 < i → i ≤ right → s.2.at s.1 ≤ s.2.at i
  moved : Rearranged left right buf.at s.2.at

private theorem partitioned_pair (hright : left + 1 < EFF_BUCKETS) :
    Partitioned buf left (left + 1) (left, if buf.at (left + 1) < buf.at left then
      (buf.setIfInBounds left (buf.at (left + 1))).setIfInBounds (left + 1) (buf.at left)
      else buf) := by
  refine ⟨⟨le_refl _, Nat.le_succ _⟩, fun i hi hil => absurd hil (not_lt.mpr hi), ?_, ?_⟩
  · intro i hi hir
    have hi : i = left + 1 := by
      simp only at hi
      omega
    subst hi
    simp only
    split
    · rename_i hlt
      rw [at_swap buf (by omega) hright, at_swap buf (by omega) hright, Equiv.swap_apply_left,
        Equiv.swap_apply_right]
      exact hlt.le
    · rename_i hge
      exact not_lt.mp hge
  · simp only
    split
    · exact Rearranged.of_swap (by omega) (by omega) (at_swap buf (by omega) hright)
    · exact Rearranged.refl _ _ _

private theorem partitioned (buf : Buckets) (hle : left ≤ right) (hright : right < EFF_BUCKETS) :
    Partitioned buf left right (partition buf left right) := by
  by_cases hone : left = right
  · have hp : partition buf left right = (left, buf) := if_pos hone
    rw [hp]
    refine ⟨⟨le_refl _, hle⟩, fun i hi hil => absurd hil (not_lt.mpr hi), fun i hi hir => ?_,
      Rearranged.refl _ _ _⟩
    simp only at hi
    omega
  · by_cases htwo : left + 1 = right
    · subst htwo
      have hp : partition buf left (left + 1) =
          (left, if buf.at (left + 1) < buf.at left then
            (buf.setIfInBounds left (buf.at (left + 1))).setIfInBounds (left + 1) (buf.at left)
            else buf) := (if_neg hone).trans (if_pos rfl)
      rw [hp]
      exact partitioned_pair hright
    · -- The pivot's value waits at `right` while the values before it are sifted.
      have hpivot : left ≤ (left + right) / 2 ∧ (left + right) / 2 ≤ right := by omega
      generalize hval : buf.at ((left + right) / 2) = val
      generalize hb0 : (buf.setIfInBounds ((left + right) / 2) (buf.at right)).setIfInBounds right
        val = b0
      generalize hs : (List.range' left (right - left)).foldl (sift val) (left, b0) = s
      have hp : partition buf left right =
          (s.1, (s.2.setIfInBounds right (s.2.at s.1)).setIfInBounds s.1 val) := by
        rw [partition, if_neg hone, if_neg htwo]
        simp only [hval, hb0, hs]
      have hat0 : ∀ k, Buckets.at b0 k = buf.at (Equiv.swap ((left + right) / 2) right k) := by
        subst hb0 hval
        exact at_swap buf (by omega) hright
      have hsifted : Sifted b0 left val right s := by
        have hrange := sifted_range b0 left val (right - left) (by omega)
        rwa [Nat.add_sub_cancel' hle, hs] at hrange
      have hlast : s.2.at right = val := by
        rw [hsifted.moved.outside (Or.inr (by omega)), hat0, Equiv.swap_apply_right]
        exact hval
      have hbounds := hsifted.bounds
      have hat := at_swap s.2 hright (show s.1 < EFF_BUCKETS by omega)
      rw [hlast] at hat
      have hpoint : ∀ k, k = s.1 →
          Buckets.at ((s.2.setIfInBounds right (s.2.at s.1)).setIfInBounds s.1 val) k = val := by
        rintro k rfl
        rw [hat, Equiv.swap_apply_right]
        exact hlast
      rw [hp]
      refine ⟨hbounds, fun i hi hil => ?_, fun i hi hir => ?_, ?_⟩
      · simp only at hil ⊢
        rw [hpoint s.1 rfl, hat, Equiv.swap_apply_of_ne_of_ne (by omega) (by omega)]
        exact (hsifted.small i hi hil).le
      · simp only at hi ⊢
        rw [hpoint s.1 rfl, hat]
        rcases Nat.lt_or_eq_of_le hir with hlt | rfl
        · rw [Equiv.swap_apply_of_ne_of_ne (by omega) (by omega)]
          exact hsifted.large i hi.le hlt
        · rw [Equiv.swap_apply_left]
          exact hsifted.large s.1 (le_refl _) hi
      · have hfirst : Rearranged left right buf.at (Buckets.at b0) :=
          Rearranged.of_swap hpivot ⟨hle, le_refl _⟩ hat0
        have hmid := hsifted.moved.mono (le_refl left) (Nat.sub_le right 1)
        exact (hfirst.trans hmid).trans (Rearranged.of_swap ⟨hle, le_refl _⟩ hbounds hat)

/-- The pivot comes to stand within the range. -/
theorem partition_bounds (buf : Buckets) (hle : left ≤ right) (hright : right < EFF_BUCKETS) :
    left ≤ (partition buf left right).1 ∧ (partition buf left right).1 ≤ right :=
  (partitioned buf hle hright).bounds

theorem partition_moved (buf : Buckets) (hle : left ≤ right) (hright : right < EFF_BUCKETS) :
    Rearranged left right buf.at (partition buf left right).2.at :=
  (partitioned buf hle hright).moved

end Partition

section Selecting

variable {p : Nat} {buf : Buckets}

/-- The place looked for lies between two cuts. -/
private structure Between (p : Nat) (s : Select) : Prop where
  bounds : s.l ≤ p ∧ p ≤ s.r ∧ s.r < EFF_BUCKETS
  cutLeft : Cut EFF_BUCKETS s.buf.at s.l
  cutRight : Cut EFF_BUCKETS s.buf.at (s.r + 1)

/-- Every short cut stands between two cuts, outside the range that is still open. -/
private structure ShortCuts (p : Nat) (s : Select) : Prop where
  left : ∀ k ∈ s.short_cut_left,
    k < s.l ∧ Cut EFF_BUCKETS s.buf.at k ∧ Cut EFF_BUCKETS s.buf.at (k + 1)
  right : ∀ k ∈ s.short_cut_right, s.r < k ∧ k < EFF_BUCKETS ∧
    Cut EFF_BUCKETS s.buf.at k ∧ Cut EFF_BUCKETS s.buf.at (k + 1)

/-- What `select` finds: the value at `p` stands between two cuts. -/
private structure Selected (p : Nat) (s s' : Select) : Prop where
  cut : Cut EFF_BUCKETS s'.buf.at p
  cut_succ : Cut EFF_BUCKETS s'.buf.at (p + 1)
  left : ∀ k ∈ s'.short_cut_left,
    k < p ∧ Cut EFF_BUCKETS s'.buf.at k ∧ Cut EFF_BUCKETS s'.buf.at (k + 1)
  right : ∀ k ∈ s'.short_cut_right, p < k ∧ k < EFF_BUCKETS ∧
    Cut EFF_BUCKETS s'.buf.at k ∧ Cut EFF_BUCKETS s'.buf.at (k + 1)
  moved : Rearranged s.l s.r s.buf.at s'.buf.at

/-- By induction on the fuel, which the length of the open range bounds. -/
private theorem selected : ∀ (fuel : Nat) (s : Select), s.r - s.l < fuel → Between p s →
    ShortCuts p s → ∃ s', select p fuel s = some s' ∧ Selected p s s'
  | 0, _, hfuel, _, _ => absurd hfuel (Nat.not_lt_zero _)
  | fuel + 1, s, hfuel, hb, hsc => by
      have hin := hb.bounds
      have hpart := partitioned s.buf (show s.l ≤ s.r by omega) hin.2.2
      generalize hret : partition s.buf s.l s.r = res at hpart
      obtain ⟨ret, b⟩ := res
      have hbounds := hpart.bounds
      have hmoved := hpart.moved
      simp only at hbounds hmoved
      have hkept : ∀ k, k ≤ s.l ∨ s.r < k → Cut EFF_BUCKETS s.buf.at k → Cut EFF_BUCKETS b.at k :=
        fun k hk hcut => hcut.rearranged hmoved hk hin.2.2
      have hl := hkept s.l (Or.inl (le_refl _)) hb.cutLeft
      have hr := hkept (s.r + 1) (Or.inr (Nat.lt_succ_self _)) hb.cutRight
      obtain ⟨hcut, hcut'⟩ := cut_pivot hl hr hbounds hpart.below hpart.above
      have hleft : ∀ k ∈ s.short_cut_left,
          k < s.l ∧ Cut EFF_BUCKETS b.at k ∧ Cut EFF_BUCKETS b.at (k + 1) := by
        intro k hk
        obtain ⟨hkl, hk1, hk2⟩ := hsc.left k hk
        exact ⟨hkl, hkept k (Or.inl hkl.le) hk1, hkept (k + 1) (Or.inl hkl) hk2⟩
      have hright : ∀ k ∈ s.short_cut_right, s.r < k ∧ k < EFF_BUCKETS ∧
          Cut EFF_BUCKETS b.at k ∧ Cut EFF_BUCKETS b.at (k + 1) := by
        intro k hk
        obtain ⟨hkr, hkn, hk1, hk2⟩ := hsc.right k hk
        exact ⟨hkr, hkn, hkept k (Or.inr hkr) hk1, hkept (k + 1) (Or.inr (by omega)) hk2⟩
      rw [select, hret]
      simp only
      by_cases hlt : p < ret
      · rw [if_pos hlt]
        obtain ⟨s', hs', hsel⟩ := selected fuel
          ⟨b, s.l, ret - 1, s.short_cut_left, s.short_cut_right ++ [ret]⟩
          (by simp only; omega)
          ⟨by simp only; omega, hl, by simpa only [Nat.sub_add_cancel (show 1 ≤ ret by omega)]⟩
          ⟨hleft, fun k hk => by
            rcases List.mem_append.mp hk with hk | hk
            · obtain ⟨hkr, hrest⟩ := hright k hk
              exact ⟨by simp only; omega, hrest⟩
            · rw [List.mem_singleton] at hk
              subst hk
              exact ⟨by simp only; omega, by omega, hcut, hcut'⟩⟩
        refine ⟨s', hs', hsel.cut, hsel.cut_succ, hsel.left, hsel.right, ?_⟩
        exact hmoved.trans (hsel.moved.mono (le_refl _) (by simp only; omega))
      · rw [if_neg hlt]
        by_cases hgt : ret < p
        · rw [if_pos hgt]
          obtain ⟨s', hs', hsel⟩ := selected fuel
            ⟨b, ret + 1, s.r, s.short_cut_left ++ [ret], s.short_cut_right⟩
            (by simp only; omega) ⟨by simp only; omega, hcut', hr⟩
            ⟨fun k hk => by
              rcases List.mem_append.mp hk with hk | hk
              · obtain ⟨hkl, hrest⟩ := hleft k hk
                exact ⟨by simp only; omega, hrest⟩
              · rw [List.mem_singleton] at hk
                subst hk
                exact ⟨by simp only; omega, hcut, hcut'⟩, hright⟩
          refine ⟨s', hs', hsel.cut, hsel.cut_succ, hsel.left, hsel.right, ?_⟩
          exact hmoved.trans (hsel.moved.mono (by simp only; omega) (le_refl _))
        · rw [if_neg hgt]
          obtain rfl : ret = p := by omega
          refine ⟨_, rfl, hcut, hcut', fun k hk => ?_, fun k hk => ?_, hmoved⟩
          · obtain ⟨hkl, hrest⟩ := hleft k hk
            exact ⟨by omega, hrest⟩
          · obtain ⟨hkr, hrest⟩ := hright k hk
            exact ⟨by omega, hrest⟩

/-- The value that a short cut away from `p` leads to. -/
private theorem select_rank (buf : Buckets) (l r : Nat) (hb : Between p ⟨buf, l, r, [], []⟩) :
    ∃ v b, (select p EFF_BUCKETS ⟨buf, l, r, [], []⟩).map (fun s => (s.buf.at p, s.buf)) =
      some (v, b) ∧ HasRank EFF_BUCKETS buf.at p v ∧ Rearranged l r buf.at b.at := by
  have hin := hb.bounds
  simp only at hin
  obtain ⟨s', hs', hsel⟩ := selected EFF_BUCKETS ⟨buf, l, r, [], []⟩ (by simp only; omega) hb
    ⟨fun k hk => absurd hk List.not_mem_nil, fun k hk => absurd hk List.not_mem_nil⟩
  refine ⟨s'.buf.at p, s'.buf, by rw [hs', Option.map_some], ?_, hsel.moved⟩
  exact (hasRank_of_cuts (by omega) hsel.cut hsel.cut_succ).of_rearranged hsel.moved hin.2.2

/-- By induction on the short cuts; the last of them reaches `p`. -/
private theorem selectLeft_rank {m : Nat} (hm : m < EFF_BUCKETS) (buf : Buckets) :
    ∀ (rs : List Nat) (l : Nat), l ≤ p → Cut EFF_BUCKETS buf.at l →
      (∀ r ∈ rs, r ≤ m ∧ Cut EFF_BUCKETS buf.at (r + 1) ∧ (r ≤ p → Cut EFF_BUCKETS buf.at r)) →
      (∃ r ∈ rs, p ≤ r) →
      ∃ v b, selectLeft p rs l buf = some (v, b) ∧ HasRank EFF_BUCKETS buf.at p v ∧
        Rearranged 0 m buf.at b.at
  | [], _, _, _, _, hex => by
      obtain ⟨r, hr, _⟩ := hex
      exact absurd hr List.not_mem_nil
  | r :: rs, l, hl, hcut, hall, hex => by
      obtain ⟨hrm, hr1, hr0⟩ := hall r List.mem_cons_self
      rw [selectLeft]
      by_cases hlt : p < r
      · rw [if_pos hlt]
        obtain ⟨v, b, hv, hrank, hmoved⟩ :=
          select_rank buf l r
            ⟨⟨hl, hlt.le, by simp only; omega⟩, hcut, hr1⟩
        exact ⟨v, b, hv, hrank, hmoved.mono (Nat.zero_le _) hrm⟩
      · rw [if_neg hlt]
        by_cases hgt : r < p
        · rw [if_pos hgt]
          refine selectLeft_rank hm buf rs r hgt.le (hr0 hgt.le)
            (fun k hk => hall k (List.mem_cons_of_mem _ hk)) ?_
          obtain ⟨k, hk, hkp⟩ := hex
          rcases List.mem_cons.mp hk with rfl | hk
          · omega
          · exact ⟨k, hk, hkp⟩
        · rw [if_neg hgt]
          obtain rfl : r = p := by omega
          refine ⟨_, _, rfl, hasRank_of_cuts (by omega) (hr0 (le_refl _)) hr1, ?_⟩
          exact Rearranged.refl _ _ _

private theorem selectRight_rank (buf : Buckets) :
    ∀ (ls : List Nat) (r : Nat), p ≤ r → r < EFF_BUCKETS → Cut EFF_BUCKETS buf.at (r + 1) →
      (∀ l ∈ ls, l < EFF_BUCKETS ∧ Cut EFF_BUCKETS buf.at l ∧
        (p ≤ l → Cut EFF_BUCKETS buf.at (l + 1))) →
      (∃ l ∈ ls, l ≤ p) →
      ∃ v b, selectRight p ls r buf = some (v, b) ∧ HasRank EFF_BUCKETS buf.at p v
  | [], _, _, _, _, _, hex => by
      obtain ⟨l, hl, _⟩ := hex
      exact absurd hl List.not_mem_nil
  | l :: ls, r, hr, hn, hcut, hall, hex => by
      obtain ⟨hln, hl0, hl1⟩ := hall l List.mem_cons_self
      rw [selectRight]
      by_cases hlt : l < p
      · rw [if_pos hlt]
        obtain ⟨v, b, hv, hrank, _⟩ :=
          select_rank buf l r ⟨⟨hlt.le, hr, hn⟩, hl0, hcut⟩
        exact ⟨v, b, hv, hrank⟩
      · rw [if_neg hlt]
        by_cases hgt : p < l
        · rw [if_pos hgt]
          refine selectRight_rank buf ls l hgt.le hln (hl1 hgt.le)
            (fun k hk => hall k (List.mem_cons_of_mem _ hk)) ?_
          obtain ⟨k, hk, hkp⟩ := hex
          rcases List.mem_cons.mp hk with rfl | hk
          · omega
          · exact ⟨k, hk, hkp⟩
        · rw [if_neg hgt]
          obtain rfl : l = p := by omega
          exact ⟨_, _, rfl, hasRank_of_cuts hln hl0 (hl1 (le_refl _))⟩

end Selecting

section Quartiles

variable (a_bucket : Vector Nat BUCKET_COUNT)

/-- The quartiles of 128 values, for their places in order. -/
structure Quartiles (f : Nat → Nat) (q : Nat × Nat × Nat) : Prop where
  q1 : HasRank EFF_BUCKETS f (EFF_BUCKETS / 4 - 1) q.1
  q2 : HasRank EFF_BUCKETS f (EFF_BUCKETS / 2 - 1) q.2.1
  q3 : HasRank EFF_BUCKETS f (EFF_BUCKETS - EFF_BUCKETS / 4 - 1) q.2.2

theorem Quartiles.unique {f : Nat → Nat} {q q' : Nat × Nat × Nat} (h : Quartiles f q)
    (h' : Quartiles f q') : q = q' := by
  obtain ⟨q1, q2, q3⟩ := q
  obtain ⟨q1', q2', q3'⟩ := q'
  have h1 : q1 = q1' := h.q1.unique h'.q1
  have h2 : q2 = q2' := h.q2.unique h'.q2
  have h3 : q3 = q3' := h.q3.unique h'.q3
  rw [h1, h2, h3]

theorem Quartiles.congr {f g : Nat → Nat} {q : Nat × Nat × Nat}
    (hfg : ∀ i, i < EFF_BUCKETS → f i = g i) (h : Quartiles f q) : Quartiles g q :=
  ⟨h.q1.congr hfg, h.q2.congr hfg, h.q3.congr hfg⟩

theorem at_copy {k : Nat} (hk : k < EFF_BUCKETS) :
    Buckets.at (Vector.ofFn fun i => a_bucket.getD i 0) k = a_bucket.getD k 0 := by
  rw [Buckets.at, Vector.getD, Array.getD_eq_getD_getElem?, Vector.getElem?_toArray,
    Vector.getElem?_eq_getElem hk, Vector.getElem_ofFn, Option.getD_some]

/-- The quickselect ends, and finds the quartiles. -/
theorem find_quartile_ranks : ∃ q, find_quartile a_bucket = some q ∧
    Quartiles (fun i => a_bucket.getD i 0) q := by
  generalize hcopy : (Vector.ofFn fun i => a_bucket.getD i 0 : Buckets) = bucket_copy
  obtain ⟨s, hs, hsel⟩ := selected (p := 63) EFF_BUCKETS ⟨bucket_copy, 0, 127, [], []⟩
    (show 127 - 0 < EFF_BUCKETS by decide)
    ⟨show 0 ≤ 63 ∧ 63 ≤ 127 ∧ 127 < EFF_BUCKETS by decide, cut_zero _ _, cut_end _ _⟩
    ⟨fun k hk => absurd hk List.not_mem_nil, fun k hk => absurd hk List.not_mem_nil⟩
  obtain ⟨q1, b, hleft, hq1, hb⟩ := selectLeft_rank (p := 31) (m := 62) (by decide) s.buf
    (s.short_cut_left ++ [62]) 0 (by decide) (cut_zero _ _)
    (fun k hk => by
      rcases List.mem_append.mp hk with hk | hk
      · obtain ⟨hkp, hk1, hk2⟩ := hsel.left k hk
        exact ⟨by omega, hk2, fun _ => hk1⟩
      · rw [List.mem_singleton] at hk
        subst hk
        exact ⟨le_refl _, hsel.cut, fun hle => absurd hle (by decide)⟩)
    ⟨62, List.mem_append_right _ List.mem_cons_self, by decide⟩
  -- What the left short cuts moved stands before the middle.
  have hkept : ∀ k, 63 ≤ k → Cut EFF_BUCKETS s.buf.at k → Cut EFF_BUCKETS b.at k :=
    fun k hk hcut => hcut.rearranged hb (Or.inr (by omega)) (by decide)
  obtain ⟨q3, b', hright, hq3⟩ := selectRight_rank (p := 95) b
    (s.short_cut_right ++ [64]) 127 (by decide) (by decide) (cut_end _ _)
    (fun k hk => by
      rcases List.mem_append.mp hk with hk | hk
      · obtain ⟨hkp, hkn, hk1, hk2⟩ := hsel.right k hk
        exact ⟨hkn, hkept k hkp.le hk1, fun _ => hkept (k + 1) (by omega) hk2⟩
      · rw [List.mem_singleton] at hk
        subst hk
        exact ⟨by decide, hkept 64 (by decide) hsel.cut_succ, fun hle => absurd hle (by decide)⟩)
    ⟨64, List.mem_append_right _ List.mem_cons_self, by decide⟩
  refine ⟨(q1, s.buf.at 63, q3), ?_, ?_⟩
  · have hp1 : EFF_BUCKETS / 4 - 1 = 31 := rfl
    have hp2 : EFF_BUCKETS / 2 - 1 = 63 := rfl
    have hp3 : EFF_BUCKETS - EFF_BUCKETS / 4 - 1 = 95 := rfl
    have hend : EFF_BUCKETS - 1 = 127 := rfl
    simp only [find_quartile, hp1, hp2, hp3, hend, hcopy, hs, hleft, hright, Option.bind_eq_bind,
      Option.bind_some]
  · have hmoved := hsel.moved
    have hlast : 127 < EFF_BUCKETS := by decide
    have hq2 := hasRank_of_cuts (by decide) hsel.cut hsel.cut_succ
    have hranks : Quartiles (Buckets.at bucket_copy) (q1, s.buf.at 63, q3) :=
      ⟨hq1.of_rearranged hmoved hlast, hq2.of_rearranged hmoved hlast,
        (hq3.of_rearranged hb (by decide)).of_rearranged hmoved hlast⟩
    subst hcopy
    exact hranks.congr fun i hi => at_copy a_bucket hi

end Quartiles

section Capturing

private theorem topval_step : ∀ i : Fin 169, topval.getD i 0 < topval.getD (i + 1) 0 := by
  decide +kernel

theorem topval_mono {i j : Nat} (hij : i ≤ j) (hj : j < 170) :
    topval.getD i 0 ≤ topval.getD j 0 := by
  induction j, hij using Nat.le_induction with
  | base => exact le_refl _
  | succ j hij ih => exact (ih (by omega)).trans (topval_step ⟨j, by omega⟩).le

/-- The place that `l_capturing` looks for. -/
def Captures (len t : Nat) : Prop :=
  len ≤ topval.getD t 0 ∧ (t ≠ 0 → topval.getD (t - 1) 0 < len)

variable {len t idx bottom top : Nat}

theorem captures_exists (hlen : len ≤ topval.getD 169 0) : ∃ t, t < 170 ∧ Captures len t := by
  classical
  have hex : ∃ t, len ≤ topval.getD t 0 := ⟨169, hlen⟩
  refine ⟨Nat.find hex, ?_, Nat.find_spec hex, fun hpos => ?_⟩
  · exact Nat.lt_succ_of_le (Nat.find_min' hex hlen)
  · exact not_le.mp (Nat.find_min hex (Nat.sub_lt (Nat.pos_of_ne_zero hpos) Nat.one_pos))

/-- A length below an entry has its place before it. -/
theorem Captures.below (hcap : Captures len t) (ht : t < 170) (hmiss : t ≠ idx)
    (hlt : len < topval.getD idx 0) : t < idx := by
  by_contra hge
  have hmono := topval_mono (show idx ≤ t - 1 by omega) (by omega)
  have hgt := hcap.2 (by omega)
  omega

/-- A length not below an entry has its place after it. -/
theorem Captures.above (hcap : Captures len t) (hpos : idx ≠ 0) (hin : idx < 170)
    (hmiss : t ≠ idx) (hge : ¬ len < topval.getD idx 0) : idx < t := by
  by_contra hle
  have hmono := topval_mono (show t ≤ idx - 1 by omega) (by omega)
  have hstep := topval_step ⟨idx - 1, by omega⟩
  simp only [Nat.sub_add_cancel (Nat.pos_of_ne_zero hpos)] at hstep
  have hcap' := hcap.1
  omega

/-- The bounds that the search can have: from the left end, only these. -/
structure Searching (t bottom top : Nat) : Prop where
  bounds : bottom ≤ t ∧ t ≤ top ∧ top ≤ 170
  ends : bottom ≠ 0 ∨ top ∈ [170, 84, 41, 19, 8, 3, 0]

theorem searching_start (ht : t < 170) : Searching t 0 170 :=
  ⟨⟨Nat.zero_le _, ht.le, le_refl _⟩, .inr List.mem_cons_self⟩

theorem Searching.mid (h : Searching t bottom top) (ht : t < 170) :
    bottom ≤ (bottom + top) / 2 ∧ (bottom + top) / 2 ≤ top ∧ (bottom + top) / 2 < 170 := by
  have hb := h.bounds
  omega

/-- A search that reaches the first place looks for it. -/
theorem Searching.zero (h : Searching t bottom top) (hidx : (bottom + top) / 2 = 0) : t = 0 := by
  have hb := h.bounds
  rcases h.ends with hpos | htop
  · omega
  · simp only [List.mem_cons, List.not_mem_nil, or_false] at htop
    omega

theorem Searching.goLeft (h : Searching t bottom top) (hlt : t < (bottom + top) / 2) :
    Searching t bottom ((bottom + top) / 2 - 1) := by
  have hb := h.bounds
  refine ⟨by omega, ?_⟩
  by_cases hpos : bottom = 0
  · right
    subst hpos
    have htop := h.ends.resolve_left (not_not.mpr rfl)
    simp only [List.mem_cons, List.not_mem_nil, or_false] at htop ⊢
    omega
  · exact .inl hpos

theorem Searching.goRight (h : Searching t bottom top) (hgt : (bottom + top) / 2 < t) :
    Searching t ((bottom + top) / 2 + 1) top := by
  have hb := h.bounds
  exact ⟨by omega, .inl (Nat.succ_ne_zero _)⟩

/-- Binary search: the place stays between `bottom` and `top`. -/
theorem captureLoop_finds (ht : t < 170) (hcap : Captures len t) :
    ∀ fuel bottom top, Searching t bottom top → top - bottom < fuel →
      captureLoop len fuel bottom top ((bottom + top) / 2) = some t
  | 0, _, _, _, hfuel => absurd hfuel (Nat.not_lt_zero _)
  | fuel + 1, bottom, top, h, hfuel => by
      have hidx := h.mid ht
      have hb := h.bounds
      rw [captureLoop]
      split
      · rename_i hzero
        rw [hzero, h.zero hzero]
      · rename_i hpos
        split
        · rename_i hhit
          congr 1
          by_contra hne
          rcases Nat.lt_or_gt_of_ne hne with hlt | hgt
          · have hmono := topval_mono (show (bottom + top) / 2 ≤ t - 1 by omega) (by omega)
            have hgt := hcap.2 (by omega)
            omega
          · have hmono := topval_mono (show t ≤ (bottom + top) / 2 - 1 by omega) (by omega)
            have hle := hcap.1
            omega
        · rename_i hmiss
          have hne : t ≠ (bottom + top) / 2 := by
            intro heq
            rw [← heq] at hmiss hpos
            exact hmiss ⟨hcap.1, hcap.2 hpos⟩
          split
          · rename_i hlt
            have hbelow := hcap.below ht hne hlt
            exact captureLoop_finds ht hcap fuel _ _ (h.goLeft hbelow) (by omega)
          · rename_i hge
            have habove := hcap.above hpos hidx.2.2 hne hge
            exact captureLoop_finds ht hcap fuel _ _ (h.goRight habove) (by omega)

/-- `l_capturing` gives the place of a length that the table reaches. -/
theorem l_capturing_finds {len : UInt32} (ht : t < 170) (hcap : Captures len.toNat t) :
    l_capturing len = some (UInt8.ofNat t) := by
  have hlast : ¬ topval.getD 169 0 < len.toNat :=
    not_lt.mpr (hcap.1.trans (topval_mono (by omega) (by omega)))
  rw [l_capturing, if_neg hlast,
    captureLoop_finds ht hcap 171 0 170 (searching_start ht) (by omega), Option.map_some]

theorem l_capturing_ends (len : UInt32) : ∃ v, l_capturing len = some v := by
  by_cases hle : len.toNat ≤ topval.getD 169 0
  · obtain ⟨t, ht, hcap⟩ := captures_exists hle
    exact ⟨_, l_capturing_finds ht hcap⟩
  · exact ⟨169, if_pos (not_le.mp hle)⟩

end Capturing

section Final

/-- `tlsh_final` ends. -/
theorem quartileBits_lt (q1 q2 q3 k : Nat) : quartileBits q1 q2 q3 k < 4 := by
  rw [quartileBits]
  split
  · decide
  · split
    · decide
    · split
      · decide
      · decide

theorem tlsh_final_ends (ctx : tlsh_ctx) : ∃ o, tlsh_final ctx = some o := by
  rw [tlsh_final]
  split
  · rename_i a_bucket _ _
    split
    · exact ⟨none, rfl⟩
    · obtain ⟨⟨q1, q2, q3⟩, hq, _⟩ := find_quartile_ranks a_bucket
      obtain ⟨v, hv⟩ := l_capturing_ends ctx.data_len
      simp only [summarize, hq, hv, Option.bind_eq_bind, Option.bind_some]
      split
      · exact ⟨none, rfl⟩
      · split
        · exact ⟨none, rfl⟩
        · exact ⟨_, rfl⟩
  · exact ⟨none, rfl⟩

end Final

end KernelAv.Daemon.TlshQuartiles
