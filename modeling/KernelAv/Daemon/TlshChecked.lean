/- digest: The end of TLSH with each index, sum, difference and quotient checked: all go well. -/

import KernelAv.Daemon.TlshQuartiles
import KernelAv.Lib.Checked

set_option autoImplicit false
set_option relaxedAutoImplicit false

namespace KernelAv.Daemon.TlshChecked

open KernelAv.Lib
open KernelAv.Lib.Checked
open KernelAv.Lib.Selection
open KernelAv.Daemon.Tlsh
open KernelAv.Daemon.TlshQuartiles

/-- A sum of type `unsigned int`. -/
def word (v : Nat) : Run Nat := below (2 ^ 32) v

section Definitions

/-- One round of the loop of `partition`. -/
def sift (val : Nat) (s : Nat × Buckets) (i : Nat) : Run (Nat × Buckets) := do
  let x ← read s.2 i
  if x < val then
    let t ← read s.2 s.1
    let buf ← write s.2 s.1 x
    let buf ← write buf i t
    let ret ← word (s.1 + 1)
    .ok (ret, buf)
  else .ok s

/-- The case of two places. -/
def exchange (buf : Buckets) (left right : Nat) : Run (Nat × Buckets) := do
  let x ← read buf left
  let y ← read buf right
  if y < x then
    let buf ← write buf left y
    let buf ← write buf right x
    .ok (left, buf)
  else .ok (left, buf)

/-- The case of more places. -/
def divide (buf : Buckets) (left right : Nat) : Run (Nat × Buckets) := do
  let sum ← word (left + right)
  let pivot := sum / 2
  let val ← read buf pivot
  let last ← read buf right
  let buf ← write buf pivot last
  let buf ← write buf right val
  let (ret, buf) ← (List.range' left (right - left)).foldlM (sift val) (left, buf)
  let x ← read buf ret
  let buf ← write buf right x
  let buf ← write buf ret val
  .ok (ret, buf)

def partition (buf : Buckets) (left right : Nat) : Run (Nat × Buckets) := do
  if left = right then .ok (left, buf)
  else
    let next ← word (left + 1)
    if next = right then exchange buf left right else divide buf left right

def select (p : Nat) : Nat → Select → Run Select
  | 0, _ => .error .rounds
  | fuel + 1, s => do
      let (ret, buf) ← partition s.buf s.l s.r
      if p < ret then
        let r ← minus ret 1
        let short_cut_right ← push EFF_BUCKETS s.short_cut_right ret
        select p fuel { s with buf := buf, r := r, short_cut_right := short_cut_right }
      else if ret < p then
        let l ← word (ret + 1)
        let short_cut_left ← push EFF_BUCKETS s.short_cut_left ret
        select p fuel { s with buf := buf, l := l, short_cut_left := short_cut_left }
      else .ok { s with buf := buf }

/-- The loop between two short cuts: the value at `p`, and the buffer. -/
def selectBetween (p l r : Nat) (buf : Buckets) : Run (Nat × Buckets) := do
  let s ← select p EFF_BUCKETS ⟨buf, l, r, [], []⟩
  let x ← read s.buf p
  .ok (x, s.buf)

def selectLeft (p : Nat) : List Nat → Nat → Buckets → Run (Nat × Buckets)
  | [], _, _ => .error .rounds
  | r :: rs, l, buf =>
      if p < r then selectBetween p l r buf
      else if r < p then selectLeft p rs r buf
      else do
        let x ← read buf p
        .ok (x, buf)

def selectRight (p : Nat) : List Nat → Nat → Buckets → Run (Nat × Buckets)
  | [], _, _ => .error .rounds
  | l :: ls, r, buf =>
      if l < p then selectBetween p l r buf
      else if p < l then selectRight p ls l buf
      else do
        let x ← read buf p
        .ok (x, buf)

def find_quartile (a_bucket : Vector Nat BUCKET_COUNT) : Run (Nat × Nat × Nat) := do
  let quarter ← quotient EFF_BUCKETS 4
  let half ← quotient EFF_BUCKETS 2
  let p1 ← minus quarter 1
  let p2 ← minus half 1
  let rest ← minus EFF_BUCKETS quarter
  let p3 ← minus rest 1
  let last ← minus EFF_BUCKETS 1
  let bucket_copy : Buckets ← Vector.ofFnM fun i => read a_bucket i
  let s ← select p2 EFF_BUCKETS ⟨bucket_copy, 0, last, [], []⟩
  let q2 ← read s.buf p2
  let before ← minus p2 1
  let after ← word (p2 + 1)
  let short_cut_left ← push EFF_BUCKETS s.short_cut_left before
  let short_cut_right ← push EFF_BUCKETS s.short_cut_right after
  let (q1, buf) ← selectLeft p1 short_cut_left 0 s.buf
  let (q3, _) ← selectRight p3 short_cut_right last buf
  .ok (q1, q2, q3)

def captureLoop (len : Nat) : Nat → Nat → Nat → Nat → Run Nat
  | 0, _, _, _ => .error .rounds
  | fuel + 1, bottom, top, idx =>
      if idx = 0 then .ok idx
      else do
        let here ← entry topval idx
        let down ← minus idx 1
        let before ← entry topval down
        let up ← below (2 ^ 31) (idx + 1)
        if len ≤ here ∧ before < len then .ok idx
        else if len < here then
          let sum ← below (2 ^ 31) (bottom + down)
          captureLoop len fuel bottom down (sum / 2)
        else
          let sum ← below (2 ^ 31) (up + top)
          captureLoop len fuel up top (sum / 2)

def l_capturing (len : UInt32) : Run UInt8 := do
  let last ← entry topval 169
  if last < len.toNat then .ok 169
  else
    let idx ← captureLoop len.toNat 171 0 170 85
    .ok (UInt8.ofNat idx)

/-- One round of the loop for a byte of the code; the sum is of type `unsigned char`. -/
def packRound (q1 q2 q3 : Nat) (a_bucket : Vector Nat BUCKET_COUNT) (i : Nat) (h : UInt8)
    (j : Nat) : Run UInt8 := do
  let k ← read a_bucket (4 * i + j)
  let sum ← below 256 (h.toNat + (quartileBits q1 q2 q3 k).toNat * 2 ^ (j * 2))
  .ok (UInt8.ofNat sum)

def codeByte (q1 q2 q3 : Nat) (a_bucket : Vector Nat BUCKET_COUNT) (i : Nat) : Run UInt8 :=
  (List.range 4).foldlM (packRound q1 q2 q3 a_bucket i) 0

/-- One round of the count of buckets; the counter is of type `int`. -/
def nonzeroRound (a_bucket : Vector Nat BUCKET_COUNT) (nonzero i : Nat) : Run Nat := do
  let k ← read a_bucket i
  if 0 < k then below (2 ^ 31) (nonzero + 1) else .ok nonzero

def nonzero (a_bucket : Vector Nat BUCKET_COUNT) : Run Nat :=
  (List.range (4 * TLSH_CODE_SIZE)).foldlM (nonzeroRound a_bucket) 0

/-- A ratio, in 64 bits. -/
def ratio (q q3 : Nat) : Run UInt8 := do
  let product ← below (2 ^ 64) (q * 100)
  let share ← quotient product q3
  .ok (UInt8.ofNat (share % 16))

def summarize (a_bucket : Vector Nat BUCKET_COUNT) (data_len : UInt32) (checksum : UInt8) :
    Run (Option tlsh_digest) := do
  let (q1, q2, q3) ← find_quartile a_bucket
  if q3 = 0 then .ok none
  else
    let count ← nonzero a_bucket
    if count ≤ 4 * TLSH_CODE_SIZE / 2 then .ok none
    else
      let tmp_code ← Vector.ofFnM fun i => codeByte q1 q2 q3 a_bucket i
      let Lvalue ← l_capturing data_len
      let Q1ratio ← ratio q1 q3
      let Q2ratio ← ratio q2 q3
      .ok (some ⟨checksum, Lvalue, Q1ratio, Q2ratio, tmp_code⟩)

def tlsh_final (ctx : tlsh_ctx) : Run (Option tlsh_digest) :=
  match ctx.alloc_failed, ctx.a_bucket with
  | false, some a_bucket =>
      if ctx.data_len.toNat < MIN_DATA_LENGTH then .ok none
      else summarize a_bucket ctx.data_len ctx.checksum
  | _, _ => .ok none

end Definitions

section Places

variable {buf : Buckets} {left right p : Nat}

/-- A sum of places fits in a word. -/
theorem word_ok {v : Nat} (h : v ≤ 2 * EFF_BUCKETS) : word v = .ok v :=
  below_ok (h.trans_lt (by decide))

theorem place_ok {i : Nat} (hi : i < EFF_BUCKETS) : read buf i = .ok (buf.at i) := read_ok hi 0

theorem sift_ok {val i : Nat} {s : Nat × Buckets} (hs : s.1 ≤ i) (hi : i < EFF_BUCKETS) :
    sift val s i = .ok (Tlsh.sift val s i) := by
  have hret : s.1 < EFF_BUCKETS := hs.trans_lt hi
  rw [sift, Tlsh.sift, place_ok hi, ok_bind]
  split
  · rw [place_ok hret, ok_bind, write_ok hret, ok_bind, write_ok hi, ok_bind,
      word_ok (by omega), ok_bind]
  · rfl

theorem sift_le {val i : Nat} {s : Nat × Buckets} (hs : s.1 ≤ i) :
    (Tlsh.sift val s i).1 ≤ i + 1 := by
  rw [Tlsh.sift]
  split
  · exact Nat.succ_le_succ hs
  · exact hs.trans (Nat.le_succ i)

/-- The loop of `partition`: its `ret` never passes its `i`. -/
theorem sifting_ok (val left n : Nat) (buf : Buckets) (hn : left + n ≤ EFF_BUCKETS) :
    (List.range' left n).foldlM (sift val) (left, buf) =
        .ok ((List.range' left n).foldl (Tlsh.sift val) (left, buf)) ∧
      ((List.range' left n).foldl (Tlsh.sift val) (left, buf)).1 ≤ left + n := by
  induction n with
  | zero => exact ⟨rfl, le_refl _⟩
  | succ n ih =>
      obtain ⟨hrun, hret⟩ := ih (by omega)
      rw [List.range'_concat, List.foldlM_append, List.foldl_append, Nat.one_mul, hrun, ok_bind,
        List.foldlM_cons, sift_ok hret (by omega), ok_bind]
      exact ⟨rfl, sift_le hret⟩

theorem exchange_ok (hleft : left < EFF_BUCKETS) (hright : right < EFF_BUCKETS) :
    exchange buf left right =
      .ok (left, if buf.at right < buf.at left then
        (buf.setIfInBounds left (buf.at right)).setIfInBounds right (buf.at left) else buf) := by
  rw [exchange, place_ok hleft, ok_bind, place_ok hright, ok_bind]
  split
  · rw [write_ok hleft, ok_bind, write_ok hright, ok_bind]
  · rfl

theorem partition_ok (buf : Buckets) (hle : left ≤ right) (hright : right < EFF_BUCKETS) :
    partition buf left right = .ok (Tlsh.partition buf left right) := by
  rw [partition, Tlsh.partition]
  by_cases hone : left = right
  · rw [if_pos hone, if_pos hone]
  · rw [if_neg hone, if_neg hone, word_ok (by omega), ok_bind]
    by_cases htwo : left + 1 = right
    · rw [if_pos htwo, if_pos htwo, exchange_ok (by omega) hright]
    · rw [if_neg htwo, if_neg htwo]
      have hpivot : (left + right) / 2 < EFF_BUCKETS := by omega
      obtain ⟨hrun, hret⟩ := sifting_ok (buf.at ((left + right) / 2)) left (right - left)
        ((buf.setIfInBounds ((left + right) / 2) (buf.at right)).setIfInBounds right
          (buf.at ((left + right) / 2))) (by omega)
      rw [divide, word_ok (by omega), ok_bind]
      simp only [place_ok hpivot, place_ok hright, write_ok hpivot, write_ok hright, ok_bind, hrun]
      generalize (List.range' left (right - left)).foldl _ _ = s at hret
      have hpoint : s.1 < EFF_BUCKETS := by omega
      simp only [place_ok hpoint, write_ok hpoint, ok_bind]

end Places

section Selecting

variable {p : Nat}

/-- The place looked for is in the open range, and there is room for the short cuts to come. -/
structure Room (p : Nat) (s : Select) : Prop where
  bounds : s.l ≤ p ∧ p ≤ s.r ∧ s.r < EFF_BUCKETS
  left : ∀ k ∈ s.short_cut_left, k < EFF_BUCKETS
  right : ∀ k ∈ s.short_cut_right, k < EFF_BUCKETS
  room : s.short_cut_left.length + s.short_cut_right.length + (s.r - s.l) < EFF_BUCKETS

theorem room_start {l r : Nat} (buf : Buckets) (hl : l ≤ p) (hr : p ≤ r) (hin : r < EFF_BUCKETS) :
    Room p ⟨buf, l, r, [], []⟩ where
  bounds := ⟨hl, hr, hin⟩
  left := fun _ hk => absurd hk List.not_mem_nil
  right := fun _ hk => absurd hk List.not_mem_nil
  room := by
    simp only [List.length_nil]
    omega

private theorem lt_append {ks : List Nat} {ret : Nat} (hks : ∀ k ∈ ks, k < EFF_BUCKETS)
    (hret : ret < EFF_BUCKETS) : ∀ k ∈ ks ++ [ret], k < EFF_BUCKETS := by
  intro k hk
  rcases List.mem_append.mp hk with hk | hk
  · exact hks k hk
  · rw [List.mem_singleton] at hk
    exact hk ▸ hret

theorem Room.goLeft {s : Select} {ret : Nat} (h : Room p s) (hret : ret ≤ s.r) (hp : p < ret)
    (buf : Buckets) : Room p { s with
      buf := buf, r := ret - 1, short_cut_right := s.short_cut_right ++ [ret] } where
  bounds := by
    have hb := h.bounds
    simp only
    omega
  left := h.left
  right := lt_append h.right (hret.trans_lt h.bounds.2.2)
  room := by
    have hroom := h.room
    have hb := h.bounds
    simp only [List.length_append, List.length_singleton]
    omega

theorem Room.goRight {s : Select} {ret : Nat} (h : Room p s) (hret : s.l ≤ ret) (hp : ret < p)
    (buf : Buckets) : Room p { s with
      buf := buf, l := ret + 1, short_cut_left := s.short_cut_left ++ [ret] } where
  bounds := by
    have hb := h.bounds
    simp only
    omega
  left := lt_append h.left (by have hb := h.bounds; omega)
  right := h.right
  room := by
    have hroom := h.room
    have hb := h.bounds
    simp only [List.length_append, List.length_singleton]
    omega

/-- By induction on the rounds: a partition leaves a range with less room, and one short cut. -/
theorem select_ok : ∀ (fuel : Nat) (s : Select), Room p s →
    select p fuel s = ofOption (Tlsh.select p fuel s) ∧
      ∀ s', Tlsh.select p fuel s = some s' → Room p s'
  | 0, _, _ => ⟨rfl, fun _ h => nomatch h⟩
  | fuel + 1, s, hs => by
      have hb := hs.bounds
      have hroom := hs.room
      have hret := partition_bounds s.buf (show s.l ≤ s.r by omega) hb.2.2
      rw [select, Tlsh.select, partition_ok s.buf (by omega) hb.2.2, ok_bind]
      generalize Tlsh.partition s.buf s.l s.r = res at hret
      obtain ⟨ret, buf⟩ := res
      simp only at hret ⊢
      by_cases hlt : p < ret
      · rw [if_pos hlt, if_pos hlt, minus_ok (by omega), ok_bind, push_ok (by omega), ok_bind]
        exact select_ok fuel _ (hs.goLeft hret.2 hlt buf)
      · by_cases hgt : ret < p
        · rw [if_neg hlt, if_neg hlt, if_pos hgt, if_pos hgt, word_ok (by omega), ok_bind,
            push_ok (by omega), ok_bind]
          exact select_ok fuel _ (hs.goRight hret.1 hgt buf)
        · rw [if_neg hlt, if_neg hlt, if_neg hgt, if_neg hgt]
          refine ⟨rfl, fun s' h => ?_⟩
          obtain rfl := Option.some.inj h
          exact ⟨hs.bounds, hs.left, hs.right, hs.room⟩

theorem selectBetween_ok {l r : Nat} (buf : Buckets) (hl : l ≤ p) (hr : p ≤ r)
    (hin : r < EFF_BUCKETS) :
    selectBetween p l r buf = ofOption ((Tlsh.select p EFF_BUCKETS ⟨buf, l, r, [], []⟩).map
      fun s => (s.buf.at p, s.buf)) := by
  rw [selectBetween, (select_ok EFF_BUCKETS _ (room_start buf hl hr hin)).1]
  cases Tlsh.select p EFF_BUCKETS ⟨buf, l, r, [], []⟩ with
  | none => rfl
  | some s =>
      rw [ofOption, ok_bind, place_ok (hr.trans_lt hin), ok_bind, Option.map_some, ofOption]

theorem selectLeft_ok (buf : Buckets) (hp : p < EFF_BUCKETS) : ∀ (rs : List Nat) (l : Nat),
    l ≤ p → (∀ r ∈ rs, r < EFF_BUCKETS) →
      selectLeft p rs l buf = ofOption (Tlsh.selectLeft p rs l buf)
  | [], _, _, _ => rfl
  | r :: rs, l, hl, hall => by
      have hr := hall r List.mem_cons_self
      rw [selectLeft, Tlsh.selectLeft]
      by_cases hlt : p < r
      · rw [if_pos hlt, if_pos hlt, selectBetween_ok buf hl hlt.le hr]
      · by_cases hgt : r < p
        · rw [if_neg hlt, if_neg hlt, if_pos hgt, if_pos hgt]
          exact selectLeft_ok buf hp rs r hgt.le fun k hk => hall k (List.mem_cons_of_mem _ hk)
        · rw [if_neg hlt, if_neg hlt, if_neg hgt, if_neg hgt, place_ok hp, ok_bind, ofOption]

theorem selectRight_ok (buf : Buckets) (hp : p < EFF_BUCKETS) : ∀ (ls : List Nat) (r : Nat),
    p ≤ r → r < EFF_BUCKETS → (∀ l ∈ ls, l < EFF_BUCKETS) →
      selectRight p ls r buf = ofOption (Tlsh.selectRight p ls r buf)
  | [], _, _, _, _ => rfl
  | l :: ls, r, hr, hin, hall => by
      have hl := hall l List.mem_cons_self
      rw [selectRight, Tlsh.selectRight]
      by_cases hlt : l < p
      · rw [if_pos hlt, if_pos hlt, selectBetween_ok buf hlt.le hr hin]
      · by_cases hgt : p < l
        · rw [if_neg hlt, if_neg hlt, if_pos hgt, if_pos hgt]
          exact selectRight_ok buf hp ls l hgt.le hl fun k hk =>
            hall k (List.mem_cons_of_mem _ hk)
        · rw [if_neg hlt, if_neg hlt, if_neg hgt, if_neg hgt, place_ok hp, ok_bind, ofOption]

end Selecting

section Quartiles

theorem copy_ok (a_bucket : Vector Nat BUCKET_COUNT) :
    (Vector.ofFnM fun i : Fin EFF_BUCKETS => read a_bucket i) =
      (.ok (Vector.ofFn fun i => a_bucket.getD i 0) : Run Buckets) := by
  have hread : (fun i : Fin EFF_BUCKETS => read a_bucket i) =
      fun i : Fin EFF_BUCKETS => (pure (a_bucket.getD i 0) : Run Nat) := by
    funext i
    exact read_ok (i.isLt.trans (by decide)) 0
  rw [hread, Vector.ofFnM_pure]
  rfl

theorem find_quartile_ok (a_bucket : Vector Nat BUCKET_COUNT) :
    find_quartile a_bucket = ofOption (Tlsh.find_quartile a_bucket) := by
  have hp1 : EFF_BUCKETS / 4 - 1 = 31 := rfl
  have hp2 : EFF_BUCKETS / 2 - 1 = 63 := rfl
  have hp3 : EFF_BUCKETS - EFF_BUCKETS / 4 - 1 = 95 := rfl
  have hend : EFF_BUCKETS - 1 = 127 := rfl
  have hfour : quotient EFF_BUCKETS 4 = .ok 32 := rfl
  have htwo : quotient EFF_BUCKETS 2 = .ok 64 := rfl
  have hsteps : minus 32 1 = .ok 31 ∧ minus 64 1 = .ok 63 ∧ minus EFF_BUCKETS 32 = .ok 96 ∧
      minus 96 1 = .ok 95 ∧ minus EFF_BUCKETS 1 = .ok 127 ∧ minus 63 1 = .ok 62 :=
    ⟨rfl, rfl, rfl, rfl, rfl, rfl⟩
  obtain ⟨h31, h63, h96, h95, h127, h62⟩ := hsteps
  have h64 : word (63 + 1) = .ok 64 := word_ok (by decide)
  simp only [find_quartile, Tlsh.find_quartile, hp1, hp2, hp3, hend, hfour, htwo, h31, h63, h96,
    h95, h127, h62, h64, copy_ok, ok_bind, Option.bind_eq_bind]
  generalize (Vector.ofFn fun i => a_bucket.getD i 0 : Buckets) = bucket_copy
  obtain ⟨hrun, hkept⟩ := select_ok EFF_BUCKETS ⟨bucket_copy, 0, 127, [], []⟩
    (room_start (p := 63) bucket_copy (by decide) (by decide) (by decide))
  rw [hrun]
  cases hs : Tlsh.select 63 EFF_BUCKETS ⟨bucket_copy, 0, 127, [], []⟩ with
  | none => rfl
  | some s =>
      have hroom := hkept s hs
      have hlens := hroom.room
      rw [ofOption, ok_bind, place_ok (by decide), ok_bind, push_ok (by omega), ok_bind,
        push_ok (by omega), ok_bind, Option.bind_some,
        selectLeft_ok s.buf (by decide) _ 0 (Nat.zero_le _) (lt_append hroom.left (by decide))]
      cases hleft : Tlsh.selectLeft 31 (s.short_cut_left ++ [62]) 0 s.buf with
      | none => rfl
      | some res =>
          obtain ⟨q1, buf⟩ := res
          simp only [ofOption, ok_bind, Option.bind_some]
          rw [selectRight_ok buf (by decide) _ 127 (by decide) (by decide)
            (lt_append hroom.right (by decide))]
          cases hright : Tlsh.selectRight 95 (s.short_cut_right ++ [64]) 127 buf with
          | none => rfl
          | some res => simp only [ofOption, ok_bind, Option.bind_some]

end Quartiles

section Length

variable {len t : Nat}

theorem captureLoop_ok (ht : t < 170) (hcap : Captures len t) :
    ∀ fuel bottom top, Searching t bottom top → top - bottom < fuel →
      captureLoop len fuel bottom top ((bottom + top) / 2) = .ok t
  | 0, _, _, _, hfuel => absurd hfuel (Nat.not_lt_zero _)
  | fuel + 1, bottom, top, h, hfuel => by
      have hmid := h.mid ht
      have hb := h.bounds
      have hfind := captureLoop_finds ht hcap (fuel + 1) bottom top h hfuel
      have hsize : topval.length = 170 := rfl
      rw [captureLoop]
      rw [Tlsh.captureLoop] at hfind
      by_cases hzero : (bottom + top) / 2 = 0
      · rw [if_pos hzero] at hfind ⊢
        exact congrArg Except.ok (Option.some.inj hfind)
      · rw [if_neg hzero] at hfind ⊢
        rw [entry_ok (by omega) 0, ok_bind, minus_ok (by omega), ok_bind, entry_ok (by omega) 0,
          ok_bind, below_ok (by omega), ok_bind]
        by_cases hhit : len ≤ topval.getD ((bottom + top) / 2) 0 ∧
            topval.getD ((bottom + top) / 2 - 1) 0 < len
        · rw [if_pos hhit] at hfind ⊢
          exact congrArg Except.ok (Option.some.inj hfind)
        · have hne : t ≠ (bottom + top) / 2 := by
            intro heq
            rw [← heq] at hhit hzero
            exact hhit ⟨hcap.1, hcap.2 hzero⟩
          rw [if_neg hhit]
          by_cases hlt : len < topval.getD ((bottom + top) / 2) 0
          · have hbelow := hcap.below ht hne hlt
            rw [if_pos hlt, below_ok (by omega), ok_bind]
            exact captureLoop_ok ht hcap fuel _ _ (h.goLeft hbelow) (by omega)
          · have habove := hcap.above hzero hmid.2.2 hne hlt
            rw [if_neg hlt, below_ok (by omega), ok_bind]
            exact captureLoop_ok ht hcap fuel _ _ (h.goRight habove) (by omega)

theorem l_capturing_ok (len : UInt32) : l_capturing len = ofOption (Tlsh.l_capturing len) := by
  have hsize : topval.length = 170 := rfl
  have hlast : entry topval 169 = .ok (topval.getD 169 0) := entry_ok (by omega) 0
  rw [l_capturing, hlast, ok_bind]
  by_cases hle : len.toNat ≤ topval.getD 169 0
  · obtain ⟨t, ht, hcap⟩ := captures_exists hle
    rw [if_neg (not_lt.mpr hle), l_capturing_finds ht hcap,
      captureLoop_ok ht hcap 171 0 170 (searching_start ht) (by omega), ok_bind, ofOption]
  · have hbeyond := not_le.mp hle
    rw [if_pos hbeyond, Tlsh.l_capturing, if_pos hbeyond, ofOption]

end Length

section Final

variable {q1 q2 q3 : Nat}

/-- Two bits at their place in a byte. -/
theorem shifted_toNat (q1 q2 q3 k : Nat) {j : Nat} (hj : j < 4) :
    (quartileBits q1 q2 q3 k <<< UInt8.ofNat (j * 2)).toNat =
      (quartileBits q1 q2 q3 k).toNat * 2 ^ (j * 2) := by
  have hb : (quartileBits q1 q2 q3 k).toNat ≤ 3 :=
    Nat.le_of_lt_succ (UInt8.lt_iff_toNat_lt.mp (quartileBits_lt q1 q2 q3 k))
  have hplace : (UInt8.ofNat (j * 2)).toNat = j * 2 := by
    rw [UInt8.toNat_ofNat']
    omega
  rw [UInt8.toNat_shiftLeft, hplace, Nat.mod_eq_of_lt (show j * 2 < 8 by omega), Nat.shiftLeft_eq]
  apply Nat.mod_eq_of_lt
  calc (quartileBits q1 q2 q3 k).toNat * 2 ^ (j * 2) ≤ 3 * 2 ^ (j * 2) :=
        Nat.mul_le_mul_right _ hb
    _ ≤ 3 * 2 ^ 6 := Nat.mul_le_mul_left _ (Nat.pow_le_pow_right (by decide) (by omega))
    _ < 2 ^ 8 := by decide

/-- A round of the packing: the byte so far is below the place of the next two bits. -/
theorem packRound_ok (q1 q2 q3 : Nat) (a_bucket : Vector Nat BUCKET_COUNT) {i j : Nat} {h : UInt8}
    (hi : i < TLSH_CODE_SIZE) (hj : j < 4) (hh : h.toNat < 2 ^ (j * 2)) :
    packRound q1 q2 q3 a_bucket i h j =
        .ok (h + (quartileBits q1 q2 q3 (a_bucket.getD (4 * i + j) 0) <<< UInt8.ofNat (j * 2))) ∧
      (h + (quartileBits q1 q2 q3 (a_bucket.getD (4 * i + j) 0) <<< UInt8.ofNat (j * 2))).toNat <
        2 ^ ((j + 1) * 2) := by
  have hsize : TLSH_CODE_SIZE = 32 := rfl
  have hcount : BUCKET_COUNT = 256 := rfl
  have hread : read a_bucket (4 * i + j) = .ok (a_bucket.getD (4 * i + j) 0) :=
    read_ok (by omega) 0
  generalize a_bucket.getD (4 * i + j) 0 = k at hread
  have hshift := shifted_toNat q1 q2 q3 k hj
  have hb : (quartileBits q1 q2 q3 k).toNat ≤ 3 :=
    Nat.le_of_lt_succ (UInt8.lt_iff_toNat_lt.mp (quartileBits_lt q1 q2 q3 k))
  have hsum : h.toNat + (quartileBits q1 q2 q3 k).toNat * 2 ^ (j * 2) < 2 ^ ((j + 1) * 2) := by
    have hmul := Nat.mul_le_mul_right (2 ^ (j * 2)) hb
    have hpow : 2 ^ ((j + 1) * 2) = 4 * 2 ^ (j * 2) := by
      rw [Nat.succ_mul, Nat.pow_add, Nat.mul_comm]
    omega
  have hbyte : 2 ^ ((j + 1) * 2) ≤ 256 := by
    calc 2 ^ ((j + 1) * 2) ≤ 2 ^ 8 := Nat.pow_le_pow_right (by decide) (by omega)
      _ = 256 := by decide
  have hadd : (h + (quartileBits q1 q2 q3 k <<< UInt8.ofNat (j * 2))).toNat =
      h.toNat + (quartileBits q1 q2 q3 k).toNat * 2 ^ (j * 2) := by
    rw [UInt8.toNat_add, hshift]
    exact Nat.mod_eq_of_lt (hsum.trans_le hbyte)
  constructor
  · rw [packRound, hread, ok_bind, below_ok (hsum.trans_le hbyte), ok_bind, ← hadd,
      UInt8.ofNat_toNat]
  · rw [hadd]
    exact hsum

theorem codeByte_ok {a_bucket : Vector Nat BUCKET_COUNT} {i : Nat} (hi : i < TLSH_CODE_SIZE) :
    codeByte q1 q2 q3 a_bucket i = .ok (Tlsh.codeByte q1 q2 q3 a_bucket i) := by
  have hround {j : Nat} {h : UInt8} := packRound_ok q1 q2 q3 a_bucket (j := j) (h := h) hi
  obtain ⟨h0, hlt0⟩ := hround (j := 0) (h := 0) (by decide) (by decide)
  obtain ⟨h1, hlt1⟩ := hround (j := 1) (by decide) hlt0
  obtain ⟨h2, hlt2⟩ := hround (j := 2) (by decide) hlt1
  obtain ⟨h3, _⟩ := hround (j := 3) (by decide) hlt2
  have hrange : List.range 4 = [0, 1, 2, 3] := rfl
  rw [codeByte, Tlsh.codeByte, hrange, List.foldlM_cons, h0, ok_bind, List.foldlM_cons, h1,
    ok_bind, List.foldlM_cons, h2, ok_bind, List.foldlM_cons, h3, ok_bind]
  rfl

theorem nonzero_ok (a_bucket : Vector Nat BUCKET_COUNT) :
    nonzero a_bucket = .ok (Tlsh.nonzero a_bucket) := by
  have hall : ∀ n, n ≤ BUCKET_COUNT →
      (List.range n).foldlM (nonzeroRound a_bucket) 0 =
          .ok ((List.range n).countP fun i => 0 < a_bucket.getD i 0) ∧
        ((List.range n).countP fun i => 0 < a_bucket.getD i 0) ≤ n := by
    intro n hn
    induction n with
    | zero => exact ⟨rfl, le_refl _⟩
    | succ n ih =>
        obtain ⟨hrun, hle⟩ := ih (Nat.le_of_succ_le hn)
        have hsize : BUCKET_COUNT = 256 := rfl
        rw [List.range_succ, List.foldlM_append, hrun, ok_bind, List.countP_append,
          List.foldlM_cons, nonzeroRound, read_ok (Nat.lt_of_succ_le hn) 0, ok_bind,
          List.countP_singleton]
        by_cases hpos : 0 < a_bucket.getD n 0
        · rw [if_pos hpos, below_ok (by omega), ok_bind, if_pos (decide_eq_true hpos)]
          exact ⟨rfl, Nat.succ_le_succ hle⟩
        · rw [if_neg hpos, ok_bind, if_neg fun h => hpos (of_decide_eq_true h)]
          exact ⟨rfl, hle.trans (Nat.le_succ n)⟩
  exact (hall (4 * TLSH_CODE_SIZE) (by decide)).1

theorem ratio_ok {q : Nat} (hq : q < 2 ^ 32) (hq3 : q3 ≠ 0) :
    ratio q q3 = .ok (UInt8.ofNat (q * 100 / q3 % 16)) := by
  rw [ratio, below_ok (by omega), ok_bind, quotient_ok hq3, ok_bind]

theorem code_ok (a_bucket : Vector Nat BUCKET_COUNT) :
    (Vector.ofFnM fun i : Fin TLSH_CODE_SIZE => codeByte q1 q2 q3 a_bucket i) =
      (.ok (Vector.ofFn fun i => Tlsh.codeByte q1 q2 q3 a_bucket i) :
        Run (Vector UInt8 TLSH_CODE_SIZE)) := by
  have hbyte : (fun i : Fin TLSH_CODE_SIZE => codeByte q1 q2 q3 a_bucket i) =
      fun i : Fin TLSH_CODE_SIZE => (pure (Tlsh.codeByte q1 q2 q3 a_bucket i) : Run UInt8) := by
    funext i
    exact codeByte_ok i.isLt
  rw [hbyte, Vector.ofFnM_pure]
  rfl

theorem summarize_ok {a_bucket : Vector Nat BUCKET_COUNT} (data_len : UInt32) (checksum : UInt8)
    (hcount : ∀ b, b < BUCKET_COUNT → a_bucket.getD b 0 < 2 ^ 32) :
    summarize a_bucket data_len checksum =
      ofOption (Tlsh.summarize a_bucket data_len checksum) := by
  obtain ⟨⟨q1, q2, q3⟩, hq, hranks⟩ := find_quartile_ranks a_bucket
  obtain ⟨v, hv⟩ := l_capturing_ends data_len
  have hword : ∀ {p q : Nat}, HasRank EFF_BUCKETS (fun i => a_bucket.getD i 0) p q →
      q < 2 ^ 32 := by
    intro p q hrank
    obtain ⟨i, hi, rfl⟩ := hrank.attained
    exact hcount i (hi.trans (by decide))
  rw [summarize, Tlsh.summarize, find_quartile_ok, hq, l_capturing_ok, hv]
  simp only [ofOption, ok_bind, Option.bind_eq_bind, Option.bind_some, nonzero_ok]
  by_cases hzero : q3 = 0
  · rw [if_pos hzero, if_pos hzero]
  · rw [if_neg hzero, if_neg hzero]
    by_cases hfew : Tlsh.nonzero a_bucket ≤ 4 * TLSH_CODE_SIZE / 2
    · rw [if_pos hfew, if_pos hfew]
    · rw [if_neg hfew, if_neg hfew, code_ok, ok_bind, ratio_ok (hword hranks.q1) hzero, ok_bind,
        ratio_ok (hword hranks.q2) hzero, ok_bind]

/-- `tlsh_final` does not fall over, and ends with what it gives unchecked. -/
theorem tlsh_final_ok (ctx : tlsh_ctx) (hcount : ∀ a_bucket, ctx.a_bucket = some a_bucket →
    ∀ b, b < BUCKET_COUNT → a_bucket.getD b 0 < 2 ^ 32) :
    ∃ o, tlsh_final ctx = .ok o ∧ Tlsh.tlsh_final ctx = some o := by
  obtain ⟨o, ho⟩ := tlsh_final_ends ctx
  refine ⟨o, ?_, ho⟩
  by_cases hgood : ∃ a_bucket, ctx.alloc_failed = false ∧ ctx.a_bucket = some a_bucket
  · obtain ⟨a_bucket, hfailed, hbucket⟩ := hgood
    simp only [Tlsh.tlsh_final, hfailed, hbucket] at ho
    simp only [tlsh_final, hfailed, hbucket]
    by_cases hshort : ctx.data_len.toNat < MIN_DATA_LENGTH
    · rw [if_pos hshort] at ho ⊢
      exact congrArg Except.ok (Option.some.inj ho)
    · rw [if_neg hshort] at ho ⊢
      rw [summarize_ok _ _ (hcount a_bucket hbucket), ho, ofOption]
  · have hplain : Tlsh.tlsh_final ctx = some none := by
      unfold Tlsh.tlsh_final
      split
      · rename_i a_bucket hfailed hbucket
        exact absurd ⟨a_bucket, hfailed, hbucket⟩ hgood
      · rfl
    have hchecked : tlsh_final ctx = .ok none := by
      unfold tlsh_final
      split
      · rename_i a_bucket hfailed hbucket
        exact absurd ⟨a_bucket, hfailed, hbucket⟩ hgood
      · rfl
    rw [hchecked, ← Option.some.inj (hplain.symm.trans ho)]

end Final

end KernelAv.Daemon.TlshChecked
