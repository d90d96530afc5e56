/- digest: The TLSH of a file is that of its bytes, however the file is read. -/

import KernelAv.Daemon.TlshDigest
import Mathlib.Algebra.BigOperators.Fin
import Mathlib.Algebra.BigOperators.Intervals
import Mathlib.Data.List.GetD

set_option autoImplicit false
set_option relaxedAutoImplicit false

namespace KernelAv.Daemon.TlshStream

open KernelAv.Lib.CText
open KernelAv.Daemon.Tlsh
open KernelAv.Daemon.TlshQuartiles
open KernelAv.Daemon.TlshDigest

section Appending

variable {data : Bytes} {b : UInt8}

private theorem mapping_append (tail : Bytes) {i : Nat} (hi : i < data.length) :
    mapping (data ++ tail) i = mapping data i := by
  have hget : ∀ d, (data ++ tail).getD (i - d) 0 = data.getD (i - d) 0 :=
    fun d => List.getD_append _ _ _ _ (by omega)
  simp only [mapping, hget]

private theorem checksumOf_append (hlen : 4 ≤ data.length) :
    checksumOf (data ++ [b]) =
      fast_b_mapping 1 b (data.getD (data.length - 1) 0) (checksumOf data) := by
  have hsub : (data ++ [b]).length - 4 = data.length - 4 + 1 := by
    rw [List.length_append, List.length_singleton]
    omega
  have hold : ∀ (c : UInt8), ∀ i ∈ List.range' 4 (data.length - 4),
      fast_b_mapping 1 ((data ++ [b]).getD i 0) ((data ++ [b]).getD (i - 1) 0) c =
        fast_b_mapping 1 (data.getD i 0) (data.getD (i - 1) 0) c := by
    intro c i hi
    rw [List.mem_range'_1] at hi
    rw [List.getD_append _ _ _ _ (by omega), List.getD_append _ _ _ _ (by omega)]
  have hlast : 4 + 1 * (data.length - 4) = data.length := by omega
  rw [checksumOf, hsub, List.range'_concat, List.foldl_append, List.foldl_ext _ _ _ hold, hlast,
    List.foldl_cons, List.foldl_nil, List.getD_append_right _ _ _ _ (le_refl _), Nat.sub_self,
    List.getD_append _ _ _ _ (by omega), checksumOf]
  rfl

private theorem checksumOf_short (hlen : data.length ≤ 4) : checksumOf data = 0 := by
  rw [checksumOf, Nat.sub_eq_zero_of_le hlen]
  rfl

/-- The buckets place by place. -/
theorem bucketOf_sum (data : Bytes) (b : Nat) : bucketOf data b =
    ∑ i ∈ Finset.Ico 4 data.length, ∑ k, if (mapping data i k).toNat = b then 1 else 0 := by
  rw [bucketOf, hits, Finset.card_filter, Finset.sum_product]

private theorem bucketOf_append (hlen : 4 ≤ data.length) (r : Nat) :
    bucketOf (data ++ [b]) r = bucketOf data r +
      ∑ k, if (mapping (data ++ [b]) data.length k).toNat = r then 1 else 0 := by
  rw [bucketOf_sum, bucketOf_sum, List.length_append, List.length_singleton,
    Finset.sum_Ico_succ_top hlen, Nat.add_right_cancel_iff]
  apply Finset.sum_congr rfl
  intro i hi
  rw [mapping_append _ (Finset.mem_Ico.mp hi).2]

private theorem bucketOf_short (hlen : data.length ≤ 4) (r : Nat) : bucketOf data r = 0 := by
  rw [bucketOf_sum, Finset.Ico_eq_empty_of_le hlen, Finset.sum_empty]

end Appending

private theorem get_set {α : Type} {n : Nat} (xs : Vector α n) (i : Nat) (x : α) (hi : i < n)
    (k : Fin n) : (xs.set i x hi).get k = if i = (k : Nat) then x else xs.get k :=
  Vector.getElem_set hi k.isLt

section Window

variable {data : Bytes} {sw : Vector UInt8 SLIDING_WND_SIZE} {b : UInt8}

/-- The ring holds the last five bytes, each at its place modulo 5. -/
private def Window (sw : Vector UInt8 SLIDING_WND_SIZE) (data : Bytes) : Prop :=
  ∀ i, i < data.length → data.length ≤ i + SLIDING_WND_SIZE →
    sw.get (Fin.ofNat SLIDING_WND_SIZE i) = data.getD i 0

private theorem ofNat_ne {i n : Nat} (hi : i < n) (hn : n < i + SLIDING_WND_SIZE) :
    (Fin.ofNat SLIDING_WND_SIZE n : Nat) ≠ (Fin.ofNat SLIDING_WND_SIZE i : Nat) := by
  have hsize : SLIDING_WND_SIZE = 5 := rfl
  rw [Fin.val_ofNat, Fin.val_ofNat, hsize]
  omega

private theorem Window.push (h : Window sw data) :
    Window (sw.set (Fin.ofNat SLIDING_WND_SIZE data.length) b (Fin.isLt _)) (data ++ [b]) := by
  intro i hi hlast
  rw [List.length_append, List.length_singleton] at hi hlast
  rw [get_set]
  rcases Nat.lt_or_eq_of_le (Nat.le_of_lt_succ hi) with hlt | rfl
  · rw [if_neg (ofNat_ne hlt (by omega)), List.getD_append _ _ _ _ hlt]
    exact h i hlt (by omega)
  · rw [if_pos rfl, List.getD_append_right _ _ _ _ (le_refl _), Nat.sub_self]
    rfl

/-- The slot that stands `d` before that of `n`. -/
private theorem slot_before {n d : Nat} (hd : d ≤ n) (hwnd : d ≤ 4) :
    Fin.ofNat SLIDING_WND_SIZE ((Fin.ofNat SLIDING_WND_SIZE n : Nat) + SLIDING_WND_SIZE - d) =
      Fin.ofNat SLIDING_WND_SIZE (n - d) := by
  have hsize : SLIDING_WND_SIZE = 5 := rfl
  apply Fin.ext
  rw [Fin.val_ofNat, Fin.val_ofNat, Fin.val_ofNat, hsize]
  omega

/-- The slot `d` before that of the last byte holds the byte `d` before it. -/
private theorem Window.before (h : Window sw data) {n d : Nat} (hn : n + 1 = data.length)
    (hd : d ≤ n) (hwnd : d ≤ 4) :
    sw.get (Fin.ofNat SLIDING_WND_SIZE
      ((Fin.ofNat SLIDING_WND_SIZE n : Nat) + SLIDING_WND_SIZE - d)) = data.getD (n - d) 0 := by
  have hsize : SLIDING_WND_SIZE = 5 := rfl
  rw [slot_before hd hwnd]
  exact h (n - d) (by omega) (by omega)

end Window

section Counting

variable {a : Vector Nat BUCKET_COUNT} {c : Nat → Nat} {r : UInt8}

/-- The counters of 32 bits for these counts. -/
private def Counts (a : Vector Nat BUCKET_COUNT) (c : Nat → Nat) : Prop :=
  ∀ s : UInt8, a.get ⟨s.toNat, bucket_lt s⟩ = c s.toNat % 2 ^ 32

private theorem Counts.bump (h : Counts a c) (r : UInt8) :
    Counts (Tlsh.bump a r) fun x => c x + if r.toNat = x then 1 else 0 := by
  intro s
  rw [Tlsh.bump, get_set]
  change _ = (c s.toNat + if r.toNat = s.toNat then 1 else 0) % 2 ^ 32
  by_cases hrs : r.toNat = s.toNat
  · obtain rfl : r = s := UInt8.toNat_inj.mp hrs
    rw [if_pos rfl, if_pos rfl, h r, Nat.mod_add_mod]
  · rw [if_neg hrs, if_neg hrs, Nat.add_zero]
    exact h s

private theorem Counts.congr {c' : Nat → Nat} (h : Counts a c) (hc : ∀ x, c x = c' x) :
    Counts a c' := by
  intro s
  rw [← hc]
  exact h s

end Counting

section Feeding

variable {f : Feed} {data : Bytes}

/-- What the loop of `tlsh_update` knows of the bytes it has had. -/
private structure Fed (f : Feed) (data : Bytes) : Prop where
  fed_len : f.fed_len.toNat = data.length
  j : f.j = Fin.ofNat SLIDING_WND_SIZE data.length
  window : Window f.slide_window data
  checksum : f.checksum = checksumOf data
  buckets : Counts f.a_bucket (bucketOf data)

private theorem next_slot (n : Nat) :
    Fin.ofNat SLIDING_WND_SIZE ((Fin.ofNat SLIDING_WND_SIZE n : Nat) + 1) =
      Fin.ofNat SLIDING_WND_SIZE (n + 1) := by
  apply Fin.ext
  rw [Fin.val_ofNat, Fin.val_ofNat, Fin.val_ofNat, Nat.mod_add_mod]

private theorem Fed.step (h : Fed f data) (b : UInt8) (hlen : data.length + 1 < 2 ^ 32) :
    Fed (f.step b) (data ++ [b]) := by
  obtain ⟨sw, checksum, a_bucket, fed_len, j⟩ := f
  obtain ⟨hfed, hj, hwindow, hchecksum, hbuckets⟩ := h
  simp only at hfed hj hwindow hchecksum hbuckets
  subst hj
  have hpush := hwindow.push (b := b)
  have hn : data.length + 1 = (data ++ [b]).length := by
    rw [List.length_append, List.length_singleton]
  have hfed' : (fed_len + 1).toNat = (data ++ [b]).length := by
    rw [UInt32.toNat_add, hfed, ← hn]
    exact Nat.mod_eq_of_lt hlen
  have hj' : Fin.ofNat SLIDING_WND_SIZE ((Fin.ofNat SLIDING_WND_SIZE data.length : Nat) + 1) =
      Fin.ofNat SLIDING_WND_SIZE (data ++ [b]).length := by
    rw [next_slot, hn]
  by_cases hfour : SLIDING_WND_SIZE - 1 ≤ fed_len.toNat
  · have hfour' : 4 ≤ data.length := by
      rw [hfed] at hfour
      exact hfour
    have hcur := hpush data.length (by omega) (by omega)
    rw [Feed.step, if_pos hfour]
    refine ⟨hfed', hj', hpush, ?_, ?_⟩
    · have h1 := hpush.before hn (show 1 ≤ data.length by omega) (by decide)
      rw [List.getD_append _ _ _ _ (by omega)] at h1
      simp only [hchecksum]
      rw [checksumOf_append hfour', hcur, h1, List.getD_append_right _ _ _ _ (le_refl _),
        Nat.sub_self]
      rfl
    · have h1 := hpush.before hn (show 1 ≤ data.length by omega) (by decide)
      have h2 := hpush.before hn (show 2 ≤ data.length by omega) (by decide)
      have h3 := hpush.before hn (show 3 ≤ data.length by omega) (by decide)
      have h4 := hpush.before hn (show 4 ≤ data.length by omega) (by decide)
      simp only [hcur, h1, h2, h3, h4]
      have hsix := (((((hbuckets.bump (mapping (data ++ [b]) data.length 0)).bump
        (mapping (data ++ [b]) data.length 1)).bump (mapping (data ++ [b]) data.length 2)).bump
        (mapping (data ++ [b]) data.length 3)).bump (mapping (data ++ [b]) data.length 4)).bump
        (mapping (data ++ [b]) data.length 5)
      refine Counts.congr hsix fun x => ?_
      rw [bucketOf_append hfour', Fin.sum_univ_six]
      simp only [Nat.add_assoc]
  · have hshort : data.length + 1 ≤ 4 := by
      rw [hfed] at hfour
      have hsize : SLIDING_WND_SIZE = 5 := rfl
      omega
    rw [Feed.step, if_neg hfour]
    refine ⟨hfed', hj', hpush, ?_, ?_⟩
    · rw [checksumOf_short (by omega)]
      rw [checksumOf_short (by omega)] at hchecksum
      exact hchecksum
    · apply hbuckets.congr
      intro r
      rw [bucketOf_short (by omega), bucketOf_short (by omega)]

/-- By induction on the bytes of the call. -/
private theorem Fed.foldl (chunk : Bytes) : ∀ {f : Feed} {data : Bytes}, Fed f data →
    data.length + chunk.length < 2 ^ 32 → Fed (chunk.foldl Feed.step f) (data ++ chunk) := by
  induction chunk with
  | nil =>
      intro f data h _
      rw [List.append_nil]
      exact h
  | cons b chunk ih =>
      intro f data h hlen
      rw [List.length_cons] at hlen
      have hone := h.step b (by omega)
      have hrest := ih hone (by
        rw [List.length_append, List.length_singleton]
        omega)
      rw [List.append_assoc, List.singleton_append] at hrest
      rw [List.foldl_cons]
      exact hrest

end Feeding

section Updates

variable {ctx : tlsh_ctx} {data chunk : Bytes} {calloc_ok : Bool}

/-- The context after some bytes, of which none was lost. -/
private structure Consumed (ctx : tlsh_ctx) (data : Bytes) : Prop where
  alloc_failed : ctx.alloc_failed = false
  data_len : ctx.data_len.toNat = data.length
  window : Window ctx.slide_window data
  checksum : ctx.checksum = checksumOf data
  allocated : ctx.a_bucket = none → data = []
  buckets : Counts (ctx.a_bucket.getD (Vector.replicate BUCKET_COUNT 0)) (bucketOf data)

private theorem consumed_init : Consumed tlsh_init [] where
  alloc_failed := rfl
  data_len := rfl
  window := fun _ hi => absurd hi (Nat.not_lt_zero _)
  checksum := rfl
  allocated := fun _ => rfl
  buckets := by
    intro s
    have hzero : (Vector.replicate BUCKET_COUNT 0).get ⟨s.toNat, bucket_lt s⟩ = 0 :=
      Vector.getElem_replicate (bucket_lt s)
    rw [bucketOf_short (Nat.zero_le _)]
    exact hzero

/-- A call loses its bytes only if it latches the failure of `calloc`. -/
private theorem Consumed.update (h : Consumed ctx data)
    (hlen : data.length + chunk.length < 2 ^ 32) :
    (calloc_ok = false ∧ (tlsh_update calloc_ok ctx chunk).alloc_failed = true) ∨
      Consumed (tlsh_update calloc_ok ctx chunk) (data ++ chunk) := by
  obtain ⟨a_bucket, sw, data_len, checksum, alloc_failed⟩ := ctx
  obtain ⟨rfl, hdata, hwindow, hchecksum, -, hbuckets⟩ := h
  simp only at hdata hwindow hchecksum hbuckets
  have hfed := Fed.foldl chunk
    (f := ⟨sw, checksum, a_bucket.getD (Vector.replicate BUCKET_COUNT 0), data_len,
      Fin.ofNat SLIDING_WND_SIZE data_len.toNat⟩)
    ⟨hdata, congrArg (Fin.ofNat SLIDING_WND_SIZE) hdata, hwindow, hchecksum, hbuckets⟩ hlen
  have hsum : (data_len + UInt32.ofNat chunk.length).toNat = (data ++ chunk).length := by
    rw [UInt32.toNat_add, UInt32.toNat_ofNat', hdata, Nat.add_mod_mod, List.length_append]
    exact Nat.mod_eq_of_lt hlen
  -- Unless this call fails, the array is there after it.
  have hkept : ∀ out : tlsh_ctx, out.a_bucket ≠ none → out.a_bucket = none → data ++ chunk = [] :=
    fun _ hsome hnone => absurd hnone hsome
  cases a_bucket with
  | some a =>
      exact Or.inr ⟨rfl, hsum, hfed.window, hfed.checksum, hkept _ (Option.some_ne_none _),
        hfed.buckets⟩
  | none =>
      cases calloc_ok with
      | true =>
          exact Or.inr ⟨rfl, hsum, hfed.window, hfed.checksum, hkept _ (Option.some_ne_none _),
            hfed.buckets⟩
      | false => exact Or.inl ⟨rfl, rfl⟩

/-- A failure stays. -/
private theorem update_failed (h : ctx.alloc_failed = true) :
    tlsh_update calloc_ok ctx chunk = ctx :=
  if_pos h

end Updates

section Reading

variable {content : Bytes} {max_len : Nat} {h h' : Hashing} {all steps : List ReadStep}

/-- The loop of `av_tlsh_hash_fd` between two of all its reads. -/
private structure Reading (content : Bytes) (max_len : Nat) (all : List ReadStep) (h : Hashing) :
    Prop where
  total : h.total ≤ content.length ∧ h.total ≤ max_len
  any_data : h.any_data = true ↔ h.total ≠ 0
  ctx : (h.ctx.alloc_failed = true ∧ ∃ step ∈ all, step.calloc_ok = false) ∨
    Consumed h.ctx (content.take h.total)

private theorem reading_init : Reading content max_len all ⟨tlsh_init, 0, false⟩ where
  total := ⟨Nat.zero_le _, Nat.zero_le _⟩
  any_data := by simp only [ne_eq, not_true_eq_false, Bool.false_eq_true]
  ctx := Or.inr consumed_init

/-- The bytes that a read gives follow those before it. -/
private theorem take_chunk (content : Bytes) (n m : Nat) (hn : n ≤ content.length) :
    content.take n ++ (content.drop n).take m =
      content.take (n + ((content.drop n).take m).length) := by
  rw [List.length_take, List.length_drop, List.take_add, List.append_cancel_left_eq,
    List.take_eq_take_iff, List.length_drop]
  omega

private theorem Reading.update (hr : Reading content max_len all h) (hmax : max_len < 2 ^ 32)
    {step : ReadStep} (hstep : step ∈ all) {k : Nat} (hne : (content.drop h.total).take
      (min (k + 1) (min BUF_SIZE (max_len - h.total))) ≠ []) :
    Reading content max_len all ⟨tlsh_update step.calloc_ok h.ctx ((content.drop h.total).take
      (min (k + 1) (min BUF_SIZE (max_len - h.total)))), h.total + ((content.drop h.total).take
      (min (k + 1) (min BUF_SIZE (max_len - h.total)))).length, true⟩ := by
  have htotal := hr.total
  have hchunk := take_chunk content h.total
    (min (k + 1) (min BUF_SIZE (max_len - h.total))) htotal.1
  have hpos := List.length_pos_of_ne_nil hne
  have hbound : ((content.drop h.total).take
      (min (k + 1) (min BUF_SIZE (max_len - h.total)))).length ≤
        min (max_len - h.total) (content.length - h.total) := by
    rw [List.length_take, List.length_drop]
    omega
  generalize (content.drop h.total).take (min (k + 1) (min BUF_SIZE (max_len - h.total))) = buf
    at hchunk hpos hbound
  refine ⟨by simp only; omega, ⟨fun _ => by simp only; omega, fun _ => rfl⟩, ?_⟩
  rcases hr.ctx with ⟨hfail, hcause⟩ | hconsumed
  · left
    rw [update_failed hfail]
    exact ⟨hfail, hcause⟩
  · have hlen : (content.take h.total).length + buf.length < 2 ^ 32 := by
      rw [List.length_take]
      omega
    rw [← hchunk]
    exact (hconsumed.update hlen).imp (fun hlost => ⟨hlost.2, step, hstep, hlost.1⟩) id

/-- What the loop ends with: all the bytes, or the code of an error. -/
private theorem readLoop_result (hmax : max_len < 2 ^ 32) :
    ∀ (steps : List ReadStep) {h : Hashing} {res : Except Int Hashing}, (∀ s ∈ steps, s ∈ all) →
      Reading content max_len all h → readLoop content max_len steps h = some res →
      (res = .error (-1) ∧ ∃ s ∈ all, s.read = .error) ∨
        ∃ h', res = .ok h' ∧ Reading content max_len all h' ∧
          content.take h'.total = content.take max_len
  | [], h, res, _, hr, hres => by
      rw [readLoop] at hres
      split at hres
      · rename_i hend
        obtain rfl := Option.some.inj hres
        refine Or.inr ⟨h, rfl, hr, ?_⟩
        rw [Nat.le_antisymm hr.total.2 hend]
      · exact absurd hres (by simp only [reduceCtorEq, not_false_eq_true])
  | step :: steps, h, res, hsub, hr, hres => by
      have hin := hsub step List.mem_cons_self
      have hrest : ∀ s ∈ steps, s ∈ all := fun s hs => hsub s (List.mem_cons_of_mem _ hs)
      rw [readLoop] at hres
      split at hres
      · rename_i hend
        obtain rfl := Option.some.inj hres
        refine Or.inr ⟨h, rfl, hr, ?_⟩
        rw [Nat.le_antisymm hr.total.2 hend]
      · rename_i hmore
        split at hres
        · exact readLoop_result hmax steps hrest hr hres
        · rename_i herror
          exact Or.inl ⟨(Option.some.inj hres).symm, step, hin, herror⟩
        · rename_i k _
          simp only at hres
          split at hres
          · rename_i heof
            obtain rfl := Option.some.inj hres
            refine Or.inr ⟨h, rfl, hr, ?_⟩
            -- Nothing was read though something was asked for.
            have hsize : BUF_SIZE = 65536 := rfl
            have hlen := congrArg List.length heof
            rw [List.length_take, List.length_drop, List.length_nil] at hlen
            rw [List.take_of_length_le (by omega), List.take_of_length_le (by omega)]
          · rename_i hne
            exact readLoop_result hmax steps hrest (hr.update hmax hin hne) hres

/-- Each read that is not interrupted ends the loop or takes a byte. -/
private theorem readLoop_ends (content : Bytes) (max_len : Nat) :
    ∀ (steps : List ReadStep) {h : Hashing},
    content.length - h.total < steps.countP (fun s => s.read ≠ .eintr) →
      ∃ res, readLoop content max_len steps h = some res
  | [], h, hmany => absurd hmany (Nat.not_lt_zero _)
  | step :: steps, h, hmany => by
      rw [readLoop]
      split
      · exact ⟨_, rfl⟩
      · split
        · rename_i hread
          apply readLoop_ends content max_len steps
          rw [List.countP_cons_of_neg (by simp only [hread, ne_eq, not_true_eq_false, decide_false,
            Bool.false_eq_true, not_false_eq_true])] at hmany
          exact hmany
        · exact ⟨_, rfl⟩
        · rename_i k hread
          simp only
          split
          · exact ⟨_, rfl⟩
          · rename_i hne
            apply readLoop_ends content max_len steps
            rw [List.countP_cons_of_pos (by simp only [hread, ne_eq, reduceCtorEq,
              not_false_eq_true, decide_true])] at hmany
            have hpos := List.length_pos_of_ne_nil hne
            have hbound : ((content.drop h.total).take (min (k + 1)
                (min BUF_SIZE (max_len - h.total)))).length ≤ content.length - h.total := by
              rw [List.length_take, List.length_drop]
              omega
            simp only
            omega

end Reading

section Hashing

variable {content data : Bytes} {outlen max_len : Nat} {steps : List ReadStep} {ctx : tlsh_ctx}

private theorem Counts.getD {a : Vector Nat BUCKET_COUNT} {c : Nat → Nat} (h : Counts a c) {b : Nat}
    (hb : b < BUCKET_COUNT) : a.getD b 0 = c b % 2 ^ 32 := by
  have hback : (UInt8.ofNat b).toNat = b := by
    rw [UInt8.toNat_ofNat']
    exact Nat.mod_eq_of_lt hb
  have hs := h (UInt8.ofNat b)
  simp only [hback] at hs
  rw [← hs, Vector.getD, Array.getD_eq_getD_getElem?, Vector.getElem?_toArray,
    Vector.getElem?_eq_getElem hb, Option.getD_some]
  rfl

/-- What `tlsh_final` makes of a context that has had all the bytes. -/
private theorem Consumed.final (h : Consumed ctx data) (d : tlsh_digest) :
    tlsh_final ctx = some (some d) ↔ IsDigest (fun b => bucketOf data b % 2 ^ 32) data d := by
  obtain ⟨a_bucket, sw, data_len, checksum, alloc_failed⟩ := ctx
  obtain ⟨rfl, hdata, -, hchecksum, hallocated, hbuckets⟩ := h
  simp only at hdata hchecksum hallocated hbuckets
  have hback : UInt32.ofNat data.length = data_len := by rw [← hdata, UInt32.ofNat_toNat]
  by_cases hlen : MIN_DATA_LENGTH ≤ data.length
  · cases a_bucket with
    | none =>
        rw [hallocated rfl] at hlen
        exact absurd hlen (by decide)
    | some a =>
        have hlong : ¬ data_len.toNat < MIN_DATA_LENGTH := by
          rw [hdata]
          exact not_lt.mpr hlen
        have hfinal : tlsh_final ⟨some a, sw, data_len, checksum, false⟩ =
            summarize a data_len checksum := if_neg hlong
        rw [hfinal, hchecksum, ← hback]
        exact summarize_iff (fun b hb => hbuckets.getD hb) hlen d
  · refine iff_of_false (fun hfinal => ?_) fun ⟨q, hd⟩ => hlen hd.length
    have hshort : data_len.toNat < MIN_DATA_LENGTH := by
      rw [hdata]
      exact not_le.mp hlen
    cases a_bucket with
    | none => cases hfinal
    | some a =>
        have hnone : tlsh_final ⟨some a, sw, data_len, checksum, false⟩ = some none :=
          if_pos hshort
        rw [hnone] at hfinal
        cases hfinal

/-- A call ends with the code of an error, or with the text of the digest of all the bytes. -/
private theorem hash_result (hmax : max_len < 2 ^ 32) {lseek_ok : Bool} {res : Except Int Bytes}
    (hres : av_tlsh_hash_fd lseek_ok content outlen max_len steps = some res) :
    res = .error (-1) ∨ res = .error (-2) ∨ res = .error (-3) ∨
      ∃ d, res = .ok (tlsh_to_hex d) ∧
        IsDigest (fun b => bucketOf (content.take max_len) b % 2 ^ 32)
          (content.take max_len) d := by
  cases lseek_ok with
  | false => exact Or.inl (Option.some.inj hres).symm
  | true =>
    cases hloop : readLoop content max_len steps ⟨tlsh_init, 0, false⟩ with
    | none =>
        simp only [av_tlsh_hash_fd, hloop, Bool.not_true, Bool.false_eq_true, if_false,
          Option.bind_eq_bind, Option.bind_none, reduceCtorEq] at hres
    | some out =>
        simp only [av_tlsh_hash_fd, hloop, Bool.not_true, Bool.false_eq_true, if_false,
          Option.bind_eq_bind, Option.bind_some] at hres
        rcases readLoop_result hmax steps (fun _ hs => hs) reading_init hloop with
          ⟨rfl, -⟩ | ⟨h, rfl, hr, hall⟩
        · exact Or.inl (Option.some.inj hres).symm
        · simp only at hres
          split at hres
          · exact Or.inr (Or.inl (Option.some.inj hres).symm)
          · obtain ⟨o, ho⟩ := tlsh_final_ends h.ctx
            rw [ho, Option.bind_some] at hres
            cases o with
            | none => exact Or.inr (Or.inl (Option.some.inj hres).symm)
            | some d =>
                simp only at hres
                split at hres
                · exact Or.inr (Or.inr (Or.inl (Option.some.inj hres).symm))
                · refine Or.inr (Or.inr (Or.inr ⟨d, (Option.some.inj hres).symm, ?_⟩))
                  rw [← hall]
                  rcases hr.ctx with ⟨hfail, -⟩ | hconsumed
                  · rw [tlsh_final, hfail] at ho
                    cases ho
                  · exact (hconsumed.final d).mp ho

/-- When nothing fails, the digest of all the bytes is written. -/
theorem hash_of_good (hmax : max_len < 2 ^ 32)
    (hgood : ∀ s ∈ steps, s.read ≠ .error ∧ s.calloc_ok = true)
    (hmany : content.length < steps.countP fun s => s.read ≠ .eintr)
    (hout : TLSH_DIGEST_HEXLEN < outlen) {d : tlsh_digest}
    (hd : IsDigest (fun b => bucketOf (content.take max_len) b % 2 ^ 32) (content.take max_len) d) :
    av_tlsh_hash_fd true content outlen max_len steps = some (.ok (tlsh_to_hex d)) := by
  obtain ⟨out, hloop⟩ := readLoop_ends content max_len steps
    (h := ⟨tlsh_init, 0, false⟩) hmany
  simp only [av_tlsh_hash_fd, hloop, Bool.not_true, Bool.false_eq_true, if_false,
    Option.bind_eq_bind, Option.bind_some]
  rcases readLoop_result hmax steps (fun _ hs => hs) reading_init hloop with
    ⟨-, s, hs, herror⟩ | ⟨h, rfl, hr, hall⟩
  · exact absurd herror (hgood s hs).1
  · rcases hr.ctx with ⟨-, s, hs, hfail⟩ | hconsumed
    · rw [(hgood s hs).2] at hfail
      cases hfail
    · rw [← hall] at hd
      have hlen : h.total ≠ 0 := by
        intro hzero
        obtain ⟨q, hq⟩ := hd
        have hlen := hq.length
        rw [hzero, List.take_zero] at hlen
        exact absurd hlen (by decide)
      have hfinal := (hconsumed.final d).mpr hd
      simp only [hr.any_data.mpr hlen, Bool.not_true, Bool.false_eq_true, if_false, hfinal,
        Option.bind_some, if_neg (not_le.mpr hout)]

end Hashing

section Wrapping

variable {b : Nat}

/-- Two bytes taking turns. -/
private def turns : Nat → Bytes
  | 0 => []
  | m + 1 => turns m ++ [14, 164]

private def opening : Bytes := (List.range 24).map fun i => UInt8.ofNat (27 * i + 38)

private theorem turns_length (m : Nat) : (turns m).length = 2 * m := by
  induction m with
  | zero => rfl
  | succ m ih =>
      rw [turns, List.length_append, ih]
      rfl

/-- The buckets that the windows of the opening hit, and of the first two turns. -/
private def openingHits : List Nat := [
  100, 252, 209, 110, 206, 144, 91, 145, 228, 255, 37, 53, 246, 252, 174, 103, 36, 117, 223, 41,
  104, 46, 165, 239, 35, 136, 215, 68, 238, 215, 52, 77, 168, 247, 9, 57, 38, 127, 131, 91, 109, 75,
  64, 3, 160, 15, 122, 138, 21, 107, 157, 19, 90, 108, 78, 17, 67, 66, 110, 181, 17, 139, 225, 205,
  161, 207, 149, 87, 106, 226, 196, 51, 227, 20, 196, 199, 86, 25, 201, 83, 1, 209, 203, 9, 12, 143,
  236, 48, 14, 116, 91, 51, 227, 124, 48, 140, 223, 129, 24, 18, 212, 167, 196, 29, 209, 121, 82,
  154, 145, 84, 41, 31, 32, 85, 149, 126, 95, 169, 123, 235, 49, 211, 243, 26, 223, 13, 143, 236,
  114, 211, 69, 145, 93, 179, 214, 236, 249, 101, 229, 91, 20, 179, 119, 73]

/-- The buckets that the windows of one more turn hit. -/
private def turnHits : List Nat := [93, 91, 249, 91, 92, 138, 229, 91, 20, 91, 175, 61]

private theorem opening_counts (hb : b < EFF_BUCKETS) :
    bucketOf (opening ++ turns 2) b = openingHits.count b := by
  have hmap : ∀ i ∈ List.range' 4 24, ∀ k : Fin 6,
      (mapping (opening ++ turns 2) i k).toNat = openingHits.getD ((i - 4) * 6 + k) 0 := by
    decide +kernel
  have hcount : ∀ b : Fin EFF_BUCKETS,
      ((Finset.Ico 4 28 ×ˢ (Finset.univ : Finset (Fin 6))).filter fun p =>
        openingHits.getD ((p.1 - 4) * 6 + p.2) 0 = b).card = openingHits.count b.val := by
    decide +kernel
  have hlen : (opening ++ turns 2).length = 28 := by
    rw [List.length_append, turns_length]
    rfl
  have hsame : hits (opening ++ turns 2) b =
      (Finset.Ico 4 28 ×ˢ (Finset.univ : Finset (Fin 6))).filter fun p =>
        openingHits.getD ((p.1 - 4) * 6 + p.2) 0 = b := by
    unfold hits
    rw [hlen]
    apply Finset.filter_congr
    intro p hp
    have hi : p.1 ∈ List.range' 4 24 := by
      have hico := Finset.mem_Ico.mp (Finset.mem_product.mp hp).1
      rw [List.mem_range'_1]
      exact hico
    rw [hmap p.1 hi p.2]
  rw [bucketOf, hsame]
  exact hcount ⟨b, hb⟩

/-- A window looks at the last five bytes. -/
private theorem mapping_suffix (data w : Bytes) :
    mapping (data ++ w) (data.length + 4) = mapping w 4 := by
  have hget : ∀ d, d ≤ 4 → (data ++ w).getD (data.length + 4 - d) 0 = w.getD (4 - d) 0 := by
    intro d hd
    have hplace : data.length + 4 - d - data.length = 4 - d := by omega
    rw [List.getD_append_right _ _ _ _ (by omega), hplace]
  simp only [mapping, hget 0 (by decide), hget 1 (by decide), hget 2 (by decide),
    hget 3 (by decide), hget 4 (by decide)]

private theorem turn_counts (data : Bytes) (hb : b < EFF_BUCKETS) :
    bucketOf (data ++ turns 2 ++ [14, 164]) b =
      bucketOf (data ++ turns 2) b + turnHits.count b := by
  have hcount : ∀ b : Fin EFF_BUCKETS,
      ((∑ k, if (mapping [14, 164, 14, 164, 14] 4 k).toNat = b then 1 else 0) +
        ∑ k, if (mapping [164, 14, 164, 14, 164] 4 k).toNat = b then 1 else 0) =
          turnHits.count b.val := by
    decide +kernel
  have hlen : (data ++ turns 2).length = data.length + 4 := List.length_append
  have hfirst : mapping (data ++ turns 2 ++ [14]) (data ++ turns 2).length =
      mapping [14, 164, 14, 164, 14] 4 := by
    rw [hlen, List.append_assoc]
    exact mapping_suffix data _
  have hsecond : mapping (data ++ turns 2 ++ [14] ++ [164]) (data ++ turns 2 ++ [14]).length =
      mapping [164, 14, 164, 14, 164] 4 := by
    have hsplit : data ++ turns 2 ++ [14] ++ [164] = (data ++ [14]) ++ [164, 14, 164, 14, 164] := by
      simp only [turns, List.append_assoc, List.nil_append, List.cons_append]
    have hlen' : (data ++ turns 2 ++ [14]).length = (data ++ [14]).length + 4 := by
      rw [List.length_append, hlen, List.length_append]
      rfl
    rw [hsplit, hlen']
    exact mapping_suffix (data ++ [14]) _
  have hpair : data ++ turns 2 ++ [14, 164] = data ++ turns 2 ++ [14] ++ [164] := by
    rw [List.append_assoc (data ++ turns 2)]
    rfl
  rw [hpair, bucketOf_append (by rw [List.length_append, hlen]; omega),
    bucketOf_append (by rw [hlen]; omega), hfirst, hsecond, Nat.add_assoc, hcount ⟨b, hb⟩]

/-- By induction on the turns: each of them hits the same buckets. -/
private theorem turns_counts (m : Nat) (hb : b < EFF_BUCKETS) :
    bucketOf (opening ++ turns (m + 2)) b = openingHits.count b + m * turnHits.count b := by
  induction m with
  | zero =>
      rw [Nat.zero_mul]
      exact opening_counts hb
  | succ m ih =>
      have htwo : opening ++ turns (m + 2) = opening ++ turns m ++ turns 2 := by
        rw [List.append_assoc, turns, turns, List.append_assoc]
        rfl
      have hnext : opening ++ turns (m + 1 + 2) = opening ++ turns (m + 2) ++ [14, 164] := by
        rw [turns, List.append_assoc]
      rw [hnext, htwo, turn_counts _ hb, ← htwo, ih, Nat.succ_mul, Nat.add_assoc]

/-- The counts of a file with so many turns that a count reaches 2^32. -/
private def fullCounts (b : Nat) : Nat := [
  0, 1, 0, 1, 0, 0, 0, 0, 0, 2, 0, 0, 1, 1, 1, 1, 0, 2, 1, 1, 1073741825, 1, 0, 0, 1, 1, 1, 0, 0, 1,
  0, 1, 1, 0, 0, 1, 1, 1, 1, 0, 0, 2, 0, 0, 0, 0, 1, 0, 2, 1, 0, 2, 1, 1, 0, 0, 0, 1, 0, 0, 0,
  1073741823, 0, 0, 1, 0, 1, 1, 1, 1, 0, 0, 0, 1, 0, 1, 0, 1, 1, 0, 0, 0, 1, 1, 1, 1, 1, 1, 0, 0, 1,
  4294967296, 1073741823, 1073741824, 0, 1, 0, 0, 0, 0, 1, 1, 0, 1, 1, 0, 1, 1, 1, 1, 2, 0, 0, 0, 1,
  0, 1, 1, 0, 1, 0, 1, 1, 1, 1, 0, 1, 1].getD b 0

private theorem fullCounts_eq (hb : b < EFF_BUCKETS) :
    fullCounts b = openingHits.count b + 1073741823 * turnHits.count b := by
  have hall : ∀ b : Fin EFF_BUCKETS,
      fullCounts b = openingHits.count b.val + 1073741823 * turnHits.count b.val := by
    decide +kernel
  exact hall ⟨b, hb⟩

private theorem full_quartiles : Quartiles fullCounts (0, 1, 1) ∧
    Quartiles (fun b => fullCounts b % 2 ^ 32) (0, 1, 1) := by
  refine ⟨⟨⟨?_, ?_⟩, ⟨?_, ?_⟩, ⟨?_, ?_⟩⟩, ⟨⟨?_, ?_⟩, ⟨?_, ?_⟩, ⟨?_, ?_⟩⟩⟩
  all_goals decide +kernel

end Wrapping

/-- However a file is read, the answer is the code of an error or the digest of the first bytes of
the file, with the counts of its windows modulo 2^32 in the buckets; and there is an answer once
more reads than bytes were not interrupted. -/
theorem tlsh_hash_fd_digest (lseek_ok : Bool) (content : Bytes) (outlen max_len : Nat)
    (steps : List ReadStep) (hmax : max_len < 2 ^ 32) :
    (∀ res, av_tlsh_hash_fd lseek_ok content outlen max_len steps = some res →
      res = .error (-1) ∨ res = .error (-2) ∨ res = .error (-3) ∨
        ∃ d, res = .ok (tlsh_to_hex d) ∧
          IsDigest (fun b => bucketOf (content.take max_len) b % 2 ^ 32)
            (content.take max_len) d) ∧
      (content.length < (steps.countP fun s => s.read ≠ .eintr) →
        ∃ res, av_tlsh_hash_fd lseek_ok content outlen max_len steps = some res) := by
  refine ⟨fun res hres => hash_result hmax hres, fun hmany => ?_⟩
  cases lseek_ok with
  | false => exact ⟨_, rfl⟩
  | true =>
      obtain ⟨out, hloop⟩ := readLoop_ends content max_len steps
        (h := ⟨tlsh_init, 0, false⟩) hmany
      simp only [av_tlsh_hash_fd, hloop, Bool.not_true, Bool.false_eq_true, if_false,
        Option.bind_eq_bind, Option.bind_some]
      cases out with
      | error code => exact ⟨_, rfl⟩
      | ok h =>
          simp only
          split
          · exact ⟨_, rfl⟩
          · obtain ⟨o, ho⟩ := tlsh_final_ends h.ctx
            rw [ho, Option.bind_some]
            cases o with
            | none => exact ⟨_, rfl⟩
            | some d =>
                simp only
                split
                · exact ⟨_, rfl⟩
                · exact ⟨_, rfl⟩

/-- An interruption, and a `calloc` that would fail after the first. -/
theorem interrupted_read_hashed :
    (∀ res, av_tlsh_hash_fd true [1, 2] 71 100
        [⟨.eintr, true⟩, ⟨.upTo 0, true⟩, ⟨.upTo 0, false⟩, ⟨.upTo 0, true⟩] = some res →
      res = .error (-1) ∨ res = .error (-2) ∨ res = .error (-3) ∨
        ∃ d, res = .ok (tlsh_to_hex d) ∧
          IsDigest (fun b => bucketOf ([1, 2] : Bytes) b % 2 ^ 32) [1, 2] d) ∧
      ∃ res, av_tlsh_hash_fd true [1, 2] 71 100
        [⟨.eintr, true⟩, ⟨.upTo 0, true⟩, ⟨.upTo 0, false⟩, ⟨.upTo 0, true⟩] = some res :=
  ⟨(tlsh_hash_fd_digest true [1, 2] 71 100 _ (by decide)).1,
    (tlsh_hash_fd_digest true [1, 2] 71 100 _ (by decide)).2 (by decide)⟩

/-- A counter of 32 bits is 0 where 2^32 windows hit, and then the digest is another. -/
theorem full_counter_wraps : ¬ ∀ (lseek_ok : Bool) (content : Bytes) (outlen max_len : Nat)
    (steps : List ReadStep), max_len < 2 ^ 32 →
    ∀ res, av_tlsh_hash_fd lseek_ok content outlen max_len steps = some res →
      res = .error (-1) ∨ res = .error (-2) ∨ res = .error (-3) ∨
        ∃ d, res = .ok (tlsh_to_hex d) ∧
          IsDigest (bucketOf (content.take max_len)) (content.take max_len) d := by
  intro hall
  obtain ⟨m, hm⟩ : ∃ m, m = 1073741823 := ⟨_, rfl⟩
  generalize hcontent : opening ++ turns (m + 2) = content
  have hlen : content.length = 24 + 2 * (m + 2) := by
    rw [← hcontent, List.length_append, turns_length]
    rfl
  have hcounts : ∀ b, b < EFF_BUCKETS → fullCounts b = bucketOf content b := by
    intro b hb
    rw [← hcontent, turns_counts m hb, hm, fullCounts_eq hb]
  have hmax : content.length < 2 ^ 32 := by omega
  have hlong : MIN_DATA_LENGTH ≤ content.length := by
    have hmin : MIN_DATA_LENGTH = 50 := rfl
    omega
  have hq := full_quartiles.1.congr hcounts
  have hq' : Quartiles (fun b => bucketOf content b % 2 ^ 32) (0, 1, 1) :=
    full_quartiles.2.congr fun b hb => by rw [hcounts b hb]
  have hnonzero : EFF_BUCKETS / 2 <
      ((Finset.range EFF_BUCKETS).filter fun b => 0 < bucketOf content b % 2 ^ 32).card := by
    have hmany : EFF_BUCKETS / 2 <
        ((Finset.range EFF_BUCKETS).filter fun b => 0 < fullCounts b % 2 ^ 32).card := by
      decide +kernel
    rw [Finset.filter_congr fun b hb => by rw [← hcounts b (Finset.mem_range.mp hb)]]
    exact hmany
  obtain ⟨d, hd⟩ := exists_digest hlong hq' (by decide) hnonzero
  have hrun : av_tlsh_hash_fd true content 71 content.length
      (List.replicate (content.length + 1) ⟨.upTo 65535, true⟩) = some (.ok (tlsh_to_hex d)) := by
    refine hash_of_good hmax (fun s hs => ?_) ?_ (by decide) ?_
    · obtain rfl := List.eq_of_mem_replicate hs
      exact ⟨by decide, rfl⟩
    · rw [List.countP_replicate]
      exact Nat.lt_succ_self _
    · rw [List.take_length]
      exact hd
  rcases hall true content 71 content.length _ hmax _ hrun with h | h | h | ⟨d', hd', hdigest⟩
  · cases h
  · cases h
  · cases h
  · rw [List.take_length] at hdigest
    obtain rfl := hd.of_text hdigest (Except.ok.inj hd')
    obtain ⟨q, hwrapped⟩ := hd
    obtain ⟨q', hcounted⟩ := hdigest
    obtain rfl := hwrapped.quartiles.unique hq'
    obtain rfl := hcounted.quartiles.unique hq
    have hbits := (hwrapped.tmp_code ⟨22, by decide⟩ 3).symm.trans (hcounted.tmp_code ⟨22, _⟩ 3)
    have hfull : bucketOf content 91 = 2 ^ 32 := by
      rw [← hcounts 91 (by decide)]
      decide +kernel
    have hplace : 4 * 22 + (3 : Fin 4).val = 91 := by decide
    simp only [hplace, hfull] at hbits
    revert hbits
    decide

end KernelAv.Daemon.TlshStream
