/- digest: The calls of `partition` in the quickselect of TLSH, and what holds at each of them. -/

import KernelAv.Daemon.TlshChecked

set_option autoImplicit false
set_option relaxedAutoImplicit false

namespace KernelAv.Daemon.TlshCalls

open KernelAv.Lib
open KernelAv.Lib.Selection
open KernelAv.Daemon.Tlsh
open KernelAv.Daemon.TlshQuartiles
open KernelAv.Daemon.TlshChecked (Room room_start select_ok find_quartile_ok)

section Definitions

/-- A call of `partition`. -/
structure Call where
  buf : Buckets
  left : Nat
  right : Nat

/-- The buffer that it leaves. -/
def Call.after (c : Call) : Buckets := (partition c.buf c.left c.right).2

/-- `select`, with the calls that it makes. -/
def selectLog (p : Nat) : Nat → Select → Option (Select × List Call)
  | 0, _ => none
  | fuel + 1, s =>
      let call : Call := ⟨s.buf, s.l, s.r⟩
      let (ret, buf) := partition s.buf s.l s.r
      if p < ret then
        (selectLog p fuel { s with
          buf := buf, r := ret - 1, short_cut_right := s.short_cut_right ++ [ret] }).map
            fun t => (t.1, call :: t.2)
      else if ret < p then
        (selectLog p fuel { s with
          buf := buf, l := ret + 1, short_cut_left := s.short_cut_left ++ [ret] }).map
            fun t => (t.1, call :: t.2)
      else some ({ s with buf := buf }, [call])

/-- The loop between two short cuts. -/
def betweenLog (p l r : Nat) (buf : Buckets) : Option ((Nat × Buckets) × List Call) :=
  (selectLog p EFF_BUCKETS ⟨buf, l, r, [], []⟩).map fun t => ((t.1.buf.at p, t.1.buf), t.2)

def selectLeftLog (p : Nat) : List Nat → Nat → Buckets → Option ((Nat × Buckets) × List Call)
  | [], _, _ => none
  | r :: rs, l, buf =>
      if p < r then betweenLog p l r buf
      else if r < p then selectLeftLog p rs r buf
      else some ((buf.at p, buf), [])

def selectRightLog (p : Nat) : List Nat → Nat → Buckets → Option ((Nat × Buckets) × List Call)
  | [], _, _ => none
  | l :: ls, r, buf =>
      if l < p then betweenLog p l r buf
      else if p < l then selectRightLog p ls l buf
      else some ((buf.at p, buf), [])

/-- `find_quartile`, with the calls that it makes. -/
def find_quartileLog (a_bucket : Vector Nat BUCKET_COUNT) :
    Option ((Nat × Nat × Nat) × List Call) := do
  let p1 := EFF_BUCKETS / 4 - 1
  let p2 := EFF_BUCKETS / 2 - 1
  let p3 := EFF_BUCKETS - EFF_BUCKETS / 4 - 1
  let last := EFF_BUCKETS - 1
  let bucket_copy : Buckets := Vector.ofFn fun i => a_bucket.getD i 0
  let (s, calls) ← selectLog p2 EFF_BUCKETS ⟨bucket_copy, 0, last, [], []⟩
  let ((q1, buf), calls1) ← selectLeftLog p1 (s.short_cut_left ++ [p2 - 1]) 0 s.buf
  let ((q3, _), calls3) ← selectRightLog p3 (s.short_cut_right ++ [p2 + 1]) last buf
  some ((q1, s.buf.at p2, q3), calls ++ calls1 ++ calls3)

/-- The counters in use. -/
def inUse (a_bucket : Vector Nat BUCKET_COUNT) : List Nat :=
  (List.range EFF_BUCKETS).map fun i => a_bucket.getD i 0

/-- At a call the range is in order and within the buffer, and the buffer holds these values
before and after it. -/
structure Call.Sound (xs : List Nat) (c : Call) : Prop where
  range : c.left ≤ c.right ∧ c.right < EFF_BUCKETS
  before : c.buf.toList.Perm xs
  after : c.after.toList.Perm xs

end Definitions

section Results

variable {p : Nat}

/-- The log changes nothing of what is found. -/
theorem selectLog_fst : ∀ (fuel : Nat) (s : Select),
    (selectLog p fuel s).map Prod.fst = select p fuel s
  | 0, _ => rfl
  | fuel + 1, s => by
      rw [selectLog, select]
      generalize partition s.buf s.l s.r = res
      obtain ⟨ret, buf⟩ := res
      simp only
      split
      · rw [← selectLog_fst fuel, Option.map_map]
        rfl
      · split
        · rw [← selectLog_fst fuel, Option.map_map]
          rfl
        · rfl

theorem betweenLog_fst (l r : Nat) (buf : Buckets) :
    (betweenLog p l r buf).map Prod.fst =
      (select p EFF_BUCKETS ⟨buf, l, r, [], []⟩).map fun s => (s.buf.at p, s.buf) := by
  rw [betweenLog, ← selectLog_fst, Option.map_map, Option.map_map]
  rfl

theorem selectLeftLog_fst (buf : Buckets) : ∀ (rs : List Nat) (l : Nat),
    (selectLeftLog p rs l buf).map Prod.fst = selectLeft p rs l buf
  | [], _ => rfl
  | r :: rs, l => by
      rw [selectLeftLog, selectLeft]
      split
      · exact betweenLog_fst l r buf
      · split
        · exact selectLeftLog_fst buf rs r
        · rfl

theorem selectRightLog_fst (buf : Buckets) : ∀ (ls : List Nat) (r : Nat),
    (selectRightLog p ls r buf).map Prod.fst = selectRight p ls r buf
  | [], _ => rfl
  | l :: ls, r => by
      rw [selectRightLog, selectRight]
      split
      · exact betweenLog_fst l r buf
      · split
        · exact selectRightLog_fst buf ls l
        · rfl

end Results

section Permutations

variable {p : Nat} {xs : List Nat}

theorem toList_eq (buf : Buckets) : buf.toList = (List.range EFF_BUCKETS).map buf.at := by
  apply List.ext_getElem
  · rw [Vector.length_toList, List.length_map, List.length_range]
  · intro i hi _
    rw [Vector.length_toList] at hi
    rw [List.getElem_map, List.getElem_range, Vector.getElem_toList, Buckets.at, Vector.getD,
      Array.getD_eq_getD_getElem?, Vector.getElem?_toArray, Vector.getElem?_eq_getElem hi,
      Option.getD_some]

/-- A call within the buffer keeps its values. -/
theorem Call.sound {c : Call} (hrange : c.left ≤ c.right ∧ c.right < EFF_BUCKETS)
    (hbuf : c.buf.toList.Perm xs) : c.Sound xs := by
  refine ⟨hrange, hbuf, ?_⟩
  have hperm := (partition_moved c.buf hrange.1 hrange.2).perm hrange.2
  rw [← toList_eq, ← toList_eq] at hperm
  exact hperm.trans hbuf

/-- By induction on the rounds: the place looked for stays in the range of each call. -/
theorem selectLog_sound : ∀ (fuel : Nat) (s : Select), Room p s → s.buf.toList.Perm xs →
    ∀ t, selectLog p fuel s = some t → t.1.buf.toList.Perm xs ∧ ∀ c ∈ t.2, c.Sound xs
  | 0, _, _, _, _, h => nomatch h
  | fuel + 1, s, hroom, hbuf, t, h => by
      have hb := hroom.bounds
      have hcall : Call.Sound xs ⟨s.buf, s.l, s.r⟩ :=
        Call.sound ⟨hb.1.trans hb.2.1, hb.2.2⟩ hbuf
      have hret := partition_bounds s.buf (hb.1.trans hb.2.1) hb.2.2
      have hafter := hcall.after
      rw [selectLog] at h
      rw [Call.after] at hafter
      generalize partition s.buf s.l s.r = res at h hret hafter
      obtain ⟨ret, buf⟩ := res
      simp only at h hret hafter
      split at h
      · rename_i hlt
        obtain ⟨t', ht', rfl⟩ := Option.map_eq_some_iff.mp h
        obtain ⟨hperm, hcalls⟩ :=
          selectLog_sound fuel _ (hroom.goLeft hret.2 hlt buf) hafter t' ht'
        exact ⟨hperm, List.forall_mem_cons.mpr ⟨hcall, hcalls⟩⟩
      · split at h
        · rename_i hgt
          obtain ⟨t', ht', rfl⟩ := Option.map_eq_some_iff.mp h
          obtain ⟨hperm, hcalls⟩ :=
            selectLog_sound fuel _ (hroom.goRight hret.1 hgt buf) hafter t' ht'
          exact ⟨hperm, List.forall_mem_cons.mpr ⟨hcall, hcalls⟩⟩
        · obtain rfl := Option.some.inj h
          refine ⟨hafter, fun c hc => ?_⟩
          rw [List.mem_singleton] at hc
          exact hc ▸ hcall

theorem betweenLog_sound {l r : Nat} {buf : Buckets} (hl : l ≤ p) (hr : p ≤ r)
    (hin : r < EFF_BUCKETS) (hbuf : buf.toList.Perm xs) {t : (Nat × Buckets) × List Call}
    (h : betweenLog p l r buf = some t) : t.1.2.toList.Perm xs ∧ ∀ c ∈ t.2, c.Sound xs := by
  obtain ⟨t', ht', rfl⟩ := Option.map_eq_some_iff.mp h
  exact selectLog_sound EFF_BUCKETS _ (room_start buf hl hr hin) hbuf t' ht'

theorem selectLeftLog_sound {buf : Buckets} (hbuf : buf.toList.Perm xs) :
    ∀ (rs : List Nat) (l : Nat), l ≤ p → (∀ r ∈ rs, r < EFF_BUCKETS) →
      ∀ t, selectLeftLog p rs l buf = some t →
        t.1.2.toList.Perm xs ∧ ∀ c ∈ t.2, c.Sound xs
  | [], _, _, _, _, h => nomatch h
  | r :: rs, l, hl, hall, t, h => by
      obtain ⟨hr, hrest⟩ := List.forall_mem_cons.mp hall
      rw [selectLeftLog] at h
      split at h
      · rename_i hlt
        exact betweenLog_sound hl hlt.le hr hbuf h
      · split at h
        · rename_i hgt
          exact selectLeftLog_sound hbuf rs r hgt.le hrest t h
        · obtain rfl := Option.some.inj h
          exact ⟨hbuf, fun c hc => absurd hc List.not_mem_nil⟩

theorem selectRightLog_sound {buf : Buckets} (hbuf : buf.toList.Perm xs) :
    ∀ (ls : List Nat) (r : Nat), p ≤ r → r < EFF_BUCKETS → (∀ l ∈ ls, l < EFF_BUCKETS) →
      ∀ t, selectRightLog p ls r buf = some t →
        t.1.2.toList.Perm xs ∧ ∀ c ∈ t.2, c.Sound xs
  | [], _, _, _, _, _, h => nomatch h
  | l :: ls, r, hr, hin, hall, t, h => by
      obtain ⟨hl, hrest⟩ := List.forall_mem_cons.mp hall
      rw [selectRightLog] at h
      split at h
      · rename_i hlt
        exact betweenLog_sound hlt.le hr hin hbuf h
      · split at h
        · rename_i hgt
          exact selectRightLog_sound hbuf ls l hgt.le hl hrest t h
        · obtain rfl := Option.some.inj h
          exact ⟨hbuf, fun c hc => absurd hc List.not_mem_nil⟩

end Permutations

section Main

/-- What the log is of, for a result. -/
theorem log_of_fst {α β : Type} {log : Option (α × List β)} {o : Option α} {a : α}
    (hlog : log.map Prod.fst = o) (ha : o = some a) : ∃ calls, log = some (a, calls) := by
  rw [ha] at hlog
  obtain ⟨⟨a', calls⟩, h, rfl⟩ := Option.map_eq_some_iff.mp hlog
  exact ⟨calls, h⟩

private theorem copy_perm (a_bucket : Vector Nat BUCKET_COUNT) :
    (Vector.ofFn fun i => a_bucket.getD i 0 : Buckets).toList.Perm (inUse a_bucket) := by
  rw [toList_eq, inUse]
  apply List.Perm.of_eq
  apply List.map_congr_left
  intro i hi
  exact at_copy a_bucket (List.mem_range.mp hi)

/-- The log of the whole quickselect: its result, and every call sound. -/
theorem find_quartileLog_sound {a_bucket : Vector Nat BUCKET_COUNT} {q : Nat × Nat × Nat}
    (hq : find_quartile a_bucket = some q) :
    ∃ calls, find_quartileLog a_bucket = some (q, calls) ∧
      ∀ c ∈ calls, c.Sound (inUse a_bucket) := by
  have hp1 : EFF_BUCKETS / 4 - 1 = 31 := rfl
  have hp2 : EFF_BUCKETS / 2 - 1 = 63 := rfl
  have hp3 : EFF_BUCKETS - EFF_BUCKETS / 4 - 1 = 95 := rfl
  have hend : EFF_BUCKETS - 1 = 127 := rfl
  have hcopy := copy_perm a_bucket
  simp only [find_quartile, find_quartileLog, hp1, hp2, hp3, hend, Option.bind_eq_bind] at hq ⊢
  generalize (Vector.ofFn fun i => a_bucket.getD i 0 : Buckets) = bucket_copy at hcopy hq ⊢
  have hstart := room_start (p := 63) bucket_copy (l := 0) (r := 127) (by decide) (by decide)
    (by decide)
  obtain ⟨s, hs, hq⟩ := Option.bind_eq_some_iff.mp hq
  obtain ⟨⟨q1, b1⟩, hleft, hq⟩ := Option.bind_eq_some_iff.mp hq
  obtain ⟨⟨q3, b3⟩, hright, hq⟩ := Option.bind_eq_some_iff.mp hq
  obtain ⟨calls, hlog⟩ := log_of_fst (selectLog_fst _ _) hs
  obtain ⟨calls1, hlog1⟩ := log_of_fst (selectLeftLog_fst _ _ _) hleft
  obtain ⟨calls3, hlog3⟩ := log_of_fst (selectRightLog_fst _ _ _) hright
  obtain rfl := Option.some.inj hq
  have hroom := (select_ok EFF_BUCKETS _ hstart).2 s hs
  obtain ⟨hbuf, hcalls⟩ := selectLog_sound EFF_BUCKETS _ hstart hcopy _ hlog
  obtain ⟨hbuf1, hcalls1⟩ := selectLeftLog_sound hbuf _ 0 (by decide)
    (fun k hk => by
      rcases List.mem_append.mp hk with hk | hk
      · exact hroom.left k hk
      · rw [List.mem_singleton.mp hk]
        decide) _ hlog1
  obtain ⟨-, hcalls3⟩ := selectRightLog_sound hbuf1 _ 127 (by decide) (by decide)
    (fun k hk => by
      rcases List.mem_append.mp hk with hk | hk
      · exact hroom.right k hk
      · rw [List.mem_singleton.mp hk]
        decide) _ hlog3
  refine ⟨calls ++ calls1 ++ calls3, ?_, fun c hc => ?_⟩
  · simp only [hlog, hlog1, hlog3, Option.bind_some]
  · rcases List.mem_append.mp hc with hc | hc
    · rcases List.mem_append.mp hc with hc | hc
      · exact hcalls c hc
      · exact hcalls1 c hc
    · exact hcalls3 c hc

/-- Whatever the counters, the quickselect ends within its arrays, every call of `partition` has a
range in order and a buffer with the counters in use, and the quartiles are the 32nd, the 64th and
the 96th smallest of them. -/
theorem quartiles_selected (a_bucket : Vector Nat BUCKET_COUNT) :
    ∃ q1 q2 q3 calls, find_quartileLog a_bucket = some ((q1, q2, q3), calls) ∧
      find_quartile a_bucket = some (q1, q2, q3) ∧
      TlshChecked.find_quartile a_bucket = .ok (q1, q2, q3) ∧
      (∀ c ∈ calls, c.Sound (inUse a_bucket)) ∧
      ((inUse a_bucket).mergeSort fun a b => decide (a ≤ b))[31]? = some q1 ∧
      ((inUse a_bucket).mergeSort fun a b => decide (a ≤ b))[63]? = some q2 ∧
      ((inUse a_bucket).mergeSort fun a b => decide (a ≤ b))[95]? = some q3 := by
  obtain ⟨⟨q1, q2, q3⟩, hq, hranks⟩ := find_quartile_ranks a_bucket
  obtain ⟨calls, hlog, hcalls⟩ := find_quartileLog_sound hq
  refine ⟨q1, q2, q3, calls, hlog, hq, ?_, hcalls, hranks.q1.sorted (by decide),
    hranks.q2.sorted (by decide), hranks.q3.sorted (by decide)⟩
  rw [find_quartile_ok, hq, Checked.ofOption]

end Main

end KernelAv.Daemon.TlshCalls
