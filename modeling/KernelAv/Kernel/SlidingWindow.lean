/- digest: The dedup ring of the volume counters, and exactly when it counts a trailing window. -/

import Mathlib.Algebra.GroupWithZero.Nat
import Mathlib.Data.Finset.Card
import Mathlib.Data.Vector.Basic
import KernelAv.Lib.Ring

set_option autoImplicit false
set_option relaxedAutoImplicit false

namespace KernelAv.Kernel.SlidingWindow

open KernelAv.Lib.Ring

def WRITE_OPEN_WINDOW_MS : Nat := 2000
def WRITE_OPEN_THRESHOLD : Nat := 50
def MAX_TRACKED_PATHS : Nat := WRITE_OPEN_THRESHOLD
def RENAME_WINDOW_MS : Nat := 2000
def RENAME_THRESHOLD : Nat := 20
def MAX_TRACKED_RENAMES : Nat := RENAME_THRESHOLD

instance : NeZero MAX_TRACKED_PATHS := ⟨by decide⟩
instance : NeZero MAX_TRACKED_RENAMES := ⟨by decide⟩

/-- The kernel's `HZ`: the number of jiffies in a second. -/
structure TickRate where
  hz : Nat
  pos : 0 < hz
  le : hz ≤ 1000

/-- The age in milliseconds, rounded up and not yet cut to 32 bits. -/
def TickRate.msecs (r : TickRate) (j : Nat) : Nat := (j * 1000 + (r.hz - 1)) / r.hz

/-- `jiffies_to_msecs`: an `unsigned int`. -/
def jiffies_to_msecs (r : TickRate) (j : UInt64) : Nat := r.msecs j.toNat % 2 ^ 32

/-- The two co-indexed arrays with their cursor and fill count. -/
structure PathRing (cap : Nat) where
  hashes : Vector UInt32 cap
  jiffies_arr : Vector UInt64 cap
  next : Nat
  filled : Nat
  next_lt : next < cap
  filled_le : filled ≤ cap

variable {cap : Nat}

def PathRing.zero [NeZero cap] : PathRing cap :=
  ⟨.replicate cap 0, .replicate cap 0, 0, 0, Nat.pos_of_neZero cap, Nat.zero_le _⟩

def PathRing.slots (w : PathRing cap) : List (UInt32 × UInt64) :=
  w.hashes.toList.zip w.jiffies_arr.toList

/-- The loop over the valid slots: how many are in the window, and is the hash among them. -/
def scan (r : TickRate) (hash : UInt32) (now : UInt64) (window_ms : Nat) :
    List (UInt32 × UInt64) → Nat × Bool
  | [] => (0, false)
  | e :: es =>
      let (in_window, seen) := scan r hash now window_ms es
      if jiffies_to_msecs r (now - e.2) ≤ window_ms then (in_window + 1, e.1 == hash || seen)
      else (in_window, seen)

def PathRing.record (w : PathRing cap) (hash : UInt32) (now : UInt64) : PathRing cap where
  hashes := w.hashes.set w.next hash w.next_lt
  jiffies_arr := w.jiffies_arr.set w.next now w.next_lt
  next := (w.next + 1) % cap
  filled := if w.filled < cap then w.filled + 1 else w.filled
  next_lt := Nat.mod_lt _ (by have := w.next_lt; omega)
  filled_le := by
    have := w.filled_le
    split <;> omega

def sliding_window_note (r : TickRate) (hash : UInt32) (now : UInt64) (window_ms : Nat)
    (w : PathRing cap) : Nat × PathRing cap :=
  let (in_window, seen) := scan r hash now window_ms (w.slots.take w.filled)
  if seen then (0, w) else (in_window + 1, w.record hash now)

/-- One call: the hash and the time in jiffies, which the code keeps modulo `2 ^ 64`. -/
structure Call where
  hash : UInt32
  time : Nat
  deriving DecidableEq

section Runs

variable (r : TickRate) (cap : Nat) (window_ms : Nat)

/-- The earlier call lies in the trailing window of the later one. -/
def inWindow (now c : Call) : Bool := r.msecs (now.time - c.time) ≤ window_ms

def note (w : PathRing cap) (c : Call) : Nat × PathRing cap :=
  sliding_window_note r c.hash (UInt64.ofNat c.time) window_ms w

def ringAfter [NeZero cap] (calls : List Call) : PathRing cap :=
  calls.foldl (fun w c => (note r cap window_ms w c).2) PathRing.zero

def returned [NeZero cap] (pre : List Call) (c : Call) : Nat :=
  (note r cap window_ms (ringAfter r cap window_ms pre) c).1

/-- How many distinct hashes were passed in the trailing window of `c`, `c` included. -/
def distinctInWindow (pre : List Call) (c : Call) : Nat :=
  (((pre ++ [c]).filter (inWindow r window_ms c)).map Call.hash).dedup.length

/-- Some call in the trailing window of `c` returned a value above the capacity. -/
def Flagged [NeZero cap] (pre : List Call) (c : Call) : Prop :=
  ∃ pre₁ d post₁, pre ++ [c] = pre₁ ++ d :: post₁ ∧ inWindow r window_ms c d = true ∧
    cap < returned r cap window_ms pre₁ d

/-- The declarative trailing-window count never exceeds the capacity unnoticed. -/
def NeverUnderCounts [NeZero cap] (calls : List Call) : Prop :=
  ∀ pre c post, calls = pre ++ c :: post → cap < distinctInWindow r window_ms pre c →
    Flagged r cap window_ms pre c

/-- A log, newest first, of the calls that brought a hash which none of the last `cap` entries
had brought within the window: repeats leave no entry, and do not renew one. -/
def remembered (log : List Call) (c : Call) : Bool :=
  (log.take cap).any fun s => inWindow r window_ms c s && s.hash == c.hash

def sighting (log : List Call) (c : Call) : List Call :=
  if remembered r cap window_ms log c then log else c :: log

def sightings (calls : List Call) : List Call := calls.foldl (sighting r cap window_ms) []

/-- A new sighting that finds at least `cap` older sightings in its window. -/
def Crowded (pre : List Call) (c : Call) : Prop :=
  remembered r cap window_ms (sightings r cap window_ms pre) c = false ∧
    cap ≤ ((sightings r cap window_ms pre).filter (inWindow r window_ms c)).length

/-- Whenever more than `cap` distinct hashes were passed in a trailing window, a new sighting in
that window was crowded. -/
def SightedInTime (calls : List Call) : Prop :=
  ∀ pre c post, calls = pre ++ c :: post → cap < distinctInWindow r window_ms pre c →
    ∃ pre₁ d post₁, pre ++ [c] = pre₁ ++ d :: post₁ ∧ inWindow r window_ms c d = true ∧
      Crowded r cap window_ms pre₁ d

/-- Times do not decrease, and no age reaches `2 ^ 31` milliseconds. -/
structure Timed (calls : List Call) : Prop where
  mono : calls.Pairwise fun c d => c.time ≤ d.time
  ages : ∀ c ∈ calls, ∀ d ∈ calls, r.msecs (d.time - c.time) < 2 ^ 31

end Runs

section Refinement

variable {r : TickRate} {window_ms : Nat}

theorem msecs_mono (r : TickRate) {a b : Nat} (h : a ≤ b) : r.msecs a ≤ r.msecs b := by
  unfold TickRate.msecs
  exact Nat.div_le_div_right (by omega)

/-- A jiffy is at least a millisecond. -/
theorem le_msecs (r : TickRate) (j : Nat) : j ≤ r.msecs j := by
  unfold TickRate.msecs
  rw [Nat.le_div_iff_mul_le r.pos]
  calc j * r.hz ≤ j * 1000 := Nat.mul_le_mul_left _ r.le
    _ ≤ j * 1000 + (r.hz - 1) := Nat.le_add_right _ _

/-- On ages in range the wrapped 64-bit difference gives the true age. -/
theorem jiffies_to_msecs_sub {now c : Nat} (hle : c ≤ now) (h : r.msecs (now - c) < 2 ^ 32) :
    jiffies_to_msecs r (UInt64.ofNat now - UInt64.ofNat c) = r.msecs (now - c) := by
  have hage := le_msecs r (now - c)
  have hsub : (UInt64.ofNat now - UInt64.ofNat c).toNat = now - c := by
    rw [UInt64.toNat_sub, UInt64.toNat_ofNat', UInt64.toNat_ofNat']
    omega
  rw [jiffies_to_msecs, hsub]
  exact Nat.mod_eq_of_lt h

private theorem scan_eq (hash : UInt32) (now : UInt64) (es : List (UInt32 × UInt64)) :
    scan r hash now window_ms es =
      (es.countP fun e => jiffies_to_msecs r (now - e.2) ≤ window_ms,
        es.any fun e => decide (jiffies_to_msecs r (now - e.2) ≤ window_ms) && e.1 == hash) := by
  induction es with
  | nil => rfl
  | cons e es ih =>
    rw [scan, ih]
    by_cases h : jiffies_to_msecs r (now - e.2) ≤ window_ms <;> simp [h]

/-- A logged call as it stands in the two arrays. -/
def Call.slot (c : Call) : UInt32 × UInt64 := (c.hash, UInt64.ofNat c.time)

private theorem slots_record (w : PathRing cap) (c : Call) :
    (w.record c.hash (UInt64.ofNat c.time)).slots = w.slots.set w.next c.slot := by
  apply List.ext_getElem
  · simp [PathRing.slots, PathRing.record]
  · intro i h1 h2
    simp only [PathRing.slots, PathRing.record, Vector.toList_set, List.getElem_zip,
      List.getElem_set, Call.slot]
    split <;> rfl

/-- The ring holds the newest sightings. -/
def Tracks (w : PathRing cap) (log : List Call) : Prop :=
  Holds cap w.slots w.next w.filled (log.map Call.slot)

theorem tracks_zero [NeZero cap] : Tracks (PathRing.zero : PathRing cap) [] :=
  holds_nil (Nat.pos_of_neZero cap) (by simp [PathRing.zero, PathRing.slots])

theorem tracks_record {w : PathRing cap} {log : List Call} (c : Call)
    (h : Tracks w log) : Tracks (w.record c.hash (UInt64.ofNat c.time)) (c :: log) := by
  have hpush := Holds.push c.slot h
  unfold Tracks
  rw [slots_record]
  exact hpush

/-- Among calls in order of time, newest first, those in a trailing window come first. -/
private theorem countP_take {p : Call → Bool} {l : List Call} (k : Nat)
    (h : l.Pairwise fun a b => p b = true → p a = true) :
    (l.take k).countP p = min k (l.countP p) := by
  induction l generalizing k with
  | nil => simp
  | cons a l ih =>
    obtain ⟨ha, hl⟩ := List.pairwise_cons.mp h
    cases k with
    | zero => simp
    | succ k =>
      rw [List.take_succ_cons, List.countP_cons, List.countP_cons, ih k hl]
      by_cases hp : p a = true
      · simp only [hp, if_true]
        omega
      · have hzero : l.countP p = 0 := by
          refine List.countP_eq_zero.mpr fun b hb hpb => hp (ha b hb hpb)
        simp [hp, hzero]

/-- The test that the loop makes on a slot which an earlier call has written. -/
def testedInWindow (r : TickRate) (window_ms : Nat) (now c : Call) : Bool :=
  jiffies_to_msecs r (UInt64.ofNat now.time - UInt64.ofNat c.time) ≤ window_ms

/-- One of the last `cap` entries passes the test and has the hash. -/
def found (r : TickRate) (cap window_ms : Nat) (log : List Call) (c : Call) : Bool :=
  (log.take cap).any fun s => testedInWindow r window_ms c s && s.hash == c.hash

/-- The ring decides from its slots, whatever their times are, what the test says of the log. -/
theorem note_tested (r : TickRate) (window_ms : Nat) {w : PathRing cap} {log : List Call}
    (c : Call) (h : Tracks w log) :
    note r cap window_ms w c =
      if found r cap window_ms log c then (0, w)
      else ((log.take cap).countP (testedInWindow r window_ms c) + 1,
        w.record c.hash (UInt64.ofNat c.time)) := by
  have hperm : (w.slots.take w.filled).Perm ((log.take cap).map Call.slot) := by
    rw [List.map_take]
    exact h.perm
  have hcount : ((log.take cap).map Call.slot).countP
      (fun e => jiffies_to_msecs r (UInt64.ofNat c.time - e.2) ≤ window_ms) =
        (log.take cap).countP (testedInWindow r window_ms c) := by
    rw [List.countP_map]
    rfl
  have hseen : ((log.take cap).map Call.slot).any
      (fun e => decide (jiffies_to_msecs r (UInt64.ofNat c.time - e.2) ≤ window_ms) &&
        e.1 == c.hash) = found r cap window_ms log c := by
    rw [List.any_map]
    rfl
  simp only [note, sliding_window_note, scan_eq, hperm.countP_eq, hperm.any_eq, hcount, hseen]

/-- On ages in range the log is tested for the true window. -/
private theorem note_eq (window_ms : Nat) {w : PathRing cap} {log : List Call} {c : Call}
    (h : Tracks w log)
    (hlog : ∀ s ∈ log, s.time ≤ c.time ∧ r.msecs (c.time - s.time) < 2 ^ 31) :
    note r cap window_ms w c =
      if remembered r cap window_ms log c then (0, w)
      else ((log.take cap).countP (inWindow r window_ms c) + 1,
        w.record c.hash (UInt64.ofNat c.time)) := by
  have hage : ∀ s ∈ log.take cap, testedInWindow r window_ms c s = inWindow r window_ms c s := by
    intro s hs
    obtain ⟨hle, hms⟩ := hlog s (List.mem_of_mem_take hs)
    rw [inWindow, testedInWindow, jiffies_to_msecs_sub hle (by omega)]
  have hfound : found r cap window_ms log c = remembered r cap window_ms log c := by
    rw [found, remembered, Bool.eq_iff_iff, List.any_eq_true, List.any_eq_true]
    refine exists_congr fun s => and_congr_right fun hs => ?_
    rw [hage s hs]
  have hcount : (log.take cap).countP (testedInWindow r window_ms c) =
      (log.take cap).countP (inWindow r window_ms c) :=
    List.countP_congr fun s hs => by rw [hage s hs]
  rw [note_tested r window_ms c h, hfound, hcount]

theorem sightings_snoc (r : TickRate) (cap window_ms : Nat) (pre : List Call) (c : Call) :
    sightings r cap window_ms (pre ++ [c]) =
      sighting r cap window_ms (sightings r cap window_ms pre) c :=
  logOf_snoc (remembered r cap window_ms) pre c

theorem sightings_sublist (r : TickRate) (cap window_ms : Nat) (calls : List Call) :
    (sightings r cap window_ms calls).reverse.Sublist calls :=
  logOf_sublist (remembered r cap window_ms) calls

private theorem Timed.initial {pre : List Call} (post : List Call) (h : Timed r (pre ++ post)) :
    Timed r pre :=
  ⟨(List.pairwise_append.mp h.mono).1,
    fun c hc d hd => h.ages c (List.mem_append_left _ hc) d (List.mem_append_left _ hd)⟩

private theorem Timed.sightings_before {pre : List Call} {c : Call} (h : Timed r (pre ++ [c])) :
    ∀ s ∈ sightings r cap window_ms pre,
      s.time ≤ c.time ∧ r.msecs (c.time - s.time) < 2 ^ 31 := by
  intro s hs
  have hmem : s ∈ pre := (sightings_sublist r cap window_ms pre).subset (List.mem_reverse.mpr hs)
  refine ⟨(List.pairwise_append.mp h.mono).2.2 s hmem c (List.mem_singleton_self c), ?_⟩
  exact h.ages s (List.mem_append_left _ hmem) c (by simp)

private theorem ringAfter_tracks (cap : Nat) (window_ms : Nat) [NeZero cap] {calls : List Call}
    (h : Timed r calls) :
    Tracks (ringAfter r cap window_ms calls) (sightings r cap window_ms calls) := by
  induction calls using List.reverseRecOn with
  | nil => exact tracks_zero
  | append_singleton pre c ih =>
    have hpre := ih (Timed.initial _ h)
    have hnote := note_eq window_ms hpre h.sightings_before
    rw [sightings_snoc, sighting, ringAfter, List.foldl_append, List.foldl_cons, List.foldl_nil,
      ← ringAfter, hnote]
    split
    · exact hpre
    · exact tracks_record c hpre

/-- One step: a call returns more than the capacity exactly when it is a crowded sighting. -/
theorem returned_gt_iff [NeZero cap] {pre : List Call} {c : Call} (h : Timed r (pre ++ [c])) :
    cap < returned r cap window_ms pre c ↔ Crowded r cap window_ms pre c := by
  have htracks := ringAfter_tracks cap window_ms (Timed.initial _ h)
  have hsorted : (sightings r cap window_ms pre).Pairwise fun a b =>
      inWindow r window_ms c b = true → inWindow r window_ms c a = true := by
    have hrev :=
      List.Pairwise.sublist (sightings_sublist r cap window_ms pre) (Timed.initial _ h).mono
    refine (List.pairwise_reverse.mp hrev).imp ?_
    intro a b hle hb
    simp only [inWindow, decide_eq_true_eq] at hb ⊢
    exact (msecs_mono r (by omega)).trans hb
  rw [returned, note_eq window_ms htracks h.sightings_before, Crowded,
    ← List.countP_eq_length_filter]
  cases remembered r cap window_ms (sightings r cap window_ms pre) c with
  | true => simp
  | false =>
    rw [countP_take cap hsorted]
    simp only [Bool.false_eq_true, if_false, true_and]
    omega

private theorem timed_at {calls pre post pre₁ post₁ : List Call} {c d : Call}
    (h : Timed r calls) (hc : calls = pre ++ c :: post) (hd : pre ++ [c] = pre₁ ++ d :: post₁) :
    Timed r (pre₁ ++ [d]) := by
  have hpre : Timed r (pre ++ [c]) := Timed.initial post (by simpa [hc] using h)
  rw [hd] at hpre
  exact Timed.initial post₁ (by simpa using hpre)

/-- The newest entry of the log names the call that made it. -/
private theorem sightings_head {calls log : List Call} {d : Call}
    (h : sightings r cap window_ms calls = d :: log) :
    ∃ pre post, calls = pre ++ d :: post ∧ sightings r cap window_ms pre = log ∧
      remembered r cap window_ms log d = false :=
  logOf_split (remembered r cap window_ms) (h.trans (List.nil_append _).symm)

/-- No earlier call within the window of `d` passed the hash of `d`. -/
def NewHash (r : TickRate) (window_ms : Nat) (pre : List Call) (d : Call) : Prop :=
  ∀ e ∈ pre, e.hash = d.hash → inWindow r window_ms d e = false

private theorem new_mem_sightings {pre post : List Call} {d : Call}
    (h : NewHash r window_ms pre d) : d ∈ sightings r cap window_ms (pre ++ d :: post) := by
  have hrem : remembered r cap window_ms (sightings r cap window_ms pre) d = false := by
    refine List.any_eq_false.mpr fun s hs => ?_
    have hmem : s ∈ pre := (sightings_sublist r cap window_ms pre).subset
      (List.mem_reverse.mpr (List.mem_of_mem_take hs))
    intro hc
    obtain ⟨hin, hhash⟩ := Bool.and_eq_true_iff.mp hc
    rw [h s hmem (beq_iff_eq.mp hhash)] at hin
    cases hin
  have hnew : d ∈ sightings r cap window_ms (pre ++ [d]) := by
    rw [sightings_snoc, sighting, hrem]
    exact List.mem_cons_self
  rw [List.append_cons]
  exact (logOf_suffix (remembered r cap window_ms) (pre ++ [d]) post).subset hnew

/-- More than `cap` distinct hashes that are new within the window make a crowded sighting. -/
theorem crowded_of_new_hashes {pre : List Call} {c : Call} (h : Timed r (pre ++ [c]))
    (hashes : Finset UInt32) (hcard : cap < hashes.card)
    (hnew : ∀ x ∈ hashes, ∃ pre₁ d post₁, pre ++ [c] = pre₁ ++ d :: post₁ ∧ d.hash = x ∧
      inWindow r window_ms c d = true ∧ NewHash r window_ms pre₁ d) :
    ∃ pre₁ d post₁, pre ++ [c] = pre₁ ++ d :: post₁ ∧ inWindow r window_ms c d = true ∧
      Crowded r cap window_ms pre₁ d := by
  have hsub := sightings_sublist r cap window_ms (pre ++ [c])
  generalize hlog : sightings r cap window_ms (pre ++ [c]) = log at hsub
  have hcount : cap < (log.filter (inWindow r window_ms c)).length := by
    have hincl : hashes ⊆ ((log.filter (inWindow r window_ms c)).map Call.hash).toFinset := by
      intro x hx
      obtain ⟨pre₁, d, post₁, hd, rfl, hin, hn⟩ := hnew x hx
      have hmem : d ∈ log := by
        rw [← hlog, hd]
        exact new_mem_sightings hn
      exact List.mem_toFinset.mpr (List.mem_map_of_mem (List.mem_filter.mpr ⟨hmem, hin⟩))
    have hle := (Finset.card_le_card hincl).trans (List.toFinset_card_le _)
    rw [List.length_map] at hle
    omega
  cases log with
  | nil => simp at hcount
  | cons d log =>
    obtain ⟨pre₁, post₁, hd, hpre, hrem⟩ := sightings_head hlog
    have hsorted : (d :: log).Pairwise fun a b => b.time ≤ a.time :=
      List.pairwise_reverse.mp (List.Pairwise.sublist hsub h.mono)
    obtain ⟨hnewest, -⟩ := List.pairwise_cons.mp hsorted
    have hle : d.time ≤ c.time := by
      have hmem : d ∈ pre ++ [c] := by
        rw [hd]
        simp
      rcases List.mem_append.mp hmem with hp | hp
      · exact (List.pairwise_append.mp h.mono).2.2 d hp c (List.mem_singleton_self c)
      · rw [List.mem_singleton.mp hp]
    have hlater : ∀ s, inWindow r window_ms c s = true → inWindow r window_ms d s = true := by
      intro s hs
      simp only [inWindow, decide_eq_true_eq] at hs ⊢
      exact (msecs_mono r (by omega)).trans hs
    have hrest : cap ≤ (log.filter (inWindow r window_ms c)).length := by
      rw [List.filter_cons] at hcount
      split at hcount
      · exact Nat.le_of_lt_succ hcount
      · omega
    refine ⟨pre₁, d, post₁, hd, ?_, ?_, ?_⟩
    · obtain ⟨s, hs⟩ := List.exists_mem_of_length_pos (by omega : 0 <
        ((d :: log).filter (inWindow r window_ms c)).length)
      obtain ⟨hmem, hin⟩ := List.mem_filter.mp hs
      rcases List.mem_cons.mp hmem with rfl | hmem
      · exact hin
      · have htime := hnewest s hmem
        simp only [inWindow, decide_eq_true_eq] at hin ⊢
        exact (msecs_mono r (by omega)).trans hin
    · rw [hpre]
      exact hrem
    · rw [hpre]
      refine hrest.trans ?_
      rw [← List.countP_eq_length_filter, ← List.countP_eq_length_filter]
      exact List.countP_mono_left fun s _ hs => hlater s hs

/-- When no hash comes back within one window of an earlier call, nothing is missed. -/
theorem sighted_of_no_repeats {calls : List Call} (h : Timed r calls)
    (hno : calls.Pairwise fun e d => e.hash = d.hash → inWindow r window_ms d e = false) :
    SightedInTime r cap window_ms calls := by
  intro pre c post hc hdist
  have hpre : calls = (pre ++ [c]) ++ post := by
    rw [hc]
    simp
  rw [hpre] at h hno
  have hno' := (List.pairwise_append.mp hno).1
  refine crowded_of_new_hashes (Timed.initial _ h)
    (((pre ++ [c]).filter (inWindow r window_ms c)).map Call.hash).toFinset ?_ ?_
  · rw [List.card_toFinset]
    exact hdist
  · intro x hx
    obtain ⟨d, hd, rfl⟩ := List.mem_map.mp (List.mem_toFinset.mp hx)
    obtain ⟨hmem, hin⟩ := List.mem_filter.mp hd
    obtain ⟨pre₁, post₁, hsplit⟩ := List.append_of_mem hmem
    refine ⟨pre₁, d, post₁, hsplit, rfl, hin, ?_⟩
    rw [hsplit] at hno'
    intro e he
    exact (List.pairwise_append.mp hno').2.2 e he d List.mem_cons_self

end Refinement

/-- On calls in order of time the ring never under-counts exactly when each trailing window with
more than `cap` distinct hashes holds a crowded sighting. -/
theorem never_under_counts_iff {r : TickRate} [NeZero cap] {window_ms : Nat} {calls : List Call}
    (h : Timed r calls) :
    NeverUnderCounts r cap window_ms calls ↔ SightedInTime r cap window_ms calls := by
  constructor
  · intro hn pre c post hc hdist
    obtain ⟨pre₁, d, post₁, hd, hin, hret⟩ := hn pre c post hc hdist
    exact ⟨pre₁, d, post₁, hd, hin, (returned_gt_iff (timed_at h hc hd)).mp hret⟩
  · intro hs pre c post hc hdist
    obtain ⟨pre₁, d, post₁, hd, hin, hcrowd⟩ := hs pre c post hc hdist
    exact ⟨pre₁, d, post₁, hd, hin, (returned_gt_iff (timed_at h hc hd)).mpr hcrowd⟩

def hz1000 : TickRate := ⟨1000, by decide, by decide⟩

/-- `n` distinct hashes at one time. -/
def spread (n time : Nat) : List Call :=
  (List.range n).map fun i => ⟨UInt32.ofNat i, time⟩

/-- No age exceeds a bound on the times. -/
private theorem timed_of_check {r : TickRate} {calls : List Call} (last : Nat)
    (h : (calls.Pairwise fun c d => c.time ≤ d.time) ∧ ∀ c ∈ calls, c.time ≤ last)
    (hlast : r.msecs last < 2 ^ 31) : Timed r calls where
  mono := h.1
  ages c _ d hd := by
    have hage : d.time - c.time ≤ last := (Nat.sub_le _ _).trans (h.2 d hd)
    exact (msecs_mono r hage).trans_lt hlast

/-- A burst of 51 distinct hashes is counted in full. -/
theorem burst_never_under_counts :
    NeverUnderCounts hz1000 MAX_TRACKED_PATHS WRITE_OPEN_WINDOW_MS (spread 51 0) := by
  have htimed : Timed hz1000 (spread 51 0) := timed_of_check 0 (by decide +kernel) (by decide)
  exact (never_under_counts_iff htimed).mpr (sighted_of_no_repeats htimed (by decide +kernel))

/-- The values returned along a run. -/
private def returns (r : TickRate) (window_ms : Nat) (w : PathRing cap) : List Call → List Nat
  | [] => []
  | c :: cs => (note r cap window_ms w c).1 :: returns r window_ms (note r cap window_ms w c).2 cs

private theorem returned_mem_returns (r : TickRate) (cap : Nat) [NeZero cap] (window_ms : Nat)
    (pre post : List Call) (d : Call) :
    returned r cap window_ms pre d ∈
      returns r window_ms (PathRing.zero : PathRing cap) (pre ++ d :: post) := by
  have hgen : ∀ w : PathRing cap,
      (note r cap window_ms (pre.foldl (fun w c => (note r cap window_ms w c).2) w) d).1 ∈
        returns r window_ms w (pre ++ d :: post) := by
    induction pre with
    | nil => exact fun w => List.mem_cons_self
    | cons c pre ih => exact fun w => List.mem_cons_of_mem _ (ih _)
  exact hgen PathRing.zero

/-- Fifty hashes, the same fifty again just before they age out, and one more hash after that:
all 51 lie in the last trailing window, and no call returned more than 50. -/
def pacedBursts : List Call := spread 50 0 ++ spread 50 1999 ++ [⟨50, 2001⟩]

theorem paced_bursts_under_counted :
    ¬ ∀ (r : TickRate) (calls : List Call), Timed r calls →
        NeverUnderCounts r MAX_TRACKED_PATHS WRITE_OPEN_WINDOW_MS calls := by
  intro hall
  have htimed : Timed hz1000 pacedBursts :=
    timed_of_check 2001 (by decide +kernel) (by decide)
  obtain ⟨pre₁, d, post₁, hsplit, -, hret⟩ := hall hz1000 pacedBursts htimed
    (spread 50 0 ++ spread 50 1999) ⟨50, 2001⟩ [] rfl (by decide +kernel)
  have hlow : ∀ n ∈ returns hz1000 WRITE_OPEN_WINDOW_MS
      (PathRing.zero : PathRing MAX_TRACKED_PATHS) pacedBursts, n ≤ MAX_TRACKED_PATHS := by
    decide +kernel
  have hmem := returned_mem_returns hz1000 MAX_TRACKED_PATHS WRITE_OPEN_WINDOW_MS pre₁ post₁ d
  rw [← hsplit] at hmem
  exact absurd (hlow _ hmem) (not_le.mpr hret)

end KernelAv.Kernel.SlidingWindow
