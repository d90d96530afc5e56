/- digest: Exactly when the dedup ring never counts more than the trailing window holds. -/

import KernelAv.Kernel.SlidingWindow

set_option autoImplicit false
set_option relaxedAutoImplicit false

namespace KernelAv.Kernel.WindowSoundness

open KernelAv.Lib.Ring
open KernelAv.Kernel.SlidingWindow

section Statements

variable (r : TickRate) (cap : Nat) (window_ms : UInt32)

/-- The log, newest first, of the calls that the ring recorded. -/
def entered (log : List Call) (c : Call) : List Call :=
  if found r cap window_ms.toNat log c then log else c :: log

def entries (calls : List Call) : List Call := calls.foldl (entered r cap window_ms) []

/-- An entry that has left the window, but whose age in milliseconds, cut to 32 bits, is again
one of the window. -/
def stale (c s : Call) : Bool :=
  testedInWindow r window_ms.toNat c s && !inWindow r window_ms.toNat c s

/-- The hashes that earlier calls in the window have passed. -/
def windowHashes (pre : List Call) (c : Call) : Finset UInt32 :=
  ((pre.filter (inWindow r window_ms.toNat c)).map Call.hash).toFinset

/-- The hashes of the entries of the ring that are in the window. -/
def sightedHashes (pre : List Call) (c : Call) : Finset UInt32 :=
  ((((entries r cap window_ms pre).take cap).filter (inWindow r window_ms.toNat c)).map
    Call.hash).toFinset

/-- At each call that is recorded, the ring holds no more stale entries than there are other
hashes in the window which it does not hold there. -/
def StaleCovered (calls : List Call) : Prop :=
  ∀ pre c post, calls = pre ++ c :: post →
    found r cap window_ms.toNat (entries r cap window_ms pre) c = false →
      ((entries r cap window_ms pre).take cap).countP (stale r window_ms c) ≤
        (windowHashes r window_ms pre c \
          insert c.hash (sightedHashes r cap window_ms pre c)).card

variable [NeZero cap]

/-- No value that is returned exceeds the number of distinct hashes in the trailing window. -/
def NeverOverCounts (calls : List Call) : Prop :=
  ∀ pre c post, calls = pre ++ c :: post → returned r cap window_ms.toNat pre c ≠ 0 →
    returned r cap window_ms.toNat pre c ≤ distinctInWindow r window_ms.toNat pre c

/-- The call after `pre` writes slot `i` of the ring. -/
def Writes (pre : List Call) (c : Call) (i : Nat) : Prop :=
  returned r cap window_ms.toNat pre c ≠ 0 ∧ (ringAfter r cap window_ms.toNat pre).next = i

/-- A slot that is written again while its entry is in the window is written by a call that
returns more than the capacity. -/
def OverwritesPastCap (calls : List Call) : Prop :=
  ∀ pre d mid c post i, calls = pre ++ d :: mid ++ c :: post →
    Writes r cap window_ms pre d i → Writes r cap window_ms (pre ++ d :: mid) c i →
      inWindow r window_ms.toNat c d = true →
        cap < returned r cap window_ms.toNat (pre ++ d :: mid) c

/-- Every non-zero count is sound, and the ring loses nothing of the window unnoticed. -/
def Sound (calls : List Call) : Prop :=
  NeverOverCounts r cap window_ms calls ∧ OverwritesPastCap r cap window_ms calls

end Statements

section Log

variable {r : TickRate} {cap : Nat} {window_ms : UInt32}

theorem entries_snoc (r : TickRate) (cap : Nat) (window_ms : UInt32) (pre : List Call) (c : Call) :
    entries r cap window_ms (pre ++ [c]) =
      entered r cap window_ms (entries r cap window_ms pre) c :=
  logOf_snoc (found r cap window_ms.toNat) pre c

theorem entries_sublist (r : TickRate) (cap : Nat) (window_ms : UInt32) (calls : List Call) :
    (entries r cap window_ms calls).reverse.Sublist calls :=
  logOf_sublist (found r cap window_ms.toNat) calls

theorem entries_suffix (r : TickRate) (cap : Nat) (window_ms : UInt32) (pre more : List Call) :
    entries r cap window_ms pre <:+ entries r cap window_ms (pre ++ more) :=
  logOf_suffix (found r cap window_ms.toNat) pre more

theorem ringAfter_snoc (pre : List Call) (c : Call) [NeZero cap] :
    ringAfter r cap window_ms.toNat (pre ++ [c]) =
      (note r cap window_ms.toNat (ringAfter r cap window_ms.toNat pre) c).2 := by
  rw [ringAfter, List.foldl_append, List.foldl_cons, List.foldl_nil, ← ringAfter]

/-- The ring holds the newest entries of the log, and its cursor counts them. -/
theorem ringAfter_entries (r : TickRate) (cap : Nat) (window_ms : UInt32) [NeZero cap]
    (calls : List Call) :
    Tracks (ringAfter r cap window_ms.toNat calls) (entries r cap window_ms calls) ∧
      (ringAfter r cap window_ms.toNat calls).next =
        (entries r cap window_ms calls).length % cap := by
  induction calls using List.reverseRecOn with
  | nil => exact ⟨tracks_zero, (Nat.zero_mod cap).symm⟩
  | append_singleton pre c ih =>
    obtain ⟨htracks, hnext⟩ := ih
    rw [ringAfter_snoc, note_tested r window_ms.toNat c htracks, entries_snoc, entered]
    split
    · exact ⟨htracks, hnext⟩
    · refine ⟨tracks_record c htracks, ?_⟩
      show ((ringAfter r cap window_ms.toNat pre).next + 1) % cap = _
      rw [hnext, Nat.mod_add_mod, List.length_cons]

theorem returned_eq (pre : List Call) (c : Call) [NeZero cap] :
    returned r cap window_ms.toNat pre c =
      if found r cap window_ms.toNat (entries r cap window_ms pre) c then 0
      else ((entries r cap window_ms pre).take cap).countP (testedInWindow r window_ms.toNat c) +
        1 := by
  rw [returned, note_tested r window_ms.toNat c (ringAfter_entries r cap window_ms pre).1]
  split <;> rfl

theorem returned_ne_zero_iff (pre : List Call) (c : Call) [NeZero cap] :
    returned r cap window_ms.toNat pre c ≠ 0 ↔
      found r cap window_ms.toNat (entries r cap window_ms pre) c = false := by
  rw [returned_eq]
  cases found r cap window_ms.toNat (entries r cap window_ms pre) c with
  | true => simp
  | false => simp

end Log

section Times

variable {r : TickRate} {cap : Nat} {window_ms : UInt32} {pre post : List Call} {c d s : Call}

/-- The times of the calls do not decrease. -/
def InOrder (calls : List Call) : Prop := calls.Pairwise fun c d => c.time ≤ d.time

private theorem InOrder.before (h : InOrder (pre ++ c :: post)) (hs : s ∈ pre) :
    s.time ≤ c.time :=
  (List.pairwise_append.mp h).2.2 s hs c List.mem_cons_self

variable (r cap window_ms) in
private theorem entry_mem (hs : s ∈ entries r cap window_ms pre) : s ∈ pre :=
  (entries_sublist r cap window_ms pre).subset (List.mem_reverse.mpr hs)

variable (r cap window_ms) in
private theorem entries_sorted (h : InOrder pre) :
    (entries r cap window_ms pre).Pairwise fun a b => b.time ≤ a.time :=
  List.pairwise_reverse.mp (List.Pairwise.sublist (entries_sublist r cap window_ms pre) h)

private theorem inWindow_iff {w : Nat} : inWindow r w c s = true ↔ r.msecs (c.time - s.time) ≤ w :=
  decide_eq_true_iff

/-- What is in the window passes the test: only on larger ages are bits lost. -/
theorem tested_of_inWindow (hle : s.time ≤ c.time) (h : inWindow r window_ms.toNat c s = true) :
    testedInWindow r window_ms.toNat c s = true := by
  have hms := inWindow_iff.mp h
  have hwindow : window_ms.toNat < 2 ^ 32 := window_ms.toNat_lt
  rw [testedInWindow, decide_eq_true_iff, jiffies_to_msecs_sub hle (hms.trans_lt hwindow)]
  exact hms

/-- An entry that is older than another entry of a window's ring was in that one's window. -/
private theorem inWindow_older (hs : s.time ≤ d.time) (hd : d.time ≤ c.time)
    (h : inWindow r window_ms.toNat c s = true) : inWindow r window_ms.toNat d s = true := by
  rw [inWindow_iff] at h ⊢
  exact (msecs_mono r (by omega)).trans h

private theorem inWindow_newer (hs : s.time ≤ d.time)
    (h : inWindow r window_ms.toNat c s = true) : inWindow r window_ms.toNat c d = true := by
  rw [inWindow_iff] at h ⊢
  exact (msecs_mono r (by omega)).trans h

/-- The entries in the ring that are in the window have different hashes. -/
theorem sighted_nodup (h : InOrder (pre ++ c :: post)) :
    ((((entries r cap window_ms pre).take cap).filter (inWindow r window_ms.toNat c)).map
      Call.hash).Nodup := by
  have hpre : InOrder pre := (List.pairwise_append.mp h).1
  rw [List.Nodup, List.pairwise_map, List.pairwise_filter]
  generalize hlog : entries r cap window_ms pre = log
  rw [List.pairwise_iff_getElem]
  intro i j hi hj hij hini hinj heq
  rw [List.length_take] at hi hj
  simp only [List.getElem_take] at hini hinj heq
  have hsplit : log = log.take i ++ log[i] :: log.drop (i + 1) := by simp
  obtain ⟨-, -, -, -, hnot⟩ := logOf_split (found r cap window_ms.toNat) (hlog.trans hsplit)
  -- the older entry was within the window of the newer one when that one was recorded
  have hmem : log[j] ∈ (log.drop (i + 1)).take cap := by
    rw [List.mem_take_iff_getElem]
    refine ⟨j - (i + 1), ?_, ?_⟩
    · rw [List.length_drop]
      omega
    · rw [List.getElem_drop]
      congr 1
      omega
  have hsorted : log[j].time ≤ log[i].time := by
    have hs := entries_sorted r cap window_ms hpre
    rw [hlog] at hs
    exact List.pairwise_iff_getElem.mp hs i j (by omega) (by omega) hij
  have hnewer : log[i].time ≤ c.time := by
    refine h.before (entry_mem r cap window_ms ?_)
    rw [hlog]
    exact List.getElem_mem _
  have hfound : found r cap window_ms.toNat (log.drop (i + 1)) log[i] = true := by
    refine List.any_eq_true.mpr ⟨log[j], hmem, ?_⟩
    rw [tested_of_inWindow hsorted (inWindow_older hsorted hnewer hinj), heq]
    simp
  rw [hnot] at hfound
  cases hfound

/-- The test lets the entries in the window through, and the stale ones. -/
private theorem count_split (h : InOrder (pre ++ c :: post)) :
    ((entries r cap window_ms pre).take cap).countP (testedInWindow r window_ms.toNat c) =
      (sightedHashes r cap window_ms pre c).card +
        ((entries r cap window_ms pre).take cap).countP (stale r window_ms c) := by
  have hcard : (sightedHashes r cap window_ms pre c).card =
      ((entries r cap window_ms pre).take cap).countP (inWindow r window_ms.toNat c) := by
    rw [sightedHashes, List.toFinset_card_of_nodup (sighted_nodup h), List.length_map,
      List.countP_eq_length_filter]
  rw [hcard]
  have hsub : ∀ s ∈ (entries r cap window_ms pre).take cap, s.time ≤ c.time := by
    intro s hs
    exact h.before (entry_mem r cap window_ms (List.mem_of_mem_take hs))
  generalize (entries r cap window_ms pre).take cap = log at hsub
  induction log with
  | nil => rfl
  | cons s log ih =>
    obtain ⟨hs, hlog⟩ := List.forall_mem_cons.mp hsub
    rw [List.countP_cons, List.countP_cons, List.countP_cons, ih hlog]
    cases hin : inWindow r window_ms.toNat c s with
    | true => simp [stale, hin, tested_of_inWindow hs hin]; omega
    | false => simp [stale, hin]; omega

private theorem inWindow_self : inWindow r window_ms.toNat c c = true := by
  rw [inWindow_iff, Nat.sub_self, TickRate.msecs, Nat.zero_mul, Nat.zero_add,
    Nat.div_eq_of_lt (Nat.sub_lt r.pos Nat.one_pos)]
  exact Nat.zero_le _

private theorem distinct_eq :
    distinctInWindow r window_ms.toNat pre c =
      (insert c.hash (windowHashes r window_ms pre c)).card := by
  rw [distinctInWindow, ← List.card_toFinset, List.filter_append, List.map_append,
    List.toFinset_append, List.filter_singleton, inWindow_self]
  congr 1
  ext x
  simp [windowHashes]

/-- The distinct hashes of the window: the new one, those that the ring holds, and the others. -/
private theorem distinct_split
    (hnew : found r cap window_ms.toNat (entries r cap window_ms pre) c = false)
    (h : InOrder (pre ++ c :: post)) :
    distinctInWindow r window_ms.toNat pre c =
      (windowHashes r window_ms pre c \
        insert c.hash (sightedHashes r cap window_ms pre c)).card +
      ((sightedHashes r cap window_ms pre c).card + 1) := by
  have hnot : c.hash ∉ sightedHashes r cap window_ms pre c := by
    intro hmem
    obtain ⟨s, hs, hhash⟩ := List.mem_map.mp (List.mem_toFinset.mp hmem)
    obtain ⟨hs, hin⟩ := List.mem_filter.mp hs
    have hle := h.before (entry_mem r cap window_ms (List.mem_of_mem_take hs))
    have hfound : found r cap window_ms.toNat (entries r cap window_ms pre) c = true :=
      List.any_eq_true.mpr ⟨s, hs, by rw [tested_of_inWindow hle hin, hhash]; simp⟩
    rw [hnew] at hfound
    cases hfound
  have hsub : sightedHashes r cap window_ms pre c ⊆ windowHashes r window_ms pre c := by
    intro x hx
    obtain ⟨s, hs, rfl⟩ := List.mem_map.mp (List.mem_toFinset.mp hx)
    obtain ⟨hs, hin⟩ := List.mem_filter.mp hs
    have hmem : s ∈ pre := entry_mem r cap window_ms (List.mem_of_mem_take hs)
    exact List.mem_toFinset.mpr (List.mem_map_of_mem (List.mem_filter.mpr ⟨hmem, hin⟩))
  have hincl : insert c.hash (sightedHashes r cap window_ms pre c) ⊆
      insert c.hash (windowHashes r window_ms pre c) := Finset.insert_subset_insert _ hsub
  rw [distinct_eq, ← Finset.card_insert_of_notMem hnot, ← Finset.card_sdiff_add_card_eq_card hincl,
    Finset.insert_sdiff_of_mem _ (Finset.mem_insert_self _ _)]

/-- One call: its value is sound exactly when the stale entries are covered. -/
theorem returned_le_iff [NeZero cap] (h : InOrder (pre ++ c :: post))
    (hnew : found r cap window_ms.toNat (entries r cap window_ms pre) c = false) :
    returned r cap window_ms.toNat pre c ≤ distinctInWindow r window_ms.toNat pre c ↔
      ((entries r cap window_ms pre).take cap).countP (stale r window_ms c) ≤
        (windowHashes r window_ms pre c \
          insert c.hash (sightedHashes r cap window_ms pre c)).card := by
  rw [returned_eq, hnew, if_neg Bool.false_ne_true, count_split h, distinct_split hnew h]
  omega

theorem never_over_counts_iff [NeZero cap] {calls : List Call} (h : InOrder calls) :
    NeverOverCounts r cap window_ms calls ↔ StaleCovered r cap window_ms calls := by
  constructor
  · intro hn pre c post hc hnew
    rw [hc] at h
    exact (returned_le_iff h hnew).mp (hn pre c post hc ((returned_ne_zero_iff pre c).mpr hnew))
  · intro hs pre c post hc hret
    rw [hc] at h
    have hnew := (returned_ne_zero_iff pre c).mp hret
    exact (returned_le_iff h hnew).mpr (hs pre c post hc hnew)

/-- Between two writes of one slot the whole ring is written, so its entries are all as new. -/
theorem overwrites_past_cap [NeZero cap] {calls : List Call} (h : InOrder calls) :
    OverwritesPastCap r cap window_ms calls := by
  rintro pre d mid c post i hc ⟨hd, hdi⟩ ⟨hcret, hci⟩ hin
  rw [returned_ne_zero_iff] at hd hcret
  have hlast : entries r cap window_ms (pre ++ [d]) = d :: entries r cap window_ms pre := by
    rw [entries_snoc, entered, hd, if_neg Bool.false_ne_true]
  have hmid : pre ++ d :: mid = (pre ++ [d]) ++ mid := by simp
  obtain ⟨newer, hlog⟩ := entries_suffix r cap window_ms (pre ++ [d]) mid
  rw [← hmid, hlast] at hlog
  have hcount : cap ≤ newer.length + 1 := by
    rw [(ringAfter_entries r cap window_ms _).2] at hdi hci
    rw [← hlog, List.length_append, List.length_cons] at hci
    have hmod := Nat.sub_mod_eq_zero_of_mod_eq (hci.trans hdi.symm)
    have hdiff : newer.length + ((entries r cap window_ms pre).length + 1) -
        (entries r cap window_ms pre).length = newer.length + 1 := by omega
    rw [hdiff] at hmod
    have hdvd : cap ∣ newer.length + 1 := Nat.dvd_of_mod_eq_zero hmod
    exact Nat.le_of_dvd (Nat.succ_pos _) hdvd
  rw [hc] at h
  have hsorted : (newer ++ d :: entries r cap window_ms pre).Pairwise
      fun a b => b.time ≤ a.time := by
    rw [hlog]
    exact entries_sorted r cap window_ms (List.pairwise_append.mp h).1
  have htake : (entries r cap window_ms (pre ++ d :: mid)).take cap =
      (newer ++ [d]).take cap := by
    rw [← hlog, show newer ++ d :: entries r cap window_ms pre =
      (newer ++ [d]) ++ entries r cap window_ms pre by simp]
    exact List.take_append_of_le_length (by simpa using hcount)
  have hall : ∀ s ∈ (newer ++ [d]).take cap, testedInWindow r window_ms.toNat c s = true := by
    intro s hs
    have hs := List.mem_of_mem_take hs
    have hds : d.time ≤ s.time := by
      rcases List.mem_append.mp hs with hs | hs
      · exact (List.pairwise_append.mp hsorted).2.2 s hs d List.mem_cons_self
      · rw [List.mem_singleton.mp hs]
    have hsc : s.time ≤ c.time := by
      refine h.before (entry_mem r cap window_ms ?_)
      rw [← hlog]
      simp only [List.mem_append, List.mem_cons, List.not_mem_nil, or_false] at hs ⊢
      tauto
    exact tested_of_inWindow hsc (inWindow_newer hds hin)
  rw [returned_eq, hcret, if_neg Bool.false_ne_true, htake, List.countP_eq_length.mpr hall,
    List.length_take, List.length_append, List.length_singleton, min_eq_left hcount]
  exact Nat.lt_succ_self cap

/-- Nothing is stale in a run that is shorter than `2 ^ 32` milliseconds. -/
theorem covered_of_short_run {calls : List Call}
    (h : ∀ c ∈ calls, ∀ d ∈ calls, r.msecs (d.time - c.time) < 2 ^ 32) (hmono : InOrder calls) :
    StaleCovered r cap window_ms calls := by
  intro pre c post hc _
  have hzero : ((entries r cap window_ms pre).take cap).countP (stale r window_ms c) = 0 := by
    refine List.countP_eq_zero.mpr fun s hs => ?_
    have hmem : s ∈ pre := entry_mem r cap window_ms (List.mem_of_mem_take hs)
    rw [hc] at hmono h
    have hle := hmono.before hmem
    have hms := h s (List.mem_append_left _ hmem) c (by simp)
    rw [stale, testedInWindow, jiffies_to_msecs_sub hle hms, inWindow]
    simp
  rw [hzero]
  exact Nat.zero_le _

end Times

/-- On calls in order of time, however long the gaps are. -/
theorem window_sound_iff {r : TickRate} {cap : Nat} [NeZero cap] {window_ms : UInt32}
    {calls : List Call} (h : InOrder calls) :
    Sound r cap window_ms calls ↔ StaleCovered r cap window_ms calls := by
  rw [Sound, never_over_counts_iff h]
  exact and_iff_left (overwrites_past_cap h)

/-- A burst of 51 distinct hashes is counted soundly. -/
theorem burst_counted_soundly :
    Sound hz1000 MAX_TRACKED_PATHS 2000 (spread 51 0) :=
  (window_sound_iff (by unfold InOrder; decide +kernel)).mpr
    (covered_of_short_run (by decide +kernel) (by unfold InOrder; decide +kernel))

/-- Fifty hashes at one time, and one more `2 ^ 32` milliseconds later: the value returned is 51,
and the trailing window holds one hash. -/
theorem old_entries_over_counted :
    ¬ ∀ (r : TickRate) (window_ms : UInt32) (calls : List Call), InOrder calls →
        Sound r MAX_TRACKED_PATHS window_ms calls := by
  intro hall
  have hsound := hall hz1000 2000 (spread 50 0 ++ [⟨50, 2 ^ 32⟩])
    (by unfold InOrder; decide +kernel)
  have hle := hsound.1 (spread 50 0) ⟨50, 2 ^ 32⟩ [] rfl (by decide +kernel)
  exact absurd hle (by decide +kernel)

end KernelAv.Kernel.WindowSoundness
