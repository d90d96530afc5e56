/- digest: The verdict history: its ring, who may see what of it, and its list of verdicts. -/

import KernelAv.Daemon.Connection
import KernelAv.Daemon.Scan
import KernelAv.Lib.CriticalSections

set_option autoImplicit false
set_option relaxedAutoImplicit false

namespace KernelAv.Daemon.VerdictHistory

open KernelAv.Lib.CText
open KernelAv.Lib.Lines (nl tabbed)
open KernelAv.Lib.CriticalSections (Code)
open KernelAv.Daemon.Connection
open KernelAv.Daemon.Scan (PATH_MAX)
open KernelAv.Kernel.Channel (AV_VERDICT_MALICIOUS AV_RULE_NAME_MAXLEN)

def AVD_VERDICT_HISTORY_MAX : Nat := 500

structure verdict_record where
  id : UInt64
  timestamp : Int64
  pid : UInt32
  uid : UInt32
  path : Bytes
  sha256_hex : Bytes
  verdict : UInt8
  rule_name : Bytes
  score : Int32
  on_demand : Bool
  deriving DecidableEq

/-- A slot of the static array that was never written. -/
def verdict_record.zero : verdict_record := ⟨0, 0, 0, 0, [], [], 0, [], 0, false⟩

/-- The array `verdict_history` and its counters. -/
structure History where
  slots : List verdict_record
  count : Nat
  next : Nat
  next_id : UInt64
  size : slots.length = AVD_VERDICT_HISTORY_MAX
  next_lt : next < AVD_VERDICT_HISTORY_MAX
  count_le : count ≤ AVD_VERDICT_HISTORY_MAX

def History.boot : History :=
  ⟨List.replicate AVD_VERDICT_HISTORY_MAX verdict_record.zero, 0, 0, 1, List.length_replicate,
    Nat.lt_of_sub_eq_succ rfl, Nat.zero_le _⟩

/-- The arguments of one call of `record_verdict_history`, and the time at which it is made. -/
structure RecordCall where
  pid : UInt32
  uid : UInt32
  path : Option Bytes
  sha256_hex : Option Bytes
  verdict : UInt8
  rule_name : Option Bytes
  score : Int32
  on_demand : Bool
  time : Int64
  deriving DecidableEq

section Record

private theorem length_modify {l : List verdict_record} {n k : Nat}
    {f : verdict_record → verdict_record} (h : l.length = n) : (l.modify k f).length = n :=
  (List.length_modify f l k).trans h

private theorem bumped_le {n : Nat} (h : n ≤ AVD_VERDICT_HISTORY_MAX) :
    (if n < AVD_VERDICT_HISTORY_MAX then n + 1 else n) ≤ AVD_VERDICT_HISTORY_MAX := by
  split
  · assumption
  · exact h

/-- An assignment to fields of `*rec`, the slot under the cursor. -/
def History.assign (h : History) (f : verdict_record → verdict_record) : History :=
  { h with slots := h.slots.modify h.next f, size := length_modify h.size }

def History.takeId (h : History) : History := { h with next_id := h.next_id + 1 }

def History.advance (h : History) : History :=
  { h with
    next := (h.next + 1) % AVD_VERDICT_HISTORY_MAX
    next_lt := Nat.mod_lt _ (Nat.lt_of_sub_eq_succ rfl) }

def History.bump (h : History) : History :=
  { h with
    count := if h.count < AVD_VERDICT_HISTORY_MAX then h.count + 1 else h.count
    count_le := bumped_le h.count_le }

/-- The assignments of `record_verdict_history`, in its order. -/
def recordWrites (c : RecordCall) : List (History → History) :=
  [fun h => h.assign fun r => { r with id := h.next_id },
    fun h => h.takeId,
    fun h => h.assign fun r => { r with timestamp := c.time },
    fun h => h.assign fun r => { r with pid := c.pid },
    fun h => h.assign fun r => { r with uid := c.uid },
    fun h => h.assign fun r => { r with path := snprintf_s PATH_MAX (c.path.getD []) },
    fun h => h.assign fun r => { r with sha256_hex := snprintf_s 65 (c.sha256_hex.getD []) },
    fun h => h.assign fun r => { r with verdict := c.verdict },
    fun h => h.assign fun r =>
      { r with rule_name := snprintf_s (AV_RULE_NAME_MAXLEN + 1) (c.rule_name.getD []) },
    fun h => h.assign fun r => { r with score := c.score },
    fun h => h.assign fun r => { r with on_demand := c.on_demand },
    fun h => h.advance,
    fun h => h.bump]

def record_verdict_history (c : RecordCall) (h : History) : History :=
  (recordWrites c).foldl (fun h w => w h) h

end Record

section Recent

def verdict_visible_to (rec : verdict_record) (peer_uid : UInt32) (is_root : Bool) : Bool :=
  is_root || rec.uid == peer_uid

/-- The `i`-th most recent entry. -/
def History.newest (h : History) (i : Nat) : verdict_record :=
  h.slots.getD ((h.next + AVD_VERDICT_HISTORY_MAX - 1 - i) % AVD_VERDICT_HISTORY_MAX)
    verdict_record.zero

/-- The copy of the ring, newest entry first; none is left where `malloc` fails. -/
def snapshot (alloc : Bool) (h : History) : Option (List verdict_record) :=
  if h.count ≠ 0 ∧ alloc = false then none else some ((List.range h.count).map h.newest)

/-- The first pass over the copy, with the count so far. -/
def countVisible (visible : verdict_record → Bool) (n : Nat) :
    List verdict_record → Nat → Nat
  | [], take => take
  | r :: snap, take =>
      if take < n then countVisible visible n snap (if visible r then take + 1 else take)
      else take

def verdictFields (r : verdict_record) : List Bytes :=
  [fmtNat 10 r.id.toNat, fmtInt r.timestamp.toInt, fmtNat 10 r.pid.toNat, r.path, r.sha256_hex,
    if r.verdict.toNat = AV_VERDICT_MALICIOUS then lit "MALICIOUS" else lit "CLEAN",
    r.rule_name, fmtInt r.score.toInt, if r.on_demand then lit "1" else lit "0"]

/-- The row buffer has `PATH_MAX + 256` bytes. -/
def verdictRow (r : verdict_record) : Bytes :=
  snprintf_s (PATH_MAX + 256) (tabbed (verdictFields r) ++ [nl])

/-- The second pass, which sends the rows. -/
def sendVisible (visible : verdict_record → Bool) (n : Nat) :
    List verdict_record → Nat → Conn → Conn × Bool
  | [], _, c => (c, true)
  | r :: snap, take, c =>
      if take < n then
        if visible r then
          let w := write_all c (verdictRow r)
          if w.2 then sendVisible visible n snap (take + 1) w.1 else (w.1, false)
        else sendVisible visible n snap take c
      else (c, true)

/-- What `cmd_verdicts_recent` sends once it has the copy and has given back the lock. -/
def sendVerdicts (snap : Option (List verdict_record)) (n : Nat) (peer_uid : UInt32)
    (is_root : Bool) (c : Conn) : Conn :=
  match snap with
  | none => send_err c (lit "out of memory")
  | some snap =>
      let visible r := verdict_visible_to r peer_uid is_root
      let hdr := snprintf_s 32 (countLine (countVisible visible n snap 0) ++ [nl])
      sendEnd (sendVisible visible n snap 0 (sendHeader c hdr))

def cmd_verdicts_recent (alloc : Bool) (h : History) (n : Nat) (peer_uid : UInt32)
    (is_root : Bool) (c : Conn) : Conn :=
  sendVerdicts (snapshot alloc h) n peer_uid is_root c

end Recent

section Passes

variable {visible : verdict_record → Bool} {n : Nat}

private theorem countVisible_eq (snap : List verdict_record) (take : Nat) (h : take ≤ n) :
    countVisible visible n snap take = take + ((snap.filter visible).take (n - take)).length := by
  induction snap generalizing take with
  | nil => simp [countVisible]
  | cons r snap ih =>
    rw [countVisible]
    split
    · rename_i hlt
      rw [ih _ (by split <;> omega), List.filter_cons]
      split
      · obtain ⟨k, hk⟩ : ∃ k, n - take = k + 1 := ⟨n - take - 1, by omega⟩
        rw [hk, List.take_succ_cons, List.length_cons, show n - (take + 1) = k by omega]
        omega
      · rfl
    · rw [show n - take = 0 by omega]
      rfl

/-- The second pass sends the rows that the first has counted. -/
private theorem sendVisible_eq (snap : List verdict_record) (take : Nat) (c : Conn) :
    sendVisible visible n snap take c =
      sendRows c (((snap.filter visible).take (n - take)).map verdictRow) := by
  induction snap generalizing take c with
  | nil => simp [sendVisible, sendRows]
  | cons r snap ih =>
    rw [sendVisible]
    split
    · rename_i hlt
      rw [List.filter_cons]
      split
      · obtain ⟨k, hk⟩ : ∃ k, n - take = k + 1 := ⟨n - take - 1, by omega⟩
        rw [hk, List.take_succ_cons, List.map_cons, sendRows]
        simp only [ih, show n - (take + 1) = k by omega]
      · exact ih take c
    · rw [show n - take = 0 by omega]
      rfl

/-- A header with the count of the records, a row for each, and the terminator. -/
def sendRecords (rs : List verdict_record) (c : Conn) : Conn :=
  sendEnd (sendRows (sendHeader c (countLine rs.length ++ [nl])) (rs.map verdictRow))

/-- The two passes agree: the count is that of the rows. -/
theorem sendVerdicts_some {snap : List verdict_record} {peer_uid : UInt32} {is_root : Bool}
    (hlen : snap.length ≤ AVD_VERDICT_HISTORY_MAX) (c : Conn) :
    sendVerdicts (some snap) n peer_uid is_root c =
      sendRecords ((snap.filter fun r => verdict_visible_to r peer_uid is_root).take n) c := by
  have hmax : AVD_VERDICT_HISTORY_MAX = 500 := rfl
  have hcount : ((snap.filter fun r => verdict_visible_to r peer_uid is_root).take n).length <
      2 ^ 31 := by
    have hle := (List.length_take_le' n _).trans
      (List.length_filter_le (fun r => verdict_visible_to r peer_uid is_root) snap)
    omega
  rw [sendVerdicts, sendRecords, ← header_fits hcount]
  simp only [countVisible_eq _ 0 (Nat.zero_le n), sendVisible_eq, Nat.zero_add, Nat.sub_zero]

end Passes

section Threads

/-- The two critical sections of `verdict_history_lock`. -/
inductive Section where
  | record (c : RecordCall)
  | recent (alloc : Bool)

/-- What a thread has yet to do, or has copied, under the lock. -/
inductive Private where
  | writing (ws : List (History → History))
  | entered
  | copying (avail i : Nat) (snap : List verdict_record)
  | refused

/-- The two sections, one assignment or one copied entry at a time. -/
def sections : Code Section History Private where
  start
    | .record c => .writing (recordWrites c)
    | .recent _ => .entered
  step s h
    | .writing [] => none
    | .writing (w :: ws) => some (w h, .writing ws)
    | .entered =>
        match s with
        | .record _ => none
        | .recent alloc =>
            some (h, if h.count ≠ 0 ∧ alloc = false then .refused else .copying h.count 0 [])
    | .copying avail i snap =>
        if i < avail then some (h, .copying avail (i + 1) (snap ++ [h.newest i])) else none
    | .refused => none

/-- The copy that a section has ended with. -/
def Private.snap : Private → Option (List verdict_record)
  | .copying _ _ snap => some snap
  | _ => none

/-- What a whole section makes of the history. -/
def sectionEffect (h : History) : Section → History
  | .record c => record_verdict_history c h
  | .recent _ => h

private theorem writing_completes {c : RecordCall} {h t : History} {r : Private}
    (hc : sections.Completes (.record c) h t r) : t = record_verdict_history c h := by
  obtain ⟨hinv, hend⟩ := And.intro (hc.invariant
    (fun x r => ∃ ws, r = .writing ws ∧
      ws.foldl (fun h w => w h) x = record_verdict_history c h)
    ⟨recordWrites c, rfl, rfl⟩ (by
      rintro x - y r' ⟨ws, rfl, hws⟩ hstep
      cases ws with
      | nil => cases hstep
      | cons w ws =>
        obtain ⟨rfl, rfl⟩ := Prod.mk.inj (Option.some.inj hstep)
        exact ⟨ws, rfl, hws⟩)) hc.2
  obtain ⟨ws, rfl, hws⟩ := hinv
  cases ws with
  | nil => exact hws
  | cons w ws => cases hend

private theorem range_snoc (h : History) (i : Nat) :
    (List.range i).map h.newest ++ [h.newest i] = (List.range (i + 1)).map h.newest := by
  rw [List.range_succ, List.map_append]
  rfl

/-- Where a section that copies the ring stands: before the allocation, refused, or with the
newest `i` entries copied. -/
private def Copying (alloc : Bool) (h x : History) (r : Private) : Prop :=
  x = h ∧ (r = .entered ∨ (r = .refused ∧ h.count ≠ 0 ∧ alloc = false) ∨
    ¬ (h.count ≠ 0 ∧ alloc = false) ∧
      ∃ i, r = .copying h.count i ((List.range i).map h.newest) ∧ i ≤ h.count)

private theorem copying_step {alloc : Bool} {h x y : History} {r r' : Private}
    (hinv : Copying alloc h x r) (hstep : sections.step (.recent alloc) x r = some (y, r')) :
    Copying alloc h y r' := by
  obtain ⟨rfl, rfl | ⟨rfl, -⟩ | ⟨hroom, i, rfl, hi⟩⟩ := hinv
  · obtain ⟨rfl, rfl⟩ := Prod.mk.inj (Option.some.inj hstep)
    refine ⟨rfl, ?_⟩
    by_cases hfull : x.count ≠ 0 ∧ alloc = false
    · exact .inr (.inl ⟨if_pos hfull, hfull⟩)
    · exact .inr (.inr ⟨hfull, 0, if_neg hfull, Nat.zero_le _⟩)
  · cases hstep
  · unfold sections at hstep
    dsimp only at hstep
    split at hstep
    · rename_i hlt
      obtain ⟨rfl, rfl⟩ := Prod.mk.inj (Option.some.inj hstep)
      exact ⟨rfl, .inr (.inr ⟨hroom, i + 1, by rw [range_snoc], hlt⟩)⟩
    · cases hstep

/-- The section that copies the ring leaves it alone and ends with the copy. -/
theorem recent_completes {alloc : Bool} {h t : History} {r : Private}
    (hc : sections.Completes (.recent alloc) h t r) : t = h ∧ r.snap = snapshot alloc h := by
  obtain ⟨rfl, hr⟩ := hc.invariant (Copying alloc h) ⟨rfl, .inl rfl⟩
    fun _ _ _ _ hinv hstep => copying_step hinv hstep
  refine ⟨rfl, ?_⟩
  have hend := hc.2
  obtain rfl | ⟨rfl, hfull⟩ | ⟨hroom, i, rfl, hi⟩ := hr
  · cases hend
  · rw [snapshot, if_pos hfull]
    rfl
  · unfold sections at hend
    dsimp only at hend
    split at hend
    · cases hend
    · rename_i hge
      obtain rfl : i = t.count := by omega
      rw [snapshot, if_neg hroom]
      rfl

/-- A critical section taken whole has the effect of the function it is in. -/
theorem section_effect {s : Section} {h t : History} {r : Private}
    (hc : sections.Completes s h t r) : t = sectionEffect h s := by
  cases s with
  | record c => exact writing_completes hc
  | recent alloc => exact (recent_completes hc).1

end Threads

end KernelAv.Daemon.VerdictHistory
