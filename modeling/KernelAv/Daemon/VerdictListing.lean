/- digest: The list of recent verdicts, through the ring, the two passes and the client's reader. -/

import KernelAv.Daemon.VerdictHistory
import KernelAv.Lib.Ring
import KernelAv.Userspace.AvdClient

set_option autoImplicit false
set_option relaxedAutoImplicit false

namespace KernelAv.Daemon.VerdictListing

open KernelAv.Lib.CText
open KernelAv.Lib.Lines
open KernelAv.Lib.Ring (Holds holds_nil)
open KernelAv.Lib.Run (run)
open KernelAv.Lib.CriticalSections
open KernelAv.Daemon.Connection
open KernelAv.Daemon.VerdictHistory
open KernelAv.Daemon.Scan (PATH_MAX)
open KernelAv.Kernel.Channel (AV_VERDICT_MALICIOUS AV_RULE_NAME_MAXLEN)
open KernelAv.Userspace.AvdClient

section Log

/-- What a call leaves in the ring under its number. -/
def recordOf (id : UInt64) (c : RecordCall) : verdict_record where
  id := id
  timestamp := c.time
  pid := c.pid
  uid := c.uid
  path := snprintf_s PATH_MAX (c.path.getD [])
  sha256_hex := snprintf_s 65 (c.sha256_hex.getD [])
  verdict := c.verdict
  rule_name := snprintf_s (AV_RULE_NAME_MAXLEN + 1) (c.rule_name.getD [])
  score := c.score
  on_demand := c.on_demand

/-- All records of the calls, newest first; the ids count the calls from 1, modulo `2^64`. -/
def logOf (calls : List RecordCall) : List verdict_record :=
  (calls.zipIdx.map fun x => recordOf (UInt64.ofNat (x.2 + 1)) x.1).reverse

theorem logOf_snoc (calls : List RecordCall) (c : RecordCall) :
    logOf (calls ++ [c]) = recordOf (UInt64.ofNat (calls.length + 1)) c :: logOf calls := by
  simp [logOf, List.zipIdx_append]

theorem length_logOf (calls : List RecordCall) : (logOf calls).length = calls.length := by
  simp [logOf]

/-- Newest first, the ids go down by one from the number of calls. -/
theorem ids_logOf {calls : List RecordCall} (h : calls.length < 2 ^ 64) (k : Nat) :
    ((logOf calls).take k).map (fun r => r.id.toNat) =
      (List.range (min k calls.length)).map fun i => calls.length - i := by
  have hids : (logOf calls).map (fun r => r.id.toNat) =
      (List.range calls.length).map fun i => calls.length - i := by
    induction calls using List.reverseRecOn with
    | nil => rfl
    | append_singleton calls c ih =>
      rw [List.length_append, List.length_singleton] at h
      have hid : (UInt64.ofNat (calls.length + 1)).toNat = calls.length + 1 := by
        rw [UInt64.toNat_ofNat']
        exact Nat.mod_eq_of_lt h
      rw [logOf_snoc, List.map_cons, ih (by omega), List.length_append, List.length_singleton,
        List.range_succ_eq_map, List.map_cons, List.map_map]
      simp only [recordOf, hid, Nat.sub_zero, List.cons.injEq, true_and]
      exact List.map_congr_left fun i _ => by simp
  rw [List.map_take, hids, ← List.map_take, List.take_range]

end Log

section Ring

private theorem record_slots (c : RecordCall) (h : History) :
    (record_verdict_history c h).slots = h.slots.set h.next (recordOf h.next_id c) := by
  simp only [record_verdict_history, recordWrites, List.foldl_cons, List.foldl_nil,
    History.assign, History.takeId, History.advance, History.bump, List.modify_modify_eq,
    List.set_eq_modify]
  rfl

private theorem record_next (c : RecordCall) (h : History) :
    (record_verdict_history c h).next = (h.next + 1) % AVD_VERDICT_HISTORY_MAX := rfl

private theorem record_count (c : RecordCall) (h : History) :
    (record_verdict_history c h).count =
      if h.count < AVD_VERDICT_HISTORY_MAX then h.count + 1 else h.count := rfl

private theorem record_next_id (c : RecordCall) (h : History) :
    (record_verdict_history c h).next_id = h.next_id + 1 := rfl

/-- The ring holds the newest records of the calls. -/
structure Remembers (h : History) (calls : List RecordCall) : Prop where
  holds : Holds AVD_VERDICT_HISTORY_MAX h.slots h.next h.count (logOf calls)
  next_id : h.next_id = UInt64.ofNat (calls.length + 1)

theorem remembers_boot : Remembers History.boot [] :=
  ⟨holds_nil (Nat.lt_of_sub_eq_succ rfl) List.length_replicate, rfl⟩

theorem Remembers.record {h : History} {calls : List RecordCall} (hr : Remembers h calls)
    (c : RecordCall) : Remembers (record_verdict_history c h) (calls ++ [c]) := by
  refine ⟨?_, ?_⟩
  · rw [record_slots, record_next, record_count, logOf_snoc, hr.next_id]
    exact hr.holds.push _
  · rw [record_next_id, hr.next_id, List.length_append, List.length_singleton]
    simp [UInt64.ofNat_add]

/-- The calls of `record_verdict_history` among the sections. -/
def callsOf (secs : List Section) : List RecordCall :=
  secs.filterMap fun s =>
    match s with
    | .record c => some c
    | .recent _ => none

theorem remembers_foldl (secs : List Section) :
    Remembers (secs.foldl sectionEffect History.boot) (callsOf secs) := by
  induction secs using List.reverseRecOn with
  | nil => exact remembers_boot
  | append_singleton secs s ih =>
    rw [List.foldl_append, callsOf, List.filterMap_append, ← callsOf]
    cases s with
    | record c => exact ih.record c
    | recent alloc => simpa [sectionEffect] using ih

/-- A copy of the ring is the newest part of the log. -/
theorem Remembers.snapshot {h : History} {calls : List RecordCall} (hr : Remembers h calls)
    {alloc : Bool} (ha : calls = [] ∨ alloc = true) :
    snapshot alloc h = some ((logOf calls).take AVD_VERDICT_HISTORY_MAX) := by
  have hcount := hr.holds.count
  rw [length_logOf] at hcount
  have hroom : ¬ (h.count ≠ 0 ∧ alloc = false) := by
    rintro ⟨hne, rfl⟩
    rcases ha with rfl | ha
    · exact hne hcount
    · cases ha
  rw [VerdictHistory.snapshot, if_neg hroom]
  congr 1
  refine List.ext_getElem? fun i => ?_
  rw [List.getElem?_map, List.getElem?_take]
  rcases Nat.lt_or_ge i h.count with hi | hi
  · have hnewest := hr.holds.newest hi
    have hlog : i < (logOf calls).length := by
      rw [length_logOf]
      omega
    rw [List.getElem?_range hi, if_pos (by omega), Option.map_some, History.newest,
      List.getD_eq_getElem?_getD, hnewest, List.getElem?_eq_getElem hlog]
    rfl
  · rw [List.getElem?_eq_none (by simpa using hi)]
    split
    · rw [List.getElem?_eq_none (by rw [length_logOf]; omega)]
      rfl
    · rfl

/-- Without memory there is no copy, unless nothing is to be copied. -/
theorem Remembers.no_snapshot {h : History} {calls : List RecordCall} (hr : Remembers h calls)
    (hne : calls ≠ []) : VerdictHistory.snapshot false h = none := by
  have hcount := hr.holds.count
  have hlen : calls.length ≠ 0 := fun h0 => hne (List.eq_nil_of_length_eq_zero h0)
  have hmax : AVD_VERDICT_HISTORY_MAX = 500 := rfl
  rw [length_logOf] at hcount
  exact if_pos ⟨by omega, rfl⟩

end Ring

section Rows

/-- The texts of a call hold neither a tab nor a newline. -/
structure PlainCall (c : RecordCall) : Prop where
  path : Plain (c.path.getD [])
  sha256_hex : Plain (c.sha256_hex.getD [])
  rule_name : Plain (c.rule_name.getD [])

private theorem plain_snprintf {size : Nat} {s : Bytes} (h : Plain s) :
    Plain (snprintf_s size s) :=
  ⟨fun hm => h.1 (List.mem_of_mem_take hm), fun hm => h.2 (List.mem_of_mem_take hm)⟩

private theorem plain_fmtNat (n : Nat) : Plain (fmtNat 10 n) :=
  ⟨fmtNat_clean (by decide) le_rfl n tab (by decide),
    fmtNat_clean (by decide) le_rfl n nl (by decide)⟩

private theorem plain_fmtInt (i : Int) : Plain (fmtInt i) :=
  ⟨fmtInt_clean i tab (by decide), fmtInt_clean i nl (by decide)⟩

private theorem plain_ite {p : Prop} [Decidable p] {s t : Bytes} (hs : Plain s) (ht : Plain t) :
    Plain (if p then s else t) := by
  split
  · exact hs
  · exact ht

/-- The texts of a record stay within its arrays. -/
structure Fits (r : verdict_record) : Prop where
  path : r.path.length < PATH_MAX
  sha256_hex : r.sha256_hex.length < 65
  rule_name : r.rule_name.length < AV_RULE_NAME_MAXLEN + 1

private theorem length_snprintf {size : Nat} (h : 0 < size) (s : Bytes) :
    (snprintf_s size s).length < size := by
  rw [snprintf_s, List.length_take]
  omega

private theorem fits_recordOf (id : UInt64) (c : RecordCall) : Fits (recordOf id c) :=
  ⟨length_snprintf (Nat.lt_of_sub_eq_succ rfl) _, length_snprintf (by decide) _,
    length_snprintf (by decide) _⟩

private theorem mem_logOf {calls : List RecordCall} {r : verdict_record} (h : r ∈ logOf calls) :
    ∃ id, ∃ c ∈ calls, r = recordOf id c := by
  obtain ⟨⟨c, k⟩, hm, rfl⟩ := List.mem_map.mp (List.mem_reverse.mp h)
  exact ⟨_, c, List.fst_mem_of_mem_zipIdx hm, rfl⟩

private theorem plain_fields {id : UInt64} {c : RecordCall} (h : PlainCall c) :
    ∀ f ∈ verdictFields (recordOf id c), Plain f := by
  simp only [verdictFields, recordOf, List.forall_mem_cons]
  exact ⟨plain_fmtNat _, plain_fmtInt _, plain_fmtNat _, plain_snprintf h.path,
    plain_snprintf h.sha256_hex, plain_ite (by decide) (by decide), plain_snprintf h.rule_name,
    plain_fmtInt _, plain_ite (by decide) (by decide), nofun⟩

theorem framed_fields {calls : List RecordCall} (h : ∀ c ∈ calls, PlainCall c) :
    ∀ r ∈ logOf calls, Framed (verdictFields r) := by
  intro r hr
  obtain ⟨id, c, hc, rfl⟩ := mem_logOf hr
  exact ⟨by simp [verdictFields], plain_fields (h c hc)⟩

private theorem length_word (p : Prop) [Decidable p] :
    (if p then lit "MALICIOUS" else lit "CLEAN").length ≤ 9 := by
  split <;> decide

private theorem length_flag (p : Prop) [Decidable p] :
    (if p then lit "1" else lit "0").length = 1 := by
  split <;> rfl

/-- The row buffer has room for every record. -/
theorem verdictRow_fits {r : verdict_record} (h : Fits r) :
    verdictRow r = tabbed (verdictFields r) ++ [nl] := by
  refine snprintf_s_eq_self ?_
  have hid : (fmtNat 10 r.id.toNat).length ≤ 20 :=
    fmtNat_length_le (by decide) (by decide) (lt_trans r.id.toNat_lt (by decide))
  have htime : (fmtInt r.timestamp.toInt).length ≤ 20 := by
    have hlo := r.timestamp.le_toInt
    have hhi := r.timestamp.toInt_lt
    exact fmtInt_length_le (by decide) (by omega)
  have hpid : (fmtNat 10 r.pid.toNat).length ≤ 10 :=
    fmtNat_length_le (by decide) (by decide) (lt_trans r.pid.toNat_lt (by decide))
  have hscore : (fmtInt r.score.toInt).length ≤ 11 := by
    have hlo := r.score.le_toInt
    have hhi := r.score.toInt_lt
    exact fmtInt_length_le (by decide) (by omega)
  have hword := length_word (r.verdict.toNat = AV_VERDICT_MALICIOUS)
  have hflag := length_flag (r.on_demand = true)
  have hpath := h.path
  have hsha := h.sha256_hex
  have hrule := h.rule_name
  rw [List.length_append, length_tabbed]
  simp only [verdictFields, List.map_cons, List.map_nil, List.sum_cons, List.sum_nil,
    List.length_cons, List.length_nil, hflag, PATH_MAX, AV_RULE_NAME_MAXLEN] at *
  omega

theorem verdictRow_logOf {calls : List RecordCall} {r : verdict_record} (h : r ∈ logOf calls) :
    verdictRow r = tabbed (verdictFields r) ++ [nl] := by
  obtain ⟨id, c, -, rfl⟩ := mem_logOf h
  exact verdictRow_fits (fits_recordOf id c)

end Rows

section Responses

variable {calls : List RecordCall} {n : Nat} {peer_uid : UInt32} {is_root : Bool} {conn : Conn}

/-- The records that a peer gets: its own among those in the ring, or all of them. -/
def listed (calls : List RecordCall) (n : Nat) (peer_uid : UInt32) (is_root : Bool) :
    List verdict_record :=
  (((logOf calls).take AVD_VERDICT_HISTORY_MAX).filter fun r =>
    verdict_visible_to r peer_uid is_root).take n

private theorem mem_listed {r : verdict_record} (h : r ∈ listed calls n peer_uid is_root) :
    r ∈ logOf calls :=
  List.mem_of_mem_take (List.mem_of_mem_filter (List.mem_of_mem_take h))

theorem listed_root : listed calls n peer_uid true =
    (logOf calls).take (min n AVD_VERDICT_HISTORY_MAX) := by
  simp [listed, verdict_visible_to, List.take_take]

/-- With a copy of the ring, the response lists the peer's records. -/
theorem sendVerdicts_listed (hconn : conn.Reliable) :
    (sendVerdicts (some ((logOf calls).take AVD_VERDICT_HISTORY_MAX)) n peer_uid is_root
      conn).sent = conn.sent ++ (Response.rows ((listed calls n peer_uid is_root).map fun r =>
        tabbed (verdictFields r))).bytes := by
  have hsnap : ((logOf calls).take AVD_VERDICT_HISTORY_MAX).length ≤ AVD_VERDICT_HISTORY_MAX :=
    List.length_take_le ..
  rw [sendVerdicts_some hsnap]
  exact sendEnd_fitting hconn fun r hr => verdictRow_logOf (mem_listed hr)

/-- The client reads the listed records, field by field. -/
theorem verdicts_recent_listed (h : ∀ c ∈ calls, PlainCall c) {resp : Bytes}
    (hresp : resp = (Response.rows ((listed calls n peer_uid is_root).map fun r =>
      tabbed (verdictFields r))).bytes) :
    parse_rows resp = .ok ((listed calls n peer_uid is_root).map verdictFields) ∧
      verdicts_recent resp =
        .ok ((listed calls n peer_uid is_root).map fun r => verdictKeys.zip (verdictFields r)) := by
  have hframed : ∀ fs ∈ (listed calls n peer_uid is_root).map verdictFields, Framed fs := by
    intro fs hfs
    obtain ⟨r, hr, rfl⟩ := List.mem_map.mp hfs
    exact framed_fields h r (mem_listed hr)
  have hparse : parse_rows resp = .ok ((listed calls n peer_uid is_root).map verdictFields) := by
    rw [hresp, ← parse_rows_response hframed, List.map_map]
    rfl
  refine ⟨hparse, ?_⟩
  rw [verdicts_recent, hparse]
  refine (keyed_rows fun fs hfs => ?_).trans (by rw [List.map_map]; rfl)
  obtain ⟨r, -, rfl⟩ := List.mem_map.mp hfs
  rfl

end Responses

section Main

variable {τ : Type} [DecidableEq τ]

/-- In every interleaving of the threads, the client gets the newest records of the calls that were
made before the copy, filtered for the peer, unless the copy could not be allocated. -/
theorem verdicts_recent_sound {events : List (Event τ Section)}
    {s : State τ Section History Private} {before after : List (Section × Private)}
    {alloc : Bool} {r : Private} {calls : List RecordCall}
    (hrun : run sections.act (State.boot History.boot) events = some s)
    (hended : s.ended = before ++ (.recent alloc, r) :: after)
    (hcalls : calls = callsOf (before.map Prod.fst)) (hplain : ∀ c ∈ calls, PlainCall c)
    (n : Nat) (peer_uid : UInt32) (is_root : Bool) {fails : Nat → Option Nat}
    (hconn : (Conn.accept fails).Reliable) {resp : Bytes}
    (hresp : resp = (sendVerdicts r.snap n peer_uid is_root (Conn.accept fails)).sent) :
    (calls = [] ∨ alloc = true →
      parse_rows resp = .ok ((listed calls n peer_uid is_root).map verdictFields) ∧
      verdicts_recent resp =
        .ok ((listed calls n peer_uid is_root).map fun r => verdictKeys.zip (verdictFields r))) ∧
    (calls ≠ [] ∧ alloc = false → resp = (Response.err (lit "out of memory")).bytes) ∧
    listed calls n peer_uid true = (logOf calls).take (min n AVD_VERDICT_HISTORY_MAX) ∧
    listed calls n peer_uid false =
      (((logOf calls).take AVD_VERDICT_HISTORY_MAX).filter fun r => r.uid = peer_uid).take n ∧
    (calls.length < 2 ^ 64 → (listed calls n peer_uid true).map (fun r => r.id.toNat) =
      (List.range (min (min n AVD_VERDICT_HISTORY_MAX) calls.length)).map
        fun i => calls.length - i) := by
  subst hcalls
  obtain ⟨t, hcompletes⟩ := Code.completes_of_run (fun _ _ _ _ => section_effect) hrun hended
  obtain ⟨-, hsnap⟩ := recent_completes hcompletes
  have hremembers := remembers_foldl (before.map Prod.fst)
  refine ⟨fun ha => ?_, fun ha => ?_, listed_root, ?_, fun hlen => ?_⟩
  · rw [hsnap, hremembers.snapshot ha, sendVerdicts_listed hconn] at hresp
    exact verdicts_recent_listed hplain hresp
  · obtain ⟨hne, rfl⟩ := ha
    rw [hsnap, hremembers.no_snapshot hne] at hresp
    rw [hresp, sendVerdicts, send_err_reliable hconn (by decide)]
    rfl
  · simp [listed, verdict_visible_to, beq_eq_decide]
  · rw [listed_root]
    exact ids_logOf hlen _

/-- A scan of a file of user 7, whose rule has no name. -/
def oneCall : RecordCall :=
  ⟨42, 7, some (lit "/a"), some [], 0, some [], 0, true, 9⟩

private theorem plain_oneCall : PlainCall oneCall := ⟨by decide, by decide, by decide⟩

/-- One thread records the call; then another one copies the ring. -/
def oneRun : List (Event Bool Section) :=
  .lock false (.record oneCall) :: List.replicate 13 (.step false) ++
    [.unlock false, .lock true (.recent true), .step true, .step true, .unlock true]

theorem verdicts_recent_sound_one : ∃ r : Private, ∃ s : State Bool Section History Private,
    run sections.act (State.boot History.boot) oneRun = some s ∧
    s.ended = [(.record oneCall, .writing []), (.recent true, r)] ∧
    parse_rows (sendVerdicts r.snap 5 7 false (Conn.accept fun _ => none)).sent =
      .ok [verdictFields (recordOf 1 oneCall)] := by
  refine ⟨.copying 1 1 [recordOf 1 oneCall], _, rfl, rfl, ?_⟩
  have h := @verdicts_recent_sound Bool _ oneRun _ [(.record oneCall, .writing [])] [] true
    (.copying 1 1 [recordOf 1 oneCall]) [oneCall] rfl rfl rfl (by simpa using plain_oneCall)
    5 7 false (fun _ => none) (fun _ => rfl) _ rfl
  exact (h.1 (.inr rfl)).1

private theorem ids_of_two (calls : List RecordCall) (c : RecordCall) :
    (listed (calls ++ [c] ++ [c]) 2 0 true).map verdict_record.id =
      [UInt64.ofNat (calls.length + 2), UInt64.ofNat (calls.length + 1)] := by
  rw [listed_root, logOf_snoc, logOf_snoc, List.length_append]
  rfl

/-- The history after one call of a thread. -/
def afterOne (c : RecordCall) : History := record_verdict_history c History.boot

/-- No records reach the client when the copy has no memory or the connection fails in a row, nine
fields become ten when the digest has a tab, and after `2^64` calls the ids start again at 0. -/
theorem verdicts_recent_misread :
    verdicts_recent (cmd_verdicts_recent false (afterOne oneCall) 5 0 true
      (Conn.accept fun _ => none)).sent = .error (lit "out of memory") ∧
    verdicts_recent (cmd_verdicts_recent true (afterOne oneCall) 5 0 true
      (Conn.accept fun k => if k = 2 then some 0 else none)).sent =
        .error (malformed ++ lit " (missing END)") ∧
    verdicts_recent (cmd_verdicts_recent true
      (afterOne { oneCall with sha256_hex := some [tab] }) 5 0 true
      (Conn.accept fun _ => none)).sent =
        .error (lit "malformed VERDICTS RECENT row: expected 9 fields, got 10") ∧
    ∃ calls : List RecordCall, (∀ c ∈ calls, PlainCall c) ∧ calls.length = 2 ^ 64 ∧
      (listed calls 2 0 true).map verdict_record.id = [0, 18446744073709551615] := by
  refine ⟨by decide, by decide, by decide,
    List.replicate (2 ^ 64 - 2) oneCall ++ [oneCall] ++ [oneCall], ?_, ?_, ?_⟩
  · intro c hc
    simp only [List.append_assoc, List.mem_append, List.mem_replicate, List.mem_singleton,
      or_self] at hc
    rcases hc with ⟨-, rfl⟩ | rfl
    · exact plain_oneCall
    · exact plain_oneCall
  · rw [List.length_append, List.length_append, List.length_replicate]
    rfl
  · rw [ids_of_two, List.length_replicate]
    rfl

end Main

end KernelAv.Daemon.VerdictListing
