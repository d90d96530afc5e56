/- digest: One control connection: its line, the command on it, and what it does and answers. -/

import KernelAv.Daemon.QuarantineListing
import KernelAv.Daemon.VerdictHistory

set_option autoImplicit false
set_option relaxedAutoImplicit false

namespace KernelAv.Daemon.ControlSocket

open KernelAv.Lib.CText
open KernelAv.Lib.Lines (nl after tabbed length_tabbed)
open KernelAv.Daemon.Connection
open KernelAv.Daemon.Scan
open KernelAv.Daemon.Quarantine
open KernelAv.Daemon.VerdictHistory (History RecordCall record_verdict_history cmd_verdicts_recent)
open KernelAv.Daemon.QuarantineListing (ListIo Directory cmd_quarantine_list)
open KernelAv.Kernel.Channel (AV_VERDICT_MALICIOUS)

def AVD_SOCK_LINE_MAX : Nat := PATH_MAX + 256

section Reading

/-- What one `read` of a byte gives. -/
inductive Recv where
  | byte (b : UInt8)
  | eof
  | interrupted
  | failed
  deriving DecidableEq

/-- One turn of the loop: whether the deadline has passed, and the `read`. -/
structure Poll where
  expired : Bool
  recv : Recv
  deriving DecidableEq

/-- The loop of `read_line`; `none` stands for -1, a line for its length and its bytes. Once the
peer is silent the `read` times out. -/
def readLoop (bufsz : Nat) : List Poll → Bytes → Option Bytes
  | [], _ => none
  | p :: polls, buf =>
      if buf.length + 1 < bufsz then
        if p.expired then none
        else
          match p.recv with
          | .interrupted => readLoop bufsz polls buf
          | .failed => none
          | .eof => if buf = [] then some [] else none
          | .byte c => if c = nl then some buf else readLoop bufsz polls (buf ++ [c])
      else none

def read_line (bufsz : Nat) (polls : List Poll) : Option Bytes := readLoop bufsz polls []

end Reading

section Commands

/-- What STATUS reports. -/
structure Status where
  uptime : Int64
  compiled_rules : Bool
  fuzzy_corpus_count : UInt64
  tlsh_corpus_count : UInt64
  queue_len : UInt64
  scan_threads : Int32
  deriving DecidableEq

def statusFields (s : Status) : List Bytes :=
  [fmtInt s.uptime.toInt, if s.compiled_rules then lit "1" else lit "0",
    fmtNat 10 s.fuzzy_corpus_count.toNat, fmtNat 10 s.tlsh_corpus_count.toNat,
    fmtNat 10 s.queue_len.toNat, fmtInt s.scan_threads.toInt]

/-- The header, one row and the terminator, whatever becomes of each of them. -/
def sendOne (row : Bytes) (c : Conn) : Conn :=
  let c := sendHeader c (lit "COUNT 1" ++ [nl])
  (write_all (write_all c row).1 (lit "END" ++ [nl])).1

def cmd_status (s : Status) (c : Conn) : Conn :=
  sendOne (snprintf_s 256 (tabbed (statusFields s) ++ [nl])) c

/-- The files of the daemon's machine and its verdict history. -/
structure AvdState where
  files : Fs
  history : History

/-- What the calls of SCAN return, up to the scan itself: the inode that was opened, whether it is
regular, and whether `fcntl` succeeds; then the owner that the scan records, and the time. -/
structure ScanEnv where
  opened : Option Nat
  regular : Bool
  fcntl_ok : Bool
  io : ScanIo
  owner_uid : UInt32
  time : Int64

/-- Everything that one connection meets outside the daemon's state. -/
structure Env where
  S : Store
  L : HashLibrary
  D : Avd
  status : Status
  alloc : Bool
  list_io : ListIo
  dir : Directory
  scan : ScanEnv
  outcomes : List Outcome

/-- The calls of one command until it ends; `none` if the outcomes do not last so long. -/
def finish {α β : Type} (step : Outcome → Fs → α → Fs × α) (ended : α → Option β) :
    List Outcome → Fs → α → Option (Fs × β)
  | os, F, x =>
      match ended x with
      | some r => some (F, r)
      | none =>
          match os with
          | [] => none
          | o :: os => finish step ended os (step o F x).1 (step o F x).2

def restoreEnd : Restore → Option Reply
  | .done r => some r
  | _ => none

def deleteEnd : Delete → Option Reply
  | .done r => some r
  | _ => none

def quarantineEnd : QuarantineFile → Option QuarantineEnd
  | .done r => some r
  | _ => none

def sendReply (c : Conn) : Reply → Conn
  | .ok => (write_all c (lit "OK" ++ [nl])).1
  | .err msg => send_err c msg

variable (env : Env)

def cmd_quarantine_restore (id : Bytes) (d : AvdState) (c : Conn) : Option (AvdState × Conn) :=
  (finish (fun o F p => p.step env.S o F id) restoreEnd env.outcomes d.files
    (Restore.start env.S id)).map fun x => ({ d with files := x.1 }, sendReply c x.2)

def cmd_quarantine_delete (id : Bytes) (d : AvdState) (c : Conn) : Option (AvdState × Conn) :=
  (finish (fun o F p => p.step env.S o F id) deleteEnd env.outcomes d.files
    (Delete.start env.S id)).map fun x => ({ d with files := x.1 }, sendReply c x.2)

/-- What the scan reports; its buffer for the digest has 65 bytes. -/
def scanResult : ScanResult :=
  let r := perform_scan env.L env.D env.scan.io []
  { r with sha256_hex := snprintf_s 65 r.sha256_hex }

def scanFields (r : ScanResult) : List Bytes :=
  [if r.verdict = AV_VERDICT_MALICIOUS then lit "MALICIOUS" else lit "CLEAN",
    r.rule_name, fmtInt r.score, r.sha256_hex]

def scanRow (r : ScanResult) : Bytes := snprintf_s (PATH_MAX + 256) (tabbed (scanFields r) ++ [nl])

/-- What the scan leaves of the files: a convicted one is quarantined. -/
def scannedFiles (fd : Nat) (path : Bytes) (r : ScanResult) (F : Fs) : Option Fs :=
  if r.quarantined then
    (finish (fun o F p => p.step env.S o F ⟨fd, path, r.rule_name, scanHash env.scan.io []⟩)
      quarantineEnd env.outcomes F .ensure_quarantine_dir).map Prod.fst
  else some F

/-- The record that the scan leaves in the history. -/
def scanCall (path : Bytes) (r : ScanResult) : RecordCall where
  pid := 0
  uid := env.scan.owner_uid
  path := some path
  sha256_hex := some r.sha256_hex
  verdict := UInt8.ofNat r.verdict
  rule_name := some r.rule_name
  score := Int32.ofInt r.score
  on_demand := true
  time := env.scan.time

def cmd_scan (path : Bytes) (d : AvdState) (c : Conn) : Option (AvdState × Conn) :=
  if path.head? ≠ some slash then some (d, send_err c (lit "path must be absolute"))
  else
    match env.scan.opened with
    | none => some (d, send_err c (lit "could not open path for scanning"))
    | some fd =>
        if !env.scan.regular then some (d, send_err c (lit "path is not a regular file"))
        else if !env.scan.fcntl_ok then
          some (d, send_err c (lit "could not prepare file for scanning"))
        else
          let r := scanResult env
          (scannedFiles env fd path r d.files).map fun F =>
            (⟨F, record_verdict_history (scanCall env path r) d.history⟩, sendOne (scanRow r) c)

end Commands

section Dispatch

variable (env : Env)

/-- Whether `strtoul` converts anything. -/
def hasNumber (arg : Bytes) : Bool := takeDigits 10 (takeSign (arg.dropWhile isspace)).2 ≠ []

def denied (verb arg : String) : Bytes :=
  lit "permission denied (use: pkexec avctl " ++ lit verb ++ lit " " ++ lit arg ++ lit ")"

/-- The line is a C string. -/
def handle_control_line (line : Bytes) (peer_uid : UInt32) (is_root : Bool) (d : AvdState)
    (c : Conn) : Option (AvdState × Conn) :=
  if line = lit "STATUS" then some (d, cmd_status env.status c)
  else if let some arg := after (lit "VERDICTS RECENT ") line then
    if !hasNumber arg then
      some (d, send_err c (lit "malformed VERDICTS RECENT (expected a count)"))
    else some (d, cmd_verdicts_recent env.alloc d.history (strtoul arg 10) peer_uid is_root c)
  else if line = lit "QUARANTINE LIST" then
    some (d, cmd_quarantine_list env.list_io env.dir peer_uid is_root c)
  else if let some id := after (lit "QUARANTINE RESTORE ") line then
    if !is_root then some (d, send_err c (denied "quarantine restore" "<id>"))
    else cmd_quarantine_restore env id d c
  else if let some id := after (lit "QUARANTINE DELETE ") line then
    if !is_root then some (d, send_err c (denied "quarantine delete" "<id>"))
    else cmd_quarantine_delete env id d c
  else if let some path := after (lit "SCAN ") line then
    if !is_root then some (d, send_err c (denied "scan" "<path>"))
    else cmd_scan env path d c
  else some (d, send_err c (lit "unknown command"))

/-- A connection of a peer, from its first byte until it is closed. -/
def control_conn_main (cred : Option UInt32) (polls : List Poll) (d : AvdState) (c : Conn) :
    Option (AvdState × Conn) :=
  match read_line AVD_SOCK_LINE_MAX polls with
  | none =>
      some (d, send_err c
        (lit "malformed request (missing newline, line too long, or timed out)"))
  | some [] => some (d, c)
  | some (b :: line) =>
      handle_control_line env (cstr (b :: line)) (credUid cred) (credRoot cred) d c

end Dispatch

section Replies

variable {c : Conn} {r : ScanResult}

/-- A result within the buffers of `struct scan_result`. -/
structure ResultOk (r : ScanResult) : Prop where
  rule_le : r.rule_name.length ≤ 63
  sha_le : r.sha256_hex.length ≤ 64
  score_lo : -2 ^ 31 ≤ r.score
  score_hi : r.score < 2 ^ 31

theorem resultOk_scan (env : Env) : ResultOk (scanResult env) := by
  obtain ⟨hlo, hhi⟩ := perform_scan_score_bounds env.L env.D env.scan.io []
  exact ⟨perform_scan_rule_le env.L env.D env.scan.io [], List.length_take_le _ _, hlo, hhi⟩

theorem scanRow_fits (h : ResultOk r) : scanRow r = tabbed (scanFields r) ++ [nl] := by
  have hpathmax : PATH_MAX = 4096 := rfl
  have hrule := h.rule_le
  have hsha := h.sha_le
  have hscore : (fmtInt r.score).length ≤ 11 := by
    have hlo := h.score_lo
    have hhi := h.score_hi
    exact fmtInt_length_le (by decide) (by omega)
  have hword : (if r.verdict = AV_VERDICT_MALICIOUS then lit "MALICIOUS" else lit "CLEAN").length
      ≤ 9 := by
    split <;> decide
  rw [scanRow, snprintf_s_eq_self]
  rw [List.length_append, length_tabbed]
  simp only [scanFields, List.map_cons, List.map_nil, List.sum_cons, List.sum_nil,
    List.length_cons, List.length_nil]
  omega

/-- The response with one row. -/
theorem sendOne_reliable (h : c.Reliable) (row : Bytes) :
    (sendOne (row ++ [nl]) c).sent = c.sent ++ (Response.rows [row]).bytes := by
  have hcount : lit "COUNT 1" = countLine 1 := by decide
  have hsend := sendEnd_reliable h [row]
  rw [List.map_singleton, sendRows, sendHeader_reliable h, write_all_reliable (h.wrote _)] at hsend
  rw [sendOne, hcount, sendHeader_reliable h, write_all_reliable (h.wrote _)]
  exact hsend

/-- The response to a SCAN that went through. -/
theorem scan_response (h : ResultOk r) (hconn : c.Reliable) :
    (sendOne (scanRow r) c).sent = c.sent ++ (Response.rows [tabbed (scanFields r)]).bytes := by
  rw [scanRow_fits h, sendOne_reliable hconn]

end Replies

end KernelAv.Daemon.ControlSocket
