/- digest: The protocol of the control socket: one line, one response, and which one gets OK. -/

import KernelAv.Daemon.ControlSocket
import KernelAv.Daemon.RestoreInverse
import KernelAv.Daemon.VerdictListing
import Mathlib.Data.Prod.Lex

set_option autoImplicit false
set_option relaxedAutoImplicit false

namespace KernelAv.Daemon.ControlProtocol

open KernelAv.Lib.CText
open KernelAv.Lib.Files
open KernelAv.Lib.Lines (nl after after_exclusive tabbed length_tabbed)
open KernelAv.Lib.Run
open KernelAv.Daemon.Connection
open KernelAv.Daemon.Sidecar (PATH_MAX QuarantineMeta read_quarantine_meta)
open KernelAv.Daemon.Quarantine
open KernelAv.Daemon.QuarantineListing
open KernelAv.Daemon.VerdictHistory
open KernelAv.Daemon.VerdictListing
open KernelAv.Daemon.RestoreInverse
open KernelAv.Daemon.ControlSocket

section Framing

/-- The bytes that a connection has received. -/
def received (polls : List Poll) : Bytes :=
  polls.filterMap fun p =>
    match p.recv with
    | .byte b => some b
    | _ => none

/-- The first newline comes after these bytes, within the buffer and before the deadline. -/
structure Delivers (polls : List Poll) (line : Bytes) : Prop where
  short : line.length + 1 ≤ AVD_SOCK_LINE_MAX - 1
  one_line : nl ∉ line
  arrives : ∃ before after, polls = before ++ after ∧ received before = line ++ [nl] ∧
    ∀ p ∈ before, p.expired = false ∧ (p.recv = .interrupted ∨ ∃ b, p.recv = .byte b)

private theorem readLoop_delivers {bufsz : Nat} {before after : List Poll} {line : Bytes}
    (hrecv : received before = line ++ [nl]) (hline : nl ∉ line)
    (hpolls : ∀ p ∈ before, p.expired = false ∧ (p.recv = .interrupted ∨ ∃ b, p.recv = .byte b))
    (buf : Bytes) (hroom : buf.length + line.length + 1 < bufsz) :
    readLoop bufsz (before ++ after) buf = some (buf ++ line) := by
  induction before generalizing buf line with
  | nil => simp [received] at hrecv
  | cons p before ih =>
    obtain ⟨⟨hexpired, hp⟩, hpolls⟩ := List.forall_mem_cons.mp hpolls
    rw [List.cons_append, readLoop, if_pos (by omega), hexpired, if_neg Bool.false_ne_true]
    rw [received, List.filterMap_cons] at hrecv
    rcases hp with hp | ⟨b, hp⟩
    · rw [hp] at hrecv ⊢
      exact ih hrecv hline hpolls buf hroom
    · rw [hp] at hrecv ⊢
      dsimp only at hrecv ⊢
      cases line with
      | nil =>
        obtain ⟨rfl, -⟩ := List.cons.inj hrecv
        rw [if_pos rfl, List.append_nil]
      | cons a line =>
        obtain ⟨rfl, hrest⟩ := List.cons.inj hrecv
        obtain ⟨hne, hline⟩ := not_or.mp fun h => hline (List.mem_cons.mpr h)
        rw [List.length_cons] at hroom
        rw [if_neg (Ne.symm hne), ih hrest hline hpolls (buf ++ [b])
          (by rw [List.length_append, List.length_singleton]; omega), List.append_assoc]
        rfl

/-- What `read_line` makes of such a stream. -/
theorem read_line_delivers {polls : List Poll} {line : Bytes} (h : Delivers polls line) :
    read_line AVD_SOCK_LINE_MAX polls = some line := by
  obtain ⟨before, after, rfl, hrecv, hpolls⟩ := h.arrives
  have hshort := h.short
  rw [read_line, readLoop_delivers hrecv h.one_line hpolls [] (by
    rw [List.length_nil]
    omega), List.nil_append]

end Framing

section Ending

variable {α β : Type} {step : Outcome → Fs → α → Fs × α} {ended : α → Option β}

theorem finish_ended {os : List Outcome} {F : Fs} {x : α} {r : β}
    (h : ended x = some r) : finish step ended os F x = some (F, r) := by
  unfold finish
  rw [h]

theorem finish_next {o : Outcome} {os : List Outcome} {F : Fs} {x : α}
    (h : ended x = none) :
    finish step ended (o :: os) F x = finish step ended os (step o F x).1 (step o F x).2 := by
  rw [finish, h]

/-- A machine whose calls go down in rank comes to its end, whatever the calls return. -/
theorem finish_ends (inv : Fs → α → Prop) (rank : Fs → α → Nat ×ₗ Nat)
    (hstep : ∀ o F x, inv F x → ended x = none →
      inv (step o F x).1 (step o F x).2 ∧ rank (step o F x).1 (step o F x).2 < rank F x)
    {F : Fs} {x : α} (h : inv F x) (outcomes : Nat → Outcome) :
    ∃ k r, finish step ended ((List.range k).map outcomes) F x = some r := by
  induction hr : rank F x using WellFoundedLT.induction generalizing F x outcomes with
  | _ n ih =>
    cases hend : ended x with
    | some r => exact ⟨0, (F, r), finish_ended hend⟩
    | none =>
      obtain ⟨hinv, hlt⟩ := hstep (outcomes 0) F x h hend
      obtain ⟨k, r, hfinish⟩ := ih _ (hr ▸ hlt) hinv (fun i => outcomes (i + 1)) rfl
      refine ⟨k + 1, r, ?_⟩
      rw [List.range_succ_eq_map, List.map_cons, List.map_map, finish_next hend]
      exact hfinish

/-- More outcomes than are needed change nothing. -/
theorem finish_append {os : List Outcome} {F : Fs} {x : α} {r : Fs × β}
    (h : finish step ended os F x = some r) (os' : List Outcome) :
    finish step ended (os ++ os') F x = some r := by
  cases hend : ended x with
  | some b =>
    rw [finish_ended hend] at h ⊢
    exact h
  | none =>
    induction os generalizing F x with
    | nil =>
      rw [finish, hend] at h
      cases h
    | cons o os ih =>
      rw [finish_next hend] at h
      rw [List.cons_append, finish_next hend]
      cases hend' : ended (step o F x).2 with
      | some b =>
        rw [finish_ended hend'] at h ⊢
        exact h
      | none => exact ih h hend'

/-- What every call keeps holds at the end. -/
theorem finish_keeps (inv : α → Prop) {os : List Outcome} {F G : Fs} {x : α} {r : β}
    (hfinish : finish step ended os F x = some (G, r)) (h : inv x)
    (hstep : ∀ o F x, ended x = none → inv x → inv (step o F x).2) :
    ∃ y, ended y = some r ∧ inv y := by
  induction os generalizing F x with
  | nil =>
    cases hend : ended x with
    | some b =>
      rw [finish_ended hend] at hfinish
      obtain ⟨-, rfl⟩ := Prod.mk.inj (Option.some.inj hfinish)
      exact ⟨x, hend, h⟩
    | none =>
      rw [finish, hend] at hfinish
      cases hfinish
  | cons o os ih =>
    cases hend : ended x with
    | some b =>
      rw [finish_ended hend] at hfinish
      obtain ⟨-, rfl⟩ := Prod.mk.inj (Option.some.inj hfinish)
      exact ⟨x, hend, h⟩
    | none =>
      rw [finish_next hend] at hfinish
      exact ih hfinish (hstep o F x hend h)

/-- The end of a run that stays at its end. -/
theorem finish_of_run {os : List Outcome} {F G : Fs} {x y : α} {r : β}
    (hstop : ∀ x r, ended x = some r → ∀ o F, step o F x = (F, x))
    (hrun : run (fun s o => some (step o s.1 s.2)) (F, x) os = some (G, y))
    (hend : ended y = some r) : finish step ended os F x = some (G, r) := by
  induction os generalizing F x with
  | nil =>
    obtain ⟨rfl, rfl⟩ := Prod.mk.inj (Option.some.inj hrun)
    exact finish_ended hend
  | cons o os ih =>
    rw [run, Option.bind_some] at hrun
    cases hx : ended x with
    | none =>
      rw [finish_next hx]
      exact ih hrun
    | some r' =>
      rw [hstop x r' hx] at hrun
      have hsame := ih hrun
      rw [finish_ended hx] at hsame ⊢
      exact hsame

/-- A machine that has come to its end is there after a run as well. -/
theorem run_of_finish {os : List Outcome} {F G : Fs} {x : α} {r : β}
    (hstop : ∀ x r, ended x = some r → ∀ o F, step o F x = (F, x))
    (hfinish : finish step ended os F x = some (G, r)) :
    ∃ y, ended y = some r ∧ run (fun s o => some (step o s.1 s.2)) (F, x) os = some (G, y) := by
  induction os generalizing F x with
  | nil =>
    cases hend : ended x with
    | none =>
      rw [finish, hend] at hfinish
      cases hfinish
    | some b =>
      rw [finish_ended hend] at hfinish
      cases hfinish
      exact ⟨x, hend, rfl⟩
  | cons o os ih =>
    rw [run, Option.bind_some]
    cases hend : ended x with
    | none =>
      rw [finish_next hend] at hfinish
      exact ih hfinish
    | some b =>
      rw [hstop x b hend]
      rw [finish_ended hend] at hfinish
      cases hfinish
      exact ih (finish_ended hend)

end Ending

section Ranks

/-- How far RESTORE is from its end. -/
def restoreRank (F : Fs) : Restore → Nat ×ₗ Nat
  | .fopen => toLex (8, 0)
  | .fread mfd text => toLex (7, (F.inodes mfd).data.length - text.length)
  | .openDest _ => toLex (6, 0)
  | .fstat .. => toLex (5, 0)
  | .lstat .. => toLex (4, 0)
  | .fchmod .. => toLex (3, 0)
  | .fchown .. => toLex (2, 0)
  | .rename _ => toLex (1, 1)
  | .unlinkMeta => toLex (1, 0)
  | .done _ => toLex (0, 0)

def deleteRank : Delete → Nat ×ₗ Nat
  | .unlinkDest => toLex (2, 0)
  | .unlinkMeta => toLex (1, 0)
  | .done _ => toLex (0, 0)

/-- How far `quarantine_file` is from its end; the copy goes down with what is left of the file. -/
def quarantineRank (fd : Nat) (F : Fs) : QuarantineFile → Nat ×ₗ Nat
  | .ensure_quarantine_dir => toLex (18, 0)
  | .fstat => toLex (17, 0)
  | .clock_gettime _ => toLex (16, 0)
  | .linkat _ => toLex (15, 0)
  | .lseek _ => toLex (14, 0)
  | .openCopy _ => toLex (13, 0)
  | .read _ _ off => toLex (12, 2 * ((F.inodes fd).data.length - off) + 1)
  | .write _ _ off _ => toLex (12, 2 * ((F.inodes fd).data.length - off))
  | .closeCopy .. => toLex (11, 0)
  | .unlinkCopy _ => toLex (10, 0)
  | .openMeta _ => toLex (9, 0)
  | .writeMeta _ _ rest => toLex (8, rest.length)
  | .unlinkMeta _ => toLex (7, 0)
  | .chmod .. => toLex (6, 0)
  | .unlinkDest _ => toLex (5, 0)
  | .fstatAgain .. => toLex (4, 0)
  | .lstat .. => toLex (3, 0)
  | .unlink .. => toLex (2, 0)
  | .done _ => toLex (0, 0)

/-- The copy goes to an inode of its own. -/
def CopiesApart (fd : Nat) (F : Fs) : QuarantineFile → Prop
  | .ensure_quarantine_dir | .fstat | .clock_gettime _ | .linkat _ | .lseek _ | .openCopy _ =>
      fd < F.next
  | .read _ out_fd _ => fd ≠ out_fd
  | .write _ out_fd off buf =>
      fd ≠ out_fd ∧ buf ≠ [] ∧ off + buf.length ≤ (F.inodes fd).data.length
  | _ => True

private theorem phase_lt {a b m n : Nat} (h : a < b) : toLex (a, m) < toLex (b, n) :=
  Prod.Lex.toLex_lt_toLex.mpr (.inl h)

private theorem within_lt {a m n : Nat} (h : m < n) : toLex (a, m) < toLex (a, n) :=
  Prod.Lex.toLex_lt_toLex.mpr (.inr ⟨rfl, h⟩)

variable {S : Store} {o : Outcome} {F : Fs} {id : Bytes}

theorem restoreRank_step {p : Restore} (h : restoreEnd p = none) :
    restoreRank (p.step S o F id).1 (p.step S o F id).2 < restoreRank F p := by
  cases p with
  | fopen =>
    rw [Restore.step]
    split <;> exact phase_lt (by decide)
  | fread mfd text =>
    rw [Restore.step]
    split
    · rename_i hread
      simp only [Bool.and_eq_true, decide_eq_true_eq, ne_eq, List.take_eq_nil_iff,
        List.drop_eq_nil_iff, not_or, not_le] at hread
      refine within_lt ?_
      rw [List.length_append, List.length_take, List.length_drop]
      dsimp only
      omega
    · split <;> exact phase_lt (by decide)
  | openDest m =>
    rw [Restore.step]
    split <;> exact phase_lt (by decide)
  | fstat m qfd =>
    rw [Restore.step]
    split <;> exact phase_lt (by decide)
  | lstat m qfd =>
    rw [Restore.step]
    split <;> exact phase_lt (by decide)
  | fchmod m qfd =>
    rw [Restore.step]
    split <;> exact phase_lt (by decide)
  | fchown m qfd => exact phase_lt (by decide)
  | rename m =>
    rw [Restore.step]
    split
    · exact within_lt (by decide)
    · exact phase_lt (by decide)
  | unlinkMeta => exact phase_lt (by decide)
  | done r => cases h

private theorem deleteRank_step {p : Delete} (h : deleteEnd p = none) :
    deleteRank (p.step S o F id).2 < deleteRank p := by
  cases p with
  | unlinkDest =>
    rw [Delete.step]
    split <;> exact phase_lt (by decide)
  | unlinkMeta => exact phase_lt (by decide)
  | done r => cases h

variable {c : Conviction} {k : Kept}

/-- What one call of `quarantine_file` has to do for the file to come to its end. -/
def Descends (c : Conviction) (F : Fs) (p : QuarantineFile) (s : Fs × QuarantineFile) :
    Prop :=
  CopiesApart c.fd s.1 s.2 ∧ quarantineRank c.fd s.1 s.2 < quarantineRank c.fd F p

private theorem descends_linkat (h : CopiesApart c.fd F (.linkat k)) :
    Descends c F (.linkat k) ((QuarantineFile.linkat k).step S o F c) := by
  rw [QuarantineFile.step]
  split
  · exact ⟨trivial, phase_lt (by decide)⟩
  · exact ⟨h, phase_lt (by decide)⟩

private theorem descends_openCopy (h : CopiesApart c.fd F (.openCopy k)) :
    Descends c F (.openCopy k) ((QuarantineFile.openCopy k).step S o F c) := by
  rw [QuarantineFile.step]
  split
  · rename_i G out_fd hG
    obtain ⟨n, -, hopen⟩ := withName_ok.mp (call_ok hG)
    obtain ⟨-, rfl, -⟩ := Disk.openExcl_ok hopen
    exact ⟨Nat.ne_of_lt h, phase_lt (by decide)⟩
  · exact ⟨trivial, phase_lt (by decide)⟩

private theorem descends_read {out_fd off : Nat} (h : CopiesApart c.fd F (.read k out_fd off)) :
    Descends c F (.read k out_fd off) ((QuarantineFile.read k out_fd off).step S o F c) := by
  rw [QuarantineFile.step]
  split
  · exact ⟨trivial, phase_lt (by decide)⟩
  · split
    · exact ⟨trivial, phase_lt (by decide)⟩
    · rename_i hne
      have hleft := hne
      simp only [List.take_eq_nil_iff, List.drop_eq_nil_iff, not_or, not_le] at hleft
      refine ⟨⟨h, hne, ?_⟩, within_lt (Nat.lt_succ_self _)⟩
      rw [List.length_take, List.length_drop]
      dsimp only
      omega

private theorem descends_write {out_fd off : Nat} {buf : Bytes}
    (h : CopiesApart c.fd F (.write k out_fd off buf)) :
    Descends c F (.write k out_fd off buf)
      ((QuarantineFile.write k out_fd off buf).step S o F c) := by
  obtain ⟨happart, hne, hle⟩ := h
  rw [QuarantineFile.step]
  split
  · refine ⟨happart, within_lt ?_⟩
    have hpos := List.length_pos_iff.mpr hne
    rw [Disk.inodes_modify_of_ne _ happart]
    omega
  · exact ⟨trivial, phase_lt (by decide)⟩

private theorem descends_openMeta :
    Descends c F (.openMeta k) ((QuarantineFile.openMeta k).step S o F c) := by
  rw [QuarantineFile.step]
  split
  · exact ⟨trivial, phase_lt (by decide)⟩
  · split <;> exact ⟨trivial, phase_lt (by decide)⟩

private theorem descends_writeMeta {mfd : Nat} {rest : Bytes} :
    Descends c F (.writeMeta k mfd rest) ((QuarantineFile.writeMeta k mfd rest).step S o F c) := by
  rw [QuarantineFile.step]
  split
  · split
    · exact ⟨trivial, phase_lt (by decide)⟩
    · rename_i hleft
      rw [List.drop_eq_nil_iff, not_le] at hleft
      refine ⟨trivial, within_lt ?_⟩
      rw [List.length_drop]
      omega
  · exact ⟨trivial, phase_lt (by decide)⟩

theorem descends_step {p : QuarantineFile} (h : CopiesApart c.fd F p)
    (hend : quarantineEnd p = none) : Descends c F p (p.step S o F c) := by
  cases p with
  | ensure_quarantine_dir =>
    rw [QuarantineFile.step]
    cases o.ok with
    | true => exact ⟨h, phase_lt (by decide)⟩
    | false => exact ⟨trivial, phase_lt (by decide)⟩
  | fstat => exact ⟨h, phase_lt (by decide)⟩
  | clock_gettime orig_st =>
    rw [QuarantineFile.step]
    split
    · exact ⟨trivial, phase_lt (by decide)⟩
    · exact ⟨h, phase_lt (by decide)⟩
  | linkat k => exact descends_linkat h
  | lseek k =>
    rw [QuarantineFile.step]
    cases o.ok with
    | true => exact ⟨h, phase_lt (by decide)⟩
    | false => exact ⟨trivial, phase_lt (by decide)⟩
  | openCopy k => exact descends_openCopy h
  | read k out_fd off => exact descends_read h
  | write k out_fd off buf => exact descends_write h
  | closeCopy k out_fd copied => cases copied <;> exact ⟨trivial, phase_lt (by decide)⟩
  | unlinkCopy k => exact ⟨trivial, phase_lt (by decide)⟩
  | openMeta k => exact descends_openMeta
  | writeMeta k mfd rest => exact descends_writeMeta
  | unlinkMeta k => exact ⟨trivial, phase_lt (by decide)⟩
  | chmod k meta_ok =>
    rw [QuarantineFile.step]
    split <;> exact ⟨trivial, phase_lt (by decide)⟩
  | unlinkDest k => exact ⟨trivial, phase_lt (by decide)⟩
  | fstatAgain k meta_ok =>
    rw [QuarantineFile.step]
    cases o.ok <;> exact ⟨trivial, phase_lt (by decide)⟩
  | lstat k meta_ok =>
    rw [QuarantineFile.step]
    split
    · split <;> exact ⟨trivial, phase_lt (by decide)⟩
    · exact ⟨trivial, phase_lt (by decide)⟩
  | unlink k meta_ok =>
    rw [QuarantineFile.step]
    split <;> exact ⟨trivial, phase_lt (by decide)⟩
  | done r => cases hend

end Ranks

section Answers

/-- One response, which is an error unless `ok` holds. -/
def Answers (ok : Prop) (sent : Bytes) : Prop :=
  ∃ r : Response, sent = r.bytes ∧ ((∃ msg, r = .err msg) ∨ ok)

variable {c : Conn} {ok : Prop}

private theorem answers_err (hconn : c.Reliable) (hsent : c.sent = []) {msg : Bytes}
    (hmsg : msg.length < 251) : Answers ok (send_err c msg).sent := by
  refine ⟨.err msg, ?_, .inl ⟨msg, rfl⟩⟩
  rw [send_err_reliable hconn hmsg]
  simp [Conn.wrote, hsent]

private theorem answers_rows {rs : List Bytes} {sent : Bytes} (hsent : c.sent = [])
    (hrows : sent = c.sent ++ (Response.rows rs).bytes) (hok : ok) : Answers ok sent := by
  refine ⟨.rows rs, ?_, .inr hok⟩
  rw [hrows, hsent, List.nil_append]

/-- The row of STATUS fits its buffer. -/
private theorem status_fits (s : Status) :
    snprintf_s 256 (tabbed (statusFields s) ++ [nl]) = tabbed (statusFields s) ++ [nl] := by
  have hsize : ∀ n : UInt64, (fmtNat 10 n.toNat).length ≤ 20 := fun n =>
    fmtNat_length_le (by decide) (by decide) (lt_trans n.toNat_lt (by decide))
  have huptime : (fmtInt s.uptime.toInt).length ≤ 20 := by
    have hlo := s.uptime.le_toInt
    have hhi := s.uptime.toInt_lt
    exact fmtInt_length_le (by decide) (by omega)
  have hthreads : (fmtInt s.scan_threads.toInt).length ≤ 11 := by
    have hlo := s.scan_threads.le_toInt
    have hhi := s.scan_threads.toInt_lt
    exact fmtInt_length_le (by decide) (by omega)
  have hflag : (if s.compiled_rules then lit "1" else lit "0").length = 1 := by
    split <;> rfl
  have hfuzzy := hsize s.fuzzy_corpus_count
  have htlsh := hsize s.tlsh_corpus_count
  have hqueue := hsize s.queue_len
  refine snprintf_s_eq_self ?_
  rw [List.length_append, length_tabbed]
  simp only [statusFields, List.map_cons, List.map_nil, List.sum_cons, List.sum_nil,
    List.length_cons, List.length_nil]
  omega

private theorem status_answers (hconn : c.Reliable) (hsent : c.sent = []) (hok : ok)
    (s : Status) : Answers ok (cmd_status s c).sent :=
  answers_rows hsent (by rw [cmd_status, status_fits, sendOne_reliable hconn]) hok

/-- The history of a daemon that has recorded some scans since it was started. -/
def recorded (calls : List RecordCall) : History :=
  calls.foldl (fun h c => record_verdict_history c h) History.boot

private theorem remembers_recorded (calls : List RecordCall) :
    Remembers (recorded calls) calls := by
  induction calls using List.reverseRecOn with
  | nil => exact remembers_boot
  | append_singleton calls c ih =>
    rw [recorded, List.foldl_append]
    exact ih.record c

private theorem recent_answers (hconn : c.Reliable) (hsent : c.sent = []) (hok : ok) (alloc : Bool)
    (calls : List RecordCall) (n : Nat) (peer_uid : UInt32) (is_root : Bool) :
    Answers ok (cmd_verdicts_recent alloc (recorded calls) n peer_uid is_root c).sent := by
  have hremembers := remembers_recorded calls
  rw [cmd_verdicts_recent]
  by_cases hcopy : calls = [] ∨ alloc = true
  · rw [hremembers.snapshot hcopy]
    exact answers_rows hsent (sendVerdicts_listed hconn) hok
  · obtain ⟨hne, halloc⟩ := not_or.mp hcopy
    rw [Bool.eq_false_of_not_eq_true halloc, hremembers.no_snapshot hne]
    exact answers_err hconn hsent (by decide)

private theorem list_answers (hconn : c.Reliable) (hsent : c.sent = []) (hok : ok) (io : ListIo)
    (dir : Directory) (peer_uid : UInt32) (is_root : Bool) :
    Answers ok (cmd_quarantine_list io dir peer_uid is_root c).sent := by
  by_cases hscan : io.scandir_ok = true
  · by_cases hroom : dir.namelist = [] ∨ io.alloc = true
    · exact answers_rows hsent (list_response hscan hroom hconn) hok
    · obtain ⟨hne, halloc⟩ := not_or.mp hroom
      rw [cmd_quarantine_list, hscan, if_neg (by decide),
        if_pos ⟨hne, Bool.eq_false_of_not_eq_true halloc⟩]
      exact answers_err hconn hsent (by decide)
  · rw [cmd_quarantine_list, if_pos (by simpa using hscan)]
    exact answers_err hconn hsent (by decide)

variable {S : Store} {id : Bytes}

theorem no_slash (h : quarantine_id_valid id = true) : slash ∉ id := by
  simp only [quarantine_id_valid, Bool.and_eq_true, Bool.not_eq_true'] at h
  simpa using h.1.1.1.2

/-- RESTORE gets past its first call only for a valid id whose sidecar has no overlong name. -/
private def RestoreFair (id : Bytes) : Restore → Prop
  | .fopen => quarantine_id_valid id = true
  | .done (.err msg) => msg.length < 251
  | _ => quarantine_id_valid id = true ∧ (metaName id).length ≤ NAME_MAX

private theorem restoreFair_err {msg : Bytes} (h : msg.length < 251) :
    RestoreFair id (.done (.err msg)) := h

private theorem restoreFair_noMetadata : RestoreFair id (.done noMetadata) := by
  have hlen : (lit ("no metadata for this id (quarantined before this feature existed, or " ++
      "corrupt) - cannot determine where to restore it")).length < 251 := by decide +kernel
  exact hlen

private theorem restoreFair_start : RestoreFair id (Restore.start S id) := by
  rw [Restore.start]
  split
  · exact restoreFair_err (by decide)
  · rename_i hvalid
    split
    · exact restoreFair_err (by decide)
    · rwa [Bool.not_eq_true', Bool.not_eq_false] at hvalid

private theorem restoreFair_step (o : Outcome) (F : Fs) {p : Restore}
    (hend : restoreEnd p = none) (h : RestoreFair id p) :
    RestoreFair id (p.step S o F id).2 := by
  cases p with
  | fopen =>
    rw [Restore.step]
    split
    · rename_i mfd hopen
      obtain ⟨n, hn, -⟩ := withName_ok.mp (call_ok hopen)
      have hlen := (lookup_lengths hn).2
      obtain rfl := Place.entry.inj (lookup_meta (no_slash h) hn)
      exact ⟨h, hlen⟩
    · exact restoreFair_noMetadata
  | fread mfd text =>
    rw [Restore.step]
    split
    · exact h
    · split
      · exact restoreFair_noMetadata
      · exact h
  | openDest m =>
    rw [Restore.step]
    split
    · exact h
    · exact restoreFair_err (by decide)
  | fstat m qfd =>
    rw [Restore.step]
    split
    · exact restoreFair_err (by decide)
    · exact h
  | lstat m qfd =>
    rw [Restore.step]
    split
    · exact restoreFair_err (by decide)
    · exact h
  | fchmod m qfd =>
    rw [Restore.step]
    split
    · exact h
    · exact restoreFair_err (by decide)
  | fchown m qfd => exact h
  | rename m =>
    rw [Restore.step]
    split
    · exact h
    · exact restoreFair_err (by decide)
  | unlinkMeta => exact h
  | done r => cases hend

/-- DELETE gets past its first call only for a valid id whose entry has no overlong name. -/
private def DeleteFair (id : Bytes) : Delete → Prop
  | .unlinkDest => quarantine_id_valid id = true
  | .done (.err msg) => msg.length < 251
  | _ => quarantine_id_valid id = true ∧ (entryName id).length ≤ NAME_MAX

private theorem deleteFair_err {msg : Bytes} (h : msg.length < 251) :
    DeleteFair id (.done (.err msg)) := h

private theorem deleteFair_start : DeleteFair id (Delete.start S id) := by
  rw [Delete.start]
  split
  · exact deleteFair_err (by decide)
  · rename_i hvalid
    split
    · exact deleteFair_err (by decide)
    · rwa [Bool.not_eq_true', Bool.not_eq_false] at hvalid

private theorem deleteFair_step (o : Outcome) (F : Fs) {p : Delete}
    (hend : deleteEnd p = none) (h : DeleteFair id p) :
    DeleteFair id (p.step S o F id).2 := by
  cases p with
  | unlinkDest =>
    have hfound : ∀ place, S.lookup (dest S id) = .ok place →
        (entryName id).length ≤ NAME_MAX := by
      intro place hplace
      obtain rfl := lookup_dest (no_slash h) hplace
      exact (lookup_lengths hplace).2
    rw [Delete.step]
    split
    · rename_i G hG
      obtain ⟨n, hn, -⟩ := withName_ok.mp (call_ok hG)
      exact ⟨h, hfound _ hn⟩
    · rename_i hG
      cases hplace : S.lookup (dest S id) with
      | ok place => exact ⟨h, hfound place hplace⟩
      | error e =>
        obtain rfl := lookup_dest_error (no_slash h) hplace
        rw [Outcome.call, Store.unlink, Store.withName, hplace] at hG
        split at hG <;> cases hG
    · exact deleteFair_err (by decide)
  | unlinkMeta => exact h
  | done r => cases hend

private theorem reply_answers (hconn : c.Reliable) (hsent : c.sent = []) {r : Reply}
    (herr : ∀ msg, r = .err msg → msg.length < 251) (hok : r = .ok → ok) :
    Answers ok (sendReply c r).sent := by
  cases r with
  | ok =>
    refine ⟨.ok, ?_, .inr (hok rfl)⟩
    rw [sendReply, write_all_reliable hconn]
    simp [Conn.wrote, hsent, Response.bytes]
  | err msg => exact answers_err hconn hsent (herr msg rfl)

variable {env : Env} {d d' : AvdState} {c' : Conn}

private theorem restore_answers (hconn : c.Reliable) (hsent : c.sent = [])
    (h : cmd_quarantine_restore env id d c = some (d', c')) :
    Answers (quarantine_id_valid id = true ∧ (metaName id).length ≤ NAME_MAX) c'.sent := by
  obtain ⟨⟨F, r⟩, hfinish, hout⟩ := Option.map_eq_some_iff.mp h
  obtain ⟨-, rfl⟩ := Prod.mk.inj hout
  obtain ⟨y, hend, hfair⟩ := finish_keeps (RestoreFair id) hfinish restoreFair_start
    fun o F _ hend hfair => restoreFair_step o F hend hfair
  cases y <;> cases hend
  refine reply_answers hconn hsent ?_ ?_
  · rintro msg rfl
    exact hfair
  · rintro rfl
    exact hfair

private theorem delete_answers (hconn : c.Reliable) (hsent : c.sent = [])
    (h : cmd_quarantine_delete env id d c = some (d', c')) :
    Answers (quarantine_id_valid id = true ∧ (entryName id).length ≤ NAME_MAX) c'.sent := by
  obtain ⟨⟨F, r⟩, hfinish, hout⟩ := Option.map_eq_some_iff.mp h
  obtain ⟨-, rfl⟩ := Prod.mk.inj hout
  obtain ⟨y, hend, hfair⟩ := finish_keeps (DeleteFair id) hfinish deleteFair_start
    fun o F _ hend hfair => deleteFair_step o F hend hfair
  cases y <;> cases hend
  refine reply_answers hconn hsent ?_ ?_
  · rintro msg rfl
    exact hfair
  · rintro rfl
    exact hfair

private theorem scan_answers {path : Bytes} (hconn : c.Reliable) (hsent : c.sent = [])
    (h : cmd_scan env path d c = some (d', c')) :
    Answers (path.head? = some slash) c'.sent := by
  rw [cmd_scan] at h
  split at h
  · obtain ⟨-, rfl⟩ := Prod.mk.inj (Option.some.inj h)
    exact answers_err hconn hsent (by decide)
  rename_i hpath
  split at h
  · obtain ⟨-, rfl⟩ := Prod.mk.inj (Option.some.inj h)
    exact answers_err hconn hsent (by decide)
  split at h
  · obtain ⟨-, rfl⟩ := Prod.mk.inj (Option.some.inj h)
    exact answers_err hconn hsent (by decide)
  split at h
  · obtain ⟨-, rfl⟩ := Prod.mk.inj (Option.some.inj h)
    exact answers_err hconn hsent (by decide)
  obtain ⟨F, -, hout⟩ := Option.map_eq_some_iff.mp h
  obtain ⟨-, rfl⟩ := Prod.mk.inj hout
  exact answers_rows hsent (scan_response (resultOk_scan env) hconn) (not_not.mp hpath)

end Answers

section Dispatch

/-- The six request forms. -/
def documented (line : Bytes) : Bool :=
  line = lit "STATUS" || line = lit "QUARANTINE LIST" ||
    (after (lit "VERDICTS RECENT ") line).any
      (fun n => n ≠ [] && n.all fun b => 48 ≤ b && b ≤ 57) ||
    (after (lit "SCAN ") line).any (fun path => path.head? = some slash && !path.contains 0) ||
    (after (lit "QUARANTINE RESTORE ") line).any
      (fun id => quarantine_id_valid id && !id.contains 0) ||
    (after (lit "QUARANTINE DELETE ") line).any
      (fun id => quarantine_id_valid id && !id.contains 0)

/-- The C strings to which this peer may be answered OK. -/
def served (is_root : Bool) (line : Bytes) : Bool :=
  line = lit "STATUS" || line = lit "QUARANTINE LIST" ||
    (after (lit "VERDICTS RECENT ") line).any hasNumber ||
    is_root &&
      ((after (lit "SCAN ") line).any (fun path => path.head? = some slash) ||
        (after (lit "QUARANTINE RESTORE ") line).any
          (fun id => quarantine_id_valid id && (metaName id).length ≤ NAME_MAX) ||
        (after (lit "QUARANTINE DELETE ") line).any
          (fun id => quarantine_id_valid id && (entryName id).length ≤ NAME_MAX))

private theorem Answers.imp {p q : Prop} {sent : Bytes} (h : Answers p sent) (hpq : p → q) :
    Answers q sent := by
  obtain ⟨r, hr, hok⟩ := h
  exact ⟨r, hr, hok.imp_right hpq⟩

variable {env : Env} {d d' : AvdState} {c c' : Conn}

/-- A line gets one response, an error unless the line is served, and only root changes anything. -/
theorem handled {line : Bytes} {peer_uid : UInt32} {is_root : Bool} {calls : List RecordCall}
    (hconn : c.Reliable) (hsent : c.sent = []) (hhistory : d.history = recorded calls)
    (h : handle_control_line env line peer_uid is_root d c = some (d', c')) :
    Answers (served is_root line = true) c'.sent ∧ (is_root = false → d' = d) := by
  unfold handle_control_line at h
  split at h
  · rename_i hline
    obtain ⟨rfl, rfl⟩ := Prod.mk.inj (Option.some.inj h)
    exact ⟨status_answers hconn hsent (by simp [served, hline]) env.status, fun _ => rfl⟩
  split at h
  · rename_i arg harg
    split at h
    · obtain ⟨rfl, rfl⟩ := Prod.mk.inj (Option.some.inj h)
      exact ⟨answers_err hconn hsent (by decide), fun _ => rfl⟩
    · rename_i hnum
      obtain ⟨rfl, rfl⟩ := Prod.mk.inj (Option.some.inj h)
      rw [Bool.not_eq_true', Bool.not_eq_false] at hnum
      rw [hhistory]
      exact ⟨recent_answers hconn hsent (by simp [served, harg, hnum]) _ _ _ _ _, fun _ => rfl⟩
  split at h
  · rename_i hline
    obtain ⟨rfl, rfl⟩ := Prod.mk.inj (Option.some.inj h)
    exact ⟨list_answers hconn hsent (by simp [served, hline]) _ _ _ _, fun _ => rfl⟩
  split at h
  · rename_i id hid
    cases is_root with
    | false =>
      obtain ⟨rfl, rfl⟩ := Prod.mk.inj (Option.some.inj h)
      exact ⟨answers_err hconn hsent (by decide), fun _ => rfl⟩
    | true =>
      refine ⟨(restore_answers hconn hsent h).imp ?_, nofun⟩
      rintro ⟨hvalid, hlen⟩
      simp [served, hid, hvalid, hlen]
  split at h
  · rename_i id hid
    cases is_root with
    | false =>
      obtain ⟨rfl, rfl⟩ := Prod.mk.inj (Option.some.inj h)
      exact ⟨answers_err hconn hsent (by decide), fun _ => rfl⟩
    | true =>
      refine ⟨(delete_answers hconn hsent h).imp ?_, nofun⟩
      rintro ⟨hvalid, hlen⟩
      simp [served, hid, hvalid, hlen]
  split at h
  · rename_i path hpath
    cases is_root with
    | false =>
      obtain ⟨rfl, rfl⟩ := Prod.mk.inj (Option.some.inj h)
      exact ⟨answers_err hconn hsent (by decide), fun _ => rfl⟩
    | true =>
      refine ⟨(scan_answers hconn hsent h).imp ?_, nofun⟩
      intro habs
      simp [served, hpath, habs]
  · obtain ⟨rfl, rfl⟩ := Prod.mk.inj (Option.some.inj h)
    exact ⟨answers_err hconn hsent (by decide), fun _ => rfl⟩

section Lines

variable (env d c) {line arg : Bytes} (peer_uid : UInt32) (is_root : Bool)

private theorem ne_of_after {tag other : Bytes} (h : after tag line = some arg)
    (hother : after tag other = none) : line ≠ other := by
  rintro rfl
  rw [h] at hother
  cases hother

private theorem handle_status : handle_control_line env (lit "STATUS") peer_uid is_root d c =
    some (d, cmd_status env.status c) := if_pos rfl

private theorem handle_recent (h : after (lit "VERDICTS RECENT ") line = some arg)
    (hnum : hasNumber arg = true) : handle_control_line env line peer_uid is_root d c =
      some (d, cmd_verdicts_recent env.alloc d.history (strtoul arg 10) peer_uid is_root c) := by
  rw [handle_control_line, if_neg (ne_of_after h (by decide)), h]
  dsimp only
  rw [hnum]
  rfl

private theorem handle_list : handle_control_line env (lit "QUARANTINE LIST") peer_uid is_root d c =
    some (d, cmd_quarantine_list env.list_io env.dir peer_uid is_root c) := rfl

private theorem handle_restore (h : after (lit "QUARANTINE RESTORE ") line = some arg) :
    handle_control_line env line peer_uid true d c = cmd_quarantine_restore env arg d c := by
  rw [handle_control_line, if_neg (ne_of_after h (by decide)),
    after_exclusive (by decide) (by decide) h]
  dsimp only
  rw [if_neg (ne_of_after h (by decide)), h]
  rfl

private theorem handle_delete (h : after (lit "QUARANTINE DELETE ") line = some arg) :
    handle_control_line env line peer_uid true d c = cmd_quarantine_delete env arg d c := by
  rw [handle_control_line, if_neg (ne_of_after h (by decide)),
    after_exclusive (by decide) (by decide) h]
  dsimp only
  rw [if_neg (ne_of_after h (by decide)), after_exclusive (by decide) (by decide) h]
  dsimp only
  rw [h]
  rfl

theorem handle_scan (h : after (lit "SCAN ") line = some arg) :
    handle_control_line env line peer_uid true d c = cmd_scan env arg d c := by
  rw [handle_control_line, if_neg (ne_of_after h (by decide)),
    after_exclusive (by decide) (by decide) h]
  dsimp only
  rw [if_neg (ne_of_after h (by decide)), after_exclusive (by decide) (by decide) h]
  dsimp only
  rw [after_exclusive (by decide) (by decide) h]
  dsimp only
  rw [h]
  rfl

end Lines

/-- The same surroundings, with other outcomes. -/
def under (env : Env) (os : List Outcome) : Env := { env with outcomes := os }

private theorem restore_ends (id : Bytes) (outcomes : Nat → Outcome) :
    ∃ k d' c', cmd_quarantine_restore (under env ((List.range k).map outcomes)) id d c =
      some (d', c') := by
  have hends : ∃ k r, finish (fun o F p => Restore.step env.S o F id p) restoreEnd
      ((List.range k).map outcomes) d.files (Restore.start env.S id) = some r :=
    finish_ends (fun _ _ => True) restoreRank
      (fun _ _ _ _ hend => ⟨trivial, restoreRank_step hend⟩) trivial outcomes
  obtain ⟨k, r, hfinish⟩ := hends
  exact ⟨k, _, _, Option.map_eq_some_iff.mpr ⟨r, hfinish, rfl⟩⟩

private theorem delete_ends (id : Bytes) (outcomes : Nat → Outcome) :
    ∃ k d' c', cmd_quarantine_delete (under env ((List.range k).map outcomes)) id d c =
      some (d', c') := by
  have hends : ∃ k r, finish (fun o F p => Delete.step env.S o F id p) deleteEnd
      ((List.range k).map outcomes) d.files (Delete.start env.S id) = some r :=
    finish_ends (fun _ _ => True) (fun _ p => deleteRank p)
      (fun _ _ _ _ hend => ⟨trivial, deleteRank_step hend⟩) trivial outcomes
  obtain ⟨k, r, hfinish⟩ := hends
  exact ⟨k, _, _, Option.map_eq_some_iff.mpr ⟨r, hfinish, rfl⟩⟩

private theorem scannedFiles_ends {fd : Nat} (hfd : fd < d.files.next) (path : Bytes)
    (r : Scan.ScanResult) (outcomes : Nat → Outcome) :
    ∃ k F, scannedFiles (under env ((List.range k).map outcomes)) fd path r d.files = some F := by
  unfold scannedFiles
  cases r.quarantined with
  | false => exact ⟨0, d.files, rfl⟩
  | true =>
    let c : Conviction := ⟨fd, path, r.rule_name, Scan.scanHash env.scan.io []⟩
    have hstart : CopiesApart fd d.files .ensure_quarantine_dir := hfd
    have hends : ∃ k x, finish (fun o F p => QuarantineFile.step env.S o F c p) quarantineEnd
        ((List.range k).map outcomes) d.files .ensure_quarantine_dir = some x :=
      finish_ends (CopiesApart fd) (quarantineRank fd)
        (fun _ _ _ hinv hend => descends_step (c := c) hinv hend) hstart outcomes
    obtain ⟨k, x, hfinish⟩ := hends
    exact ⟨k, x.1, Option.map_eq_some_iff.mpr ⟨x, hfinish, rfl⟩⟩

private theorem cmd_scan_refuses {path : Bytes}
    (h : path.head? ≠ some slash ∨ env.scan.opened = none ∨ env.scan.regular = false ∨
      env.scan.fcntl_ok = false) : ∃ msg, cmd_scan env path d c = some (d, send_err c msg) := by
  by_cases hpath : path.head? = some slash
  · rw [cmd_scan, if_neg (not_not.mpr hpath)]
    cases hfd : env.scan.opened with
    | none => exact ⟨_, rfl⟩
    | some fd =>
      cases hregular : env.scan.regular with
      | false => exact ⟨_, rfl⟩
      | true =>
        rcases h with h | h | h | h
        · exact absurd hpath h
        · rw [hfd] at h
          cases h
        · rw [hregular] at h
          cases h
        · rw [h]
          exact ⟨_, rfl⟩
  · exact ⟨_, if_pos hpath⟩

private theorem cmd_scan_goes {path : Bytes} {fd : Nat} {F : Fs} (hpath : path.head? = some slash)
    (hopened : env.scan.opened = some fd) (hregular : env.scan.regular = true)
    (hfcntl : env.scan.fcntl_ok = true)
    (hfiles : scannedFiles env fd path (scanResult env) d.files = some F) :
    cmd_scan env path d c = some
      (⟨F, record_verdict_history (scanCall env path (scanResult env)) d.history⟩,
        sendOne (scanRow (scanResult env)) c) := by
  rw [cmd_scan, if_neg (not_not.mpr hpath), hopened, hregular, hfcntl]
  exact Option.map_eq_some_iff.mpr ⟨F, hfiles, rfl⟩

private theorem scan_ends (hopened : ∀ fd, env.scan.opened = some fd → fd < d.files.next)
    (path : Bytes) (outcomes : Nat → Outcome) :
    ∃ k d' c', cmd_scan (under env ((List.range k).map outcomes)) path d c = some (d', c') := by
  by_cases hrefused : path.head? ≠ some slash ∨ env.scan.opened = none ∨
      env.scan.regular = false ∨ env.scan.fcntl_ok = false
  · obtain ⟨msg, hscan⟩ : ∃ msg, cmd_scan (under env []) path d c = some (d, send_err c msg) :=
      cmd_scan_refuses hrefused
    exact ⟨0, _, _, hscan⟩
  · simp only [not_or, not_not, Bool.not_eq_false] at hrefused
    obtain ⟨hpath, hsome, hregular, hfcntl⟩ := hrefused
    obtain ⟨fd, hfd⟩ := Option.ne_none_iff_exists'.mp hsome
    obtain ⟨k, F, hfiles⟩ := scannedFiles_ends (hopened fd hfd) path (scanResult env) outcomes
    exact ⟨k, _, _, cmd_scan_goes hpath hfd hregular hfcntl hfiles⟩

/-- Whatever the calls return, every command comes to its end. -/
theorem handle_ends (hopened : ∀ fd, env.scan.opened = some fd → fd < d.files.next)
    (line : Bytes) (peer_uid : UInt32) (is_root : Bool) (outcomes : Nat → Outcome) :
    ∃ k d' c', handle_control_line (under env ((List.range k).map outcomes)) line peer_uid is_root
      d c = some (d', c') := by
  by_cases hstatus : line = lit "STATUS"
  · exact ⟨0, _, _, if_pos hstatus⟩
  unfold handle_control_line
  simp only [if_neg hstatus]
  cases after (lit "VERDICTS RECENT ") line with
  | some arg =>
    dsimp only
    cases hasNumber arg <;> exact ⟨0, _, _, rfl⟩
  | none =>
    by_cases hlist : line = lit "QUARANTINE LIST"
    · exact ⟨0, _, _, if_pos hlist⟩
    simp only [if_neg hlist]
    cases after (lit "QUARANTINE RESTORE ") line with
    | some id =>
      cases is_root with
      | false => exact ⟨0, _, _, rfl⟩
      | true => exact restore_ends id outcomes
    | none =>
      cases after (lit "QUARANTINE DELETE ") line with
      | some id =>
        cases is_root with
        | false => exact ⟨0, _, _, rfl⟩
        | true => exact delete_ends id outcomes
      | none =>
        cases after (lit "SCAN ") line with
        | some path =>
          cases is_root with
          | false => exact ⟨0, _, _, rfl⟩
          | true => exact scan_ends hopened path outcomes
        | none => exact ⟨0, _, _, rfl⟩

end Dispatch

section Serving

private def accepted : Conn := Conn.accept fun _ => none

private theorem accepted_reliable : accepted.Reliable := fun _ => rfl

/-- A file under the id, with a sidecar that leads to a free path; or neither, but another file. -/
private def held (kept : Bool) (id : Bytes) : Fs where
  names n :=
    if kept && n = (1, entryName id) then some 0
    else if kept && n = (1, metaName id) then some 1
    else none
  inodes i := ⟨0, S_IFREG, user, user, if i = 1 then lit "ORIGINAL_PATH=/t/a\n" else []⟩
  links _ := 1
  next := 2
  names_lt := by
    intro n i h
    split at h
    · obtain rfl := Option.some.inj h
      exact Nat.zero_lt_two
    · split at h
      · obtain rfl := Option.some.inj h
        exact Nat.one_lt_two
      · cases h

/-- A daemon without rules, to which every call succeeds. -/
private def willing : Env where
  S := twoDirs
  L := ⟨fun _ => [], fun _ _ => 0, fun _ _ => 0⟩
  D := ⟨false, [], []⟩
  status := ⟨0, false, 0, 0, 0, 1⟩
  alloc := true
  list_io := ⟨true, true⟩
  dir := ⟨[], fun _ => none, Nat.lt_of_sub_eq_succ rfl, nofun⟩
  scan :=
    { opened := some 0, regular := true, fcntl_ok := true, owner_uid := 1000, time := 0
      io := ⟨some (0, 0), some [], true, [], 0, ⟨none, true, true, true, [], fun _ => true, true⟩,
        ⟨none, true, .tooShort⟩, true⟩ }
  outcomes := []

private def always : Outcome := ⟨true, 1000, (5, 42), 7⟩

private def holding (kept : Bool) (id : Bytes) : AvdState := ⟨held kept id, recorded []⟩

private theorem ok_of_rows {rs : List Bytes} {sent : Bytes} (h : sent = (Response.rows rs).bytes) :
    lit "OK" <+: sent := by
  rw [h]
  exact ⟨_, (List.append_assoc _ _ _).symm⟩

variable {id : Bytes}

private theorem dest_short (h : (entryName id).length ≤ NAME_MAX) :
    (dest twoDirs id).length < PATH_MAX := by
  have hmax : NAME_MAX = 255 := rfl
  have hpath : PATH_MAX = 4096 := rfl
  have hdir : (twoDirs.quarantine_dir ++ [slash]).length = 3 := rfl
  rw [dest, List.length_append, hdir]
  omega

private theorem meta_short (h : (metaName id).length ≤ NAME_MAX) :
    (meta_path twoDirs id).length < PATH_MAX := by
  have hmax : NAME_MAX = 255 := rfl
  have hpath : PATH_MAX = 4096 := rfl
  have hdir : (twoDirs.quarantine_dir ++ [slash]).length = 3 := rfl
  rw [meta_path_eq, List.length_append, hdir]
  omega

private def recordedPath : QuarantineMeta := ⟨lit "/t/a", 0o600, 0, 0, 0, [], []⟩

private theorem read_held : read_quarantine_meta (some ((held true id).inodes 1).data) =
    some recordedPath := by
  have hread : read_quarantine_meta (some (lit "ORIGINAL_PATH=/t/a\n")) = some recordedPath := by
    decide
  exact hread

private theorem isReg_held (kept : Bool) (i : Nat) : ((held kept id).inodes i).isReg = true := by
  show decide (S_IFREG &&& S_IFMT = S_IFREG) = true
  decide

private theorem metaName_fits (h : (metaName id).length ≤ NAME_MAX) :
    (entryName id).length ≤ NAME_MAX := by
  have hsuffix : (lit ".quarantined").length = 12 ∧ (lit ".quarantined.meta").length = 17 := by
    decide
  rw [metaName, List.length_append] at h
  rw [entryName, List.length_append]
  omega

private theorem always_ok {k : Nat} : ∀ o ∈ List.replicate k always, o.ok = true := by
  intro o ho
  rw [List.eq_of_mem_replicate ho]
  rfl

/-- RESTORE of a kept file goes through. -/
private theorem restore_served (hvalid : quarantine_id_valid id = true)
    (hlen : (metaName id).length ≤ NAME_MAX) :
    ∃ k G, finish (fun o F p => Restore.step twoDirs o F id p) restoreEnd (List.replicate k always)
      (held true id) (Restore.start twoDirs id) = some (G, .ok) := by
  have hslash := no_slash hvalid
  have hentry_len := metaName_fits hlen
  have hentry : Entered twoDirs ⟨0, S_IFREG, user, user, []⟩ (held true id) id 0 :=
    ⟨lookup_dest_short hslash (dest_short hentry_len) hentry_len, by simp [held, twoDirs],
      isReg_held true 0, rfl⟩
  have hne : metaName id ≠ entryName id := fun h => entryName_ne_metaName id id h.symm
  have hsidecar : Accompanied twoDirs (held true id) id 1 :=
    ⟨lookup_meta_short hslash (meta_short hlen) hlen, by simp [held, twoDirs, hne],
      isReg_held true 1⟩
  have hdirs : 2 ≠ twoDirs.root := by decide
  have happart : ∀ b, (2, lit "a") ≠ (twoDirs.root, b) := fun b h => hdirs (congrArg Prod.fst h)
  have hpath : twoDirs.lookup recordedPath.original_path = .ok (.entry (2, lit "a")) := rfl
  have hleads := reply_leads hvalid hentry hsidecar read_held hpath (by simp [held])
    ⟨happart _, happart _⟩ rfl
  refine ⟨_, _, finish_of_run ?_ (hleads.ends (fun _ => rfl) always_ok
    (le_of_eq List.length_replicate.symm)) rfl⟩
  intro p r hend o F
  cases p <;> cases hend
  rfl

/-- DELETE of nothing goes through. -/
private theorem delete_served (hvalid : quarantine_id_valid id = true)
    (hlen : (entryName id).length ≤ NAME_MAX) :
    ∃ k G, finish (fun o F p => Delete.step twoDirs o F id p) deleteEnd (List.replicate k always)
      (held false id) (Delete.start twoDirs id) = some (G, .ok) := by
  have hlookup := lookup_dest_short (S := twoDirs) (no_slash hvalid) (dest_short hlen) hlen
  have hdest := dest_short hlen
  have hfit : pathsFit twoDirs id = true := by
    have hmeta : (meta_path twoDirs id).length = (dest twoDirs id).length + 5 := by
      rw [meta_path, List.length_append]
      rfl
    simp only [pathsFit, Bool.and_eq_true, decide_eq_true_eq]
    exact ⟨by omega, by omega⟩
  have hstart : Delete.start twoDirs id = .unlinkDest := by
    rw [Delete.start, hvalid, hfit]
    rfl
  have hunlink : always.call (twoDirs.unlink (held false id) (dest twoDirs id)) =
      .error .ENOENT := by
    rw [call_of_ok rfl, Store.unlink, withName_entry hlookup]
    rfl
  have hstep : Delete.step twoDirs always (held false id) id .unlinkDest =
      (held false id, .unlinkMeta) := by
    rw [Delete.step, hunlink]
  have hfinish : finish (fun o F p => Delete.step twoDirs o F id p) deleteEnd
      (List.replicate 2 always) (held false id) (Delete.start twoDirs id) =
        some (bestEffort (held false id)
          (always.call (twoDirs.unlink (held false id) (meta_path twoDirs id))), .ok) := by
    rw [hstart, List.replicate_succ, finish_next rfl, hstep]
    rfl
  exact ⟨2, _, hfinish⟩

/-- However many outcomes there are, the end is the same. -/
private theorem finish_unique {α β : Type} {step : Outcome → Fs → α → Fs × α}
    {ended : α → Option β} {F : Fs} {x : α} {r r' : Fs × β} {k k' : Nat}
    (h : finish step ended (List.replicate k always) F x = some r)
    (h' : finish step ended (List.replicate k' always) F x = some r') : r = r' := by
  have hlong := finish_append h (List.replicate k' always)
  have hlong' := finish_append h' (List.replicate k always)
  rw [List.replicate_append_replicate] at hlong hlong'
  rw [Nat.add_comm k' k, hlong] at hlong'
  exact Option.some.inj hlong'

/-- What the daemon's state and its surroundings always are: the history is made of records, and an
inode that was opened is there. -/
structure Possible (env : Env) (d : AvdState) : Prop where
  opened : ∀ fd, env.scan.opened = some fd → fd < d.files.next
  history : ∃ calls, d.history = recorded calls

private theorem possible_willing (kept : Bool) (id : Bytes) :
    Possible willing (holding kept id) where
  opened := by
    intro fd h
    obtain rfl := Option.some.inj h
    exact Nat.zero_lt_two
  history := ⟨[], rfl⟩

private theorem ok_of_reply {c : Conn} (hconn : c.Reliable) (hsent : c.sent = []) :
    lit "OK" <+: (sendReply c .ok).sent := by
  rw [sendReply, write_all_reliable hconn]
  simp [Conn.wrote, hsent]

/-- A daemon that answers OK to the line, for every line that is served. -/
theorem served_ok {is_root : Bool} {line : Bytes} (h : served is_root line = true)
    (peer_uid : UInt32) : ∃ d, Possible willing d ∧ ∀ k d' c',
      handle_control_line (under willing (List.replicate k always)) line peer_uid is_root d
        accepted = some (d', c') → lit "OK" <+: c'.sent := by
  simp only [served, Bool.or_eq_true, Bool.and_eq_true, decide_eq_true_eq, Option.any_eq_true] at h
  rcases h with ((rfl | rfl) | ⟨arg, harg, hnum⟩) |
    ⟨rfl, (⟨path, hpath, habs⟩ | ⟨id, hid, hvalid, hlen⟩) | ⟨id, hid, hvalid, hlen⟩⟩
  · refine ⟨holding false [], possible_willing _ _, fun k d' c' hout => ?_⟩
    rw [handle_status] at hout
    obtain ⟨-, rfl⟩ := Prod.mk.inj (Option.some.inj hout)
    exact ok_of_rows (by rw [cmd_status, status_fits, sendOne_reliable accepted_reliable]; rfl)
  · refine ⟨holding false [], possible_willing _ _, fun k d' c' hout => ?_⟩
    rw [handle_list] at hout
    obtain ⟨-, rfl⟩ := Prod.mk.inj (Option.some.inj hout)
    exact ok_of_rows (list_response rfl (.inr rfl) accepted_reliable)
  · refine ⟨holding false [], possible_willing _ _, fun k d' c' hout => ?_⟩
    rw [handle_recent _ _ _ _ _ harg hnum] at hout
    obtain ⟨-, rfl⟩ := Prod.mk.inj (Option.some.inj hout)
    have hsnap : snapshot true (recorded []) =
        some ((logOf []).take AVD_VERDICT_HISTORY_MAX) :=
      (remembers_recorded []).snapshot (.inl rfl)
    show lit "OK" <+: (sendVerdicts (snapshot true (recorded [])) _ _ _ accepted).sent
    rw [hsnap, sendVerdicts_listed accepted_reliable]
    exact ok_of_rows rfl
  · refine ⟨holding false [], possible_willing _ _, fun k d' c' hout => ?_⟩
    rw [handle_scan _ _ _ _ hpath, cmd_scan_goes habs rfl rfl rfl rfl] at hout
    obtain ⟨-, rfl⟩ := Prod.mk.inj (Option.some.inj hout)
    exact ok_of_rows (scan_response (resultOk_scan _) accepted_reliable)
  · refine ⟨holding true id, possible_willing _ _, fun k d' c' hout => ?_⟩
    rw [handle_restore _ _ _ _ hid] at hout
    obtain ⟨r, hfinish, hr⟩ := Option.map_eq_some_iff.mp hout
    obtain ⟨k', G, hserved⟩ := restore_served hvalid hlen
    obtain rfl := finish_unique hserved hfinish
    obtain ⟨-, rfl⟩ := Prod.mk.inj hr
    exact ok_of_reply accepted_reliable rfl
  · refine ⟨holding false id, possible_willing _ _, fun k d' c' hout => ?_⟩
    rw [handle_delete _ _ _ _ hid] at hout
    obtain ⟨r, hfinish, hr⟩ := Option.map_eq_some_iff.mp hout
    obtain ⟨k', G, hserved⟩ := delete_served hvalid hlen
    obtain rfl := finish_unique hserved hfinish
    obtain ⟨-, rfl⟩ := Prod.mk.inj hr
    exact ok_of_reply accepted_reliable rfl

end Serving

section Main

/-- What the protocol promises of one connection. -/
structure Obeyed (line : Bytes) (cred : Option UInt32) (d d' : AvdState) (sent : Bytes) : Prop where
  response : ∃ r : Response, sent = r.bytes
  start : lit "OK" <+: sent ∨ lit "ERR " <+: sent
  ok_documented : lit "OK" <+: sent → documented line = true
  unprivileged : cred ≠ some 0 → d' = d

/-- Whatever the daemon's state and whatever the calls return, the connection is closed after what
the protocol promises. -/
def Obeys (cred : Option UInt32) (polls : List Poll) (line : Bytes) : Prop :=
  ∀ (env : Env) (d : AvdState) (outcomes : Nat → Outcome), Possible env d →
    ∃ k d' c', control_conn_main (under env ((List.range k).map outcomes)) cred polls d
      (Conn.accept fun _ => none) = some (d', c') ∧ Obeyed line cred d d' c'.sent

private theorem begins_response (r : Response) :
    lit "OK" <+: r.bytes ∨ lit "ERR " <+: r.bytes := by
  cases r with
  | err msg =>
    refine .inr ⟨msg ++ [nl], ?_⟩
    simp [Response.bytes]
  | ok => exact .inl ⟨[nl], rfl⟩
  | rows rs => exact .inl (ok_of_rows rfl)

private theorem err_not_ok (msg : Bytes) : ¬ lit "OK" <+: (Response.err msg).bytes := by
  have hbytes : (Response.err msg).bytes = 69 :: (lit "RR " ++ msg ++ [nl]) := by
    simp [Response.bytes]
    rfl
  have hok : lit "OK" = [79, 75] := by decide
  rw [hbytes, hok]
  intro h
  have hhead := (List.cons_prefix_cons.mp h).1
  exact absurd hhead (by decide)

/-- The protocol is kept on a line exactly if it is not empty and its bytes up to the first NUL are
no request that is served, unless the line is documented. -/
theorem control_protocol_iff {cred : Option UInt32} {polls : List Poll} {line : Bytes}
    (h : Delivers polls line) :
    Obeys cred polls line ↔
      line ≠ [] ∧ (served (credRoot cred) (cstr line) = true → documented line = true) := by
  have hread := read_line_delivers h
  cases line with
  | nil =>
    refine ⟨fun hobeys => ?_, fun hline => absurd rfl hline.1⟩
    obtain ⟨k, d', c', hmain, hobeyed⟩ := hobeys willing _ (fun _ => always)
      (possible_willing false [])
    rw [control_conn_main, hread] at hmain
    obtain ⟨-, rfl⟩ := Prod.mk.inj (Option.some.inj hmain)
    rcases hobeyed.start with hstart | hstart <;> exact absurd hstart (by decide)
  | cons b line =>
    have hmain : ∀ env d, control_conn_main env cred polls d accepted =
        handle_control_line env (cstr (b :: line)) (credUid cred) (credRoot cred) d accepted := by
      intro env d
      rw [control_conn_main, hread]
    constructor
    · refine fun hobeys => ⟨List.cons_ne_nil _ _, fun hserved => ?_⟩
      obtain ⟨d, hpossible, hok⟩ := served_ok hserved (credUid cred)
      obtain ⟨k, d', c', hout, hobeyed⟩ := hobeys willing d (fun _ => always) hpossible
      rw [List.map_const', List.length_range] at hout
      exact hobeyed.ok_documented (hok k d' c' ((hmain _ d).symm.trans hout))
    · rintro ⟨-, hdocumented⟩ env d outcomes ⟨hopened, calls, hcalls⟩
      obtain ⟨k, d', c', hout⟩ := handle_ends hopened (cstr (b :: line)) (credUid cred)
        (credRoot cred) outcomes
      obtain ⟨⟨r, hr, hanswer⟩, hsame⟩ := handled accepted_reliable rfl hcalls hout
      refine ⟨k, d', c', (hmain _ d).trans hout, ⟨r, hr⟩, ?_, ?_, ?_⟩
      · rw [hr]
        exact begins_response r
      · intro hok
        rcases hanswer with ⟨msg, rfl⟩ | hserved
        · rw [hr] at hok
          exact absurd hok (err_not_ok msg)
        · exact hdocumented hserved
      · intro hcred
        exact hsame (decide_eq_false hcred)

/-- The bytes of a stream, all in time. -/
private def prompt (bytes : Bytes) : List Poll := bytes.map fun b => ⟨false, .byte b⟩

private theorem delivers_prompt {line : Bytes} (hshort : line.length + 1 ≤ AVD_SOCK_LINE_MAX - 1)
    (hline : nl ∉ line) : Delivers (prompt (line ++ [nl])) line := by
  refine ⟨hshort, hline, _, [], (List.append_nil _).symm, ?_, ?_⟩
  · rw [received, prompt, List.filterMap_map]
    exact List.filterMap_some
  · intro p hp
    obtain ⟨b, -, rfl⟩ := List.mem_map.mp hp
    exact ⟨rfl, .inr ⟨b, rfl⟩⟩

/-- STATUS from anybody is answered as the protocol says. -/
theorem control_protocol_status :
    Obeys (some 1000) (prompt (lit "STATUS" ++ [nl])) (lit "STATUS") :=
  (control_protocol_iff (delivers_prompt (Nat.le_of_ble_eq_true rfl) (by decide))).mpr
    ⟨by decide, fun _ => by decide⟩

/-- What a client of an idle daemon gets for its line. -/
private def reply (cred : Option UInt32) (line : Bytes) : Option Bytes :=
  (control_conn_main willing cred (prompt (line ++ [nl])) (holding false [])
    (Conn.accept fun _ => none)).map fun x => x.2.sent

/-- An empty line gets no response, and OK goes to a line with a NUL and to one with more bytes
than the request has. -/
theorem control_protocol_broken :
    (Delivers (prompt ([] ++ [nl])) [] ∧ reply (some 1000) [] = some []) ∧
    (Delivers (prompt (lit "STATUS\x00more" ++ [nl])) (lit "STATUS\x00more") ∧
      documented (lit "STATUS\x00more") = false ∧
      reply (some 1000) (lit "STATUS\x00more") =
        some (lit "OK\nCOUNT 1\n0\t0\t0\t0\t0\t1\nEND\n")) ∧
    Delivers (prompt (lit "VERDICTS RECENT 5abc" ++ [nl])) (lit "VERDICTS RECENT 5abc") ∧
      documented (lit "VERDICTS RECENT 5abc") = false ∧
      reply (some 1000) (lit "VERDICTS RECENT 5abc") = some (lit "OK\nCOUNT 0\nEND\n") :=
  ⟨⟨delivers_prompt (Nat.le_of_ble_eq_true rfl) (by decide), by decide⟩,
    ⟨delivers_prompt (Nat.le_of_ble_eq_true rfl) (by decide), by decide, by decide⟩,
    delivers_prompt (Nat.le_of_ble_eq_true rfl) (by decide), by decide, by decide⟩

end Main

end KernelAv.Daemon.ControlProtocol
