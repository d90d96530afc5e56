/- digest: Writes to the four proc files, and what one without the capability can change. -/

import KernelAv.Kernel.ProtectTable
import KernelAv.Kernel.SigTable
import KernelAv.Lib.Lines
import KernelAv.Lib.Scanf

set_option autoImplicit false
set_option relaxedAutoImplicit false

namespace KernelAv.Kernel.ProcWrite

open KernelAv.Lib.CText
open KernelAv.Lib.Lines (nl)
open KernelAv.Lib.Scanf
open KernelAv.Kernel.Paths (PATH_MAX)
open KernelAv.Kernel.BehaviorTable (KernelHash)
open KernelAv.Kernel.SigTable
open KernelAv.Kernel.TrustTable (SHA256_HEX_LEN TRUST_NAME_LEN av_behavior_trust_add
  av_behavior_trust_del)
open KernelAv.Kernel.ProtectTable (av_behavior_protect_add av_behavior_protect_del)

def EPERM : Int := 1
def EFAULT : Int := 14

def cr : UInt8 := 13
def tab : UInt8 := 9

/-- The tables and the policy that the proc files write to. -/
structure ProcState (H : KernelHash) where
  sig : SigTable.Table H
  trust : TrustTable.Table H
  protected_table : ProtectTable.Table H
  av_daemon_fail_closed : Bool

inductive ProcFile where
  | signatures
  | trusted
  | protected_paths
  | daemon_policy
  deriving DecidableEq

/-- A write: whether the task holds CAP_SYS_ADMIN, the bytes, the file offset, and what the
allocations and the copy from user space return. -/
structure WriteCall where
  capable : Bool
  ubuf : Bytes
  ppos : Int
  kbuf_ok : Bool
  path_ok : Bool
  copy_ok : Bool
  entry_ok : Bool

def WriteCall.count (w : WriteCall) : Nat := w.ubuf.length

/-- `!strcasecmp(s, t)`, with the kernel's `tolower`. -/
def strcaseeq (s t : Bytes) : Bool := s.map tolower == t.map tolower

/-- The word of an addition or a deletion. -/
def commandWord (adds : Bool) : Bytes := if adds then lit "add" else lit "del"

theorem length_of_caseeq {u v : Bytes} (h : strcaseeq u v = true) : u.length = v.length := by
  have hlen := congrArg List.length (beq_iff_eq.mp h)
  rwa [List.length_map, List.length_map] at hlen

theorem commandWord_length (adds : Bool) : (commandWord adds).length = 3 := by
  cases adds <;> decide

theorem command_inj {adds adds' : Bool} {u : Bytes} (h : strcaseeq u (commandWord adds) = true)
    (h' : strcaseeq u (commandWord adds') = true) : adds = adds' := by
  have hmap := (beq_iff_eq.mp h).symm.trans (beq_iff_eq.mp h')
  revert hmap
  cases adds <;> cases adds' <;> decide

theorem not_add_of_del {u : Bytes} (h : strcaseeq u (commandWord false) = true) :
    ¬ strcaseeq u (lit "add") = true := fun hadd =>
  Bool.false_ne_true (command_inj h (show strcaseeq u (commandWord true) = true from hadd))

def parse_algo (s : Bytes) : Option AvAlgo :=
  if strcaseeq s (lit "md5") then some .md5
  else if strcaseeq s (lit "sha1") then some .sha1
  else if strcaseeq s (lit "sha256") then some .sha256
  else none

/-- `"%7s %7s %64s %63[^\n]"`. -/
def sigFormat : List Directive :=
  [.word 7, .space, .word 7, .space, .word 64, .space, .upTo 63 nl]

/-- `"%7s %64s %63[^\n]"`. -/
def trustFormat : List Directive := [.word 7, .space, .word 64, .space, .upTo 63 nl]

section Handlers

variable {H : KernelHash}

/-- A handler's result from that of its `add` or `del`: the error, or the bytes written. -/
def reply {α : Type} (w : WriteCall) (r : Int × α) (err : Int) : Int × α :=
  if r.1 = 0 then (w.count, r.2) else (err, r.2)

def sig_proc_write (t : SigTable.Table H) (w : WriteCall) : Int × SigTable.Table H :=
  if !w.capable then (-EPERM, t)
  else if 256 ≤ w.count then (-EINVAL, t)
  else if !w.copy_ok then (-EFAULT, t)
  else
    match sscanf sigFormat (cstr w.ubuf) with
    | cmd :: algo_str :: hex :: name =>
        match parse_algo algo_str with
        | none => (-EINVAL, t)
        | some algo =>
            if strcaseeq cmd (lit "add") then
              match name with
              | [] => (-EINVAL, t)
              | name :: _ =>
                  let r := av_sigtable_add t w.entry_ok algo.val hex name
                  reply w r r.1
            else if strcaseeq cmd (lit "del") then
              reply w (av_sigtable_del t algo.val hex) (-ENOENT)
            else (-EINVAL, t)
    | _ => (-EINVAL, t)

def trust_proc_write (t : TrustTable.Table H) (w : WriteCall) : Int × TrustTable.Table H :=
  if !w.capable then (-EPERM, t)
  else if 192 ≤ w.count then (-EINVAL, t)
  else if !w.copy_ok then (-EFAULT, t)
  else
    match sscanf trustFormat (cstr w.ubuf) with
    | cmd :: hex :: name =>
        if strcaseeq cmd (lit "add") then
          match name with
          | [] => (-EINVAL, t)
          | name :: _ => reply w (av_behavior_trust_add t w.entry_ok hex name) (-EINVAL)
        else if strcaseeq cmd (lit "del") then
          reply w (av_behavior_trust_del t hex) (-ENOENT)
        else (-EINVAL, t)
    | _ => (-EINVAL, t)

/-- The line without its newline, which must be there, and a carriage return before it. -/
def stripTerminator (line : Bytes) : Option Bytes :=
  if line.getLast? ≠ some nl then none
  else if line.dropLast.getLast? = some cr then some line.dropLast.dropLast
  else some line.dropLast

def isBlank (b : UInt8) : Bool := b == 32 || b == tab

/-- What follows the first word and the blanks behind it. -/
def afterCommand (kbuf : Bytes) : Bytes :=
  (kbuf.dropWhile fun b => !isBlank b).dropWhile isBlank

def PROTECTED_WRITE_MAXLEN : Nat := PATH_MAX + 16

def protected_proc_write (t : ProtectTable.Table H) (w : WriteCall) :
    Int × ProtectTable.Table H :=
  if !w.capable then (-EPERM, t)
  else if w.ppos ≠ 0 then (-EINVAL, t)
  else if PROTECTED_WRITE_MAXLEN ≤ w.count then (-EINVAL, t)
  else if !w.kbuf_ok || !w.path_ok then (-ENOMEM, t)
  else if !w.copy_ok then (-EFAULT, t)
  else
    match sscanf [.word 7] (cstr w.ubuf) with
    | [] => (-EINVAL, t)
    | cmd :: _ =>
        match stripTerminator (afterCommand (cstr w.ubuf)) with
        | none => (-EINVAL, t)
        | some rest =>
            if rest = [] ∨ PATH_MAX ≤ rest.length then (-EINVAL, t)
            else
              let path := strscpy PATH_MAX rest
              if strcaseeq cmd (lit "add") then
                let r := av_behavior_protect_add t w.entry_ok path
                reply w r r.1
              else if strcaseeq cmd (lit "del") then
                reply w (av_behavior_protect_del t path) (-ENOENT)
              else (-EINVAL, t)

/-- The policy that a line names. -/
def namedPolicy (kbuf : Bytes) : Option Bool :=
  match stripTerminator kbuf with
  | none => none
  | some line =>
      if strcaseeq line (lit "fail-open") then some false
      else if strcaseeq line (lit "fail-closed") then some true
      else none

/-- This handler has no capability check. -/
def daemon_policy_proc_write (av_daemon_fail_closed : Bool) (w : WriteCall) : Int × Bool :=
  if w.ppos ≠ 0 then (-EINVAL, av_daemon_fail_closed)
  else if 32 ≤ w.count then (-EINVAL, av_daemon_fail_closed)
  else if !w.copy_ok then (-EFAULT, av_daemon_fail_closed)
  else
    match namedPolicy (cstr w.ubuf) with
    | none => (-EINVAL, av_daemon_fail_closed)
    | some policy => (w.count, policy)

def procWrite (s : ProcState H) (w : WriteCall) : ProcFile → Int × ProcState H
  | .signatures =>
      let (ret, t) := sig_proc_write s.sig w
      (ret, { s with sig := t })
  | .trusted =>
      let (ret, t) := trust_proc_write s.trust w
      (ret, { s with trust := t })
  | .protected_paths =>
      let (ret, t) := protected_proc_write s.protected_table w
      (ret, { s with protected_table := t })
  | .daemon_policy =>
      let (ret, policy) := daemon_policy_proc_write s.av_daemon_fail_closed w
      (ret, { s with av_daemon_fail_closed := policy })

end Handlers

section Outcomes

variable {H : KernelHash} {w : WriteCall}

private theorem reply_ok {α : Type} {r : Int × α} {err : Int} (herr : r.1 ≠ 0 → err < 0)
    (h : 0 ≤ (reply w r err).1) : r.1 = 0 ∧ (reply w r err).2 = r.2 := by
  unfold reply at h ⊢
  split at h
  · rename_i hr
    rw [if_pos hr]
    exact ⟨hr, rfl⟩
  · rename_i hr
    exact absurd (herr hr) (not_lt.mpr h)

/-- A reply is the length of the write, or the error with what a failed call leaves. -/
theorem reply_result {α : Type} {x : Int × α} {y : α} {err : Int}
    (h : x.1 = 0 ∨ err < 0 ∧ x.2 = y) :
    (reply w x err).1 = w.count ∨ (reply w x err).1 < 0 ∧ (reply w x err).2 = y := by
  unfold reply
  by_cases hret : x.1 = 0
  · rw [if_pos hret]
    exact .inl rfl
  · rw [if_neg hret]
    exact .inr (h.resolve_left hret)

/-- A check that a write passes leaves the answer to what comes behind it. -/
theorem check_passed {α : Type} {c : Prop} [Decidable c] {err : Int} {t : α} {r : Int × α}
    (herr : err < 0) (h : 0 ≤ (if c then (err, t) else r).1) :
    ¬ c ∧ (if c then (err, t) else r) = r := by
  by_cases hc : c
  · rw [if_pos hc] at h
    exact absurd h (not_le.mpr herr)
  · exact ⟨hc, if_neg hc⟩

/-- The checks that the two tables of digests make before a line is read. -/
theorem line_checks_passed {α : Type} {limit : Nat} {t : α} {r : Int × α}
    (h : 0 ≤ (if !w.capable then (-EPERM, t) else if limit ≤ w.count then (-EINVAL, t)
      else if !w.copy_ok then (-EFAULT, t) else r).1) :
    (w.capable = true ∧ w.count < limit ∧ w.copy_ok = true) ∧
      (if !w.capable then (-EPERM, t) else if limit ≤ w.count then (-EINVAL, t)
        else if !w.copy_ok then (-EFAULT, t) else r) = r := by
  obtain ⟨hcap, heq⟩ := check_passed (by decide) h
  rw [heq] at h ⊢
  obtain ⟨hcount, heq⟩ := check_passed (by decide) h
  rw [heq] at h ⊢
  obtain ⟨hcopy, heq⟩ := check_passed (by decide) h
  exact ⟨⟨by simpa using hcap, not_le.mp hcount, by simpa using hcopy⟩, heq⟩

/-- The word of an accepted line chose the addition, or a deletion that found its entry. -/
private theorem command_passed {α : Type} {cmd : Bytes} {t : α} {added deleted : Int × α}
    (h : 0 ≤ (if strcaseeq cmd (lit "add") then added
      else if strcaseeq cmd (lit "del") then reply w deleted (-ENOENT) else (-EINVAL, t)).1) :
    (strcaseeq cmd (lit "add") = true ∧ 0 ≤ added.1 ∧
        (if strcaseeq cmd (lit "add") then added
          else if strcaseeq cmd (lit "del") then reply w deleted (-ENOENT)
          else (-EINVAL, t)) = added) ∨
      strcaseeq cmd (lit "del") = true ∧ deleted.1 = 0 ∧
        (if strcaseeq cmd (lit "add") then added
          else if strcaseeq cmd (lit "del") then reply w deleted (-ENOENT)
          else (-EINVAL, t)).2 = deleted.2 := by
  by_cases hadd : strcaseeq cmd (lit "add") = true
  · rw [if_pos hadd] at h ⊢
    exact Or.inl ⟨hadd, h, rfl⟩
  · rw [if_neg hadd] at h ⊢
    by_cases hdel : strcaseeq cmd (lit "del") = true
    · rw [if_pos hdel] at h ⊢
      obtain ⟨hret, heq⟩ := reply_ok (fun _ => show -ENOENT < 0 by decide) h
      exact Or.inr ⟨hdel, hret, heq⟩
    · rw [if_neg hdel] at h
      exact absurd h (show ¬ 0 ≤ -EINVAL by decide)

/-- A write that is not refused was parsed, and its addition or deletion went through. -/
theorem sig_proc_write_ok {t : SigTable.Table H} (h : 0 ≤ (sig_proc_write t w).1) :
    ∃ cmd algo_str hex name algo,
      sscanf sigFormat (cstr w.ubuf) = cmd :: algo_str :: hex :: name ∧
        parse_algo algo_str = some algo ∧
        ((strcaseeq cmd (lit "add") = true ∧ ∃ first more, name = first :: more ∧
            (av_sigtable_add t w.entry_ok algo.val hex first).1 = 0 ∧
            (sig_proc_write t w).2 = (av_sigtable_add t w.entry_ok algo.val hex first).2) ∨
          strcaseeq cmd (lit "del") = true ∧ (av_sigtable_del t algo.val hex).1 = 0 ∧
            (sig_proc_write t w).2 = (av_sigtable_del t algo.val hex).2) := by
  unfold sig_proc_write at h ⊢
  obtain ⟨-, hpassed⟩ := line_checks_passed h
  rw [hpassed] at h ⊢
  split at h
  · rename_i cmd algo_str hex name hscan
    split at h
    · exact absurd h (show ¬ 0 ≤ -EINVAL by decide)
    rename_i algo halgo
    refine ⟨cmd, algo_str, hex, name, algo, hscan, halgo, ?_⟩
    rcases command_passed h with ⟨hadd, hadded, heq⟩ | hdel
    · refine Or.inl ⟨hadd, ?_⟩
      rw [heq]
      split at hadded
      · exact absurd hadded (show ¬ 0 ≤ -EINVAL by decide)
      rename_i first more
      obtain ⟨hr, hs⟩ := reply_ok (fun hne => lt_of_le_of_ne (add_ret _ _ _ _ _) hne) hadded
      exact ⟨first, more, rfl, hr, hs⟩
    · exact Or.inr hdel
  · exact absurd h (show ¬ 0 ≤ -EINVAL by decide)

theorem trust_proc_write_ok {t : TrustTable.Table H} (h : 0 ≤ (trust_proc_write t w).1) :
    ∃ cmd hex name, sscanf trustFormat (cstr w.ubuf) = cmd :: hex :: name ∧
      ((strcaseeq cmd (lit "add") = true ∧ ∃ first more, name = first :: more ∧
          (av_behavior_trust_add t w.entry_ok hex first).1 = 0 ∧
          (trust_proc_write t w).2 = (av_behavior_trust_add t w.entry_ok hex first).2) ∨
        strcaseeq cmd (lit "del") = true ∧ (av_behavior_trust_del t hex).1 = 0 ∧
          (trust_proc_write t w).2 = (av_behavior_trust_del t hex).2) := by
  unfold trust_proc_write at h ⊢
  obtain ⟨-, hpassed⟩ := line_checks_passed h
  rw [hpassed] at h ⊢
  split at h
  · rename_i cmd hex name hscan
    refine ⟨cmd, hex, name, hscan, ?_⟩
    rcases command_passed h with ⟨hadd, hadded, heq⟩ | hdel
    · refine Or.inl ⟨hadd, ?_⟩
      rw [heq]
      split at hadded
      · exact absurd hadded (show ¬ 0 ≤ -EINVAL by decide)
      rename_i first more
      obtain ⟨hr, hs⟩ := reply_ok (fun _ => show -EINVAL < 0 by decide) hadded
      exact ⟨first, more, rfl, hr, hs⟩
    · exact Or.inr hdel
  · exact absurd h (show ¬ 0 ≤ -EINVAL by decide)

private theorem protect_add_ret (t : ProtectTable.Table H) (ok : Bool) (path : Bytes) :
    (av_behavior_protect_add t ok path).1 ≤ 0 := by
  rcases ProtectTable.protect_add_spec t ok path with ⟨hr, -⟩ | ⟨hr, -⟩
  · exact hr.le
  · exact hr.le

/-- A write that is not refused has passed the checks of the protected paths, its offset
included, and is answered behind them. -/
theorem protected_checks_passed {α : Type} {t : α} {r : Int × α}
    (h : 0 ≤ (if !w.capable then (-EPERM, t) else if w.ppos ≠ 0 then (-EINVAL, t)
      else if PROTECTED_WRITE_MAXLEN ≤ w.count then (-EINVAL, t)
      else if !w.kbuf_ok || !w.path_ok then (-ENOMEM, t)
      else if !w.copy_ok then (-EFAULT, t) else r).1) :
    (w.capable = true ∧ w.ppos = 0 ∧ w.count < PROTECTED_WRITE_MAXLEN ∧ w.kbuf_ok = true ∧
        w.path_ok = true ∧ w.copy_ok = true) ∧
      (if !w.capable then (-EPERM, t) else if w.ppos ≠ 0 then (-EINVAL, t)
        else if PROTECTED_WRITE_MAXLEN ≤ w.count then (-EINVAL, t)
        else if !w.kbuf_ok || !w.path_ok then (-ENOMEM, t)
        else if !w.copy_ok then (-EFAULT, t) else r) = r := by
  obtain ⟨hcap, heq⟩ := check_passed (by decide) h
  rw [heq] at h ⊢
  obtain ⟨hpos, heq⟩ := check_passed (by decide) h
  rw [heq] at h ⊢
  obtain ⟨hcount, heq⟩ := check_passed (by decide) h
  rw [heq] at h ⊢
  obtain ⟨hmem, heq⟩ := check_passed (by decide) h
  rw [heq] at h ⊢
  obtain ⟨hcopy, heq⟩ := check_passed (by decide) h
  simp only [Bool.or_eq_true, Bool.not_eq_true', not_or, Bool.not_eq_false] at hcap hmem hcopy
  exact ⟨⟨hcap, not_not.mp hpos, not_le.mp hcount, hmem.1, hmem.2, hcopy⟩, heq⟩

theorem protected_proc_write_ok {t : ProtectTable.Table H}
    (h : 0 ≤ (protected_proc_write t w).1) :
    ∃ cmd more path, sscanf [.word 7] (cstr w.ubuf) = cmd :: more ∧
      stripTerminator (afterCommand (cstr w.ubuf)) = some path ∧
      ((strcaseeq cmd (lit "add") = true ∧ (av_behavior_protect_add t w.entry_ok path).1 = 0 ∧
          (protected_proc_write t w).2 = (av_behavior_protect_add t w.entry_ok path).2) ∨
        strcaseeq cmd (lit "del") = true ∧ (av_behavior_protect_del t path).1 = 0 ∧
          (protected_proc_write t w).2 = (av_behavior_protect_del t path).2) := by
  unfold protected_proc_write at h ⊢
  obtain ⟨-, hpassed⟩ := protected_checks_passed h
  rw [hpassed] at h ⊢
  split at h
  · exact absurd h (show ¬ 0 ≤ -EINVAL by decide)
  rename_i cmd more hscan
  split at h
  · exact absurd h (show ¬ 0 ≤ -EINVAL by decide)
  rename_i path hpath
  obtain ⟨hlen, heq⟩ := check_passed (by decide) h
  have htake : strscpy PATH_MAX path = path := by
    apply strscpy_eq_self
    by_contra hlong
    exact hlen (Or.inr (not_lt.mp hlong))
  refine ⟨cmd, more, path, hscan, hpath, ?_⟩
  dsimp only at heq ⊢
  rw [heq, htake] at h ⊢
  rcases command_passed h with ⟨hadd, hadded, heq⟩ | hdel
  · obtain ⟨hr, hs⟩ := reply_ok (fun hne => lt_of_le_of_ne (protect_add_ret _ _ _) hne) hadded
    exact Or.inl ⟨hadd, hr, by rw [heq]; exact hs⟩
  · exact Or.inr hdel

/-- What additions and deletions keep, a write to the file keeps. -/
theorem sig_proc_write_keeps {P : SigTable.Table H → Prop}
    (hadd : ∀ t ok algo hex name, P t → P (av_sigtable_add t ok algo hex name).2)
    (hdel : ∀ t algo hex, P t → P (av_sigtable_del t algo hex).2) {t : SigTable.Table H}
    (h : P t) (w : WriteCall) : P (sig_proc_write t w).2 := by
  have hreply : ∀ (r : Int × SigTable.Table H) (err : Int), P r.2 → P (reply w r err).2 := by
    intro r err hr
    unfold reply
    split <;> exact hr
  unfold sig_proc_write
  repeat' split
  all_goals first
    | exact h
    | exact hreply _ _ (hadd _ _ _ _ _ h)
    | exact hreply _ _ (hdel _ _ _ h)

theorem trust_proc_write_keeps {P : TrustTable.Table H → Prop}
    (hadd : ∀ t ok hex name, P t → P (av_behavior_trust_add t ok hex name).2)
    (hdel : ∀ t hex, P t → P (av_behavior_trust_del t hex).2) {t : TrustTable.Table H}
    (h : P t) (w : WriteCall) : P (trust_proc_write t w).2 := by
  have hreply : ∀ (r : Int × TrustTable.Table H) (err : Int), P r.2 → P (reply w r err).2 := by
    intro r err hr
    unfold reply
    split <;> exact hr
  unfold trust_proc_write
  repeat' split
  all_goals first
    | exact h
    | exact hreply _ _ (hadd _ _ _ _ h)
    | exact hreply _ _ (hdel _ _ h)

end Outcomes

section Gates

variable {H : KernelHash}

private theorem gate {α : Type} {w : WriteCall} {x y : α} (h : w.capable = false) :
    (if !w.capable then x else y) = x :=
  if_pos (by simp [h])

/-- A write that passes the size, offset and copy checks of the policy file, and names the policy
that is not in force. -/
def FlipsPolicy (s : ProcState H) (w : WriteCall) : Prop :=
  w.ppos = 0 ∧ w.count < 32 ∧ w.copy_ok = true ∧
    namedPolicy (cstr w.ubuf) = some (!s.av_daemon_fail_closed)

/-- What the policy handler does to the policy, whoever writes. -/
theorem daemon_policy_unchanged_iff (s : ProcState H) (w : WriteCall) :
    (daemon_policy_proc_write s.av_daemon_fail_closed w).2 = s.av_daemon_fail_closed ↔
      ¬ FlipsPolicy s w := by
  unfold daemon_policy_proc_write FlipsPolicy
  by_cases hpos : w.ppos = 0
  · rw [if_neg (not_not.mpr hpos)]
    by_cases hcount : w.count < 32
    · rw [if_neg (not_le.mpr hcount)]
      cases hcopy : w.copy_ok with
      | false => simp
      | true =>
        simp only [Bool.not_true, Bool.false_eq_true, if_false, hpos, hcount, true_and]
        cases hline : namedPolicy (cstr w.ubuf) with
        | none => simp
        | some policy =>
          dsimp only
          cases policy <;> cases s.av_daemon_fail_closed <;> decide
    · rw [if_pos (not_lt.mp hcount)]
      simp [hcount]
  · rw [if_pos hpos]
    simp [hpos]

/-- The tables are closed to a task without the capability; the policy is not. -/
theorem unprivileged_write_changes_nothing_iff (s : ProcState H) (w : WriteCall) (file : ProcFile)
    (h : w.capable = false) :
    (procWrite s w file).2 = s ↔ ¬ (file = .daemon_policy ∧ FlipsPolicy s w) := by
  cases file with
  | signatures =>
    have hgate : sig_proc_write s.sig w = (-EPERM, s.sig) := gate h
    rw [procWrite, hgate]
    simp
  | trusted =>
    have hgate : trust_proc_write s.trust w = (-EPERM, s.trust) := gate h
    rw [procWrite, hgate]
    simp
  | protected_paths =>
    have hgate : protected_proc_write s.protected_table w = (-EPERM, s.protected_table) := gate h
    rw [procWrite, hgate]
    simp
  | daemon_policy =>
    have hpolicy := daemon_policy_unchanged_iff s w
    rw [procWrite]
    dsimp only
    simp only [true_and]
    rw [← hpolicy]
    constructor
    · intro heq
      exact congrArg ProcState.av_daemon_fail_closed heq
    · intro heq
      rw [heq]

end Gates

/-- The state after the module is loaded, but for its seed signature. -/
def ProcState.boot (H : KernelHash) : ProcState H :=
  ⟨SigTable.Table.empty, Lib.Chains.HashTable.empty, Lib.Chains.HashTable.empty, false⟩

/-- Everything falls into one bucket. -/
def singleBucket : KernelHash := ⟨fun _ => 0, fun _ _ => ⟨0, Nat.two_pow_pos _⟩⟩

/-- A write at the start of the file whose allocations and copy succeed. -/
def WriteCall.plain (capable : Bool) (ubuf : Bytes) : WriteCall :=
  ⟨capable, ubuf, 0, true, true, true, true⟩

/-- An unprivileged addition is refused. -/
theorem unprivileged_add_changes_nothing :
    (procWrite (ProcState.boot singleBucket) (.plain false (lit "add md5 00 x\n")) .signatures).2 =
      ProcState.boot singleBucket :=
  (unprivileged_write_changes_nothing_iff _ _ _ rfl).mpr fun h => absurd h.1 (by decide)

/-- Root without CAP_SYS_ADMIN switches the policy. -/
theorem unprivileged_write_flips_policy :
    ¬ ∀ (H : KernelHash) (s : ProcState H) (w : WriteCall) (file : ProcFile), w.capable = false →
        (procWrite s w file).2 = s := by
  intro hall
  have hsame := hall singleBucket (ProcState.boot singleBucket) (.plain false (lit "fail-closed\n"))
    .daemon_policy rfl
  have hpolicy := congrArg ProcState.av_daemon_fail_closed hsame
  exact absurd hpolicy (by decide +kernel)

end KernelAv.Kernel.ProcWrite
