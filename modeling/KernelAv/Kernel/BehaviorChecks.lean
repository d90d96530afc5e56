/- digest: The behavioural checks of opens, unlinks and renames, and what they leave of a record. -/

import KernelAv.Kernel.BehaviorTable
import KernelAv.Kernel.Kill

set_option autoImplicit false
set_option relaxedAutoImplicit false

namespace KernelAv.Kernel.BehaviorChecks

open KernelAv.Lib.CText
open KernelAv.Lib.Chains
open KernelAv.Kernel.Paths
open KernelAv.Kernel.SlidingWindow
open KernelAv.Kernel.BehaviorTable
open KernelAv.Kernel.Kill (Detection)

def O_WRONLY : UInt32 := 1
def O_RDWR : UInt32 := 2
def O_CREAT : UInt32 := 64
def O_TRUNC : UInt32 := 512

variable {H : KernelHash}

/-- The table a check leaves and the kill it asks for. Two things that the code does not return
are kept beside them: whose entry the lookup evicted, and whether the volume counter was skipped
because the entry is marked trusted. -/
structure CheckResult (H : KernelHash) where
  table : Table H
  evicted : Option Nat
  exempt : Bool
  detection : Option Detection

/-- A check that ends before its lookup. -/
def CheckResult.early (t : Table H) (detection : Option Detection) : CheckResult H :=
  ⟨t, none, false, detection⟩

def sensitiveOpen : Bytes := lit "write-intent open of sensitive path"

def rapidWrite : Bytes := lit "rapid file modification (possible ransomware pattern)"

def selfDelete : Bytes := lit "self-deleting binary (possible dropper/backdoor)"

def sensitiveUnlink : Bytes := lit "deletion of sensitive path"

def sensitiveRename : Bytes := lit "rename involving sensitive path"

def rapidRename : Bytes :=
  lit "rapid extension-append renames (possible ransomware encryption pass)"

/-- The `if … else if …` at the end of each check. -/
def convict (path : Bytes) (first : Bool) (reason : Bytes) (second : Bool) (reason' : Bytes) :
    Option Detection :=
  if first then some (.behavioral path reason)
  else if second then some (.behavioral path reason')
  else none

def av_behavior_check_openat (r : TickRate) (t : Table H) (jiffies : UInt64) (kzalloc_ok : Bool)
    (pid : Nat) (path : Bytes) (flags : UInt32) : CheckResult H :=
  if flags &&& (O_WRONLY ||| O_RDWR ||| O_CREAT ||| O_TRUNC) = 0 then .early t none
  else if path_is_pseudo_fs path then .early t none
  else
    let verdict (rapid : Bool) :=
      convict path (path_is_sensitive path) sensitiveOpen rapid rapidWrite
    match get_or_create_entry t pid jiffies kzalloc_ok with
    | (u, none) => ⟨u, evictedFor t pid, false, verdict false⟩
    | (u, some e) =>
        if e.trusted || path_is_rapid_write_noise path then
          ⟨u, evictedFor t pid, e.trusted, verdict false⟩
        else
          let (in_window, ring) := sliding_window_note r (H.full_name_hash path) jiffies
            WRITE_OPEN_WINDOW_MS e.recent_path
          ⟨{ u with behavior_table := u.behavior_table.put { e with recent_path := ring } },
            evictedFor t pid, false, verdict (WRITE_OPEN_THRESHOLD < in_window)⟩

def av_behavior_check_unlink (t : Table H) (jiffies : UInt64) (kzalloc_ok : Bool) (pid : Nat)
    (path : Bytes) : CheckResult H :=
  if path_is_pseudo_fs path then .early t none
  else
    let (u, e) := get_or_create_entry t pid jiffies kzalloc_ok
    let self_delete := e.any fun e =>
      e.exec_path.head? = some slash && path.head? = some slash && e.exec_path == path
    ⟨u, evictedFor t pid, false,
      convict path self_delete selfDelete (path_is_sensitive path) sensitiveUnlink⟩

def av_behavior_check_rename (r : TickRate) (t : Table H) (jiffies : UInt64) (kzalloc_ok : Bool)
    (pid : Nat) (oldpath newpath : Bytes) : CheckResult H :=
  let verdict (rapid : Bool) :=
    convict newpath (path_is_sensitive oldpath || path_is_sensitive newpath) sensitiveRename rapid
      rapidRename
  if is_extension_append_rename oldpath newpath then
    match get_or_create_entry t pid jiffies kzalloc_ok with
    | (u, none) => ⟨u, evictedFor t pid, false, verdict false⟩
    | (u, some e) =>
        if e.trusted || path_is_pseudo_fs oldpath || path_is_pseudo_fs newpath ||
            path_is_rapid_write_noise oldpath || path_is_rapid_write_noise newpath then
          ⟨u, evictedFor t pid, e.trusted, verdict false⟩
        else
          let (in_window, ring) := sliding_window_note r (H.full_name_hash oldpath) jiffies
            RENAME_WINDOW_MS e.recent_rename
          ⟨{ u with behavior_table := u.behavior_table.put { e with recent_rename := ring } },
            evictedFor t pid, false, verdict (RENAME_THRESHOLD < in_window)⟩
  else .early t (verdict false)

section Records

variable {t : Table H} {pid p : Nat} {jiffies : UInt64} {ok : Bool} {path : Bytes}

/-- A check leaves every record as it is, but for the one that its lookup evicts. -/
def Spares (t : Table H) (res : CheckResult H) : Prop :=
  ∀ p, recordOf res.table p = if res.evicted = some p then ExecRecord.blank else recordOf t p

theorem spares_early {d : Option Detection} : Spares t (.early t d) := by
  intro p
  exact (if_neg (by simp [CheckResult.early])).symm

private theorem spares_lookup {u : Table H} {e : Option Entry} {b : Bool} {d : Option Detection}
    (h : get_or_create_entry t pid jiffies ok = (u, e)) : Spares t ⟨u, evictedFor t pid, b, d⟩ := by
  intro p
  have hrecord := (get_or_create_entry_spec t pid jiffies ok).2.2 p
  rw [h] at hrecord
  exact hrecord

/-- A lookup with a write to the entry that is not to its record. -/
private theorem spares_put {u : Table H} {e x : Entry} {b : Bool} {d : Option Detection}
    (h : get_or_create_entry t pid jiffies ok = (u, some e)) (hpid : x.pid = e.pid)
    (hx : x.record = e.record) :
    Spares t ⟨{ u with behavior_table := u.behavior_table.put x }, evictedFor t pid, b, d⟩ := by
  obtain ⟨hfound, -, hrecord⟩ := get_or_create_entry_spec t pid jiffies ok
  rw [h] at hfound hrecord
  obtain ⟨hfind, he, -⟩ := hfound e rfl
  intro p
  rw [← hrecord p]
  exact recordOf_put (e := e) (by rw [hpid, he]; exact hfind) hx

private theorem trusted_of_lookup {u : Table H} {e : Entry}
    (h : get_or_create_entry t pid jiffies ok = (u, some e)) :
    e.trusted = (recordOf t pid).trusted := by
  obtain ⟨hfound, -, -⟩ := get_or_create_entry_spec t pid jiffies ok
  rw [h] at hfound
  rw [← (hfound e rfl).2.2]
  rfl

theorem check_openat_spares (r : TickRate) (flags : UInt32) :
    Spares t (av_behavior_check_openat r t jiffies ok pid path flags) := by
  unfold av_behavior_check_openat
  split
  · exact spares_early
  split
  · exact spares_early
  dsimp only
  split
  · rename_i u hu
    exact spares_lookup hu
  · rename_i u e hu
    split
    · exact spares_lookup hu
    · exact spares_put hu rfl rfl

theorem check_unlink_spares : Spares t (av_behavior_check_unlink t jiffies ok pid path) := by
  unfold av_behavior_check_unlink
  split
  · exact spares_early
  · exact spares_lookup rfl

theorem check_rename_spares (r : TickRate) (newpath : Bytes) :
    Spares t (av_behavior_check_rename r t jiffies ok pid path newpath) := by
  unfold av_behavior_check_rename
  dsimp only
  split
  · split
    · rename_i u hu
      exact spares_lookup hu
    · rename_i u e hu
      split
      · exact spares_lookup hu
      · exact spares_put hu rfl rfl
  · exact spares_early

/-- A counter is skipped for trust only on the word of the record. -/
theorem openat_exempt_trusted {r : TickRate} {flags : UInt32}
    (h : (av_behavior_check_openat r t jiffies ok pid path flags).exempt = true) :
    (recordOf t pid).trusted = true := by
  unfold av_behavior_check_openat at h
  split at h
  · cases h
  split at h
  · cases h
  dsimp only at h
  split at h
  · cases h
  · rename_i u e hu
    split at h
    · rw [← trusted_of_lookup hu]
      exact h
    · cases h

theorem rename_exempt_trusted {r : TickRate} {newpath : Bytes}
    (h : (av_behavior_check_rename r t jiffies ok pid path newpath).exempt = true) :
    (recordOf t pid).trusted = true := by
  unfold av_behavior_check_rename at h
  dsimp only at h
  split at h
  · split at h
    · cases h
    · rename_i u e hu
      split at h
      · rw [← trusted_of_lookup hu]
        exact h
      · cases h
  · cases h

/-- The unlink check convicts for self-deletion exactly when the path is absolute, outside the
pseudo file systems, and the one in the record. -/
theorem check_unlink_selfDelete_iff :
    (av_behavior_check_unlink t jiffies ok pid path).detection =
        some (.behavioral path selfDelete) ↔
      path_is_pseudo_fs path = false ∧ path.head? = some slash ∧
        (recordOf t pid).exec_path = path := by
  have hreasons : selfDelete ≠ sensitiveUnlink := by decide
  have hconvict : ∀ b, convict path b selfDelete (path_is_sensitive path) sensitiveUnlink =
      some (.behavioral path selfDelete) ↔ b = true := by
    intro b
    unfold convict
    cases b with
    | true => simp
    | false =>
      cases path_is_sensitive path with
      | true => simpa using hreasons.symm
      | false => simp
  obtain ⟨hfound, hmissing, -⟩ := get_or_create_entry_spec t pid jiffies ok
  unfold av_behavior_check_unlink
  by_cases hps : path_is_pseudo_fs path = true
  · rw [if_pos hps, hps]
    simp [CheckResult.early]
  · rw [if_neg hps]
    simp only [Bool.not_eq_true] at hps
    dsimp only
    rw [hconvict, hps]
    cases he : (get_or_create_entry t pid jiffies ok).2 with
    | none =>
      rw [hmissing he]
      simp only [Option.any_none, Bool.false_eq_true, ExecRecord.blank, true_and, false_iff,
        not_and]
      rintro hslash rfl
      cases hslash
    | some e =>
      rw [← (hfound e he).2.2]
      simp only [Option.any_some, Bool.and_eq_true, decide_eq_true_eq, beq_iff_eq, Entry.record,
        true_and]
      constructor
      · rintro ⟨⟨-, hslash⟩, hpath⟩
        exact ⟨hslash, hpath⟩
      · rintro ⟨hslash, hpath⟩
        exact ⟨⟨hpath ▸ hslash, hslash⟩, hpath⟩

end Records

end KernelAv.Kernel.BehaviorChecks
