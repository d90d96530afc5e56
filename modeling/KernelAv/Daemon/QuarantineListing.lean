/- digest: The list of the quarantine: the entries that a peer may see, and a row for each. -/

import KernelAv.Daemon.Connection
import KernelAv.Daemon.Quarantine
import Mathlib.Data.List.Sort

set_option autoImplicit false
set_option relaxedAutoImplicit false

namespace KernelAv.Daemon.QuarantineListing

open KernelAv.Lib.CText
open KernelAv.Lib.Lines (nl tabbed length_tabbed)
open KernelAv.Daemon.Connection
open KernelAv.Daemon.Sidecar
open KernelAv.Daemon.Quarantine (NAME_MAX)

def AVD_ROW_MAX : Nat := PATH_MAX * 2 + 256

/-- The quarantine directory: the names in it, and what `fopen` finds as the sidecar of each. -/
structure Directory where
  entries : List Bytes
  sidecar : Bytes → Option Bytes
  /-- `scandir` counts in an `int`. -/
  short : entries.length < 2 ^ 31
  name_le : ∀ name ∈ entries, name.length ≤ NAME_MAX

/-- Which of the calls that a listing makes succeed. -/
structure ListIo where
  scandir_ok : Bool
  alloc : Bool
  deriving DecidableEq

def quarantineSuffix : Bytes := lit ".quarantined"

def filter_quarantined (d_name : Bytes) : Bool :=
  quarantineSuffix.length < d_name.length && quarantineSuffix.isSuffixOf d_name

/-- `strcmp(a, b) <= 0`, which `alphasort` comes to in the C locale. -/
def strcmpLe : Bytes → Bytes → Bool
  | [], _ => true
  | _ :: _, [] => false
  | a :: s, b :: t => if a = b then strcmpLe s t else a < b

def Directory.namelist (dir : Directory) : List Bytes :=
  (dir.entries.filter filter_quarantined).insertionSort fun a b => strcmpLe a b = true

def entryMeta (dir : Directory) (name : Bytes) : Option QuarantineMeta :=
  read_quarantine_meta (dir.sidecar name)

def entryVisible (dir : Directory) (peer_uid : UInt32) (is_root : Bool) (name : Bytes) : Bool :=
  is_root || (entryMeta dir name).any fun m => m.original_uid == peer_uid

def entryId (name : Bytes) : Bytes :=
  snprintf_s PATH_MAX (name.take (name.length - quarantineSuffix.length))

def entryFields (name : Bytes) : Option QuarantineMeta → List Bytes
  | some m =>
      [entryId name, m.original_path, fmtInt m.timestamp.toInt, m.rule_name, m.sha256_hex]
  | none => [entryId name, lit "?", lit "0", lit "?", lit "?"]

def entryRow (dir : Directory) (name : Bytes) : Bytes :=
  snprintf_s AVD_ROW_MAX (tabbed (entryFields name (entryMeta dir name)) ++ [nl])

/-- The loop over the names, with the marks of the first pass. -/
def sendMarked (dir : Directory) : List (Bytes × Bool) → Conn → Conn × Bool
  | [], c => (c, true)
  | (_, false) :: names, c => sendMarked dir names c
  | (name, true) :: names, c =>
      let w := write_all c (entryRow dir name)
      if w.2 then sendMarked dir names w.1 else (w.1, false)

def cmd_quarantine_list (io : ListIo) (dir : Directory) (peer_uid : UInt32) (is_root : Bool)
    (c : Conn) : Conn :=
  if !io.scandir_ok then send_err c (lit "could not read quarantine directory")
  else if dir.namelist ≠ [] ∧ io.alloc = false then send_err c (lit "out of memory")
  else
    let marked := dir.namelist.map fun name => (name, entryVisible dir peer_uid is_root name)
    let visible_count := marked.countP Prod.snd
    let hdr := snprintf_s 32 (countLine visible_count ++ [nl])
    sendEnd (sendMarked dir marked (sendHeader c hdr))

section Rows

variable {dir : Directory} {peer_uid : UInt32} {is_root : Bool} {io : ListIo}

theorem sendMarked_eq (names : List Bytes) (visible : Bytes → Bool) (c : Conn) :
    sendMarked dir (names.map fun name => (name, visible name)) c =
      sendRows c ((names.filter visible).map (entryRow dir)) := by
  induction names generalizing c with
  | nil => rfl
  | cons name names ih =>
    rw [List.map_cons, List.filter_cons]
    cases visible name with
    | false => exact ih c
    | true =>
      rw [sendMarked, if_pos rfl, List.map_cons, sendRows]
      simp only [ih]

theorem mem_namelist {name : Bytes} :
    name ∈ dir.namelist ↔ name ∈ dir.entries ∧ filter_quarantined name = true := by
  rw [Directory.namelist, List.mem_insertionSort, List.mem_filter]

theorem length_namelist_lt (dir : Directory) : dir.namelist.length < 2 ^ 31 := by
  rw [Directory.namelist, List.length_insertionSort]
  exact (List.length_filter_le ..).trans_lt dir.short

theorem entryId_le {name : Bytes} (h : name ∈ dir.namelist) : (entryId name).length ≤ 255 := by
  have hname : name.length ≤ 255 := dir.name_le name (mem_namelist.mp h).1
  rw [entryId, snprintf_s, List.length_take, List.length_take]
  omega

/-- The row buffer has room for every entry. -/
theorem entryRow_fits {name : Bytes} (h : name ∈ dir.namelist) :
    entryRow dir name = tabbed (entryFields name (entryMeta dir name)) ++ [nl] := by
  have hmax : AVD_ROW_MAX = PATH_MAX * 2 + 256 := rfl
  have hpathmax : PATH_MAX = 4096 := rfl
  have hid := entryId_le h
  rw [entryRow, snprintf_s_eq_self]
  cases hmeta : entryMeta dir name with
  | none =>
    have hmark : (lit "?").length = 1 ∧ (lit "0").length = 1 := by decide
    rw [List.length_append, length_tabbed]
    simp only [entryFields, List.map_cons, List.map_nil, List.sum_cons, List.sum_nil,
      List.length_cons, List.length_nil]
    omega
  | some m =>
    obtain ⟨-, hwithin⟩ := read_within hmeta
    have hpath := hwithin.original_path
    have hrule : m.rule_name.length ≤ 127 :=
      (Nat.le_of_lt_succ hwithin.rule_name).trans (by decide)
    have hsha := hwithin.sha256_hex
    have htime : (fmtInt m.timestamp.toInt).length ≤ 20 := by
      have hlo := m.timestamp.le_toInt
      have hhi := m.timestamp.toInt_lt
      exact fmtInt_length_le (by decide) (by omega)
    rw [List.length_append, length_tabbed]
    simp only [entryFields, List.map_cons, List.map_nil, List.sum_cons, List.sum_nil,
      List.length_cons, List.length_nil]
    omega

/-- The entries that the response shows. -/
def shown (dir : Directory) (peer_uid : UInt32) (is_root : Bool) : List Bytes :=
  dir.namelist.filter (entryVisible dir peer_uid is_root)

/-- A header with the count of these entries, a row for each, and the terminator. -/
def sendEntries (dir : Directory) (names : List Bytes) (c : Conn) : Conn :=
  sendEnd (sendRows (sendHeader c (countLine names.length ++ [nl])) (names.map (entryRow dir)))

/-- The two passes agree: the count is that of the rows. -/
theorem list_shown (hscan : io.scandir_ok = true) (hroom : dir.namelist = [] ∨ io.alloc = true)
    (c : Conn) : cmd_quarantine_list io dir peer_uid is_root c =
      sendEntries dir (shown dir peer_uid is_root) c := by
  have hlist : ¬ (dir.namelist ≠ [] ∧ io.alloc = false) := by
    rintro ⟨hne, halloc⟩
    rcases hroom with h | h
    · exact hne h
    · rw [h] at halloc
      cases halloc
  have hcount : (dir.namelist.map fun name =>
      (name, entryVisible dir peer_uid is_root name)).countP Prod.snd =
        (shown dir peer_uid is_root).length := by
    rw [List.countP_map, List.countP_eq_length_filter]
    rfl
  have hlt : (shown dir peer_uid is_root).length < 2 ^ 31 :=
    (List.length_filter_le ..).trans_lt (length_namelist_lt dir)
  rw [cmd_quarantine_list, hscan, if_neg (by decide), if_neg hlist]
  dsimp only
  rw [hcount, header_fits hlt, sendMarked_eq]
  rfl

/-- The response of a listing that nothing hinders. -/
theorem list_response (hscan : io.scandir_ok = true) (hroom : dir.namelist = [] ∨ io.alloc = true)
    {c : Conn} (hconn : c.Reliable) :
    (cmd_quarantine_list io dir peer_uid is_root c).sent =
      c.sent ++ (Response.rows ((shown dir peer_uid is_root).map fun name =>
        tabbed (entryFields name (entryMeta dir name)))).bytes := by
  rw [list_shown hscan hroom]
  exact sendEnd_fitting hconn fun name hname => entryRow_fits (List.mem_of_mem_filter hname)

end Rows

end KernelAv.Daemon.QuarantineListing
