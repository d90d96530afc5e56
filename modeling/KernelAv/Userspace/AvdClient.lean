/- digest: av-gui's reader of the control socket, and the responses that it reads right. -/

import KernelAv.Daemon.Connection
import Mathlib.Data.List.DropRight

set_option autoImplicit false
set_option relaxedAutoImplicit false

namespace KernelAv.Userspace.AvdClient

open KernelAv.Lib.CText
open KernelAv.Lib.Lines
open KernelAv.Daemon.Connection (Response countLine)

/-! Python's `str` is read here as its bytes: `surrogateescape` maps ASCII to itself and nothing
else to ASCII, so the text is split and compared at the same places. -/

/-- What `str.strip` and `int` take for white space in ASCII text. -/
def isPySpace (b : UInt8) : Bool := b == 32 || (9 ≤ b && b ≤ 13) || (28 ≤ b && b ≤ 31)

def strip (s : Bytes) : Bytes := (s.dropWhile isPySpace).rdropWhile isPySpace

def isDigit (b : UInt8) : Bool := 48 ≤ b && b ≤ 57

/-- Groups of digits, which an underscore may separate. -/
def intDigits (s : Bytes) : Option Nat :=
  let groups := s.splitOn 95
  if groups.all fun g => g ≠ [] ∧ g.all isDigit then
    some (magnitude 10 (takeDigits 10 groups.flatten))
  else none

/-- Python's `int` of an ASCII text; `none` is a ValueError. -/
def int (s : Bytes) : Option Int :=
  match strip s with
  | [] => none
  | b :: t =>
      if b = 45 then (intDigits t).map fun n => -(n : Int)
      else if b = 43 then (intDigits t).map fun n => (n : Int)
      else (intDigits (b :: t)).map fun n => (n : Int)

def malformed : Bytes := lit "malformed response from avd control socket"

/-- The loop over the rows; `none` if there is no END. -/
def rowsLoop : List Bytes → Option (List (List Bytes))
  | [] => none
  | line :: lines =>
      if line = lit "END" then some []
      else if line = [] then rowsLoop lines
      else (rowsLoop lines).map fun rows => line.splitOn tab :: rows

/-- `_parse_rows`: the rows, or the text of the AvdError. -/
def parse_rows (resp : Bytes) : Except Bytes (List (List Bytes)) :=
  match resp.splitOn nl with
  | [] => .error malformed
  | first :: lines =>
      if first ≠ lit "OK" then
        match after (lit "ERR ") first with
        | some msg => .error msg
        | none => .error malformed
      else
        match lines with
        | [] => .error (malformed ++ lit " (missing COUNT)")
        | second :: lines =>
            match after (lit "COUNT ") second with
            | none => .error (malformed ++ lit " (missing COUNT)")
            | some count =>
                match int count with
                | none => .error (malformed ++ lit " (bad COUNT)")
                | some expected =>
                    match rowsLoop lines with
                    | none => .error (malformed ++ lit " (missing END)")
                    | some rows =>
                        if (rows.length : Int) ≠ expected then
                          .error (malformed ++ lit " (COUNT said " ++ fmtInt expected ++
                            lit ", got " ++ fmtNat 10 rows.length ++ lit " rows)")
                        else .ok rows

/-- Every row under its keys, unless one has another number of fields. -/
def keyed (verb : Bytes) (keys : List Bytes) (rows : List (List Bytes)) :
    Except Bytes (List (List (Bytes × Bytes))) :=
  match rows.find? fun r => r.length ≠ keys.length with
  | some r =>
      .error (lit "malformed " ++ verb ++ lit " row: expected " ++ fmtNat 10 keys.length ++
        lit " fields, got " ++ fmtNat 10 r.length)
  | none => .ok (rows.map fun r => keys.zip r)

def verdictKeys : List Bytes :=
  [lit "id", lit "timestamp", lit "pid", lit "path", lit "sha256", lit "verdict",
    lit "rule_name", lit "score", lit "on_demand"]

def quarantineKeys : List Bytes :=
  [lit "id", lit "original_path", lit "timestamp", lit "rule_name", lit "sha256"]

/-- `verdicts_recent`, once it has the response. -/
def verdicts_recent (resp : Bytes) : Except Bytes (List (List (Bytes × Bytes))) :=
  match parse_rows resp with
  | .error e => .error e
  | .ok rows => keyed (lit "VERDICTS RECENT") verdictKeys rows

/-- `quarantine_list`, once it has the response. -/
def quarantine_list (resp : Bytes) : Except Bytes (List (List (Bytes × Bytes))) :=
  match parse_rows resp with
  | .error e => .error e
  | .ok rows => keyed (lit "QUARANTINE LIST") quarantineKeys rows

section Numbers

private theorem not_isPySpace {b : UInt8} (h : 48 ≤ b.toNat) : isPySpace b = false := by
  have h32 : b ≠ 32 := by
    rintro rfl
    simp at h
  have h13 : ¬ b ≤ 13 := by
    rw [UInt8.le_iff_toNat_le]
    simp only [UInt8.reduceToNat]
    omega
  have h31 : ¬ b ≤ 31 := by
    rw [UInt8.le_iff_toNat_le]
    simp only [UInt8.reduceToNat]
    omega
  simp [isPySpace, h32, h13, h31]

private theorem strip_fmtNat (n : Nat) : strip (fmtNat 10 n) = fmtNat 10 n := by
  have hspace : ∀ b ∈ fmtNat 10 n, isPySpace b = false := fun b hb =>
    not_isPySpace (fmtNat_digit (by decide) le_rfl n hb).1
  obtain ⟨b, s, hs, -⟩ := fmtNat_head (by decide) (le_refl 10) n
  have hleft : (fmtNat 10 n).dropWhile isPySpace = fmtNat 10 n := by
    rw [hs]
    exact List.dropWhile_cons_of_neg (by simp [hspace b (by simp [hs])])
  rw [strip, hleft, List.rdropWhile_eq_self_iff]
  intro hne
  simp [hspace _ (List.getLast_mem hne)]

private theorem intDigits_fmtNat (n : Nat) : intDigits (fmtNat 10 n) = some n := by
  have hdigit : ∀ b ∈ fmtNat 10 n, isDigit b = true := by
    intro b hb
    obtain ⟨hlo, hhi⟩ := fmtNat_digit (by decide) le_rfl n hb
    have h48 : 48 ≤ b := UInt8.le_iff_toNat_le.mpr hlo
    have h57 : b ≤ 57 := UInt8.le_iff_toNat_le.mpr hhi
    simp [isDigit, h48, h57]
  obtain ⟨b, s, hs, -⟩ := fmtNat_head (by decide) (le_refl 10) n
  have hsplit : (fmtNat 10 n).splitOn 95 = [fmtNat 10 n] := by
    refine List.splitOn_eq_singleton fun h => ?_
    have h95 := hdigit 95 h
    revert h95
    decide
  have hall : ([fmtNat 10 n].all fun g => g ≠ [] ∧ g.all isDigit) = true := by
    simp only [List.all_cons, List.all_nil, Bool.and_true, decide_eq_true_eq]
    exact ⟨by simp [hs], List.all_eq_true.mpr hdigit⟩
  rw [intDigits, hsplit, if_pos hall, List.flatten_singleton,
    takeDigits_fmtNat (by decide) le_rfl]

theorem int_fmtNat (n : Nat) : int (fmtNat 10 n) = some (n : Int) := by
  obtain ⟨b, s, hs, hlo, -⟩ := fmtNat_head (by decide) (le_refl 10) n
  have h45 : b ≠ 45 := by
    rintro rfl
    simp at hlo
  have h43 : b ≠ 43 := by
    rintro rfl
    simp at hlo
  rw [int, strip_fmtNat, hs]
  simp only [h45, h43, if_false]
  rw [← hs, intDigits_fmtNat]
  rfl

end Numbers

section Rows

/-- Two fields or more, none with a tab or a newline. -/
def Framed (fs : List Bytes) : Prop := 2 ≤ fs.length ∧ ∀ f ∈ fs, Plain f

private theorem splitOn_response {rs : List Bytes} (h : ∀ r ∈ rs, nl ∉ r) :
    (Response.rows rs).bytes.splitOn nl =
      lit "OK" :: countLine rs.length :: (rs ++ [lit "END", []]) := by
  have hclean : ∀ l ∈ [lit "OK", countLine rs.length] ++ rs ++ [lit "END"], nl ∉ l := by
    simp only [List.cons_append, List.nil_append, List.forall_mem_cons, List.forall_mem_append]
    refine ⟨by decide, ?_, h, by decide, nofun⟩
    have hcount : nl ∉ lit "COUNT " := by decide
    have hnum : nl ∉ fmtNat 10 rs.length := fmtNat_clean (by decide) le_rfl _ nl (by decide)
    simp [countLine, hcount, hnum]
  rw [Response.bytes, splitOn_unlines hclean]
  simp

private theorem rowsLoop_tabbed {rows : List (List Bytes)} (h : ∀ fs ∈ rows, Framed fs) :
    rowsLoop (rows.map tabbed ++ [lit "END", []]) = some rows := by
  induction rows with
  | nil => rfl
  | cons fs rows ih =>
    obtain ⟨⟨hlen, hplain⟩, hrows⟩ := List.forall_mem_cons.mp h
    have htab := tab_mem_tabbed hlen
    have hend : tabbed fs ≠ lit "END" := fun he => by
      rw [he] at htab
      revert htab
      decide
    have hne : tabbed fs ≠ [] := fun he => by
      rw [he] at htab
      cases htab
    have hfs : fs ≠ [] := by
      rintro rfl
      cases hlen
    rw [List.map_cons, List.cons_append, rowsLoop, if_neg hend, if_neg hne, ih hrows,
      splitOn_tabbed hplain hfs]
    rfl

/-- The rows of a response come back as they are. -/
theorem parse_rows_response {rows : List (List Bytes)} (h : ∀ fs ∈ rows, Framed fs) :
    parse_rows (Response.rows (rows.map tabbed)).bytes = .ok rows := by
  have hclean : ∀ r ∈ rows.map tabbed, nl ∉ r := by
    intro r hr
    obtain ⟨fs, hfs, rfl⟩ := List.mem_map.mp hr
    exact nl_notMem_tabbed (h fs hfs).2
  rw [parse_rows, splitOn_response hclean, List.length_map]
  simp only [ne_eq, not_true_eq_false, if_false]
  rw [countLine, after_append]
  simp only [int_fmtNat, rowsLoop_tabbed h, not_true_eq_false, if_false]

/-- An error response raises its message. -/
theorem parse_rows_err {msg : Bytes} (h : nl ∉ msg) :
    parse_rows (Response.err msg).bytes = .error msg := by
  have hclean : ∀ l ∈ [lit "ERR " ++ msg], nl ∉ l := by
    have herr : nl ∉ lit "ERR " := by decide
    simp [herr, h]
  rw [parse_rows, Response.bytes, splitOn_unlines hclean, List.cons_append]
  have hne : lit "ERR " ++ msg ≠ lit "OK" := by
    intro he
    have hlen := congrArg List.length he
    rw [List.length_append, show (lit "ERR ").length = 4 from rfl,
      show (lit "OK").length = 2 from rfl] at hlen
    omega
  simp only [ne_eq, hne, not_false_eq_true, if_true]
  rw [after_append]

/-- Rows with one field to each key come back under the keys. -/
theorem keyed_rows {verb : Bytes} {keys : List Bytes} {rows : List (List Bytes)}
    (h : ∀ fs ∈ rows, fs.length = keys.length) :
    keyed verb keys rows = .ok (rows.map fun fs => keys.zip fs) := by
  have hfind : (rows.find? fun r => r.length ≠ keys.length) = none :=
    List.find?_eq_none.mpr fun fs hfs => by simp [h fs hfs]
  rw [keyed, hfind]

end Rows

end KernelAv.Userspace.AvdClient
