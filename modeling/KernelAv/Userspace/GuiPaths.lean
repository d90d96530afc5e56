/- digest: A path the GUI accepts reaches the scan and the protected paths, but for one length. -/

import KernelAv.Daemon.ControlProtocol
import KernelAv.Kernel.ProtectedWrites
import KernelAv.Lib.PyText
import KernelAv.Userspace.Avctl

set_option autoImplicit false
set_option relaxedAutoImplicit false

namespace KernelAv.Userspace.GuiPaths

open KernelAv.Lib.CText
open KernelAv.Lib.Lines (nl after after_append)
open KernelAv.Lib.PyText
open KernelAv.Kernel
open KernelAv.Kernel.Paths (PATH_MAX slash)
open KernelAv.Kernel.BehaviorTable (KernelHash)
open KernelAv.Kernel.ListTables (Absolute)
open KernelAv.Kernel.ProtectTable (av_behavior_protect_add)
open KernelAv.Kernel.ProcWrite
open KernelAv.Kernel.ProtectedWrites (Reading Reads Admits admitted terminator)
open KernelAv.Daemon.Connection (Conn)
open KernelAv.Daemon.ControlSocket
open KernelAv.Daemon.ControlProtocol (Delivers received read_line_delivers)
open KernelAv.Userspace.Avctl

section Validation

/-- `_PATH_MAX`. -/
def _PATH_MAX : Nat := 4096

/-- A `ValueError` with its text, and the one of a character that has no bytes. -/
inductive PathError where
  | value (text : Str)
  | encode
deriving DecidableEq

/-- One turn of the loop of `os.path.normpath` over the components. -/
def pushComponent (rooted : Bool) (comps : List Str) (comp : Str) : List Str :=
  if comp = [] ∨ comp = [46] then comps
  else if comp ≠ [46, 46] ∨ rooted = false ∧ comps = [] ∨ comps.getLast? = some [46, 46] then
    comps ++ [comp]
  else comps.dropLast

/-- How many slashes stay in front: two stay two. -/
def leadingSlashes (path : Str) : Nat :=
  if path.head? ≠ some 47 then 0
  else if path.take 2 = [47, 47] ∧ path.take 3 ≠ [47, 47, 47] then 2
  else 1

/-- `os.path.normpath`. -/
def normpath (path : Str) : Str :=
  let comps := (path.splitOn 47).foldl (pushComponent (leadingSlashes path != 0)) []
  let joined := List.replicate (leadingSlashes path) 47 ++ [47].intercalate comps
  if joined = [] then [46] else joined

/-- `os.path.realpath` is a parameter. -/
def validate_absolute_path (realpath : Str → Except PathError Str) (path : Str) :
    Except PathError Str :=
  let text := strip path
  if text = [] then .error (.value (str "Path must be absolute."))
  else if 0 ∈ text then .error (.value (str "Path contains an invalid character."))
  else if 10 ∈ text ∨ 13 ∈ text then .error (.value (str "Path must not contain newlines."))
  else if text.head? ≠ some 47 then .error (.value (str "Path must be absolute."))
  else
    match realpath (normpath text) with
    | .error err => .error err
    | .ok canonical =>
        if canonical.head? ≠ some 47 then .error (.value (str "Path must be absolute."))
        else if 0 ∈ canonical ∨ 10 ∈ canonical ∨ 13 ∈ canonical then
          .error (.value (str "Path contains an invalid character."))
        else
          match fsencode canonical with
          | none => .error .encode
          | some bytes =>
              if _PATH_MAX < bytes.length then .error (.value (str "Path is too long."))
              else .ok canonical

end Validation

section Requests

/-- The command that `do_scan` sends. -/
def do_scan (path : Bytes) : Option Bytes :=
  if path.head? ≠ some slash then none
  else if !check_field_len path (PATH_MAX - 1) then none
  else formatted (PATH_MAX + 8) (lit "SCAN " ++ path)

/-- What `control_request` writes, and `write_command_to`. -/
def requestLine (cmd : Bytes) : Bytes := cmd ++ [nl]

/-- The bytes come in before the deadline, with interruptions at most. -/
def Arrives (polls : List Poll) (sent : Bytes) : Prop :=
  ∃ before after, polls = before ++ after ∧ received before = sent ∧
    ∀ p ∈ before, p.expired = false ∧ (p.recv = .interrupted ∨ ∃ b, p.recv = .byte b)

/-- `avctl scan` sends a command of which `avd` hands the path to `cmd_scan` as it is. -/
def ScanReaches (path : Bytes) : Prop :=
  ∃ cmd, do_scan path = some cmd ∧
    ∀ (env : Env) (polls : List Poll) (d : AvdState) (c : Conn), Arrives polls (requestLine cmd) →
      control_conn_main env (some 0) polls d c = cmd_scan env path d c

/-- `avctl protect add` writes a command of which the kernel adds the path as it is. -/
def ProtectReaches (path : Bytes) : Prop :=
  ∃ r, request [lit "protect", lit "add", path] = some r ∧ r.path = .protected_paths ∧
    ∀ (H : KernelHash) (t : ProtectTable.Table H),
      protected_proc_write t (RunEnv.root.call (requestLine r.cmd)) =
        reply (RunEnv.root.call (requestLine r.cmd)) (av_behavior_protect_add t true path)
          (av_behavior_protect_add t true path).1

/-- A path is acted on as it is shown. -/
def ActedOn (path : Bytes) : Prop := ScanReaches path ∧ ProtectReaches path

end Requests

section Accepted

variable {realpath : Str → Except PathError Str} {text c : Str} {path : Bytes}

/-- The bytes of an accepted path. -/
structure Accepted (path : Bytes) : Prop where
  absolute : path.head? = some slash
  no_nul : (0 : UInt8) ∉ path
  no_newline : nl ∉ path
  no_return : cr ∉ path
  length_le : path.length ≤ _PATH_MAX

/-- What the checks on the canonical path come to. -/
theorem validated (h : validate_absolute_path realpath text = .ok c) :
    ∃ path, fsencode c = some path ∧ Accepted path := by
  unfold validate_absolute_path at h
  dsimp only at h
  split_ifs at h with hempty hnul hnewline hroot
  cases hreal : realpath (normpath (strip text)) with
  | error err =>
    rw [hreal] at h
    cases h
  | ok canonical =>
    rw [hreal] at h
    dsimp only at h
    split_ifs at h with hhead hbad
    rw [not_or, not_or] at hbad
    cases hbytes : fsencode canonical with
    | none =>
      rw [hbytes] at h
      cases h
    | some path =>
      rw [hbytes] at h
      dsimp only at h
      split_ifs at h with hlong
      obtain rfl := Except.ok.inj h
      have hmissing : ∀ b : UInt8, b < 0x80 → b.toNat ∉ canonical → b ∉ path :=
        fun b hb hnot hmem => hnot (fsencode_ascii hbytes hmem hb)
      refine ⟨path, hbytes, ?_, hmissing 0 (by decide) hbad.1, hmissing nl (by decide) hbad.2.1,
        hmissing cr (by decide) hbad.2.2, not_lt.mp hlong⟩
      cases canonical with
      | nil => exact absurd (fun h : none = some 47 => by cases h) hhead
      | cons a rest =>
        obtain rfl : a = 47 := by simpa using hhead
        obtain ⟨first, tail, hfirst, -, rfl⟩ := fsencode_cons hbytes
        obtain rfl := Option.some.inj hfirst
        rfl

private theorem accepted_cons (h : Accepted path) : ∃ rest, path = slash :: rest := by
  cases path with
  | nil => cases h.absolute
  | cons a rest => exact ⟨rest, by rw [Option.some.inj h.absolute]⟩

private theorem field_fits (h : Accepted path) :
    check_field_len path (PATH_MAX - 1) = true ↔ path.length < PATH_MAX := by
  have hmax : PATH_MAX = 4096 := rfl
  have hline : path.contains nl = false := by
    rw [Bool.eq_false_iff, ne_eq, List.contains_iff_mem]
    exact h.no_newline
  rw [check_field_len, hline]
  simp only [Bool.not_false, Bool.true_and, decide_eq_true_iff]
  omega

private theorem formatted_short {tag : Bytes} (htag : tag.length ≤ 5)
    (hlen : path.length < PATH_MAX) :
    formatted (PATH_MAX + 8) (tag ++ path) = some (tag ++ path) := by
  have hfits : (tag ++ path).length < PATH_MAX + 8 := by
    rw [List.length_append]
    omega
  exact if_neg hfits.not_ge

/-- Whatever is accepted and shorter than PATH_MAX is scanned under its own bytes. -/
private theorem scan_reaches (h : Accepted path) (hlen : path.length < PATH_MAX) :
    ScanReaches path := by
  have hcheck := (field_fits h).mpr hlen
  refine ⟨lit "SCAN " ++ path, ?_, fun env polls d c hpolls => ?_⟩
  · rw [do_scan, if_neg (not_not.mpr h.absolute), hcheck]
    exact formatted_short (by decide) hlen
  · have htag : nl ∉ lit "SCAN " ∧ (0 : UInt8) ∉ lit "SCAN " := by decide
    have hdelivers : Delivers polls (lit "SCAN " ++ path) := by
      refine ⟨?_, fun hmem => ?_, hpolls⟩
      · have hfive : (lit "SCAN ").length = 5 := rfl
        have hmax : AVD_SOCK_LINE_MAX = PATH_MAX + 256 := rfl
        rw [List.length_append]
        omega
      · exact (List.mem_append.mp hmem).elim htag.1 h.no_newline
    have hclean : cstr (lit "SCAN " ++ path) = lit "SCAN " ++ path :=
      cstr_eq_self fun hmem => (List.mem_append.mp hmem).elim htag.2 h.no_nul
    rw [control_conn_main, read_line_delivers hdelivers]
    show handle_control_line env (cstr (lit "SCAN " ++ path)) 0 true d c = _
    rw [hclean]
    exact Daemon.ControlProtocol.handle_scan env d c 0 (after_append (lit "SCAN ") path)

private theorem protect_reaches (h : Accepted path) (hlen : path.length < PATH_MAX) :
    ProtectReaches path := by
  have hcheck := (field_fits h).mpr hlen
  have hcmd : formatted (PATH_MAX + 8) (lit "add " ++ path) = some (lit "add " ++ path) :=
    formatted_short (by decide) hlen
  refine ⟨⟨.protected_paths, lit "add " ++ path, .protected_path path⟩, ?_, rfl, fun H t => ?_⟩
  · show do_protect [lit "add", path] = _
    rw [do_protect, if_pos rfl, if_neg (not_not.mpr h.absolute), hcheck, hcmd]
    rfl
  -- The kernel reads the command, one blank, and the path up to its newline.
  · obtain ⟨rest, rfl⟩ := accepted_cons h
    let r : Reading := ⟨true, lit "add", [blank], slash :: rest, false, none⟩
    have hcommand : strcaseeq (Lib.Scanf.firstWord (lit "add")) (commandWord true) = true := by
      decide
    have hword : ∀ b ∈ lit "add", isBlank b = false := by
      intro b hb
      have hall : ((lit "add").all fun b => !isBlank b) = true := rfl
      simpa using List.all_eq_true.mp hall b hb
    have hline : r.line = lit "add " ++ (slash :: rest) ++ [nl] := by
      simp [r, Reading.line, terminator, blank, lit]
    have hreads : Reads r (requestLine (lit "add " ++ (slash :: rest))) := by
      refine ⟨?_, ?_, hcommand, hword, by simp [r], by simp [r]; decide, by simp [r], ?_, ?_⟩
      · rw [Reading.text, hline]
        exact (List.append_nil _).symm
      · rw [hline]
        intro hmem
        rcases List.mem_append.mp hmem with hmem | hmem
        · exact (List.mem_append.mp hmem).elim (by decide) h.no_nul
        · exact absurd hmem (by decide)
      · intro b hb
        obtain rfl := Option.some.inj hb
        decide
      · exact fun _ hlast => h.no_return (List.mem_of_getLast? hlast)
    have hadmits : Admits (RunEnv.root.call (requestLine (lit "add " ++ (slash :: rest)))) r := by
      refine ⟨rfl, rfl, ?_, rfl, rfl, rfl, fun _ => rfl, rfl, hlen⟩
      have hfour : (lit "add ").length = 4 := rfl
      show (lit "add " ++ (slash :: rest) ++ [nl]).length < PATH_MAX + 16
      rw [List.length_append, List.length_append, List.length_singleton]
      omega
    exact admitted hreads hadmits

private theorem fits_of_actedOn (h : Accepted path) (hacted : ActedOn path) :
    path.length < PATH_MAX := by
  rw [← field_fits h]
  obtain ⟨⟨cmd, hcmd, -⟩, -⟩ := hacted
  by_contra hcheck
  rw [do_scan, if_neg (not_not.mpr h.absolute), Bool.eq_false_iff.mpr hcheck] at hcmd
  cases hcmd

/-- A path that the GUI accepts has bytes, and it is scanned and protected under exactly these if
they are fewer than PATH_MAX, which the check of the GUI does not ask for. -/
theorem accepted_acted_on_iff (h : validate_absolute_path realpath text = .ok c) :
    ∃ path, fsencode c = some path ∧ (ActedOn path ↔ path.length < PATH_MAX) := by
  obtain ⟨path, hbytes, haccepted⟩ := validated h
  refine ⟨path, hbytes, fits_of_actedOn haccepted, fun hlen => ?_⟩
  exact ⟨scan_reaches haccepted hlen, protect_reaches haccepted hlen⟩

end Accepted

section Limits

/-- A system without symbolic links. -/
def noLinks (path : Str) : Except PathError Str := .ok path

/-- What was typed is tidied up, and then acted on as it is shown. -/
theorem typed_path_acted_on :
    ∃ path, fsencode (str "/etc/passwd") = some path ∧
      (ActedOn path ↔ path.length < PATH_MAX) :=
  accepted_acted_on_iff (show validate_absolute_path noLinks (str " /etc/./x/..//passwd ") =
    .ok (str "/etc/passwd") by decide)

/-- A path of one long name. -/
def longPath (n : Nat) : Str := 47 :: List.replicate n 97

private theorem strip_longPath {n : Nat} (hn : 0 < n) : strip (longPath n) = longPath n := by
  obtain ⟨m, rfl⟩ : ∃ m, n = m + 1 := ⟨n - 1, by omega⟩
  have hfront : (longPath (m + 1)).dropWhile isSpace = longPath (m + 1) := rfl
  have hback : (longPath (m + 1)).reverse = 97 :: (List.replicate m 97 ++ [47]) := by
    rw [longPath, List.reverse_cons, List.reverse_replicate, List.replicate_succ, List.cons_append]
  rw [strip, hfront, hback, List.dropWhile_cons_of_neg (by decide), ← hback, List.reverse_reverse]

private theorem normpath_longPath {n : Nat} (hn : 2 < n) :
    normpath (longPath n) = longPath n := by
  have hmem : (47 : Nat) ∉ List.replicate n 97 := fun h =>
    absurd (List.eq_of_mem_replicate h) (by decide)
  have hsplit : (longPath n).splitOn 47 = [[], List.replicate n 97] := by
    rw [longPath, ← List.nil_append (47 :: List.replicate n 97),
      List.splitOn_append_cons_self_of_not_mem List.not_mem_nil, List.splitOn_eq_singleton hmem]
  have hname : ∀ w : Str, w.length ≤ 2 → List.replicate n 97 ≠ w := by
    rintro w hw rfl
    rw [List.length_replicate] at hw
    omega
  have hpush : pushComponent true [] (List.replicate n 97) = [List.replicate n 97] := by
    rw [pushComponent, if_neg (not_or.mpr ⟨hname _ (by decide), hname _ (by decide)⟩),
      if_pos (.inl (hname _ (by decide)))]
    rfl
  have hslashes : leadingSlashes (longPath n) = 1 := by
    obtain ⟨m, rfl⟩ : ∃ m, n = m + 1 := ⟨n - 1, by omega⟩
    have htwo : (longPath (m + 1)).take 2 ≠ [47, 47] := by
      rw [longPath, List.replicate_succ]
      simp
    have hhead : (longPath (m + 1)).head? = some 47 := rfl
    rw [leadingSlashes, if_neg (not_not.mpr hhead), if_neg fun h => htwo h.1]
  have hroot : pushComponent true [] [] = [] := rfl
  have hrooted : (1 != 0) = true := rfl
  have hjoined : List.replicate 1 47 ++ [47].intercalate [List.replicate n 97] = longPath n := by
    simp [longPath]
  unfold normpath
  rw [hslashes, hsplit, hrooted, List.foldl_cons, List.foldl_cons, List.foldl_nil, hroot, hpush]
  dsimp only
  rw [hjoined]
  exact if_neg (List.cons_ne_nil _ _)

private theorem longPath_bytes (n : Nat) :
    fsencode (longPath n) = some ((longPath n).map UInt8.ofNat) := by
  refine fsencode_of_ascii fun c hc => ?_
  rcases List.mem_cons.mp hc with rfl | hc
  · decide
  · rw [List.eq_of_mem_replicate hc]
    decide

private theorem longPath_accepted {n : Nat} (hn : 2 < n) (hlen : n < _PATH_MAX) :
    validate_absolute_path noLinks (longPath n) = .ok (longPath n) := by
  have hnot : ∀ c, c ≠ 47 → c ≠ 97 → c ∉ longPath n := by
    intro c hslash hname hmem
    rcases List.mem_cons.mp hmem with rfl | hmem
    · exact hslash rfl
    · exact hname (List.eq_of_mem_replicate hmem)
  have hhead : (longPath n).head? = some 47 := rfl
  have hshort : ¬ _PATH_MAX < ((longPath n).map UInt8.ofNat).length := by
    rw [List.length_map, longPath, List.length_cons, List.length_replicate]
    omega
  have hnul := hnot 0 (by decide) (by decide)
  have hnewline := hnot 10 (by decide) (by decide)
  have hreturn := hnot 13 (by decide) (by decide)
  have hempty : longPath n ≠ [] := List.cons_ne_nil _ _
  unfold validate_absolute_path
  simp only [strip_longPath (by omega : 0 < n), normpath_longPath hn, noLinks, hempty, hnul,
    hnewline, hreturn, hhead, longPath_bytes, hshort, ne_eq, not_true_eq_false, or_self,
    if_false]

/-- The longest path that the GUI accepts is not scanned. -/
theorem longest_path_refused :
    ¬ ∀ (realpath : Str → Except PathError Str) (text c : Str),
        validate_absolute_path realpath text = .ok c →
          ∃ path, fsencode c = some path ∧ ActedOn path := by
  intro hall
  have hvalid := longPath_accepted (n := 4095) (by decide) (by decide)
  obtain ⟨path, hbytes, hacted⟩ := hall noLinks _ _ hvalid
  obtain ⟨path', hbytes', haccepted⟩ := validated hvalid
  obtain rfl := Option.some.inj (hbytes.symm.trans hbytes')
  have hshort := fits_of_actedOn haccepted hacted
  rw [longPath_bytes] at hbytes
  obtain rfl := Option.some.inj hbytes
  rw [List.length_map, longPath, List.length_cons, List.length_replicate] at hshort
  exact absurd hshort (by decide)

end Limits

end KernelAv.Userspace.GuiPaths
