/- digest: What avctl makes of the replies to SCAN and QUARANTINE LIST, and which it gets wrong. -/

import KernelAv.Daemon.ControlSocket
import KernelAv.Lib.StdScanf
import KernelAv.Userspace.AvdClient

set_option autoImplicit false
set_option relaxedAutoImplicit false

namespace KernelAv.Userspace.AvctlReplies

open KernelAv.Lib.CText
open KernelAv.Lib.Lines
open KernelAv.Lib.StdScanf
open KernelAv.Daemon.Connection
open KernelAv.Daemon.Sidecar (PATH_MAX QuarantineMeta read_within)
open KernelAv.Daemon.Quarantine (slash NAME_MAX)
open KernelAv.Daemon.QuarantineListing
open KernelAv.Daemon.ControlSocket
open KernelAv.Daemon.Scan (ScanResult perform_scan)
open KernelAv.Kernel.Channel (AV_VERDICT_MALICIOUS AV_VERDICT_CLEAN)
open KernelAv.Userspace.AvdClient

def INT_MAX : Int := 2 ^ 31 - 1
def INT_MIN : Int := -2 ^ 31

section Reader

/-- The line at the cursor, and the cursor behind it. -/
def next_line (cursor : Bytes) : Option (Bytes × Bytes) :=
  if cursor = [] then none
  else some (cursor.takeWhile (· ≠ nl), (cursor.dropWhile (· ≠ nl)).tail)

/-- The cursor behind the line `OK`, or what is printed instead. -/
def expect_ok (cursor : Bytes) : Except Bytes Bytes :=
  match next_line cursor with
  | none => .error malformed
  | some (line, rest) =>
      if line = lit "OK" then .ok rest
      else
        match after (lit "ERR ") line with
        | some msg => .error msg
        | none => .error malformed

/-- The cursor behind the line with the count, which is not looked at. -/
def skipCount (cursor : Bytes) : Bytes :=
  match next_line cursor with
  | none => cursor
  | some (_, rest) => rest

/-- What avctl has read of the row of a scan. -/
structure ScanReport where
  verdict : Bytes
  rule : Bytes
  score : Int
  sha : Bytes
  deriving DecidableEq

/-- The row, cut at its tabs. -/
def readScan (line : Bytes) : Option ScanReport :=
  match line.splitOn tab with
  | [verdict, rule, score, sha] =>
      if verdict = [] ∨ 16 ≤ verdict.length ∨ 128 ≤ rule.length ∨ sha = [] ∨ 128 ≤ sha.length then
        none
      else
        match longPrefix score with
        | some (n, []) =>
            if n < INT_MIN ∨ INT_MAX < n then none
            else if verdict = lit "MALICIOUS" ∨ verdict = lit "CLEAN" then
              some ⟨verdict, rule, n, sha⟩
            else none
        | _ => none
  | _ => none

/-- What is printed of it. -/
def scanText (path : Bytes) (r : ScanReport) : Bytes :=
  if r.verdict = lit "MALICIOUS" then
    lit "MALICIOUS: " ++ path ++ (if r.rule = [] then [] else lit " - ") ++ r.rule ++
      lit " (score=" ++ fmtInt r.score ++ lit ")\n" ++ lit "sha256: " ++ r.sha ++ [nl]
  else lit "CLEAN: " ++ path ++ [nl] ++ lit "sha256: " ++ r.sha ++ [nl]

/-- The request is sent for an absolute path on one line, and the rest is about the response; an
error is the text on standard error. -/
def do_scan (path resp : Bytes) : Except Bytes (ScanReport × Bytes) :=
  if path.head? ≠ some slash then .error (lit "scan requires an absolute path")
  else if nl ∈ path ∨ PATH_MAX - 1 < path.length then .error (lit "path")
  else
    match expect_ok resp with
    | .error e => .error e
    | .ok cursor =>
        match (next_line (skipCount cursor)).bind fun x => readScan x.1 with
        | some r => .ok (r, scanText path r)
        | none => .error (lit "malformed scan response from avd")

/-- The columns of one line of `avctl quarantine list`, as they are printed. -/
structure QuarantineLine where
  id : Bytes
  rule : Bytes
  timestamp : Bytes
  path : Bytes
  deriving DecidableEq

/-- `"%255[^\t]\t%4095[^\t]\t%ld\t%127[^\t]\t%127[^\t\n]"`, built at run time. -/
def rowFormat : List Directive :=
  [.upTo 255 [tab], .space, .upTo (PATH_MAX - 1) [tab], .space, .long, .space, .upTo 127 [tab],
    .space, .upTo 127 [tab, nl]]

/-- The line that is printed for a row, unless the row is skipped. -/
def readRow (line : Bytes) : Option QuarantineLine :=
  match sscanf rowFormat line with
  | [.text id, .text path, .number ts, .text rule, .text _] => some ⟨id, rule, fmtInt ts, path⟩
  | _ => none

/-- The loop up to END; the length of the text bounds the number of its turns. -/
def listLoop : Nat → Bytes → List (Option QuarantineLine)
  | 0, _ => []
  | k + 1, cursor =>
      match next_line cursor with
      | none => []
      | some (line, rest) => if line = lit "END" then [] else readRow line :: listLoop k rest

/-- Below the heading: a line for each row, or a warning. -/
def do_quarantine_list (resp : Bytes) : Except Bytes (List (Option QuarantineLine)) :=
  match expect_ok resp with
  | .error e => .error e
  | .ok cursor => .ok (listLoop (skipCount cursor).length (skipCount cursor))

end Reader

section Lines

private theorem next_line_cons {l : Bytes} (hl : nl ∉ l) (t : Bytes) :
    next_line (l ++ nl :: t) = some (l, t) := by
  have hclean : ∀ b ∈ l, decide (b ≠ nl) = true := by
    intro b hb
    rw [decide_eq_true_eq]
    rintro rfl
    exact hl hb
  rw [next_line, if_neg (by simp), List.takeWhile_append_of_pos hclean,
    List.dropWhile_append_of_pos hclean]
  simp

private theorem skip_header (rs : List Bytes) :
    ∃ cursor, expect_ok (Response.rows rs).bytes = .ok cursor ∧
      skipCount cursor = unlines (rs ++ [lit "END"]) := by
  have hcount : nl ∉ countLine rs.length := by
    have hnum : nl ∉ fmtNat 10 rs.length := fmtNat_clean (by decide) le_rfl _ nl (by decide)
    have htext : nl ∉ lit "COUNT " := by decide
    simp [countLine, htext, hnum]
  have hbytes : (Response.rows rs).bytes =
      lit "OK" ++ nl :: (countLine rs.length ++ nl :: unlines (rs ++ [lit "END"])) := by
    simp [Response.bytes]
  refine ⟨countLine rs.length ++ nl :: unlines (rs ++ [lit "END"]), ?_, ?_⟩
  · rw [hbytes, expect_ok, next_line_cons (by decide)]
    rfl
  · rw [skipCount, next_line_cons hcount]

private theorem listLoop_rows {rs : List Bytes} (h : ∀ r ∈ rs, nl ∉ r ∧ tab ∈ r) (k : Nat)
    (hk : (unlines (rs ++ [lit "END"])).length ≤ k) :
    listLoop k (unlines (rs ++ [lit "END"])) = rs.map readRow := by
  induction rs generalizing k with
  | nil =>
    cases k with
    | zero => simp at hk
    | succ k =>
      rw [listLoop, List.nil_append, unlines_cons, next_line_cons (by decide)]
      rfl
  | cons r rs ih =>
    obtain ⟨⟨hr, htab⟩, hrs⟩ := List.forall_mem_cons.mp h
    have hend : r ≠ lit "END" := by
      rintro rfl
      revert htab
      decide
    rw [List.cons_append, unlines_cons] at hk ⊢
    cases k with
    | zero => simp at hk
    | succ k =>
      rw [List.length_append, List.length_cons] at hk
      rw [listLoop, next_line_cons hr]
      dsimp only
      rw [if_neg hend, ih hrs k (by omega), List.map_cons]

/-- Of a well-formed response every row is read, in its order. -/
theorem do_quarantine_list_rows {rs : List Bytes} (h : ∀ r ∈ rs, nl ∉ r ∧ tab ∈ r) :
    do_quarantine_list (Response.rows rs).bytes = .ok (rs.map readRow) := by
  obtain ⟨cursor, hok, hskip⟩ := skip_header rs
  rw [do_quarantine_list, hok]
  dsimp only
  rw [hskip, listLoop_rows h _ le_rfl]

end Lines

section Rows

/-- A row that the format reads as it was written: neither the path nor the rule begins with white
space, the rule is not empty, and the digest is not white space only. -/
structure Legible (path rule sha : Bytes) : Prop where
  path : Tight path
  rule_ne : rule ≠ []
  rule : Tight rule
  sha : ∃ b ∈ sha, isspace b = false

instance (path rule sha : Bytes) : Decidable (Legible path rule sha) :=
  decidable_of_iff (Tight path ∧ rule ≠ [] ∧ Tight rule ∧ ∃ b ∈ sha, isspace b = false)
    ⟨fun ⟨h1, h2, h3, h4⟩ => ⟨h1, h2, h3, h4⟩, fun ⟨h1, h2, h3, h4⟩ => ⟨h1, h2, h3, h4⟩⟩

/-- What avd puts in the fields of a row that come from a file name or a sidecar. -/
structure RowOk (id path rule sha : Bytes) (ts : Int) : Prop where
  id_plain : Plain id
  id_ne : id ≠ []
  id_le : id.length ≤ 255
  path_plain : Plain path
  path_ne : path ≠ []
  path_le : path.length ≤ PATH_MAX - 1
  rule_plain : Plain rule
  rule_le : rule.length ≤ 127
  sha_plain : Plain sha
  ts_lo : -2 ^ 63 ≤ ts
  ts_hi : ts < 2 ^ 63

private theorem not_stop {w : Bytes} (h : Plain w) : ∀ b ∈ w, b ∉ [tab] := by
  intro b hb hstop
  obtain rfl := List.mem_singleton.mp hstop
  exact h.1 hb

private theorem tabbed_row (id path ts rule sha : Bytes) :
    tabbed [id, path, ts, rule, sha] =
      id ++ tab :: (path ++ tab :: (ts ++ tab :: (rule ++ tab :: sha))) := by
  simp [tabbed, List.intercalate, List.intersperse]

variable {id path rule sha : Bytes} {ts : Int}

/-- The fields of the row, as far as its path. -/
private theorem scan_id (h : RowOk id path rule sha ts) :
    sscanf rowFormat (tabbed [id, path, fmtInt ts, rule, sha]) = .text id ::
      sscanf rowFormat.tail
        (tab :: (path ++ tab :: (fmtInt ts ++ tab :: (rule ++ tab :: sha)))) := by
  rw [tabbed_row]
  exact sscanf_upTo (not_stop h.id_plain) h.id_ne h.id_le (by simp)

private theorem scan_path (h : RowOk id path rule sha ts) (hpath : Tight path) :
    sscanf rowFormat.tail (tab :: (path ++ tab :: (fmtInt ts ++ tab :: (rule ++ tab :: sha)))) =
      .text path :: .number ts ::
        sscanf [.space, .upTo 127 [tab], .space, .upTo 127 [tab, nl]]
          (tab :: (rule ++ tab :: sha)) := by
  obtain ⟨htight, hne⟩ := tight_fmtInt ts
  have hfmt : rowFormat.tail = .space :: .upTo (PATH_MAX - 1) [tab] :: .space :: .long ::
      [.space, .upTo 127 [tab], .space, .upTo 127 [tab, nl]] := rfl
  rw [hfmt, sscanf_space (by decide) (hpath.append h.path_ne),
    sscanf_upTo (not_stop h.path_plain) h.path_ne h.path_le (by simp),
    sscanf_space (by decide) (htight.append hne), sscanf_long h.ts_lo h.ts_hi rfl]

private theorem scan_rule (h : RowOk id path rule sha ts) (hne : rule ≠ []) (hrule : Tight rule) :
    sscanf [.space, .upTo 127 [tab], .space, .upTo 127 [tab, nl]] (tab :: (rule ++ tab :: sha)) =
      .text rule :: sscanf [.space, .upTo 127 [tab, nl]] (tab :: sha) := by
  rw [sscanf_space (by decide) (hrule.append hne),
    sscanf_upTo (not_stop h.rule_plain) hne h.rule_le (by simp)]

private theorem scan_sha (h : RowOk id path rule sha ts) :
    (∃ w, sscanf [.space, .upTo 127 [tab, nl]] (tab :: sha) = [.text w]) ↔
      ∃ b ∈ sha, isspace b = false := by
  refine sscanf_last (by decide) (fun b hb hstop => ?_) (by decide)
  rcases List.mem_cons.mp hstop with rfl | hstop
  · exact h.sha_plain.1 hb
  · obtain rfl := List.mem_singleton.mp hstop
    exact h.sha_plain.2 hb

/-- A row is printed as it was sent exactly if it is legible. -/
theorem readRow_iff (h : RowOk id path rule sha ts) :
    readRow (tabbed [id, path, fmtInt ts, rule, sha]) = some ⟨id, rule, fmtInt ts, path⟩ ↔
      Legible path rule sha := by
  rw [readRow, scan_id h]
  constructor
  · intro hread
    split at hread
    · rename_i id' path' ts' rule' w hscan
      obtain ⟨-, hrest⟩ := List.cons.inj hscan
      obtain ⟨-, rfl, -, rfl⟩ := QuarantineLine.mk.inj (Option.some.inj hread)
      have hpath := (tight_of_space hrest).2
      rw [scan_path h hpath] at hrest
      obtain ⟨hne, hrule⟩ := tight_of_space (List.cons.inj (List.cons.inj hrest).2).2
      rw [scan_rule h hne hrule] at hrest
      exact ⟨hpath, hne, hrule, (scan_sha h).mp
        ⟨w, (List.cons.inj (List.cons.inj (List.cons.inj hrest).2).2).2⟩⟩
    · cases hread
  · intro hlegible
    obtain ⟨w, hw⟩ := (scan_sha h).mpr hlegible.sha
    rw [scan_path h hlegible.path, scan_rule h hlegible.rule_ne hlegible.rule, hw]

end Rows

section Listing

/-- No name and no text of a sidecar holds a tab or a newline. -/
structure PlainDirectory (dir : Directory) : Prop where
  name : ∀ name ∈ dir.namelist, Plain name
  texts : ∀ name ∈ dir.namelist, ∀ m, entryMeta dir name = some m →
    Plain m.original_path ∧ Plain m.rule_name ∧ Plain m.sha256_hex

/-- The sidecar of an entry, if it can be read, makes a legible row. -/
def EntryLegible (dir : Directory) (name : Bytes) : Prop :=
  ∀ m, entryMeta dir name = some m → Legible m.original_path m.rule_name m.sha256_hex

variable {dir : Directory} {name : Bytes}

private theorem plain_take {s : Bytes} (h : Plain s) (k : Nat) : Plain (s.take k) :=
  ⟨fun hm => h.1 (List.mem_of_mem_take hm), fun hm => h.2 (List.mem_of_mem_take hm)⟩

private theorem entryId_ok (hdir : PlainDirectory dir) (h : name ∈ dir.namelist) :
    Plain (entryId name) ∧ entryId name ≠ [] ∧ (entryId name).length ≤ 255 := by
  obtain ⟨-, hfilter⟩ := mem_namelist.mp h
  have hlt : quarantineSuffix.length < name.length := by
    rw [filter_quarantined, Bool.and_eq_true, decide_eq_true_eq] at hfilter
    exact hfilter.1
  refine ⟨plain_take (plain_take (hdir.name name h) _) _, ?_, entryId_le h⟩
  rw [entryId, snprintf_s, ne_eq, List.take_eq_nil_iff, List.take_eq_nil_iff]
  rintro (h0 | h0 | rfl)
  · revert h0
    decide
  · omega
  · cases hlt

/-- The fields of the row of an entry. -/
private theorem entry_row (hdir : PlainDirectory dir) (h : name ∈ dir.namelist) :
    ∃ path rule sha ts, RowOk (entryId name) path rule sha ts ∧
      entryFields name (entryMeta dir name) = [entryId name, path, fmtInt ts, rule, sha] ∧
      (Legible path rule sha ↔ EntryLegible dir name) := by
  obtain ⟨hid, hne, hlen⟩ := entryId_ok hdir h
  cases hmeta : entryMeta dir name with
  | none =>
    have hpath : (lit "?").length ≤ PATH_MAX - 1 := Nat.le_of_ble_eq_true rfl
    refine ⟨lit "?", lit "?", lit "?", 0, ⟨hid, hne, hlen, by decide, by decide, hpath,
      by decide, by decide, by decide, by decide, by decide⟩, rfl, ?_⟩
    have hlegible : Legible (lit "?") (lit "?") (lit "?") := by decide
    refine ⟨fun _ m hm => ?_, fun _ => hlegible⟩
    rw [hmeta] at hm
    cases hm
  | some m =>
    obtain ⟨hpath, hrule, hsha⟩ := hdir.texts name h m hmeta
    obtain ⟨hpath_ne, hwithin⟩ := read_within hmeta
    have hts := m.timestamp.le_toInt
    have hts' := m.timestamp.toInt_lt
    refine ⟨m.original_path, m.rule_name, m.sha256_hex, m.timestamp.toInt,
      ⟨hid, hne, hlen, hpath, hpath_ne, Nat.le_sub_one_of_lt hwithin.original_path, hrule,
        (Nat.le_of_lt_succ hwithin.rule_name).trans (by decide), hsha, hts, hts'⟩, rfl, ?_⟩
    refine ⟨fun hl m' hm' => ?_, fun hl => hl m hmeta⟩
    rw [hmeta] at hm'
    obtain rfl := Option.some.inj hm'
    exact hl

private theorem framed_entry (hdir : PlainDirectory dir) (h : name ∈ dir.namelist) :
    Framed (entryFields name (entryMeta dir name)) := by
  obtain ⟨path, rule, sha, ts, hrow, hfields, -⟩ := entry_row hdir h
  have hts : Plain (fmtInt ts) :=
    ⟨fmtInt_clean ts tab (by decide), fmtInt_clean ts nl (by decide)⟩
  rw [hfields]
  refine ⟨by simp, ?_⟩
  simp only [List.forall_mem_cons]
  exact ⟨hrow.id_plain, hrow.path_plain, hts, hrow.rule_plain, hrow.sha_plain,
    fun _ hf => absurd hf List.not_mem_nil⟩

/-- The line that avctl should print for a row that av-gui has decoded. -/
def lineOf (row : List (Bytes × Bytes)) : Option QuarantineLine :=
  match row.lookup (lit "id"), row.lookup (lit "rule_name"), row.lookup (lit "timestamp"),
    row.lookup (lit "original_path") with
  | some id, some rule, some timestamp, some path => some ⟨id, rule, timestamp, path⟩
  | _, _, _, _ => none

/-- avctl prints one line for each row that av-gui decodes, with the same id, rule, timestamp and
path. -/
def ListAgrees (resp : Bytes) : Prop :=
  ∃ rows, quarantine_list resp = .ok rows ∧ do_quarantine_list resp = .ok (rows.map lineOf)

/-- The two readers agree on a directory exactly if every entry that is shown is legible. -/
private theorem listAgrees_iff (hdir : PlainDirectory dir) {fails : Nat → Option Nat}
    (hconn : (Conn.accept fails).Reliable) (peer_uid : UInt32) (is_root : Bool) :
    ListAgrees (cmd_quarantine_list ⟨true, true⟩ dir peer_uid is_root (Conn.accept fails)).sent ↔
      ∀ name ∈ shown dir peer_uid is_root, EntryLegible dir name := by
  have hmem : ∀ name ∈ shown dir peer_uid is_root, name ∈ dir.namelist :=
    fun name hname => List.mem_of_mem_filter hname
  have hgui : quarantine_list
      (cmd_quarantine_list ⟨true, true⟩ dir peer_uid is_root (Conn.accept fails)).sent =
        .ok ((shown dir peer_uid is_root).map fun name =>
          quarantineKeys.zip (entryFields name (entryMeta dir name))) := by
    have hframed : ∀ fs ∈ (shown dir peer_uid is_root).map fun name =>
        entryFields name (entryMeta dir name), Framed fs := by
      intro fs hfs
      obtain ⟨name, hname, rfl⟩ := List.mem_map.mp hfs
      exact framed_entry hdir (hmem name hname)
    have hparse := parse_rows_response hframed
    rw [List.map_map] at hparse
    rw [quarantine_list, list_response rfl (.inr rfl) hconn, sent_accept, List.nil_append]
    rw [show (fun name => tabbed (entryFields name (entryMeta dir name))) =
      tabbed ∘ fun name => entryFields name (entryMeta dir name) from rfl, hparse]
    refine (keyed_rows fun fs hfs => ?_).trans (by rw [List.map_map]; rfl)
    obtain ⟨name, hname, rfl⟩ := List.mem_map.mp hfs
    obtain ⟨path, rule, sha, ts, -, hfields, -⟩ := entry_row hdir (hmem name hname)
    rw [hfields]
    rfl
  have hctl : do_quarantine_list
      (cmd_quarantine_list ⟨true, true⟩ dir peer_uid is_root (Conn.accept fails)).sent =
        .ok ((shown dir peer_uid is_root).map fun name =>
          readRow (tabbed (entryFields name (entryMeta dir name)))) := by
    rw [list_response rfl (.inr rfl) hconn, sent_accept, List.nil_append,
      do_quarantine_list_rows, List.map_map]
    · rfl
    · intro r hr
      obtain ⟨name, hname, rfl⟩ := List.mem_map.mp hr
      obtain ⟨hlen, hplain⟩ := framed_entry hdir (hmem name hname)
      exact ⟨nl_notMem_tabbed hplain, tab_mem_tabbed hlen⟩
  have hrow : ∀ name ∈ shown dir peer_uid is_root,
      (readRow (tabbed (entryFields name (entryMeta dir name))) =
        lineOf (quarantineKeys.zip (entryFields name (entryMeta dir name))) ↔
          EntryLegible dir name) := by
    intro name hname
    obtain ⟨path, rule, sha, ts, hrow, hfields, hlegible⟩ := entry_row hdir (hmem name hname)
    rw [hfields, ← hlegible, ← readRow_iff hrow]
    rfl
  unfold ListAgrees
  rw [hgui, hctl]
  constructor
  · rintro ⟨rows, hrows, hlines⟩ name hname
    obtain rfl := Except.ok.inj hrows
    rw [List.map_map] at hlines
    exact (hrow name hname).mp (List.map_inj_left.mp (Except.ok.inj hlines) name hname)
  · intro hall
    refine ⟨_, rfl, ?_⟩
    rw [List.map_map]
    exact congrArg Except.ok (List.map_congr_left fun name hname =>
      (hrow name hname).mpr (hall name hname))

end Listing

section Scanning

variable {path : Bytes} {fails : Nat → Option Nat} {r : ScanResult}

/-- The report that says what the scan has found. -/
def reportOf (r : ScanResult) : ScanReport where
  verdict := if r.verdict = AV_VERDICT_MALICIOUS then lit "MALICIOUS" else lit "CLEAN"
  rule := r.rule_name
  score := r.score
  sha := r.sha256_hex

private theorem verdict_cases (r : ScanResult) :
    (reportOf r).verdict = lit "MALICIOUS" ∨ (reportOf r).verdict = lit "CLEAN" := by
  unfold reportOf
  dsimp only
  split
  · exact .inl rfl
  · exact .inr rfl

private theorem takeWhile_line (row t : Bytes) :
    (row ++ nl :: t).takeWhile (· ≠ nl) = row.takeWhile (· ≠ nl) := by
  induction row with
  | nil => simp
  | cons b row ih => rw [List.cons_append, List.takeWhile_cons, List.takeWhile_cons, ih]

/-- The line that is read of the row is what stands in front of its first newline. -/
private theorem do_scan_row (hpath : path.head? = some slash) (hline : nl ∉ path)
    (hlen : path.length ≤ PATH_MAX - 1) (row : Bytes) :
    do_scan path (Response.rows [row]).bytes =
      match readScan (row.takeWhile (· ≠ nl)) with
      | some r => .ok (r, scanText path r)
      | none => .error (lit "malformed scan response from avd") := by
  obtain ⟨cursor, hok, hskip⟩ := skip_header [row]
  have hnext : (next_line (unlines ([row] ++ [lit "END"]))).bind (fun x => readScan x.1) =
      readScan (row.takeWhile (· ≠ nl)) := by
    rw [List.singleton_append, unlines_cons, next_line, if_neg (by simp), Option.bind_some,
      takeWhile_line]
  rw [do_scan, if_neg (not_not.mpr hpath), if_neg (by rintro (h | h); exact hline h; omega), hok]
  dsimp only
  rw [hskip, hnext]

private theorem readScan_fields (h : ResultOk r) (hrule : Plain r.rule_name)
    (hsha : Plain r.sha256_hex) (hne : r.sha256_hex ≠ []) :
    readScan (tabbed (scanFields r)) = some (reportOf r) := by
  have hverdict : Plain (reportOf r).verdict ∧ (reportOf r).verdict ≠ [] ∧
      (reportOf r).verdict.length < 16 := by
    rcases verdict_cases r with hv | hv <;> rw [hv] <;> decide
  have hscore : Plain (fmtInt r.score) :=
    ⟨fmtInt_clean _ tab (by decide), fmtInt_clean _ nl (by decide)⟩
  have hfields : scanFields r =
    [(reportOf r).verdict, r.rule_name, fmtInt r.score, r.sha256_hex] := rfl
  have hplain : ∀ f ∈ scanFields r, Plain f := by
    rw [hfields]
    simp only [List.forall_mem_cons]
    exact ⟨hverdict.1, hrule, hscore, hsha, fun _ hf => absurd hf List.not_mem_nil⟩
  have hread : longPrefix (fmtInt r.score) = some (r.score, []) := by
    have happend := longPrefix_fmtInt r.score (t := []) rfl
    rwa [List.append_nil] at happend
  have hrule_le := h.rule_le
  have hsha_le := h.sha_le
  have hchecks : ¬ ((reportOf r).verdict = [] ∨ 16 ≤ (reportOf r).verdict.length ∨
      128 ≤ r.rule_name.length ∨ r.sha256_hex = [] ∨ 128 ≤ r.sha256_hex.length) := by
    rintro (h0 | h0 | h0 | h0 | h0)
    · exact hverdict.2.1 h0
    · omega
    · omega
    · exact hne h0
    · omega
  have hint : ¬ (r.score < INT_MIN ∨ INT_MAX < r.score) := by
    have hlo := h.score_lo
    have hhi := h.score_hi
    unfold INT_MIN INT_MAX
    omega
  rw [readScan, splitOn_tabbed hplain (by rw [hfields]; exact List.cons_ne_nil _ _), hfields]
  simp only [if_neg hchecks, hread, if_neg hint, if_pos (verdict_cases r)]
  rfl

/-- Whatever is read of a line without newlines, its rule and its digest are plain. -/
private theorem plain_of_readScan {line : Bytes} {report : ScanReport} (hline : nl ∉ line)
    (h : readScan line = some report) :
    Plain report.rule ∧ Plain report.sha ∧ report.sha ≠ [] := by
  rw [readScan] at h
  split at h
  · rename_i verdict rule score sha hsplit
    have hpiece : ∀ f ∈ [verdict, rule, score, sha], Plain f := by
      intro f hf
      rw [← hsplit] at hf
      obtain ⟨htab, hsub⟩ := splitOn_clean hf
      exact ⟨htab, fun hn => hline (hsub nl hn)⟩
    split at h
    · cases h
    rename_i hchecks
    split at h
    · split at h
      · cases h
      split at h
      · obtain rfl := Option.some.inj h
        exact ⟨hpiece rule (by simp), hpiece sha (by simp),
          fun h0 => hchecks (.inr (.inr (.inr (.inl h0))))⟩
      · cases h
    · cases h
  · cases h

/-- avctl reports what the scan has found exactly if the file was hashed, and the rule and the
digest are plain. -/
private theorem do_scan_iff (h : ResultOk r) (hconn : (Conn.accept fails).Reliable)
    (hpath : path.head? = some slash) (hline : nl ∉ path) (hlen : path.length ≤ PATH_MAX - 1) :
    do_scan path (sendOne (scanRow r) (Conn.accept fails)).sent =
      .ok (reportOf r, scanText path (reportOf r)) ↔
        Plain r.rule_name ∧ Plain r.sha256_hex ∧ r.sha256_hex ≠ [] := by
  rw [scan_response h hconn, sent_accept, List.nil_append, do_scan_row hpath hline hlen]
  have hclean : nl ∉ (tabbed (scanFields r)).takeWhile (· ≠ nl) := by
    intro hm
    simpa using List.mem_takeWhile_imp hm
  constructor
  · intro hread
    split at hread
    · rename_i report hreport
      obtain ⟨rfl, -⟩ := Prod.mk.inj (Except.ok.inj hread)
      exact plain_of_readScan hclean hreport
    · cases hread
  · rintro ⟨hrule, hsha, hne⟩
    have hread := readScan_fields h hrule hsha hne
    have hnl : nl ∉ tabbed (scanFields r) := by
      have hscore : nl ∉ fmtInt r.score := fmtInt_clean _ nl (by decide)
      have hverdict : nl ∉ (reportOf r).verdict := by
        rcases verdict_cases r with hv | hv <;> rw [hv] <;> decide
      have hfields : scanFields r =
        [(reportOf r).verdict, r.rule_name, fmtInt r.score, r.sha256_hex] := rfl
      have hne : nl ≠ tab := by decide
      rw [hfields]
      simp [tabbed, List.intercalate, List.intersperse, hverdict, hrule.2, hscore, hsha.2, hne]
    have hwhole : (tabbed (scanFields r)).takeWhile (· ≠ nl) = tabbed (scanFields r) := by
      refine List.takeWhile_eq_self_iff.mpr fun b hb => ?_
      rw [decide_eq_true_eq]
      rintro rfl
      exact hnl hb
    rw [hwhole, hread]

end Scanning

section Main

/-- What avd answers to a SCAN that goes through. -/
private theorem scan_sent {env : Env} {d d' : AvdState} {c c' : Conn} {path : Bytes} {fd : Nat}
    (hpath : path.head? = some slash) (hopened : env.scan.opened = some fd)
    (hregular : env.scan.regular = true) (hfcntl : env.scan.fcntl_ok = true)
    (hscan : cmd_scan env path d c = some (d', c')) :
    c' = sendOne (scanRow (scanResult env)) c := by
  rw [cmd_scan, if_neg (not_not.mpr hpath), hopened] at hscan
  simp only [hregular, hfcntl, Bool.not_true, Bool.false_eq_true, if_false] at hscan
  obtain ⟨F, -, hout⟩ := Option.map_eq_some_iff.mp hscan
  exact (Prod.mk.inj hout).2.symm

/-- avctl reads the reply to SCAN as it was meant exactly if the file was hashed and the texts are
plain, and the rows of QUARANTINE LIST exactly if they are all legible. -/
theorem avctl_reads_replies_iff {env : Env} {d d' : AvdState} {c' : Conn} {path : Bytes} {fd : Nat}
    {fails : Nat → Option Nat} (hconn : (Conn.accept fails).Reliable)
    (hpath : path.head? = some slash) (hline : nl ∉ path) (hlen : path.length ≤ PATH_MAX - 1)
    (hopened : env.scan.opened = some fd) (hregular : env.scan.regular = true)
    (hfcntl : env.scan.fcntl_ok = true)
    (hscan : cmd_scan env path d (Conn.accept fails) = some (d', c'))
    {dir : Directory} (hdir : PlainDirectory dir) (peer_uid : UInt32) (is_root : Bool) :
    (do_scan path c'.sent =
        .ok (reportOf (scanResult env), scanText path (reportOf (scanResult env))) ↔
      Plain (scanResult env).rule_name ∧ Plain (scanResult env).sha256_hex ∧
        (scanResult env).sha256_hex ≠ []) ∧
    (ListAgrees
        (cmd_quarantine_list ⟨true, true⟩ dir peer_uid is_root (Conn.accept fails)).sent ↔
      ∀ name ∈ shown dir peer_uid is_root, EntryLegible dir name) := by
  obtain rfl := scan_sent hpath hopened hregular hfcntl hscan
  exact ⟨do_scan_iff (resultOk_scan env) hconn hpath hline hlen,
    listAgrees_iff hdir hconn peer_uid is_root⟩

/-- One regular file, and no names. -/
private def namelessFile : Daemon.Quarantine.Fs where
  names _ := none
  inodes _ := ⟨0, Lib.Files.S_IFREG, Daemon.Quarantine.user, Daemon.Quarantine.user, []⟩
  links _ := 0
  next := 1
  names_lt := nofun

/-- A daemon without rules, which scans a file with the given digest; its quarantine has one entry
with the given rule and digest. -/
private def plainDaemon (sha256 : Option Bytes) (rule sha : Bytes) : Env where
  S := Daemon.Quarantine.twoDirs
  L := ⟨fun _ => [], fun _ _ => 0, fun _ _ => 0⟩
  D := ⟨false, [], []⟩
  status := ⟨0, false, 0, 0, 0, 1⟩
  alloc := true
  list_io := ⟨true, true⟩
  dir :=
    { entries := [lit "a.quarantined"]
      sidecar := fun _ => some (unlines [lit "RULE_NAME=" ++ rule, lit "SHA256=" ++ sha,
        lit "ORIGINAL_PATH=/a"])
      short := Nat.lt_of_sub_eq_succ rfl
      name_le := by decide }
  scan :=
    { opened := some 0, regular := true, fcntl_ok := true, owner_uid := 1000, time := 0
      io := ⟨some (0, 0), sha256, true, [], 0, ⟨none, true, true, true, [], fun _ => true, true⟩,
        ⟨none, true, .tooShort⟩, true⟩ }
  outcomes := []

private def booted : AvdState := ⟨namelessFile, Daemon.VerdictHistory.History.boot⟩

/-- With a digest the scan is reported, and a row with a rule and a digest is printed. -/
theorem avctl_reads_replies_plain : ∃ d' c',
    cmd_scan (plainDaemon (some (lit "00")) (lit "eicar") (lit "00")) (lit "/a") booted
      (Conn.accept fun _ => none) = some (d', c') ∧
    do_scan (lit "/a") c'.sent = .ok (⟨lit "CLEAN", [], 0, lit "00"⟩,
      lit "CLEAN: /a\nsha256: 00\n") := by
  refine ⟨_, _, rfl, ?_⟩
  have h := @avctl_reads_replies_iff (plainDaemon (some (lit "00")) (lit "eicar") (lit "00"))
    booted _ _ (lit "/a") 0 (fun _ => none) (fun _ => rfl) rfl (by decide)
    (Nat.le_of_ble_eq_true rfl) rfl rfl rfl rfl
    (plainDaemon none (lit "eicar") (lit "00")).dir ⟨by decide, by decide⟩ 0 true
  exact h.1.mpr ⟨by decide, by decide, by decide⟩

/-- The OK reply of a file that could not be hashed is refused, and the row of an entry without a
digest is not printed, although av-gui decodes it. -/
theorem avctl_misreads_replies :
    (∃ d' c', cmd_scan (plainDaemon none [] []) (lit "/a") booted (Conn.accept fun _ => none) =
        some (d', c') ∧ c'.sent = lit "OK\nCOUNT 1\nCLEAN\t\t0\t\nEND\n" ∧
      do_scan (lit "/a") c'.sent = .error (lit "malformed scan response from avd")) ∧
    ∃ resp : Bytes, (cmd_quarantine_list ⟨true, true⟩ (plainDaemon none (lit "eicar") []).dir 0 true
        (Conn.accept fun _ => none)).sent = resp ∧
      quarantine_list resp = .ok [[(lit "id", lit "a"), (lit "original_path", lit "/a"),
        (lit "timestamp", lit "0"), (lit "rule_name", lit "eicar"), (lit "sha256", [])]] ∧
      do_quarantine_list resp = .ok [none] :=
  ⟨⟨_, _, rfl, by decide, by decide⟩, _, rfl, by decide, by decide⟩

end Main

end KernelAv.Userspace.AvctlReplies
