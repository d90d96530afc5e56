/- digest: The command that each entry is saved as, and what the kernel makes of it on a load. -/

import KernelAv.Userspace.StateInvariant

set_option autoImplicit false
set_option relaxedAutoImplicit false

namespace KernelAv.Userspace.StateLines

open KernelAv.Lib.CText
open KernelAv.Lib.Lines (nl unlines fgetsAll fgetsAll_unlines after after_append)
open KernelAv.Lib.StdScanf (word texts)
open KernelAv.Kernel
open KernelAv.Kernel.Paths (PATH_MAX slash)
open KernelAv.Kernel.BehaviorTable (KernelHash)
open KernelAv.Kernel.SigTable
open KernelAv.Kernel.SigTableRefinement (isLowerHex)
open KernelAv.Kernel.TrustTable (TrustEntry SHA256_HEX_LEN av_behavior_trust_add)
open KernelAv.Kernel.ProtectTable (av_behavior_protect_add)
open KernelAv.Kernel.ListTables (Absolute)
open KernelAv.Kernel.ProcWrite
open KernelAv.Userspace.Avctl
open KernelAv.Userspace.StateFile
open KernelAv.Userspace.StateInvariant

def sigCommand (e : SigEntry) : Bytes := lit "sig add " ++ sigRow e

def trustCommand (e : TrustEntry) : Bytes := lit "trust add " ++ trustRow e

def protectCommand (path : Bytes) : Bytes := lit "protect add " ++ path

def policyCommand (av_daemon_fail_closed : Bool) : Bytes :=
  lit "policy " ++ policyRow av_daemon_fail_closed

section Rows

variable {H : KernelHash}

/-- The rows of the listings. -/
def rows (s : ProcState H) : ProcFile → List Bytes
  | .signatures => s.sig.sig_table.entries.map sigRow
  | .trusted => s.trust.entries.map trustRow
  | .protected_paths => s.protected_table.entries
  | .daemon_policy => [policyRow s.av_daemon_fail_closed]

theorem listing_eq (s : ProcState H) (file : ProcFile) :
    listing s file = unlines (rows s file) := by
  cases file <;> rfl

/-- No protected path contains a newline; the names that the kernel reads cannot. -/
def OneLine (s : ProcState H) : Prop := ∀ p ∈ s.protected_table.entries, nl ∉ p

/-- The commands for what the four files list, each at the time it is read. -/
def commands (now : ProcFile → ProcState H) : List Bytes :=
  (now .signatures).sig.sig_table.entries.map sigCommand ++
    ((now .trusted).trust.entries.map trustCommand ++
      ((now .protected_paths).protected_table.entries.map protectCommand ++
        [policyCommand (now .daemon_policy).av_daemon_fail_closed]))

end Rows

section Fields

variable {e : SigEntry} {x : TrustEntry} {name ending : Bytes}

/-- The white space of the C locale is white space for the kernel. -/
private theorem std_isspace {b : UInt8} (h : Lib.Scanf.isspace b = false) : isspace b = false := by
  unfold Lib.Scanf.isspace at h
  unfold isspace
  simp at h ⊢
  exact ⟨h.1.2, h.1.1⟩

private theorem hex_no_space {b : UInt8} (h : isLowerHex b = true) :
    Lib.Scanf.isspace b = false := by
  have hdigit : isxdigit b = true := by
    rw [isLowerHex, Bool.and_eq_true] at h
    exact h.1
  unfold isxdigit at hdigit
  simp at hdigit
  unfold Lib.Scanf.isspace
  simp
  refine ⟨⟨fun _ => by omega, ?_⟩, ?_⟩
  · rintro rfl
    simp at hdigit
  · rintro rfl
    simp at hdigit

private theorem algo_word (a : AvAlgo) : Lib.StdScanf.IsWord (algo_name a) ∧
    (algo_name a).length ≤ 6 ∧ (0 : UInt8) ∉ algo_name a ∧ nl ∉ algo_name a := by
  cases a <;> exact ⟨Lib.StdScanf.isWord_of_all (by decide) rfl, by decide, by decide, by decide⟩

/-- A word of the kernel is one of the C library. -/
private theorem hex_word {hex : Bytes} (hne : hex ≠ [])
    (h : ∀ b ∈ hex, Lib.Scanf.isspace b = false) : Lib.StdScanf.IsWord hex :=
  ⟨hne, fun b hb => std_isspace (h b hb)⟩

private theorem not_mem_of_no_space {hex : Bytes} (h : ∀ b ∈ hex, Lib.Scanf.isspace b = false) :
    nl ∉ hex := by
  intro hnl
  have hspace := h nl hnl
  exact absurd hspace (by decide)

private theorem sig_hex (h : KeptSig e) : (∀ b ∈ e.hex, Lib.Scanf.isspace b = false) ∧
    e.hex ≠ [] ∧ e.hex.length ≤ 64 ∧ (0 : UInt8) ∉ e.hex := by
  have hdigit : ∀ b ∈ e.hex, isLowerHex b = true := List.all_eq_true.mp h.digits
  refine ⟨fun b hb => hex_no_space (hdigit b hb), ?_, ?_, ?_⟩
  · intro hnil
    have hlen := h.length_eq
    rw [hnil] at hlen
    have hpos := SigTableRefinement.hexlen_pos e.algo
    rw [← hlen] at hpos
    exact absurd hpos (by decide)
  · rw [h.length_eq]
    exact SigTableRefinement.hexlen_le e.algo
  · intro hzero
    have hlow := hdigit 0 hzero
    exact absurd hlow (by decide)

private theorem trust_hex (h : KeptTrust x) : x.sha256_hex ≠ [] ∧ x.sha256_hex.length = 64 := by
  have hlen : x.sha256_hex.length = 64 := h.canonical.length_eq
  refine ⟨?_, hlen⟩
  intro hnil
  rw [hnil] at hlen
  cases hlen

/-- The two fields of a row behind a blank, and the blank between them, are a line. -/
private theorem row_line {u v : Bytes} (hu : IsLine u) (hv : IsLine v) :
    IsLine (u ++ blank :: v) := by
  constructor
  · rw [List.mem_append, List.mem_cons, not_or, not_or]
    exact ⟨hu.1, by decide, hv.1⟩
  · rw [List.mem_append, List.mem_cons, not_or, not_or]
    exact ⟨hu.2, by decide, hv.2⟩

theorem sigRow_line (h : KeptSig e) : IsLine (sigRow e) ∧ (sigRow e).length ≤ 135 := by
  obtain ⟨-, halgo, hnul, hnl⟩ := algo_word e.algo
  obtain ⟨hspace, -, hlen, hzero⟩ := sig_hex h
  have hname : e.name.length ≤ 63 := h.name.length_le
  constructor
  · exact row_line ⟨hnl, hnul⟩ (row_line ⟨not_mem_of_no_space hspace, hzero⟩ h.name.line)
  · simp only [sigRow, List.length_append, List.length_cons]
    omega

theorem trustRow_line (h : KeptTrust x) : IsLine (trustRow x) ∧ (trustRow x).length ≤ 128 := by
  obtain ⟨-, hlen⟩ := trust_hex h
  have hname : x.name.length ≤ 63 := h.name.length_le
  constructor
  · exact row_line ⟨not_mem_of_no_space h.no_space, h.no_nul⟩ h.name.line
  · simp only [trustRow, List.length_append, List.length_cons]
    omega

/-- The last field of the formats is the name, with a newline behind it or nothing. -/
private theorem std_name {width : Nat} (h : KeptName name) (hwidth : AVCTL_NAME_MAXLEN ≤ width)
    (hending : ending = [] ∨ ending = [nl]) :
    Lib.StdScanf.sscanf [.space, .upTo width [nl]] (blank :: (name ++ ending)) = [.text name] := by
  have htight : Lib.StdScanf.Tight (name ++ ending) := by
    refine Lib.StdScanf.Tight.append (fun b hb => ?_) h.ne_nil
    exact std_isspace (h.head b hb)
  have hstop : ∀ b ∈ name, b ∉ [nl] := by
    intro b hb hnl
    rw [List.mem_singleton.mp hnl] at hb
    exact h.line.1 hb
  have hlen : name.length ≤ width := h.length_le.trans hwidth
  rw [Lib.StdScanf.sscanf_space (by decide) htight]
  rcases hending with rfl | rfl
  · rw [List.append_nil, Lib.StdScanf.sscanf_upTo_end hstop h.ne_nil hlen]
    rfl
  · rw [Lib.StdScanf.sscanf_upTo hstop h.ne_nil hlen (List.mem_singleton.mpr rfl)]
    rfl

end Fields

section Saving

variable {e : SigEntry} {x : TrustEntry} {path : Bytes}

private theorem cstr_line {u : Bytes} (h : IsLine u) : cstr (u ++ [nl]) = u ++ [nl] := by
  apply cstr_eq_self
  rw [List.mem_append, not_or]
  exact ⟨h.2, by decide⟩

theorem saveSig_row (h : KeptSig e) : saveSig (sigRow e ++ [nl]) = some (sigCommand e) := by
  obtain ⟨halgo, hlen, -, -⟩ := algo_word e.algo
  obtain ⟨hspace, hne, hhex, -⟩ := sig_hex h
  have hrow : sigRow e ++ [nl] =
      algo_name e.algo ++ blank :: (e.hex ++ blank :: (e.name ++ [nl])) := by
    simp only [sigRow, List.append_assoc, List.cons_append]
  have hscan : Lib.StdScanf.sscanf saveSigFormat (sigRow e ++ [nl]) =
      [.text (algo_name e.algo), .text e.hex, .text e.name] := by
    rw [hrow, saveSigFormat, Lib.StdScanf.sscanf_word halgo (by omega) (by decide),
      Lib.StdScanf.sscanf_space_word (by decide) (hex_word hne hspace) hhex (by decide),
      std_name h.name (by decide) (.inr rfl)]
  rw [saveSig, cstr_line (sigRow_line h).1, hscan]
  rfl

theorem saveTrust_row (h : KeptTrust x) :
    saveTrust (trustRow x ++ [nl]) = some (trustCommand x) := by
  obtain ⟨hne, hlen⟩ := trust_hex h
  have hrow : trustRow x ++ [nl] = x.sha256_hex ++ blank :: (x.name ++ [nl]) := by
    simp only [trustRow, List.append_assoc, List.cons_append]
  have hscan : Lib.StdScanf.sscanf saveTrustFormat (trustRow x ++ [nl]) =
      [.text x.sha256_hex, .text x.name] := by
    rw [hrow, saveTrustFormat,
      Lib.StdScanf.sscanf_word (hex_word hne h.no_space) hlen.le (by decide),
      std_name h.name (by decide) (.inr rfl)]
  rw [saveTrust, cstr_line (trustRow_line h).1, hscan]
  rfl

theorem absolute_cons (h : Absolute path) : ∃ rest, path = slash :: rest := by
  cases path with
  | nil => cases h.1
  | cons a rest => exact ⟨rest, by rw [Option.some.inj h.1]⟩

theorem saveProtect_row (h : KeptPath path) (hnl : nl ∉ path) :
    saveProtect (path ++ [nl]) = some (protectCommand path) := by
  obtain ⟨rest, rfl⟩ := absolute_cons h.absolute
  rw [saveProtect, cstr_line ⟨hnl, h.no_nul⟩, chomp_line]
  exact if_neg (List.cons_ne_nil _ _)

theorem savePolicy_row (b : Bool) : savePolicy (policyRow b ++ [nl]) = some (policyCommand b) := by
  cases b <;> rfl

variable {H : KernelHash} {s : ProcState H}

theorem rows_fit (hk : Kept s) (hline : OneLine s) (file : ProcFile) :
    ∀ row ∈ rows s file, nl ∉ row ∧ row.length + 1 < LINE_SIZE := by
  have hsize : LINE_SIZE = 4112 := rfl
  intro row hrow
  cases file with
  | signatures =>
    obtain ⟨e, he, rfl⟩ := List.mem_map.mp hrow
    obtain ⟨hl, hlen⟩ := sigRow_line (hk.sigs e he)
    exact ⟨hl.1, by omega⟩
  | trusted =>
    obtain ⟨x, hx, rfl⟩ := List.mem_map.mp hrow
    obtain ⟨hl, hlen⟩ := trustRow_line (hk.trusts x hx)
    exact ⟨hl.1, by omega⟩
  | protected_paths =>
    have hlen := (hk.paths row hrow).absolute.2
    have hmax : PATH_MAX = 4096 := rfl
    exact ⟨hline row hrow, by omega⟩
  | daemon_policy =>
    rw [List.mem_singleton.mp hrow]
    cases s.av_daemon_fail_closed <;> decide

private theorem tagged_line {tag row : Bytes} (htag : IsLine tag) (hrow : IsLine row) :
    IsLine (tag ++ row) := by
  constructor
  · rw [List.mem_append, not_or]
    exact ⟨htag.1, hrow.1⟩
  · rw [List.mem_append, not_or]
    exact ⟨htag.2, hrow.2⟩

/-- Every command is a line that the buffer of a load has room for. -/
theorem commands_fit {now : ProcFile → ProcState H} (hk : ∀ file, Kept (now file))
    (hline : ∀ file, OneLine (now file)) :
    ∀ l ∈ commands now, IsLine l ∧ l.length + 1 < LINE_SIZE := by
  have hsize : LINE_SIZE = 4112 := rfl
  intro l hl
  rcases List.mem_append.mp hl with hl | hl
  · obtain ⟨e, he, rfl⟩ := List.mem_map.mp hl
    obtain ⟨hrow, hlen⟩ := sigRow_line ((hk .signatures).sigs e he)
    have htag : (lit "sig add ").length = 8 := rfl
    refine ⟨tagged_line ⟨by decide, by decide⟩ hrow, ?_⟩
    rw [sigCommand, List.length_append]
    omega
  rcases List.mem_append.mp hl with hl | hl
  · obtain ⟨x, hx, rfl⟩ := List.mem_map.mp hl
    obtain ⟨hrow, hlen⟩ := trustRow_line ((hk .trusted).trusts x hx)
    have htag : (lit "trust add ").length = 10 := rfl
    refine ⟨tagged_line ⟨by decide, by decide⟩ hrow, ?_⟩
    rw [trustCommand, List.length_append]
    omega
  rcases List.mem_append.mp hl with hl | hl
  · obtain ⟨p, hp, rfl⟩ := List.mem_map.mp hl
    have hpath := (hk .protected_paths).paths p hp
    have hlen := hpath.absolute.2
    have hmax : PATH_MAX = 4096 := rfl
    have htag : (lit "protect add ").length = 12 := rfl
    refine ⟨tagged_line ⟨by decide, by decide⟩ ⟨hline _ p hp, hpath.no_nul⟩, ?_⟩
    rw [protectCommand, List.length_append]
    omega
  · rw [List.mem_singleton.mp hl]
    unfold IsLine
    cases (now .daemon_policy).av_daemon_fail_closed <;> decide

end Saving

section Loading

variable {H : KernelHash} {e : SigEntry} {x : TrustEntry} {path : Bytes} (s : ProcState H)

/-- The replayed addition of a signature. -/
def addSig (s : ProcState H) (e : SigEntry) : Int × ProcState H :=
  let r := av_sigtable_add s.sig true e.algo.val e.hex e.name
  (r.1, { s with sig := r.2 })

/-- The replayed addition of a trusted hash, whose failures all look the same. -/
def addTrust (s : ProcState H) (x : TrustEntry) : Int × ProcState H :=
  let r := av_behavior_trust_add s.trust true x.sha256_hex x.name
  (if r.1 = 0 then 0 else -EINVAL, { s with trust := r.2 })

/-- The path that the kernel reads for a path at the end of a line. -/
def bare (path : Bytes) : Bytes := if path.getLast? = some cr then path.dropLast else path

def addPath (s : ProcState H) (path : Bytes) : Int × ProcState H :=
  let r := av_behavior_protect_add s.protected_table true (bare path)
  (r.1, { s with protected_table := r.2 })

def setPolicy (s : ProcState H) (b : Bool) : Int × ProcState H :=
  (0, { s with av_daemon_fail_closed := b })

private theorem write_root (file : ProcFile) (cmd : Bytes) :
    write_command_to s .root file cmd =
      (if (procWrite s (RunEnv.root.call (cmd ++ [nl])) file).1 < 0 then
        (procWrite s (RunEnv.root.call (cmd ++ [nl])) file).1 else 0,
        (procWrite s (RunEnv.root.call (cmd ++ [nl])) file).2) := by
  show (if (procWrite s (RunEnv.root.call (cmd ++ [nl])) file).1 < 0 then _ else _) = _
  split
  · rfl
  · rfl

/-- What is returned for the handler's reply to an addition. -/
private theorem reply_ret {α : Type} (w : WriteCall) {r : Int × α} {err : Int}
    (herr : r.1 ≠ 0 → err < 0) :
    (if (reply w r err).1 < 0 then (reply w r err).1 else 0) = (if r.1 = 0 then 0 else err) ∧
      (reply w r err).2 = r.2 := by
  unfold reply
  by_cases hr : r.1 = 0
  · rw [if_pos hr, if_pos hr]
    exact ⟨if_neg (not_lt.mpr (Int.natCast_nonneg _)), rfl⟩
  · rw [if_neg hr, if_neg hr]
    exact ⟨if_pos (herr hr), rfl⟩

private theorem add_line (row : Bytes) :
    lit "add " ++ row ++ [nl] = lit "add" ++ blank :: (row ++ [nl]) := rfl

private theorem add_clean {row : Bytes} (h : IsLine row) :
    cstr (lit "add " ++ row ++ [nl]) = lit "add" ++ blank :: (row ++ [nl]) := by
  rw [add_line]
  apply cstr_eq_self
  rw [List.mem_append, List.mem_cons, List.mem_append, not_or, not_or, not_or]
  exact ⟨by decide, by decide, h.2, by decide⟩

private theorem kept_fits {name : Bytes} (h : KeptName name) : Fits name AVCTL_NAME_MAXLEN :=
  ⟨h.line.1, h.length_le⟩

/-- The name at the end of the line comes out as it is. -/
private theorem kernel_name {hex name : Bytes} (hword : Lib.Scanf.IsWord hex)
    (hlen : hex.length ≤ 64) (h : KeptName name) :
    Lib.Scanf.sscanf hexName (blank :: (hex ++ blank :: (name ++ [nl]))) = [hex, name] := by
  have hnl : nl ∉ hex := not_mem_of_no_space hword.2
  have hskip : Lib.Scanf.skip_spaces name = name := skip_spaces_eq_self_iff.mpr h.head
  rw [sscanf_hex_name hword ⟨hnl, hlen⟩ (kept_fits h), hskip, if_neg h.ne_nil]

private theorem sig_written (t : SigTable.Table H) (h : KeptSig e) :
    sig_proc_write t (RunEnv.root.call (lit "add " ++ sigRow e ++ [nl])) =
      reply (RunEnv.root.call (lit "add " ++ sigRow e ++ [nl]))
        (av_sigtable_add t true e.algo.val e.hex e.name)
        (av_sigtable_add t true e.algo.val e.hex e.name).1 := by
  obtain ⟨hline, hlen⟩ := sigRow_line h
  obtain ⟨hspace, hne, hhex, -⟩ := sig_hex h
  have hcount : ¬ 256 ≤ (RunEnv.root.call (lit "add " ++ sigRow e ++ [nl])).count := by
    show ¬ 256 ≤ (lit "add" ++ blank :: (sigRow e ++ [nl])).length
    have hword : (lit "add").length = 3 := rfl
    simp only [List.length_append, List.length_cons, List.length_nil, hword]
    omega
  have hcheck : check_algo (algo_name e.algo) = true := by cases e.algo <;> decide
  have hrow : sigRow e ++ [nl] =
      algo_name e.algo ++ blank :: (e.hex ++ blank :: (e.name ++ [nl])) := by
    simp only [sigRow, List.append_assoc, List.cons_append]
  have hscan : Lib.Scanf.sscanf sigFormat (cstr (lit "add " ++ sigRow e ++ [nl])) =
      [lit "add", algo_name e.algo, e.hex, e.name] := by
    rw [add_clean hline, hrow, sscanf_sig (lit "add") _ (by decide) (by decide) hcheck,
      kernel_name ⟨hne, hspace⟩ hhex h.name]
  have halgo : parse_algo (algo_name e.algo) = some e.algo := by cases e.algo <;> decide
  have hadd : strcaseeq (lit "add") (lit "add") = true := by decide
  set w := RunEnv.root.call (lit "add " ++ sigRow e ++ [nl]) with hw
  have hcapable : w.capable = true := rfl
  have hcopy : w.copy_ok = true := rfl
  have hbuf : w.ubuf = lit "add " ++ sigRow e ++ [nl] := rfl
  unfold sig_proc_write
  rw [hbuf, hscan]
  simp only [hcapable, hcount, hcopy, Bool.not_true, Bool.false_eq_true, if_false, halgo]
  exact if_pos hadd

private theorem trust_written (t : TrustTable.Table H) (h : KeptTrust x) :
    trust_proc_write t (RunEnv.root.call (lit "add " ++ trustRow x ++ [nl])) =
      reply (RunEnv.root.call (lit "add " ++ trustRow x ++ [nl]))
        (av_behavior_trust_add t true x.sha256_hex x.name) (-EINVAL) := by
  obtain ⟨hline, hlen⟩ := trustRow_line h
  obtain ⟨hne, hhex⟩ := trust_hex h
  have hcount : ¬ 192 ≤ (RunEnv.root.call (lit "add " ++ trustRow x ++ [nl])).count := by
    show ¬ 192 ≤ (lit "add" ++ blank :: (trustRow x ++ [nl])).length
    have hword : (lit "add").length = 3 := rfl
    simp only [List.length_append, List.length_cons, List.length_nil, hword]
    omega
  have hrow : trustRow x ++ [nl] = x.sha256_hex ++ blank :: (x.name ++ [nl]) := by
    simp only [trustRow, List.append_assoc, List.cons_append]
  have hscan : Lib.Scanf.sscanf trustFormat (cstr (lit "add " ++ trustRow x ++ [nl])) =
      [lit "add", x.sha256_hex, x.name] := by
    rw [add_clean hline, hrow, sscanf_trust (lit "add") _ (by decide) (by decide),
      kernel_name ⟨hne, h.no_space⟩ hhex.le h.name]
  have hadd : strcaseeq (lit "add") (lit "add") = true := by decide
  set w := RunEnv.root.call (lit "add " ++ trustRow x ++ [nl]) with hw
  have hcapable : w.capable = true := rfl
  have hcopy : w.copy_ok = true := rfl
  have hbuf : w.ubuf = lit "add " ++ trustRow x ++ [nl] := rfl
  unfold trust_proc_write
  rw [hbuf, hscan]
  simp only [hcapable, hcount, hcopy, Bool.not_true, Bool.false_eq_true, if_false]
  exact if_pos hadd

theorem bare_absolute (h : Absolute path) : Absolute (bare path) := by
  obtain ⟨rest, rfl⟩ := absolute_cons h
  unfold bare
  split
  · rename_i hcr
    cases rest with
    | nil => exact absurd hcr (by decide)
    | cons b rest =>
      refine ⟨rfl, lt_of_le_of_lt ?_ h.2⟩
      exact (List.dropLast_prefix _).length_le
  · exact h

private theorem path_written (t : ProtectTable.Table H) (h : KeptPath path) (hnl : nl ∉ path) :
    protected_proc_write t (RunEnv.root.call (lit "add " ++ path ++ [nl])) =
      reply (RunEnv.root.call (lit "add " ++ path ++ [nl]))
        (av_behavior_protect_add t true (bare path))
        (av_behavior_protect_add t true (bare path)).1 := by
  have hbare := bare_absolute h.absolute
  have hcount : ¬ PROTECTED_WRITE_MAXLEN ≤
      (RunEnv.root.call (lit "add " ++ path ++ [nl])).count := by
    show ¬ PATH_MAX + 16 ≤ (lit "add" ++ blank :: (path ++ [nl])).length
    have hword : (lit "add").length = 3 := rfl
    have hshort := h.absolute.2
    simp only [List.length_append, List.length_cons, List.length_nil, hword]
    omega
  have hcstr : cstr (RunEnv.root.call (lit "add " ++ path ++ [nl])).ubuf =
      lit "add" ++ blank :: (path ++ [nl]) := add_clean ⟨hnl, h.no_nul⟩
  have hscan : Lib.Scanf.sscanf [.word 7] (lit "add" ++ blank :: (path ++ [nl])) = [lit "add"] := by
    rw [Lib.Scanf.sscanf_word (by decide) (by decide) (by decide)]
    rfl
  have hafter : afterCommand (lit "add" ++ blank :: (path ++ [nl])) = path ++ [nl] := by
    obtain ⟨rest, rfl⟩ := absolute_cons h.absolute
    rfl
  have hvalid : ¬ (bare path = [] ∨ PATH_MAX ≤ (bare path).length) := by
    rintro (hnil | hlong)
    · obtain ⟨rest, hcons⟩ := absolute_cons hbare
      rw [hcons] at hnil
      cases hnil
    · exact absurd hbare.2 (not_lt.mpr hlong)
  have hadd : strcaseeq (lit "add") (lit "add") = true := by decide
  have hstrip : stripTerminator (path ++ [nl]) = some (bare path) := stripTerminator_line path
  set w := RunEnv.root.call (lit "add " ++ path ++ [nl]) with hw
  have hcapable : w.capable = true := rfl
  have hppos : w.ppos = 0 := rfl
  have hkbuf : w.kbuf_ok = true := rfl
  have hpath : w.path_ok = true := rfl
  have hcopy : w.copy_ok = true := rfl
  unfold protected_proc_write
  rw [hcstr, hscan]
  simp only [hcapable, hppos, hcount, hkbuf, hpath, hcopy, hafter, hstrip, hvalid,
    strscpy_eq_self hbare.2, ne_eq, not_true_eq_false, Bool.not_true, Bool.or_self,
    Bool.false_eq_true, if_false]
  exact if_pos hadd

/-- An addition to the signature file, as `avctl` sends it. -/
theorem write_sig (h : KeptSig e) :
    write_command_to s .root .signatures (lit "add " ++ sigRow e) = addSig s e := by
  have hneg : (av_sigtable_add s.sig true e.algo.val e.hex e.name).1 ≠ 0 →
      (av_sigtable_add s.sig true e.algo.val e.hex e.name).1 < 0 := fun hne =>
    lt_of_le_of_ne (add_ret _ _ _ _ _) hne
  obtain ⟨hret, hput⟩ := reply_ret (RunEnv.root.call (lit "add " ++ sigRow e ++ [nl])) hneg
  rw [write_root]
  simp only [procWrite, sig_written s.sig h, hret, hput, addSig]
  rw [Prod.mk.injEq]
  refine ⟨?_, rfl⟩
  split
  · rename_i hzero
    exact hzero.symm
  · rfl

theorem write_trust (h : KeptTrust x) :
    write_command_to s .root .trusted (lit "add " ++ trustRow x) = addTrust s x := by
  have hneg : (av_behavior_trust_add s.trust true x.sha256_hex x.name).1 ≠ 0 → -EINVAL < 0 :=
    fun _ => by decide
  obtain ⟨hret, hput⟩ := reply_ret (RunEnv.root.call (lit "add " ++ trustRow x ++ [nl])) hneg
  rw [write_root]
  simp only [procWrite, trust_written s.trust h, hret, hput, addTrust]

theorem write_path (h : KeptPath path) (hnl : nl ∉ path) :
    write_command_to s .root .protected_paths (lit "add " ++ path) = addPath s path := by
  have hneg : (av_behavior_protect_add s.protected_table true (bare path)).1 ≠ 0 →
      (av_behavior_protect_add s.protected_table true (bare path)).1 < 0 := by
    intro hne
    rcases ProtectTable.protect_add_spec s.protected_table true (bare path) with
      ⟨hret, -⟩ | ⟨hret, -⟩
    · exact absurd hret hne
    · exact hret
  obtain ⟨hret, hput⟩ := reply_ret (RunEnv.root.call (lit "add " ++ path ++ [nl])) hneg
  rw [write_root]
  simp only [procWrite, path_written s.protected_table h hnl, hret, hput, addPath]
  rw [Prod.mk.injEq]
  refine ⟨?_, rfl⟩
  split
  · rename_i hzero
    exact hzero.symm
  · rfl

theorem write_policy (b : Bool) :
    write_command_to s .root .daemon_policy (policyRow b) = setPolicy s b := by
  have hpolicy : ∀ old : Bool, daemon_policy_proc_write old
      (RunEnv.root.call (policyRow b ++ [nl])) =
        ((((policyRow b).length + 1 : Nat) : Int), b) := by
    intro old
    cases b <;> cases old <;> rfl
  rw [write_root]
  simp only [procWrite, hpolicy, setPolicy]
  rw [if_neg (not_lt.mpr (Int.natCast_nonneg _))]

end Loading

section Lines

variable {H : KernelHash} {e : SigEntry} {x : TrustEntry} {path : Bytes} (st : LoadState H)

private theorem valid_sig (h : KeptSig e) :
    validate_sig_or_trust_fields .signatures (lit "add " ++ sigRow e) = true := by
  obtain ⟨halgo, hlen, -, -⟩ := algo_word e.algo
  obtain ⟨hspace, hne, hhex, -⟩ := sig_hex h
  have hadd : Lib.StdScanf.IsWord (lit "add") := Lib.StdScanf.isWord_of_all (by decide) rfl
  have hrest : lit "add " ++ sigRow e =
      lit "add" ++ blank :: (algo_name e.algo ++ blank :: (e.hex ++ blank :: (e.name ++ []))) := by
    rw [List.append_nil]
    rfl
  have hcheck : check_algo (algo_name e.algo) = true := by cases e.algo <;> decide
  have hhexfits : check_field_len e.hex AVCTL_HASH_HEX_MAXLEN = true := by
    have hnl := not_mem_of_no_space hspace
    simp [check_field_len, hnl, AVCTL_HASH_HEX_MAXLEN, hhex]
  have hnamefits : check_field_len e.name AVCTL_NAME_MAXLEN = true := by
    simp [check_field_len, h.name.line.1, h.name.length_le]
  rw [validate_sig_or_trust_fields, if_pos rfl, hrest,
    Lib.StdScanf.sscanf_word hadd (by decide) (by decide),
    Lib.StdScanf.sscanf_space_word (by decide) halgo (by omega) (by decide),
    Lib.StdScanf.sscanf_space_word (by decide) (hex_word hne hspace) (by omega) (by decide),
    std_name h.name (by decide) (.inl rfl)]
  show (check_algo (algo_name e.algo) && check_field_len e.hex AVCTL_HASH_HEX_MAXLEN &&
    [e.name].all fun field_b => check_field_len field_b AVCTL_NAME_MAXLEN) = true
  rw [hcheck, hhexfits, List.all_cons, hnamefits]
  rfl

private theorem valid_trust (h : KeptTrust x) :
    validate_sig_or_trust_fields .trusted (lit "add " ++ trustRow x) = true := by
  obtain ⟨hne, hhex⟩ := trust_hex h
  have hadd : Lib.StdScanf.IsWord (lit "add") := Lib.StdScanf.isWord_of_all (by decide) rfl
  have hrest : lit "add " ++ trustRow x =
      lit "add" ++ blank :: (x.sha256_hex ++ blank :: (x.name ++ [])) := by
    rw [List.append_nil]
    rfl
  have hhexfits : check_field_len x.sha256_hex AVCTL_HASH_HEX_MAXLEN = true := by
    have hnl := not_mem_of_no_space h.no_space
    simp [check_field_len, hnl, AVCTL_HASH_HEX_MAXLEN, hhex]
  have hnamefits : check_field_len x.name AVCTL_NAME_MAXLEN = true := by
    simp [check_field_len, h.name.line.1, h.name.length_le]
  rw [validate_sig_or_trust_fields, if_neg (by decide), hrest,
    Lib.StdScanf.sscanf_word hadd (by decide) (by decide),
    Lib.StdScanf.sscanf_space_word (by decide) (hex_word hne h.no_space) (by omega) (by decide),
    std_name h.name (by decide) (.inl rfl)]
  show (check_field_len x.sha256_hex AVCTL_HASH_HEX_MAXLEN &&
    [x.name].all fun field_b => check_field_len field_b AVCTL_NAME_MAXLEN) = true
  rw [hhexfits, List.all_cons, hnamefits]
  rfl

/-- A line that begins with another byte than `#` is a command. -/
private theorem not_comment {b : UInt8} {t : Bytes} (hb : b ≠ hash) :
    ¬ (b :: t = [] ∨ (b :: t).head? = some hash) := by
  rintro (hnil | hhead)
  · cases hnil
  · exact hb (Option.some.inj hhead)

theorem load_sig (h : KeptSig e) :
    loadLine .root st (some (sigCommand e)) = st.count (addSig st.kernel e) := by
  have hafter : after (lit "sig ") (sigCommand e) = some (lit "add " ++ sigRow e) :=
    after_append (lit "sig ") (lit "add " ++ sigRow e)
  have hcommand : ¬ (sigCommand e = [] ∨ (sigCommand e).head? = some hash) :=
    not_comment (show (115 : UInt8) ≠ hash by decide)
  rw [loadLine, if_neg hcommand, hafter]
  dsimp only
  rw [valid_sig h, if_neg (by decide), write_sig st.kernel h]

theorem load_trust (h : KeptTrust x) :
    loadLine .root st (some (trustCommand x)) = st.count (addTrust st.kernel x) := by
  have hsig : after (lit "sig ") (trustCommand x) = none := rfl
  have hafter : after (lit "trust ") (trustCommand x) = some (lit "add " ++ trustRow x) :=
    after_append (lit "trust ") (lit "add " ++ trustRow x)
  have hcommand : ¬ (trustCommand x = [] ∨ (trustCommand x).head? = some hash) :=
    not_comment (show (116 : UInt8) ≠ hash by decide)
  rw [loadLine, if_neg hcommand, hsig, hafter]
  dsimp only
  rw [valid_trust h, if_neg (by decide), write_trust st.kernel h]

theorem load_path (h : KeptPath path) (hnl : nl ∉ path) :
    loadLine .root st (some (protectCommand path)) = st.count (addPath st.kernel path) := by
  have hsig : after (lit "sig ") (protectCommand path) = none := rfl
  have htrust : after (lit "trust ") (protectCommand path) = none := rfl
  have hafter : after (lit "protect ") (protectCommand path) = some (lit "add " ++ path) :=
    after_append (lit "protect ") (lit "add " ++ path)
  have hcommand : ¬ (protectCommand path = [] ∨ (protectCommand path).head? = some hash) :=
    not_comment (show (112 : UInt8) ≠ hash by decide)
  rw [loadLine, if_neg hcommand, hsig, htrust, hafter]
  dsimp only
  rw [write_path st.kernel h hnl]

theorem load_policy (b : Bool) :
    loadLine .root st (some (policyCommand b)) = st.count (setPolicy st.kernel b) := by
  have hsig : after (lit "sig ") (policyCommand b) = none := rfl
  have htrust : after (lit "trust ") (policyCommand b) = none := rfl
  have hprotect : after (lit "protect ") (policyCommand b) = none := rfl
  have hafter : after (lit "policy ") (policyCommand b) = some (policyRow b) :=
    after_append (lit "policy ") (policyRow b)
  have hcommand : ¬ (policyCommand b = [] ∨ (policyCommand b).head? = some hash) :=
    not_comment (show (112 : UInt8) ≠ hash by decide)
  rw [loadLine, if_neg hcommand, hsig, htrust, hprotect,
    hafter]
  dsimp only
  rw [write_policy st.kernel b]

end Lines

end KernelAv.Userspace.StateLines
