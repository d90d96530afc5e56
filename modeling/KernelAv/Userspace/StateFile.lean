/- digest: avctl save and avctl load: the kernel state as a file of commands, and its replay. -/

import KernelAv.Lib.Files
import KernelAv.Lib.StdScanf
import KernelAv.Userspace.Avctl

set_option autoImplicit false
set_option relaxedAutoImplicit false

namespace KernelAv.Userspace.StateFile

open KernelAv.Lib.CText
open KernelAv.Lib.Lines (nl chunk fgetsAll unlines after)
open KernelAv.Lib.Files (Disk Inode)
open KernelAv.Lib.StdScanf (word texts)
open KernelAv.Kernel
open KernelAv.Kernel.Paths (PATH_MAX slash)
open KernelAv.Kernel.BehaviorTable (KernelHash)
open KernelAv.Kernel.SigTable
open KernelAv.Kernel.TrustTable (TrustEntry)
open KernelAv.Kernel.ProcWrite
open KernelAv.Userspace.Avctl

section Module

/-- `algo_names`. -/
def algo_name : AvAlgo → Bytes
  | .md5 => lit "md5"
  | .sha1 => lit "sha1"
  | .sha256 => lit "sha256"

def EICAR_HEX : Bytes := lit "275a021bbfb6489e54d471899f7db9d1663fc695ec2fe2a2c4538aabf651fd0f"

def EICAR_NAME : Bytes := lit "EICAR-Test-File"

/-- The state after the module is loaded, with its seed signature if there was memory for it. -/
def av_init (H : KernelHash) (kmalloc_ok : Bool) : ProcState H :=
  { ProcState.boot H with
    sig := (av_sigtable_add Table.empty kmalloc_ok AvAlgo.sha256.val EICAR_HEX EICAR_NAME).2 }

variable {H : KernelHash}

def sigRow (e : SigEntry) : Bytes := algo_name e.algo ++ blank :: (e.hex ++ blank :: e.name)

def trustRow (e : TrustEntry) : Bytes := e.sha256_hex ++ blank :: e.name

def policyRow (av_daemon_fail_closed : Bool) : Bytes :=
  if av_daemon_fail_closed then lit "fail-closed" else lit "fail-open"

def sig_proc_show (t : SigTable.Table H) : Bytes := unlines (t.sig_table.entries.map sigRow)

def trust_proc_show (t : TrustTable.Table H) : Bytes := unlines (t.entries.map trustRow)

def protected_proc_show (t : ProtectTable.Table H) : Bytes := unlines t.entries

def daemon_policy_proc_show (av_daemon_fail_closed : Bool) : Bytes :=
  unlines [policyRow av_daemon_fail_closed]

end Module

section Save

/-- The size of the buffer `line` of both commands. -/
def LINE_SIZE : Nat := PATH_MAX + 16

/-- The text of the line without its newline. -/
def chomp (line : Bytes) : Bytes := if line.getLast? = some nl then line.dropLast else line

/-- `"%7s %64s %127[^\n]"`. -/
def saveSigFormat : List Lib.StdScanf.Directive :=
  word 7 ++ (word 64 ++ [.space, .upTo 127 [nl]])

/-- `"%64s %127[^\n]"`. -/
def saveTrustFormat : List Lib.StdScanf.Directive := word 64 ++ [.space, .upTo 127 [nl]]

/-- The command for a line that was read from the signature file. -/
def saveSig (line : Bytes) : Option Bytes :=
  match texts (Lib.StdScanf.sscanf saveSigFormat (cstr line)) with
  | [algo, hex, name] => some (lit "sig add " ++ (algo ++ blank :: (hex ++ blank :: name)))
  | _ => none

def saveTrust (line : Bytes) : Option Bytes :=
  match texts (Lib.StdScanf.sscanf saveTrustFormat (cstr line)) with
  | [hex, name] => some (lit "trust add " ++ (hex ++ blank :: name))
  | _ => none

def saveProtect (line : Bytes) : Option Bytes :=
  let text := chomp (cstr line)
  if text = [] then none else some (lit "protect add " ++ text)

def savePolicy (line : Bytes) : Option Bytes :=
  let text := chomp (cstr line)
  if text = [] then none else some (lit "policy " ++ text)

/-- What the calls on an open proc file give: the bytes that they deliver, and whether the one
after them fails. -/
structure ProcRead where
  delivered : Bytes
  failed : Bool

/-- The buffers that the loop over `fgets` sees; a line that a failing read cuts off is none. -/
def ProcRead.lines (r : ProcRead) : List Bytes :=
  let bufs := fgetsAll LINE_SIZE r.delivered
  if r.failed then bufs.filter fun buf => buf.getLast? = some nl || buf.length = LINE_SIZE - 1
  else bufs

/-- What the system gives one save. The fields from `pinned` on are the outcomes of the calls in
their order: the walk to the parent directory, `openat`, `fdopen`, the header, the opening and the
reading of each proc file, the lines, `fflush`, `fsync`, the identity of the temporary file while it
is open, `fstat`, `fclose`, its identity afterwards, and `renameat`; `torn` is what a failed write
leaves, and `abort_ours` the test before an early return or after a failed `renameat`. -/
structure SaveEnv where
  dev : Nat
  pinned : Bool
  openat_ok : Bool
  fdopen_ok : Bool
  header_ok : Bool
  reads : ProcFile → Option ProcRead
  lines_ok : Bool
  fflush_ok : Bool
  fsync_ok : Bool
  unreplaced : Bool
  fstat_ok : Bool
  fclose_ok : Bool
  ours : Bool
  renameat_ok : Bool
  torn : Bytes
  abort_ours : Bool

/-- The first line of a file, which names it. -/
def header (path : CString) : Bytes :=
  lit "# kernel-av state dump - replay with: avctl load " ++ path.val

/-- The last component of a path, as `pin_save_parent` takes it. -/
def base (path : CString) : Bytes := (path.val.reverse.takeWhile (· ≠ slash)).reverse

def tmpbase (path : CString) : Bytes := base path ++ lit ".tmp"

def to_stdout (path : CString) : Bool := path.val == lit "-"

/-- The tests on the lengths of the path, of the name of the temporary file, and of the last
component. -/
def pathFits (path : CString) : Bool :=
  path.val.length < PATH_MAX && path.val.length + 4 < PATH_MAX + 8 &&
    (base path).length < PATH_MAX && (base path).length + 4 < PATH_MAX

/-- What the four loops of `do_save` write; a file that could not be opened has no lines. -/
def dumpLines (reads : ProcFile → Option ProcRead) : List Bytes :=
  let lines file := ((reads file).map ProcRead.lines).getD []
  (lines .signatures).filterMap saveSig ++ ((lines .trusted).filterMap saveTrust ++
    ((lines .protected_paths).filterMap saveProtect ++
      ((lines .daemon_policy).head?.bind savePolicy).toList))

def headerLines (path : CString) : List Bytes := if to_stdout path then [] else [header path]

def SaveEnv.opened (env : SaveEnv) : Bool :=
  (env.reads .signatures).isSome && (env.reads .trusted).isSome &&
    (env.reads .protected_paths).isSome && (env.reads .daemon_policy).isSome

/-- The exit status, the parent directory, and what was printed of the state. -/
structure SaveResult where
  ret : Int
  disk : Disk Bytes
  stdout : Bytes

/-- `unlinkat`, whose outcome is not looked at. -/
def unlinkat (F : Disk Bytes) (name : Bytes) : Disk Bytes :=
  match F.unlink name with
  | .ok G => G
  | .error _ => F

/-- From the writes on, with the temporary file under its name and the stream open. -/
def commit (env : SaveEnv) (F : Disk Bytes) (path : CString) : SaveResult :=
  let werr := !env.header_ok || !env.lines_ok || !env.fflush_ok || !env.fsync_ok ||
    !env.unreplaced || !env.fclose_ok
  let still_ours := env.fstat_ok && env.ours
  if werr || !still_ours then
    ⟨1, if still_ours || !env.fstat_ok then unlinkat F (tmpbase path) else F, []⟩
  else
    match if env.renameat_ok then F.rename (tmpbase path) (base path) fun _ => env.dev
        else .error .EPERM with
    | .error _ => ⟨1, if env.abort_ours then unlinkat F (tmpbase path) else F, []⟩
    | .ok G => ⟨0, G, []⟩

def do_save (env : SaveEnv) (F : Disk Bytes) (path : CString) : SaveResult :=
  let text := if env.header_ok && env.lines_ok then
    unlines (headerLines path ++ dumpLines env.reads) else env.torn
  if to_stdout path then
    if !env.opened then ⟨1, F, env.torn⟩
    else if !env.lines_ok || !env.fflush_ok then ⟨1, F, env.torn⟩
    else ⟨0, F, unlines (dumpLines env.reads)⟩
  else if !pathFits path || !env.pinned then ⟨1, F, []⟩
  else
    match if env.openat_ok then F.openExcl (tmpbase path) (fun _ => env.dev) 0o600
        else .error .EPERM with
    | .error _ => ⟨1, F, []⟩
    | .ok (G, i) =>
        if !env.fdopen_ok then ⟨1, unlinkat G (tmpbase path), []⟩
        else
          let G := G.modify i (Inode.append text)
          if !env.opened then ⟨1, if env.abort_ours then unlinkat G (tmpbase path) else G, []⟩
          else commit env G path

variable {H : KernelHash}

def listing (s : ProcState H) : ProcFile → Bytes
  | .signatures => sig_proc_show s.sig
  | .trusted => trust_proc_show s.trust
  | .protected_paths => protected_proc_show s.protected_table
  | .daemon_policy => daemon_policy_proc_show s.av_daemon_fail_closed

/-- The reads deliver the listings of one state. -/
def wholeReads (s : ProcState H) (file : ProcFile) : Option ProcRead :=
  some ⟨listing s file, false⟩

end Save

section Load

/-- `#`. -/
def hash : UInt8 := 35

/-- What is left after `fgetc` has read to the end of the line. -/
def drain (s : Bytes) : Bytes := (s.dropWhile (· ≠ nl)).drop 1

/-- The lines that the loop of `do_load` takes in turn, none for one that is too long; every
`fgets` consumes a byte, so the length of the text bounds their number. -/
def loadLinesFuel : Nat → Bytes → List (Option Bytes)
  | 0, _ => []
  | _ + 1, [] => []
  | k + 1, b :: s =>
      let r := chunk (LINE_SIZE - 1) (b :: s)
      let line := cstr r.1
      if line ≠ [] ∧ line.getLast? ≠ some nl ∧ r.2 ≠ [] then none :: loadLinesFuel k (drain r.2)
      else some (chomp line) :: loadLinesFuel k r.2

def loadLines (file : Bytes) : List (Option Bytes) := loadLinesFuel file.length file

/-- Whether the fields that the line has are ones that the kernel reads whole; a line with too few
is left to the kernel. -/
def validate_sig_or_trust_fields (kind : ProcFile) (rest : Bytes) : Bool :=
  if kind = .signatures then
    match texts (Lib.StdScanf.sscanf
        (word 7 ++ (word 7 ++ (word 511 ++ [.space, .upTo 511 [nl]]))) rest) with
    | _ :: algo :: field_a :: name =>
        check_algo algo && check_field_len field_a AVCTL_HASH_HEX_MAXLEN &&
          name.all fun field_b => check_field_len field_b AVCTL_NAME_MAXLEN
    | _ => true
  else
    match texts (Lib.StdScanf.sscanf (word 7 ++ (word 511 ++ [.space, .upTo 511 [nl]])) rest) with
    | _ :: field_a :: name =>
        check_field_len field_a AVCTL_HASH_HEX_MAXLEN &&
          name.all fun field_b => check_field_len field_b AVCTL_NAME_MAXLEN
    | _ => true

variable {H : KernelHash}

/-- The kernel's state and the three counters. -/
structure LoadState (H : KernelHash) where
  kernel : ProcState H
  loaded : Nat
  skipped : Nat
  errors : Nat

/-- The counters after a write. -/
def LoadState.count (st : LoadState H) (r : Int × ProcState H) : LoadState H :=
  if r.1 = -EEXIST then { st with kernel := r.2, skipped := st.skipped + 1 }
  else if r.1 ≠ 0 then { st with kernel := r.2, errors := st.errors + 1 }
  else { st with kernel := r.2, loaded := st.loaded + 1 }

def LoadState.error (st : LoadState H) : LoadState H := { st with errors := st.errors + 1 }

/-- One pass of the loop. -/
def loadLine (env : RunEnv) (st : LoadState H) : Option Bytes → LoadState H
  | none => st.error
  | some line =>
      if line = [] ∨ line.head? = some hash then st
      else
        match after (lit "sig ") line with
        | some rest =>
            if !validate_sig_or_trust_fields .signatures rest then st.error
            else st.count (write_command_to st.kernel env .signatures rest)
        | none =>
          match after (lit "trust ") line with
          | some rest =>
              if !validate_sig_or_trust_fields .trusted rest then st.error
              else st.count (write_command_to st.kernel env .trusted rest)
          | none =>
            match after (lit "protect ") line with
            | some rest => st.count (write_command_to st.kernel env .protected_paths rest)
            | none =>
              match after (lit "policy ") line with
              | some rest => st.count (write_command_to st.kernel env .daemon_policy rest)
              | none => st.error

def loadAll (env : RunEnv) (st : LoadState H) (lines : List (Option Bytes)) : LoadState H :=
  lines.foldl (loadLine env) st

/-- The exit status, with the counters and the kernel's state at the end; there is no text where
the file could not be opened. -/
def do_load (s : ProcState H) (env : RunEnv) : Option Bytes → Int × LoadState H
  | none => (1, ⟨s, 0, 0, 0⟩)
  | some file =>
      let st := loadAll env ⟨s, 0, 0, 0⟩ (loadLines file)
      (if st.errors = 0 then 0 else 1, st)

end Load

section Reading

variable {l : Bytes} {ls : List Bytes}

/-- A line of text: no newline and no NUL. -/
def IsLine (l : Bytes) : Prop := nl ∉ l ∧ (0 : UInt8) ∉ l

theorem chomp_line (l : Bytes) : chomp (l ++ [nl]) = l := by
  rw [chomp, if_pos (by simp), List.dropLast_concat]

private theorem drain_line (hl : nl ∉ l) (r : Bytes) : drain (l ++ nl :: r) = r := by
  have hall : ∀ b ∈ l, (decide (b ≠ nl)) = true := by
    intro b hb
    have hne : b ≠ nl := fun heq => hl (heq ▸ hb)
    simpa using hne
  rw [drain, List.dropWhile_append_of_pos hall, List.dropWhile_cons_of_neg (by simp)]
  rfl

private theorem clean_append {u v : Bytes} (hu : (0 : UInt8) ∉ u) (hv : (0 : UInt8) ∉ v) :
    cstr (u ++ v) = u ++ v :=
  cstr_eq_self fun h => (List.mem_append.mp h).elim hu hv

private theorem loadLinesFuel_unlines (k : Nat) (ls : List Bytes) (hk : (unlines ls).length ≤ k)
    (h : ∀ l ∈ ls, IsLine l) : loadLinesFuel k (unlines ls) =
      ls.map fun l => if l.length + 1 < LINE_SIZE then some l else none := by
  induction ls generalizing k with
  | nil => cases k <;> rfl
  | cons l ls ih =>
    obtain ⟨⟨hnl, hnul⟩, hls⟩ := List.forall_mem_cons.mp h
    rw [Lib.Lines.unlines_cons] at hk ⊢
    obtain ⟨b, t, hcons⟩ : ∃ b t, l ++ nl :: unlines ls = b :: t :=
      List.exists_cons_of_ne_nil (by simp)
    cases k with
    | zero => simp at hk
    | succ k =>
      have hk' : (unlines ls).length ≤ k := by
        simp only [List.length_append, List.length_cons] at hk
        omega
      rw [hcons, loadLinesFuel, ← hcons, List.map_cons]
      by_cases hfits : l.length + 1 < LINE_SIZE
      · have hread := Lib.Lines.chunk_line (LINE_SIZE - 1) l (unlines ls) hnl (by omega)
        have hclean : cstr (l ++ [nl]) = l ++ [nl] := clean_append hnul (by decide)
        have hlast : (l ++ [nl]).getLast? = some nl := by simp
        simp only [hread, hclean, hlast, ne_eq, not_true_eq_false, false_and, and_false, if_false,
          chomp_line, if_pos hfits]
        rw [ih k hk' hls]
      · have hlong : LINE_SIZE - 1 ≤ l.length := by omega
        have hread := Lib.Lines.chunk_long (LINE_SIZE - 1) l (nl :: unlines ls) hnl hlong
        have hclean : cstr (l.take (LINE_SIZE - 1)) = l.take (LINE_SIZE - 1) :=
          cstr_eq_self fun hz => hnul (List.mem_of_mem_take hz)
        have hne : l.take (LINE_SIZE - 1) ≠ [] := by
          intro hnil
          have hlen := congrArg List.length hnil
          rw [List.length_take, Nat.min_eq_left hlong] at hlen
          exact absurd hlen (by decide)
        have hlast : (l.take (LINE_SIZE - 1)).getLast? ≠ some nl := fun heq =>
          hnl (List.mem_of_mem_take (List.mem_of_getLast? heq))
        have hrest : l.drop (LINE_SIZE - 1) ++ nl :: unlines ls ≠ [] := by simp
        have hdrain : drain (l.drop (LINE_SIZE - 1) ++ nl :: unlines ls) = unlines ls :=
          drain_line (fun hmem => hnl (List.mem_of_mem_drop hmem)) _
        simp only [hread, hclean, hdrain, if_neg hfits]
        rw [if_pos ⟨hne, hlast, hrest⟩, ih k hk' hls]

/-- The lines of a text are read one by one, and those that do not fit the buffer are rejected. -/
theorem loadLines_unlines (h : ∀ l ∈ ls, IsLine l) : loadLines (unlines ls) =
    ls.map fun l => if l.length + 1 < LINE_SIZE then some l else none :=
  loadLinesFuel_unlines _ ls le_rfl h

private theorem chunk_shape (n : Nat) (s : Bytes) :
    ∃ u, nl ∉ u ∧ ((chunk n s).1 = u ∨ (chunk n s).1 = u ++ [nl]) := by
  induction n generalizing s with
  | zero => exact ⟨[], List.not_mem_nil, .inl rfl⟩
  | succ n ih =>
    cases s with
    | nil => exact ⟨[], List.not_mem_nil, .inl rfl⟩
    | cons b s =>
      rw [chunk]
      split
      · rename_i hb
        exact ⟨[], List.not_mem_nil, .inr (by rw [hb]; rfl)⟩
      · rename_i hb
        obtain ⟨u, hu, hcases⟩ := ih s
        have hnot : nl ∉ b :: u := by
          rw [List.mem_cons, not_or]
          exact ⟨Ne.symm hb, hu⟩
        refine ⟨b :: u, hnot, ?_⟩
        rcases hcases with heq | heq
        · exact .inl (by rw [heq])
        · exact .inr (by rw [heq]; rfl)

private theorem chomp_no_newline {u : Bytes} (hu : nl ∉ u) : chomp u = u :=
  if_neg fun hlast => hu (List.mem_of_getLast? hlast)

private theorem no_newline_of_chunk (n : Nat) (s : Bytes) : nl ∉ chomp (cstr (chunk n s).1) := by
  obtain ⟨u, hu, heq | heq⟩ := chunk_shape n s
  · have hcut : nl ∉ cstr u := fun h => hu ((List.takeWhile_prefix _).subset h)
    rw [heq, chomp_no_newline hcut]
    exact hcut
  · rw [heq, cstr, List.takeWhile_append]
    split
    · show nl ∉ chomp (u ++ [nl])
      rw [chomp_line]
      exact hu
    · have hcut : nl ∉ cstr u := fun h => hu ((List.takeWhile_prefix _).subset h)
      show nl ∉ chomp (cstr u)
      rw [chomp_no_newline hcut]
      exact hcut

/-- No line that a loop over `fgets` has taken its newline off contains another one. -/
theorem no_newline_of_mem_fgetsAll {size : Nat} {file : Bytes} (h : l ∈ fgetsAll size file) :
    nl ∉ chomp (cstr l) := by
  have hfuel : ∀ (k : Nat) (s : Bytes), l ∈ Lib.Lines.fgetsFuel size k s → nl ∉ chomp (cstr l) := by
    intro k
    induction k with
    | zero => exact fun s hmem => absurd hmem List.not_mem_nil
    | succ k ih =>
      intro s hmem
      cases s with
      | nil => exact absurd hmem List.not_mem_nil
      | cons b s =>
        rw [Lib.Lines.fgetsFuel] at hmem
        rcases List.mem_cons.mp hmem with rfl | hmem
        · exact no_newline_of_chunk _ _
        · exact ih _ hmem
  exact hfuel _ _ h

/-- Whatever the text, no line that the loop takes contains a newline. -/
theorem no_newline_of_mem_loadLines {file : Bytes} (h : some l ∈ loadLines file) : nl ∉ l := by
  have hfuel : ∀ (k : Nat) (s : Bytes), some l ∈ loadLinesFuel k s → nl ∉ l := by
    intro k
    induction k with
    | zero => exact fun s hmem => absurd hmem List.not_mem_nil
    | succ k ih =>
      intro s hmem
      cases s with
      | nil => exact absurd hmem List.not_mem_nil
      | cons b s =>
        rw [loadLinesFuel] at hmem
        split at hmem
        · rcases List.mem_cons.mp hmem with heq | hmem
          · cases heq
          · exact ih _ hmem
        · rcases List.mem_cons.mp hmem with heq | hmem
          · rw [Option.some.inj heq]
            exact no_newline_of_chunk _ _
          · exact ih _ hmem
  exact hfuel _ _ h

end Reading

end KernelAv.Userspace.StateFile
