/- digest: What avctl add, del, trust and protect send, and what the kernel stores of it. -/

import KernelAv.Kernel.ProcWrite
import KernelAv.Kernel.SigTableRefinement

set_option autoImplicit false
set_option relaxedAutoImplicit false

namespace KernelAv.Userspace.Avctl

open KernelAv.Lib.CText hiding isspace
open KernelAv.Lib.Chains
open KernelAv.Lib.Chains.HashTable (Added Removed added_iff removed_iff)
open KernelAv.Lib.Lines (nl)
open KernelAv.Lib.Scanf
open KernelAv.Kernel
open KernelAv.Kernel.Paths (PATH_MAX slash)
open KernelAv.Kernel.BehaviorTable (KernelHash)
open KernelAv.Kernel.SigTable
open KernelAv.Kernel.SigTableRefinement
open KernelAv.Kernel.ProcWrite

def AVCTL_HASH_HEX_MAXLEN : Nat := 64
def AVCTL_NAME_MAXLEN : Nat := 63

def ENOMEM : Int := 12

def blank : UInt8 := 32

/-- `tolower` of the C locale. -/
def ascii_tolower (b : UInt8) : UInt8 := if 65 ≤ b.toNat ∧ b.toNat ≤ 90 then b + 32 else b

/-- `!strcasecmp(s, t)`, in the C locale. -/
def strcasesame (s t : Bytes) : Bool := s.map ascii_tolower == t.map ascii_tolower

def check_field_len (s : Bytes) (max : Nat) : Bool := !s.contains nl && s.length ≤ max

def check_algo (algo : Bytes) : Bool :=
  strcasesame algo (lit "md5") || strcasesame algo (lit "sha1") || strcasesame algo (lit "sha256")

/-- `snprintf` into a buffer, with the test that nothing was cut off. -/
def formatted (size : Nat) (text : Bytes) : Option Bytes :=
  if size ≤ text.length then none else some text

/-- The size of the buffer `name`. -/
def NAME_BUF : Nat := 192

/-- The loop over the words of a name, with the text so far. -/
def joinName : Bytes → Bool → List Bytes → Option Bytes
  | name, _, [] => some name
  | name, first, arg :: args =>
      if NAME_BUF - 1 ≤ name.length then some name
      else
        let piece := if first then arg else blank :: arg
        if NAME_BUF - name.length ≤ piece.length then none
        else joinName (name ++ piece) false args

/-- The line that is printed before the program exits with 0. -/
inductive Confirmation where
  | added (algo hex name : Bytes)
  | removed (algo hex : Bytes)
  | trusted (hex name : Bytes)
  | untrusted (hex : Bytes)
  | protected_path (path : Bytes)
  | unprotected_path (path : Bytes)
  deriving DecidableEq

/-- The command for `write_command_to`, and what is printed when it went through. -/
structure Request where
  path : ProcFile
  cmd : Bytes
  confirmation : Confirmation

def do_trust : List Bytes → Option Request
  | verb :: hex :: args =>
      if verb = lit "add" then
        if args = [] then none
        else if !check_field_len hex AVCTL_HASH_HEX_MAXLEN then none
        else do
          let name ← joinName [] true args
          if !check_field_len name AVCTL_NAME_MAXLEN then none
          else do
            let cmd ← formatted 256 (lit "add " ++ hex ++ blank :: name)
            some ⟨.trusted, cmd, .trusted hex name⟩
      else if verb = lit "del" then
        if !check_field_len hex AVCTL_HASH_HEX_MAXLEN then none
        else do
          let cmd ← formatted 256 (lit "del " ++ hex)
          some ⟨.trusted, cmd, .untrusted hex⟩
      else none
  | _ => none

def do_protect : List Bytes → Option Request
  | verb :: path :: _ =>
      if verb = lit "add" then
        if path.head? ≠ some slash then none
        else if !check_field_len path (PATH_MAX - 1) then none
        else do
          let cmd ← formatted (PATH_MAX + 8) (lit "add " ++ path)
          some ⟨.protected_paths, cmd, .protected_path path⟩
      else if verb = lit "del" then
        if !check_field_len path (PATH_MAX - 1) then none
        else do
          let cmd ← formatted (PATH_MAX + 8) (lit "del " ++ path)
          some ⟨.protected_paths, cmd, .unprotected_path path⟩
      else none
  | _ => none

/-- The branches of `main` that end in one write to a table, with the arguments from `argv[1]`
on. -/
def request : List Bytes → Option Request
  | verb :: args =>
      if verb = lit "trust" then do_trust args
      else if verb = lit "protect" then do_protect args
      else if verb = lit "add" then
        match args with
        | algo :: hex :: name :: _ =>
            if !check_algo algo then none
            else if !check_field_len hex AVCTL_HASH_HEX_MAXLEN then none
            else if !check_field_len name AVCTL_NAME_MAXLEN then none
            else do
              let cmd ← formatted 256 (lit "add " ++ algo ++ blank :: (hex ++ blank :: name))
              some ⟨.signatures, cmd, .added algo hex name⟩
        | _ => none
      else if verb = lit "del" then
        match args with
        | algo :: hex :: _ =>
            if !check_algo algo then none
            else if !check_field_len hex AVCTL_HASH_HEX_MAXLEN then none
            else do
              let cmd ← formatted 256 (lit "del " ++ algo ++ blank :: hex)
              some ⟨.signatures, cmd, .removed algo hex⟩
        | _ => none
      else none
  | [] => none

/-- What the system gives one run: the outcome of `open` and `malloc`, and the conditions of the
write. -/
structure RunEnv where
  open_errno : Int
  malloc_ok : Bool
  capable : Bool
  kbuf_ok : Bool
  path_ok : Bool
  copy_ok : Bool
  entry_ok : Bool

section Program

variable {H : KernelHash}

/-- The one write, at the start of a file that was just opened. -/
def RunEnv.call (env : RunEnv) (buf : Bytes) : WriteCall :=
  ⟨env.capable, buf, 0, env.kbuf_ok, env.path_ok, env.copy_ok, env.entry_ok⟩

def write_command_to (s : ProcState H) (env : RunEnv) (path : ProcFile) (cmd : Bytes) :
    Int × ProcState H :=
  if env.open_errno ≠ 0 then (-env.open_errno, s)
  else if !env.malloc_ok then (-ENOMEM, s)
  else
    let (written, s) := procWrite s (env.call (cmd ++ [nl])) path
    if written < 0 then (written, s) else (0, s)

/-- The exit status, what was printed, and the state of the kernel afterwards. -/
def avctl_main (s : ProcState H) (env : RunEnv) (argv : List Bytes) :
    Nat × Option Confirmation × ProcState H :=
  match request argv.tail with
  | none => (1, none, s)
  | some r =>
      let (ret, s) := write_command_to s env r.path r.cmd
      if ret ≠ 0 then (1, none, s) else (0, some r.confirmation, s)

end Program

section Requests

/-- A name that is given as several arguments. -/
def joinWords : List Bytes → Bytes
  | [] => []
  | arg :: args => arg ++ args.flatMap (blank :: ·)

/-- What the arguments ask for, as the usage text says. -/
inductive Given : List Bytes → Confirmation → Prop
  | added (prog algo hex name : Bytes) (rest : List Bytes) :
      Given (prog :: lit "add" :: algo :: hex :: name :: rest) (.added algo hex name)
  | removed (prog algo hex : Bytes) (rest : List Bytes) :
      Given (prog :: lit "del" :: algo :: hex :: rest) (.removed algo hex)
  | trusted (prog hex : Bytes) (name : List Bytes) :
      Given (prog :: lit "trust" :: lit "add" :: hex :: name) (.trusted hex (joinWords name))
  | untrusted (prog hex : Bytes) (rest : List Bytes) :
      Given (prog :: lit "trust" :: lit "del" :: hex :: rest) (.untrusted hex)
  | protected_path (prog path : Bytes) (rest : List Bytes) :
      Given (prog :: lit "protect" :: lit "add" :: path :: rest) (.protected_path path)
  | unprotected_path (prog path : Bytes) (rest : List Bytes) :
      Given (prog :: lit "protect" :: lit "del" :: path :: rest) (.unprotected_path path)

/-- A field that passes `check_field_len`. -/
structure Fits (s : Bytes) (max : Nat) : Prop where
  no_newline : nl ∉ s
  length_le : s.length ≤ max

/-- The checks that a request has passed. -/
def Checked : Confirmation → Prop
  | .added algo hex name => check_algo algo = true ∧ Fits hex AVCTL_HASH_HEX_MAXLEN ∧
      Fits name AVCTL_NAME_MAXLEN
  | .removed algo hex => check_algo algo = true ∧ Fits hex AVCTL_HASH_HEX_MAXLEN
  | .trusted hex name => Fits hex AVCTL_HASH_HEX_MAXLEN ∧ Fits name AVCTL_NAME_MAXLEN
  | .untrusted hex => Fits hex AVCTL_HASH_HEX_MAXLEN
  | .protected_path path => path.head? = some slash ∧ Fits path (PATH_MAX - 1)
  | .unprotected_path path => Fits path (PATH_MAX - 1)

/-- The command text and the file it is for. -/
def issued : Confirmation → ProcFile × Bytes
  | .added algo hex name =>
      (.signatures, lit "add " ++ algo ++ blank :: (hex ++ blank :: name))
  | .removed algo hex => (.signatures, lit "del " ++ algo ++ blank :: hex)
  | .trusted hex name => (.trusted, lit "add " ++ hex ++ blank :: name)
  | .untrusted hex => (.trusted, lit "del " ++ hex)
  | .protected_path path => (.protected_paths, lit "add " ++ path)
  | .unprotected_path path => (.protected_paths, lit "del " ++ path)

variable {r : Request} {s name text cmd : Bytes} {max size : Nat}

private theorem fits_of_check (h : ¬ (!check_field_len s max) = true) : Fits s max := by
  simp only [check_field_len, Bool.not_eq_true', Bool.not_eq_false, Bool.and_eq_true,
    decide_eq_true_eq] at h
  refine ⟨?_, h.2⟩
  have hcontains := h.1
  simpa using hcontains

private theorem formatted_eq_some (h : formatted size text = some cmd) : cmd = text := by
  rw [formatted] at h
  split at h
  · cases h
  · exact (Option.some.inj h).symm

/-- A joined name that is short enough has all its words. -/
private theorem joinName_eq (args : List Bytes) :
    (∀ name, joinName name false args = some text → text.length < NAME_BUF - 1 →
      text = name ++ args.flatMap (blank :: ·)) := by
  induction args with
  | nil =>
    intro name h _
    rw [List.flatMap_nil, List.append_nil]
    exact (Option.some.inj h).symm
  | cons arg args ih =>
    intro name h hlen
    rw [joinName] at h
    split at h
    · rename_i hfull
      obtain rfl := Option.some.inj h
      omega
    · simp only [Bool.false_eq_true, if_false] at h
      split at h
      · cases h
      · rw [ih _ h hlen, List.flatMap_cons, List.append_assoc]

private theorem joinName_first {args : List Bytes} (h : joinName [] true args = some text)
    (hlen : text.length < NAME_BUF - 1) : text = joinWords args := by
  cases args with
  | nil => exact (Option.some.inj h).symm
  | cons arg args =>
    rw [joinName, if_neg (by decide)] at h
    simp only [if_true] at h
    split at h
    · cases h
    · exact joinName_eq args _ h hlen

theorem do_trust_spec {args : List Bytes} (h : do_trust args = some r) (prog : Bytes) :
    Given (prog :: lit "trust" :: args) r.confirmation ∧ Checked r.confirmation ∧
      (r.path, r.cmd) = issued r.confirmation := by
  unfold do_trust at h
  split at h
  · rename_i verb hex args
    split at h
    · rename_i hverb
      split at h
      · cases h
      split at h
      · cases h
      rename_i hhex
      obtain ⟨name, hjoin, h⟩ := Option.bind_eq_some_iff.mp h
      split at h
      · cases h
      rename_i hname
      obtain ⟨cmd, hcmd, h⟩ := Option.bind_eq_some_iff.mp h
      obtain rfl := Option.some.inj h
      have hfits := fits_of_check hname
      have hlen : name.length < NAME_BUF - 1 := lt_of_le_of_lt hfits.length_le (by decide)
      refine ⟨?_, ⟨fits_of_check hhex, hfits⟩, ?_⟩
      · rw [hverb, joinName_first hjoin hlen]
        exact .trusted prog hex args
      · rw [formatted_eq_some hcmd]
        rfl
    · split at h
      · rename_i hverb
        split at h
        · cases h
        rename_i hhex
        obtain ⟨cmd, hcmd, h⟩ := Option.bind_eq_some_iff.mp h
        obtain rfl := Option.some.inj h
        refine ⟨?_, fits_of_check hhex, ?_⟩
        · rw [hverb]
          exact .untrusted prog hex args
        · rw [formatted_eq_some hcmd]
          rfl
      · cases h
  · cases h

theorem do_protect_spec {args : List Bytes} (h : do_protect args = some r) (prog : Bytes) :
    Given (prog :: lit "protect" :: args) r.confirmation ∧ Checked r.confirmation ∧
      (r.path, r.cmd) = issued r.confirmation := by
  unfold do_protect at h
  split at h
  · rename_i verb path args
    split at h
    · rename_i hverb
      split at h
      · cases h
      rename_i hslash
      split at h
      · cases h
      rename_i hpath
      obtain ⟨cmd, hcmd, h⟩ := Option.bind_eq_some_iff.mp h
      obtain rfl := Option.some.inj h
      refine ⟨?_, ⟨not_not.mp hslash, fits_of_check hpath⟩, ?_⟩
      · rw [hverb]
        exact .protected_path prog path args
      · rw [formatted_eq_some hcmd]
        rfl
    · split at h
      · rename_i hverb
        split at h
        · cases h
        rename_i hpath
        obtain ⟨cmd, hcmd, h⟩ := Option.bind_eq_some_iff.mp h
        obtain rfl := Option.some.inj h
        refine ⟨?_, fits_of_check hpath, ?_⟩
        · rw [hverb]
          exact .unprotected_path prog path args
        · rw [formatted_eq_some hcmd]
          rfl
      · cases h
  · cases h

/-- A request says what the arguments ask for, has passed the checks, and sends the text. -/
theorem request_spec {args : List Bytes} (h : request args = some r) (prog : Bytes) :
    Given (prog :: args) r.confirmation ∧ Checked r.confirmation ∧
      (r.path, r.cmd) = issued r.confirmation := by
  unfold request at h
  split at h
  · rename_i verb args
    split at h
    · rename_i hverb
      rw [hverb]
      exact do_trust_spec h prog
    split at h
    · rename_i hverb
      rw [hverb]
      exact do_protect_spec h prog
    split at h
    · rename_i hverb
      split at h
      · rename_i algo hex name rest
        split at h
        · cases h
        rename_i halgo
        split at h
        · cases h
        rename_i hhex
        split at h
        · cases h
        rename_i hname
        obtain ⟨cmd, hcmd, h⟩ := Option.bind_eq_some_iff.mp h
        obtain rfl := Option.some.inj h
        refine ⟨?_, ⟨by simpa using halgo, fits_of_check hhex, fits_of_check hname⟩, ?_⟩
        · rw [hverb]
          exact .added prog algo hex name rest
        · rw [formatted_eq_some hcmd]
          rfl
      · cases h
    · split at h
      · rename_i hverb
        split at h
        · rename_i algo hex rest
          split at h
          · cases h
          rename_i halgo
          split at h
          · cases h
          rename_i hhex
          obtain ⟨cmd, hcmd, h⟩ := Option.bind_eq_some_iff.mp h
          obtain rfl := Option.some.inj h
          refine ⟨?_, ⟨by simpa using halgo, fits_of_check hhex⟩, ?_⟩
          · rw [hverb]
            exact .removed prog algo hex rest
          · rw [formatted_eq_some hcmd]
            rfl
        · cases h
      · cases h
  · cases h

end Requests

section Parsing

variable {algo hex name path x : Bytes}

private theorem tolower_ascii (b : UInt8) : tolower (ascii_tolower b) = tolower b := by
  by_cases h : 65 ≤ b.toNat ∧ b.toNat ≤ 90
  · have hup : tolower b = b + 32 := if_pos (Or.inl h)
    have hascii : ascii_tolower b = b + 32 := if_pos h
    rw [hascii, ← hup, tolower_tolower]
  · rw [ascii_tolower, if_neg h]

private theorem isspace_ascii (b : UInt8) : isspace (ascii_tolower b) = isspace b := by
  rw [← isspace_tolower, tolower_ascii, isspace_tolower]

/-- The two programs agree on which strings differ in letter case only. -/
private theorem strcaseeq_of_same {s t : Bytes} (h : strcasesame s t = true) :
    strcaseeq s t = true := by
  have hmap : ∀ u : Bytes, u.map tolower = (u.map ascii_tolower).map tolower := by
    intro u
    rw [List.map_map]
    exact List.map_congr_left fun b _ => (tolower_ascii b).symm
  rw [strcaseeq, beq_iff_eq, hmap s, hmap t, beq_iff_eq.mp h]

private theorem word_of_same {s t : Bytes} (h : strcasesame s t = true) (ht : IsWord t) :
    IsWord s ∧ s.length = t.length := by
  have hmap := beq_iff_eq.mp h
  have hlen : s.length = t.length := by
    rw [← List.length_map ascii_tolower, hmap, List.length_map]
  refine ⟨⟨?_, ?_⟩, hlen⟩
  · rintro rfl
    exact ht.1 (List.length_eq_zero_iff.mp hlen.symm)
  · intro b hb
    have hmem : ascii_tolower b ∈ t.map ascii_tolower := by
      rw [← hmap]
      exact List.mem_map_of_mem hb
    obtain ⟨c, hc, heq⟩ := List.mem_map.mp hmem
    rw [← isspace_ascii, ← heq, isspace_ascii]
    exact ht.2 c hc

/-- What passes `check_algo`, the kernel reads as one word and knows. -/
theorem check_algo_spec (h : check_algo algo = true) :
    (∃ a, parse_algo algo = some a) ∧ IsWord algo ∧ algo.length ≤ 7 := by
  simp only [check_algo, Bool.or_eq_true] at h
  have hknown : ∃ a, parse_algo algo = some a := by
    unfold parse_algo
    split
    · exact ⟨_, rfl⟩
    split
    · exact ⟨_, rfl⟩
    split
    · exact ⟨_, rfl⟩
    · rename_i h1 h2 h3
      rcases h with (h | h) | h
      · exact absurd (strcaseeq_of_same h) h1
      · exact absurd (strcaseeq_of_same h) h2
      · exact absurd (strcaseeq_of_same h) h3
  refine ⟨hknown, ?_⟩
  rcases h with (h | h) | h
  · obtain ⟨hword, hlen⟩ := word_of_same h (by decide)
    exact ⟨hword, hlen.trans_le (by decide)⟩
  · obtain ⟨hword, hlen⟩ := word_of_same h (by decide)
    exact ⟨hword, hlen.trans_le (by decide)⟩
  · obtain ⟨hword, hlen⟩ := word_of_same h (by decide)
    exact ⟨hword, hlen.trans_le (by decide)⟩

/-- The directives behind the command and, for a signature, the algorithm. -/
def hexName : List Directive := [.space, .word 64, .space, .upTo 63 nl]

theorem sscanf_sig (cmd rest : Bytes) (hcmd : IsWord cmd) (hlen : cmd.length ≤ 7)
    (halgo : check_algo algo = true) :
    sscanf sigFormat (cmd ++ blank :: (algo ++ blank :: rest)) =
      cmd :: algo :: sscanf hexName (blank :: rest) := by
  obtain ⟨-, hword, halgolen⟩ := check_algo_spec halgo
  rw [sigFormat, sscanf_word hcmd (by decide) hlen,
    sscanf_space_word (by decide) hword (by decide) halgolen]
  rfl

theorem sscanf_trust (cmd rest : Bytes) (hcmd : IsWord cmd) (hlen : cmd.length ≤ 7) :
    sscanf trustFormat (cmd ++ blank :: rest) = cmd :: sscanf hexName (blank :: rest) := by
  rw [trustFormat, sscanf_word hcmd (by decide) hlen]
  rfl

/-- A hash that is a word, and a name, come out as they are, but for white space in front. -/
theorem sscanf_hex_name (hword : IsWord hex) (hhex : Fits hex AVCTL_HASH_HEX_MAXLEN)
    (hname : Fits name AVCTL_NAME_MAXLEN) :
    sscanf hexName (blank :: (hex ++ blank :: (name ++ [nl]))) =
      hex :: if skip_spaces name = [] then [] else [skip_spaces name] := by
  have hhexlen : hex.length ≤ 64 := hhex.length_le
  have hnamelen : name.length ≤ 63 := hname.length_le
  rw [hexName, sscanf_space_word (by decide) hword (by decide) hhexlen,
    sscanf_space_upTo (by decide) (by decide) hname.no_newline hnamelen]

/-- What the kernel takes for the hash is the first word of the rest of the line. -/
theorem read_hex {rest : Bytes} {fields : List Bytes}
    (h : sscanf hexName (blank :: rest) = x :: fields) : x = (firstWord rest).take 64 := by
  have hskip : firstWord (blank :: rest) = firstWord rest := by
    rw [firstWord, skip_spaces, List.dropWhile_cons_of_pos (by decide)]
    rfl
  rw [← hskip]
  exact sscanf_space_word_head h

private theorem word_of_firstWord (hx : firstWord hex = hex) (hne : hex ≠ []) : IsWord hex := by
  refine ⟨hne, fun b hb => ?_⟩
  rw [← hx] at hb
  exact firstWord_no_space hb

/-- If what the kernel reads as the hash is the hash, up to letter case, the hash is a word. -/
theorem word_of_same_hex (t : Bytes) (hne : hex ≠ [])
    (hx : x = (firstWord (hex ++ blank :: t)).take 64)
    (hsame : hex_tolower x = hex_tolower hex) : IsWord hex := by
  have hlen : x.length = hex.length := by
    rw [← hex_tolower_length, hsame, hex_tolower_length]
  rcases firstWord_append (s := hex) (t := t) (c := blank) (by decide) with hword | ⟨hall, hword⟩
  · rw [hword] at hx
    have hle : hex.length ≤ (firstWord hex).length := by
      rw [← hlen, hx]
      exact (List.take_prefix _ _).length_le
    exact word_of_firstWord (firstWord_eq_self hle) hne
  · -- a hash of white space only is skipped, and the name is read in its place
    exfalso
    obtain ⟨b, hb⟩ := List.exists_mem_of_ne_nil hex hne
    have hmem : tolower b ∈ x.map tolower := by
      show tolower b ∈ hex_tolower x
      rw [hsame]
      exact List.mem_map_of_mem hb
    obtain ⟨y, hy, heq⟩ := List.mem_map.mp hmem
    have hspace : isspace y = false := by
      rw [hx, hword] at hy
      exact firstWord_no_space (List.mem_of_mem_take hy)
    rw [← isspace_tolower, heq, isspace_tolower, hall b hb] at hspace
    cases hspace

/-- A hash at the end of the line is read whole, or less than its length is read. -/
theorem hex_at_end (hhex : hex.length ≤ 64) (hx : x = (firstWord (hex ++ [nl])).take 64)
    (hlen : hex.length ≤ x.length) (hne : x ≠ []) : x = hex ∧ IsWord hex := by
  rcases firstWord_append (s := hex) (t := []) (c := nl) (by decide) with hword | ⟨-, hword⟩
  · rw [hword] at hx
    have hle : hex.length ≤ (firstWord hex).length := by
      refine hlen.trans ?_
      rw [hx]
      exact (List.take_prefix _ _).length_le
    have hself := firstWord_eq_self hle
    rw [hself, List.take_of_length_le hhex] at hx
    subst hx
    exact ⟨rfl, word_of_firstWord hself hne⟩
  · rw [hx, hword] at hne
    exact absurd rfl hne

/-- A hash of full length in front of a name is read whole: no name is as long. -/
theorem full_hex (hhex : hex.length ≤ 64) (hname : name.length ≤ AVCTL_NAME_MAXLEN)
    (hx : x = (firstWord (hex ++ blank :: (name ++ [nl]))).take 64) (hlen : x.length = 64) :
    x = hex ∧ IsWord hex := by
  rcases firstWord_append (s := hex) (t := name ++ [nl]) (c := blank) (by decide) with
    hword | ⟨-, hword⟩
  · rw [hword] at hx
    have hle : hex.length ≤ (firstWord hex).length := by
      refine hhex.trans ?_
      rw [← hlen, hx]
      exact (List.take_prefix _ _).length_le
    have hself := firstWord_eq_self hle
    rw [hself, List.take_of_length_le hhex] at hx
    subst hx
    refine ⟨rfl, word_of_firstWord hself ?_⟩
    rintro rfl
    cases hlen
  · exfalso
    have hshort : x.length ≤ AVCTL_NAME_MAXLEN := by
      rw [hx, hword]
      refine (List.take_prefix _ _).length_le.trans ?_
      rcases firstWord_append (s := name) (t := []) (c := nl) (by decide) with hn | ⟨-, hn⟩
      · rw [hn]
        exact (firstWord_length_le name).trans hname
      · rw [hn]
        exact Nat.zero_le _
    rw [hlen] at hshort
    exact absurd hshort (by decide)

/-- White space in front is all that can be lost of a name. -/
theorem skip_spaces_eq_self_iff : skip_spaces name = name ↔
    ∀ b, name.head? = some b → isspace b = false := by
  constructor
  · intro h b hb
    obtain ⟨rest, rfl⟩ : ∃ rest, name = b :: rest := by
      cases name with
      | nil => cases hb
      | cons a rest => exact ⟨rest, by rw [Option.some.inj hb]⟩
    by_contra hspace
    have hlen := congrArg List.length h
    rw [skip_spaces, List.dropWhile_cons_of_pos (by simpa using hspace)] at hlen
    have hle := (List.dropWhile_suffix isspace (l := rest)).length_le
    simp only [List.length_cons] at hlen
    omega
  · exact skip_spaces_of_head

end Parsing

section Storing

variable {H : KernelHash} {algo hex name path : Bytes} {w : WriteCall}

/-- The entries that a write added are those of this algorithm, hash and name, and there is one. -/
def StoredSig (t u : SigTable.Table H) (algo hex name : Bytes) : Prop :=
  (∃ e, Added t.sig_table u.sig_table e) ∧ ∀ e, Added t.sig_table u.sig_table e →
    parse_algo algo = some e.algo ∧ hex_tolower e.hex = hex_tolower hex ∧ e.name = name

def RemovedSig (t u : SigTable.Table H) (algo hex : Bytes) : Prop :=
  (∃ e, Removed t.sig_table u.sig_table e) ∧ ∀ e, Removed t.sig_table u.sig_table e →
    parse_algo algo = some e.algo ∧ hex_tolower e.hex = hex_tolower hex

def StoredTrust (t u : TrustTable.Table H) (hex name : Bytes) : Prop :=
  (∃ e, Added t u e) ∧ ∀ e, Added t u e →
    hex_tolower e.sha256_hex = hex_tolower hex ∧ e.name = name

def RemovedTrust (t u : TrustTable.Table H) (hex : Bytes) : Prop :=
  (∃ e, Removed t u e) ∧ ∀ e, Removed t u e → hex_tolower e.sha256_hex = hex_tolower hex

def StoredPath (t u : ProtectTable.Table H) (path : Bytes) : Prop :=
  (∃ e, Added t u e) ∧ ∀ e, Added t u e → e = path

def RemovedPath (t u : ProtectTable.Table H) (path : Bytes) : Prop :=
  (∃ e, Removed t u e) ∧ ∀ e, Removed t u e → e = path

/-- The kernel tables changed as the confirmation says. -/
def Stored (s u : ProcState H) : Confirmation → Prop
  | .added algo hex name => StoredSig s.sig u.sig algo hex name
  | .removed algo hex => RemovedSig s.sig u.sig algo hex
  | .trusted hex name => StoredTrust s.trust u.trust hex name
  | .untrusted hex => RemovedTrust s.trust u.trust hex
  | .protected_path path => StoredPath s.protected_table u.protected_table path
  | .unprotected_path path => RemovedPath s.protected_table u.protected_table path

/-- Bytes that the kernel's scanner passes over do not come first. -/
def NoSpaceFirst (s : Bytes) : Prop := ∀ b, s.head? = some b → isspace b = false

def NoCrLast (s : Bytes) : Prop := s.getLast? ≠ some cr

/-- The arguments that arrive as they were given. -/
def Plain : Confirmation → Prop
  | .added _ hex name => IsWord hex ∧ NoSpaceFirst name
  | .removed algo hex => IsWord hex ∧ (parse_algo algo).map algo_hexlen = some hex.length
  | .trusted _ name => NoSpaceFirst name
  | .untrusted _ => True
  | .protected_path path => NoCrLast path
  | .unprotected_path path => (∀ b, path.head? = some b → isBlank b = false) ∧ NoCrLast path

private theorem tolower_idem (s : Bytes) : hex_tolower (hex_tolower s) = hex_tolower s := by
  rw [hex_tolower, hex_tolower, List.map_map]
  exact List.map_congr_left fun b _ => tolower_tolower b

private theorem val_inj {a b : AvAlgo} (h : a.val = b.val) : a = b := by
  cases a <;> cases b <;> first | rfl | cases h

private theorem one_iff {α : Type} {P Q : α → Prop} {e : α} (h : ∀ x, P x ↔ x = e) :
    ((∃ x, P x) ∧ ∀ x, P x → Q x) ↔ Q e := by
  constructor
  · rintro ⟨-, hall⟩
    exact hall e ((h e).mpr rfl)
  · intro hq
    refine ⟨⟨e, (h e).mpr rfl⟩, fun x hx => ?_⟩
    rw [(h x).mp hx]
    exact hq

private theorem named (hname : Fits name AVCTL_NAME_MAXLEN) :
    strscpy 64 (skip_spaces name) = name ↔ NoSpaceFirst name := by
  have hlen : (skip_spaces name).length < 64 :=
    Nat.lt_succ_of_le ((List.dropWhile_suffix _).length_le.trans hname.length_le)
  rw [strscpy_eq_self hlen]
  exact skip_spaces_eq_self_iff

theorem stored_sig_iff {t : SigTable.Table H} (halgo : check_algo algo = true)
    (hhex : Fits hex AVCTL_HASH_HEX_MAXLEN) (hname : Fits name AVCTL_NAME_MAXLEN)
    (hbuf : cstr w.ubuf =
      lit "add" ++ blank :: (algo ++ blank :: (hex ++ blank :: (name ++ [nl]))))
    (h : 0 ≤ (sig_proc_write t w).1) :
    StoredSig t (sig_proc_write t w).2 algo hex name ↔ IsWord hex ∧ NoSpaceFirst name := by
  obtain ⟨cmd, algo_str, x, fields, a, hscan, hparse, hcase⟩ := sig_proc_write_ok h
  rw [hbuf, sscanf_sig _ _ (by decide) (by decide) halgo] at hscan
  obtain ⟨rfl, hfields⟩ := List.cons.inj hscan
  obtain ⟨rfl, htail⟩ := List.cons.inj hfields
  have hx := read_hex htail
  rcases hcase with ⟨-, first, more, rfl, hret, htable⟩ | ⟨hnot, -⟩
  · obtain ⟨e, halgoval, hehex, hename, hlen, -, hnew, hfind⟩ := add_ok hret
    have hread : IsWord hex → x = hex ∧ first = skip_spaces name := by
      intro hword
      rw [sscanf_hex_name hword hhex hname] at htail
      obtain ⟨hx, hrest⟩ := List.cons.inj htail
      split at hrest
      · cases hrest
      · exact ⟨hx.symm, (List.cons.inj hrest).1.symm⟩
    rw [StoredSig, htable, one_iff (added_iff hnew hfind), hparse, val_inj halgoval, hehex,
      tolower_idem, hename]
    constructor
    · rintro ⟨-, hsame, hsamename⟩
      have hne : hex ≠ [] := by
        rintro rfl
        have hzero := congrArg List.length hsame
        rw [hex_tolower_length, hlen] at hzero
        exact absurd hzero (hexlen_pos e.algo).ne'
      have hword := word_of_same_hex _ hne hx hsame
      rw [(hread hword).2] at hsamename
      exact ⟨hword, (named hname).mp hsamename⟩
    · rintro ⟨hword, hfirst⟩
      obtain ⟨rfl, rfl⟩ := hread hword
      exact ⟨rfl, rfl, (named hname).mpr hfirst⟩
  · exact absurd hnot (by decide)

theorem stored_trust_iff {t : TrustTable.Table H} (hhex : Fits hex AVCTL_HASH_HEX_MAXLEN)
    (hname : Fits name AVCTL_NAME_MAXLEN)
    (hbuf : cstr w.ubuf = lit "add" ++ blank :: (hex ++ blank :: (name ++ [nl])))
    (h : 0 ≤ (trust_proc_write t w).1) :
    StoredTrust t (trust_proc_write t w).2 hex name ↔ NoSpaceFirst name := by
  obtain ⟨cmd, x, fields, hscan, hcase⟩ := trust_proc_write_ok h
  rw [hbuf, sscanf_trust _ _ (by decide) (by decide)] at hscan
  obtain ⟨rfl, htail⟩ := List.cons.inj hscan
  rcases hcase with ⟨-, first, more, rfl, hret, htable⟩ | ⟨hnot, -⟩
  · obtain ⟨hlen, e, hehex, hename, hnew, hfind⟩ := TrustTable.trust_add_ok hret
    obtain ⟨rfl, hword⟩ := full_hex hhex.length_le hname.length_le (read_hex htail) hlen
    rw [sscanf_hex_name hword hhex hname] at htail
    obtain ⟨-, hrest⟩ := List.cons.inj htail
    split at hrest
    · cases hrest
    obtain ⟨hfirst, -⟩ := List.cons.inj hrest
    have hsame : hex_tolower e.sha256_hex = hex_tolower x := by
      rw [hehex]
      exact tolower_idem x
    rw [StoredTrust, htable, one_iff (added_iff hnew hfind), hename, ← hfirst]
    exact (and_iff_right hsame).trans (named hname)
  · exact absurd hnot (by decide)

theorem removed_sig_iff {t : SigTable.Table H} (ht : Counted t) (halgo : check_algo algo = true)
    (hhex : Fits hex AVCTL_HASH_HEX_MAXLEN)
    (hbuf : cstr w.ubuf = lit "del" ++ blank :: (algo ++ blank :: (hex ++ [nl])))
    (h : 0 ≤ (sig_proc_write t w).1) :
    RemovedSig t (sig_proc_write t w).2 algo hex ↔
      IsWord hex ∧ (parse_algo algo).map algo_hexlen = some hex.length := by
  obtain ⟨cmd, algo_str, x, fields, a, hscan, hparse, hcase⟩ := sig_proc_write_ok h
  rw [hbuf, sscanf_sig _ _ (by decide) (by decide) halgo] at hscan
  obtain ⟨rfl, hfields⟩ := List.cons.inj hscan
  obtain ⟨rfl, htail⟩ := List.cons.inj hfields
  have hx := read_hex htail
  rcases hcase with ⟨hadd, -⟩ | ⟨-, hret, htable⟩
  · exact absurd hadd (by decide)
  · obtain ⟨e, hnames, hmem, hfind⟩ := del_ok hret
    obtain ⟨hlen, -⟩ := ht.entry hmem
    simp only [SigEntry.names, strncaseeq, Bool.and_eq_true, decide_eq_true_eq,
      beq_iff_eq] at hnames
    obtain ⟨hval, hcmp⟩ := hnames
    rw [List.take_of_length_le hlen.le] at hcmp
    rw [RemovedSig, htable, one_iff (removed_iff hmem hfind), hparse, ← val_inj hval,
      Option.map_some]
    constructor
    · rintro ⟨-, hsame⟩
      have hhexlen : hex.length = algo_hexlen e.algo := by
        rw [← hex_tolower_length, ← hsame, hex_tolower_length, hlen]
      have hle : hex.length ≤ x.length := by
        have hcount := congrArg List.length hcmp
        rw [List.length_map, List.length_map, List.length_take, hlen] at hcount
        omega
      have hne : x ≠ [] := by
        rintro rfl
        have hpos := hexlen_pos e.algo
        rw [List.length_nil] at hle
        omega
      exact ⟨(hex_at_end hhex.length_le hx hle hne).2, congrArg some hhexlen.symm⟩
    · rintro ⟨hword, hhexlen⟩
      have hself : x = hex := by
        rw [hx, firstWord_word hword (by decide)]
        exact List.take_of_length_le hhex.length_le
      rw [hself, List.take_of_length_le (Option.some.inj hhexlen).ge] at hcmp
      exact ⟨rfl, hcmp⟩

/-- The keys of the trusted table are full digest texts in lower case. -/
def TrustKeyed (t : TrustTable.Table H) : Prop :=
  ∀ key e, t.find? key = some e →
    e.sha256_hex.length = TrustTable.SHA256_HEX_LEN ∧ hex_tolower e.sha256_hex = e.sha256_hex

theorem removed_trust {t : TrustTable.Table H} (ht : TrustKeyed t)
    (hhex : Fits hex AVCTL_HASH_HEX_MAXLEN)
    (hbuf : cstr w.ubuf = lit "del" ++ blank :: (hex ++ [nl]))
    (h : 0 ≤ (trust_proc_write t w).1) : RemovedTrust t (trust_proc_write t w).2 hex := by
  obtain ⟨cmd, x, fields, hscan, hcase⟩ := trust_proc_write_ok h
  rw [hbuf, sscanf_trust _ _ (by decide) (by decide)] at hscan
  obtain ⟨rfl, htail⟩ := List.cons.inj hscan
  rcases hcase with ⟨hadd, -⟩ | ⟨-, hret, htable⟩
  · exact absurd hadd (by decide)
  · obtain ⟨hlen, hfound, hfind⟩ := TrustTable.trust_del_ok hret
    have hle : hex.length ≤ x.length := hhex.length_le.trans hlen.ge
    have hne : x ≠ [] := by
      rintro rfl
      cases hlen
    obtain ⟨rfl, -⟩ := hex_at_end hhex.length_le (read_hex htail) hle hne
    -- an entry that the walk compares equal has exactly the key
    have hkey : ∀ key e, t.find? key = some e →
        e.names (TrustTable.hex_tolower x) = true → e.sha256_hex = hex_tolower x := by
      intro key e he hnames
      obtain ⟨helen, helower⟩ := ht key e he
      simp only [TrustTable.TrustEntry.names, strncaseeq, beq_iff_eq] at hnames
      rw [List.take_of_length_le helen.le, List.take_of_length_le] at hnames
      · rw [← helower]
        exact hnames.trans (tolower_idem x)
      · exact ((hex_tolower_length x).trans hlen).le
    obtain ⟨e, he, hbucket, hnames⟩ := TrustTable.hash_is_trusted_iff.mp hfound
    rw [htable]
    refine ⟨⟨e, he, ?_⟩, ?_⟩
    · rw [hfind, he, Option.bind_some, if_pos ⟨hbucket, hnames⟩]
    · rintro y ⟨hy, hgone⟩
      rw [hfind, hy, Option.bind_some] at hgone
      split at hgone
      · rename_i hhit
        rw [hkey _ y hy hhit.2]
        exact tolower_idem x
      · cases hgone

/-- The line without its newline, and without a carriage return at its end. -/
theorem stripTerminator_line (path : Bytes) : stripTerminator (path ++ [nl]) =
    some (if path.getLast? = some cr then path.dropLast else path) := by
  rw [stripTerminator, if_neg (by simp), List.dropLast_concat]
  split <;> rfl

private theorem stripped_eq_self_iff :
    (if path.getLast? = some cr then path.dropLast else path) = path ↔ NoCrLast path := by
  unfold NoCrLast
  split
  · rename_i hcr
    simp only [hcr, ne_eq, not_true_eq_false, iff_false]
    intro heq
    have hlen := congrArg List.length heq
    have hpos : path ≠ [] := by
      rintro rfl
      cases hcr
    rw [List.length_dropLast] at hlen
    have := List.length_pos_of_ne_nil hpos
    omega
  · rename_i hcr
    exact iff_of_true rfl hcr

theorem protected_path_iff {t : ProtectTable.Table H} (hslash : path.head? = some slash)
    (hbuf : cstr w.ubuf = lit "add" ++ blank :: (path ++ [nl]))
    (h : 0 ≤ (protected_proc_write t w).1) :
    StoredPath t (protected_proc_write t w).2 path ↔ NoCrLast path := by
  obtain ⟨cmd, more, p, hscan, hpath, hcase⟩ := protected_proc_write_ok h
  rw [hbuf, sscanf_word (by decide) (by decide) (by decide)] at hscan
  obtain ⟨rfl, -⟩ := List.cons.inj hscan
  have hafter : afterCommand (cstr w.ubuf) = path ++ [nl] := by
    obtain ⟨rest, rfl⟩ : ∃ rest, path = slash :: rest := by
      cases path with
      | nil => cases hslash
      | cons a rest => exact ⟨rest, by rw [Option.some.inj hslash]⟩
    rw [hbuf]
    rfl
  rw [hafter, stripTerminator_line, Option.some.injEq] at hpath
  rcases hcase with ⟨-, hret, htable⟩ | ⟨hnot, -⟩
  · rcases ProtectTable.protect_add_spec t w.entry_ok p with ⟨-, hnew, hfind⟩ | ⟨hneg, -⟩
    · rw [StoredPath, htable, one_iff (added_iff (e := p) hnew hfind), ← hpath]
      exact stripped_eq_self_iff
    · exact absurd hret hneg.ne
  · exact absurd hnot (by decide)

theorem unprotected_path_iff {t : ProtectTable.Table H}
    (hbuf : cstr w.ubuf = lit "del" ++ blank :: (path ++ [nl]))
    (h : 0 ≤ (protected_proc_write t w).1) :
    RemovedPath t (protected_proc_write t w).2 path ↔
      (∀ b, path.head? = some b → isBlank b = false) ∧ NoCrLast path := by
  obtain ⟨cmd, more, p, hscan, hpath, hcase⟩ := protected_proc_write_ok h
  rw [hbuf, sscanf_word (by decide) (by decide) (by decide)] at hscan
  obtain ⟨rfl, -⟩ := List.cons.inj hscan
  have hafter : afterCommand (cstr w.ubuf) = path.dropWhile isBlank ++ [nl] := by
    have hword : afterCommand (lit "del" ++ blank :: (path ++ [nl])) =
        (path ++ [nl]).dropWhile isBlank := rfl
    rw [hbuf, hword, List.dropWhile_append]
    split
    · rename_i hnil
      rw [List.isEmpty_iff.mp hnil]
      rfl
    · rfl
  rw [hafter, stripTerminator_line, Option.some.injEq] at hpath
  rcases hcase with ⟨hadd, -⟩ | ⟨-, hret, htable⟩
  · exact absurd hadd (by decide)
  · rcases ProtectTable.protect_del_spec t p with ⟨-, hmem, hfind⟩ | ⟨hneg, -⟩
    · rw [RemovedPath, htable, one_iff (removed_iff (e := p) hmem hfind), ← hpath]
      constructor
      · intro heq
        have hsame : path.dropWhile isBlank = path := by
          refine (List.dropWhile_suffix _).eq_of_length_le ?_
          conv_lhs => rw [← heq]
          split
          · exact (List.dropLast_prefix _).length_le
          · exact le_rfl
        rw [hsame, stripped_eq_self_iff] at heq
        refine ⟨?_, heq⟩
        intro b hb
        cases path with
        | nil => cases hb
        | cons a rest =>
          obtain rfl := Option.some.inj hb
          by_contra hblank
          have hzero := List.dropWhile_eq_self_iff.mp hsame (by simp)
          exact hzero (by simpa using hblank)
      · rintro ⟨hhead, hcr⟩
        have hsame : path.dropWhile isBlank = path := by
          cases path with
          | nil => rfl
          | cons a rest => exact List.dropWhile_cons_of_neg (by simp [hhead a rfl])
        rw [hsame]
        exact stripped_eq_self_iff.mpr hcr
    · exact absurd hret hneg.ne

end Storing

section Runs

variable {H : KernelHash} {s : ProcState H}

/-- An argument: a byte string without a NUL. -/
abbrev CString := { b : Bytes // (0 : UInt8) ∉ b }

/-- The states that the loaded module can be in: its own additions at load time, and writes to
its files by anyone. -/
inductive Reachable : ProcState H → Prop
  | boot : Reachable (.boot H)
  | seed {s : ProcState H} (h : Reachable s) (kmalloc_ok : Bool) (algo : Nat) (hex name : Bytes) :
      Reachable { s with sig := (av_sigtable_add s.sig kmalloc_ok algo hex name).2 }
  | write {s : ProcState H} (h : Reachable s) (w : WriteCall) (file : ProcFile) :
      Reachable (procWrite s w file).2

private theorem trust_add_keyed (t : TrustTable.Table H) (ok : Bool) (hex name : Bytes)
    (h : TrustKeyed t) : TrustKeyed (TrustTable.av_behavior_trust_add t ok hex name).2 := by
  by_cases hret : (TrustTable.av_behavior_trust_add t ok hex name).1 = 0
  · obtain ⟨hlen, e, hehex, -, -, hfind⟩ := TrustTable.trust_add_ok hret
    intro key x hx
    rw [hfind] at hx
    split at hx
    · obtain rfl := Option.some.inj hx
      rw [hehex]
      exact ⟨(hex_tolower_length hex).trans hlen, tolower_idem hex⟩
    · exact h key x hx
  · rw [TrustTable.trust_add_failed hret]
    exact h

private theorem trust_del_keyed (t : TrustTable.Table H) (hex : Bytes) (h : TrustKeyed t) :
    TrustKeyed (TrustTable.av_behavior_trust_del t hex).2 := by
  by_cases hret : (TrustTable.av_behavior_trust_del t hex).1 = 0
  · obtain ⟨-, -, hfind⟩ := TrustTable.trust_del_ok hret
    intro key x hx
    rw [hfind] at hx
    obtain ⟨e, he, hkept⟩ := Option.bind_eq_some_iff.mp hx
    split at hkept
    · cases hkept
    · obtain rfl := Option.some.inj hkept
      exact h key e he
  · rw [TrustTable.del_failed hret]
    exact h

theorem Reachable.keyed (h : Reachable s) : Counted s.sig ∧ TrustKeyed s.trust := by
  induction h with
  | boot => exact ⟨⟨∅, refines_empty H⟩, fun key e he => by cases he⟩
  | seed _ ok algo hex name ih => exact ⟨add_counted ih.1 ok algo hex name, ih.2⟩
  | write _ w file ih =>
    cases file with
    | signatures =>
      refine ⟨sig_proc_write_keeps ?_ ?_ ih.1 w, ih.2⟩
      · exact fun t ok algo hex name ht => add_counted ht ok algo hex name
      · exact fun t algo hex ht => del_counted ht algo hex
    | trusted => exact ⟨ih.1, trust_proc_write_keeps trust_add_keyed trust_del_keyed ih.2 w⟩
    | protected_paths => exact ih
    | daemon_policy => exact ih

theorem avctl_main_ok {env : RunEnv} {argv : List Bytes} (h : (avctl_main s env argv).1 = 0) :
    ∃ r, request argv.tail = some r ∧ (avctl_main s env argv).2.1 = some r.confirmation ∧
      0 ≤ (procWrite s (env.call (r.cmd ++ [nl])) r.path).1 ∧
      (avctl_main s env argv).2.2 = (procWrite s (env.call (r.cmd ++ [nl])) r.path).2 := by
  unfold avctl_main at h ⊢
  split at h
  · cases h
  rename_i r hr
  refine ⟨r, hr, ?_⟩
  dsimp only at h ⊢
  split at h
  · cases h
  rename_i hret
  rw [if_neg hret, not_not] at *
  unfold write_command_to at hret ⊢
  split at hret
  · rename_i hopen
    exact absurd hret (neg_ne_zero.mpr hopen)
  rename_i hopen
  split at hret
  · exact absurd hret (show ¬ -ENOMEM = 0 by decide)
  rename_i hmem
  dsimp only at hret
  split at hret
  · rename_i hneg
    exact absurd hret hneg.ne
  rename_i hwritten
  rw [if_neg hopen, if_neg hmem]
  dsimp only
  rw [if_neg hwritten]
  exact ⟨rfl, not_lt.mp hwritten, rfl⟩

private theorem joinWords_clean {args : List Bytes} (h : ∀ a ∈ args, (0 : UInt8) ∉ a) :
    (0 : UInt8) ∉ joinWords args := by
  cases args with
  | nil => exact List.not_mem_nil
  | cons arg args =>
    obtain ⟨harg, hargs⟩ := List.forall_mem_cons.mp h
    simp only [joinWords, List.mem_append, List.mem_flatMap, List.mem_cons, not_or, not_exists,
      not_and]
    exact ⟨harg, fun a ha => ⟨by decide, hargs a ha⟩⟩

private theorem issued_clean {argv : List Bytes} {c : Confirmation} (h : Given argv c)
    (hargv : ∀ a ∈ argv, (0 : UInt8) ∉ a) : (0 : UInt8) ∉ (issued c).2 ++ [nl] := by
  have hadd : (0 : UInt8) ∉ lit "add " := by decide
  have hdel : (0 : UInt8) ∉ lit "del " := by decide
  have hblank : (0 : UInt8) ≠ blank := by decide
  have hnl : (0 : UInt8) ≠ nl := by decide
  cases h with
  | trusted prog hex name =>
    have hname : (0 : UInt8) ∉ joinWords name :=
      joinWords_clean fun a ha => hargv a (by simp only [List.mem_cons, ha, or_true])
    simp_all [issued]
  | _ => simp_all [issued]

/-- The line that is written, word by word. -/
private theorem issued_line (c : Confirmation) : (issued c).2 ++ [nl] =
    match c with
    | .added algo hex name =>
        lit "add" ++ blank :: (algo ++ blank :: (hex ++ blank :: (name ++ [nl])))
    | .removed algo hex => lit "del" ++ blank :: (algo ++ blank :: (hex ++ [nl]))
    | .trusted hex name => lit "add" ++ blank :: (hex ++ blank :: (name ++ [nl]))
    | .untrusted hex => lit "del" ++ blank :: (hex ++ [nl])
    | .protected_path path => lit "add" ++ blank :: (path ++ [nl])
    | .unprotected_path path => lit "del" ++ blank :: (path ++ [nl]) := by
  have hadd : lit "add " = lit "add" ++ [blank] := rfl
  have hdel : lit "del " = lit "del" ++ [blank] := rfl
  cases c
  all_goals simp only [issued, hadd, hdel, List.append_assoc, List.cons_append, List.nil_append]

/-- What the kernel tables get is what was given and printed exactly for plain arguments. -/
theorem stored_as_printed_iff (hs : Reachable s) (env : RunEnv) (argv : List CString)
    (h : (avctl_main s env (argv.map Subtype.val)).1 = 0) :
    ∃ c, (avctl_main s env (argv.map Subtype.val)).2.1 = some c ∧ Given (argv.map Subtype.val) c ∧
      (Stored s (avctl_main s env (argv.map Subtype.val)).2.2 c ↔ Plain c) := by
  obtain ⟨r, hr, hprinted, hret, hstate⟩ := avctl_main_ok h
  obtain ⟨prog, args, hargv⟩ : ∃ prog args, argv.map Subtype.val = prog :: args := by
    cases hlist : argv.map Subtype.val with
    | nil =>
      rw [hlist] at hr
      cases hr
    | cons prog args => exact ⟨prog, args, rfl⟩
  rw [hargv, List.tail_cons] at hr
  obtain ⟨hgiven, hchecked, hissued⟩ := request_spec hr prog
  rw [← hargv] at hgiven
  refine ⟨r.confirmation, hprinted, hgiven, ?_⟩
  have hclean : ∀ a ∈ argv.map Subtype.val, (0 : UInt8) ∉ a := by
    intro a ha
    obtain ⟨c, -, rfl⟩ := List.mem_map.mp ha
    exact c.2
  have hbuf : cstr (env.call (r.cmd ++ [nl])).ubuf = (issued r.confirmation).2 ++ [nl] := by
    have hcmd : r.cmd = (issued r.confirmation).2 := congrArg Prod.snd hissued
    show cstr (r.cmd ++ [nl]) = _
    rw [hcmd]
    exact cstr_eq_self (issued_clean hgiven hclean)
  rw [issued_line] at hbuf
  have hpath : r.path = (issued r.confirmation).1 := congrArg Prod.fst hissued
  rw [hstate]
  rw [hpath] at hret ⊢
  obtain ⟨hsig, htrust⟩ := hs.keyed
  cases hc : r.confirmation with
  | added algo hex name =>
    rw [hc] at hbuf hret hchecked
    obtain ⟨halgo, hhex, hname⟩ := hchecked
    exact stored_sig_iff halgo hhex hname hbuf hret
  | removed algo hex =>
    rw [hc] at hbuf hret hchecked
    obtain ⟨halgo, hhex⟩ := hchecked
    exact removed_sig_iff hsig halgo hhex hbuf hret
  | trusted hex name =>
    rw [hc] at hbuf hret hchecked
    obtain ⟨hhex, hname⟩ := hchecked
    exact stored_trust_iff hhex hname hbuf hret
  | untrusted hex =>
    rw [hc] at hbuf hret hchecked
    exact iff_of_true (removed_trust htrust hchecked hbuf hret) trivial
  | protected_path path =>
    rw [hc] at hbuf hret hchecked
    obtain ⟨hslash, -⟩ := hchecked
    exact protected_path_iff hslash hbuf hret
  | unprotected_path path =>
    rw [hc] at hbuf hret
    exact unprotected_path_iff hbuf hret

end Runs

/-- A run as root with the module loaded. -/
def RunEnv.root : RunEnv := ⟨0, true, true, true, true, true, true⟩

/-- The arguments of `avctl add md5 <hash of zeros>` and a name. -/
def addArgs (name : CString) : List CString :=
  [⟨lit "avctl", by decide⟩, ⟨lit "add", by decide⟩, ⟨lit "md5", by decide⟩,
    ⟨List.replicate 32 48, by decide⟩, name]

/-- A name of one word is stored as it was given. -/
theorem one_word_name_stored :
    ∃ c, (avctl_main (ProcState.boot singleBucket) .root
        ((addArgs ⟨lit "x", by decide⟩).map Subtype.val)).2.1 = some c ∧
      Given ((addArgs ⟨lit "x", by decide⟩).map Subtype.val) c ∧
      (Stored (ProcState.boot singleBucket) (avctl_main (ProcState.boot singleBucket) .root
        ((addArgs ⟨lit "x", by decide⟩).map Subtype.val)).2.2 c ↔ Plain c) :=
  stored_as_printed_iff .boot .root (addArgs ⟨lit "x", by decide⟩) (by decide +kernel)

/-- A name with a space in front is stored without it. -/
theorem space_in_front_is_lost :
    ¬ ∀ (H : KernelHash) (s : ProcState H), Reachable s → ∀ (env : RunEnv) (argv : List CString),
        (avctl_main s env (argv.map Subtype.val)).1 = 0 → ∀ c,
          (avctl_main s env (argv.map Subtype.val)).2.1 = some c →
            Stored s (avctl_main s env (argv.map Subtype.val)).2.2 c := by
  intro hall
  have hprinted : (avctl_main (ProcState.boot singleBucket) .root
      ((addArgs ⟨lit " x", by decide⟩).map Subtype.val)).2.1 =
        some (.added (lit "md5") (List.replicate 32 48) (lit " x")) := by decide +kernel
  have hstored := hall singleBucket (.boot singleBucket) .boot .root (addArgs ⟨lit " x", by decide⟩)
    (by decide +kernel) _ hprinted
  obtain ⟨⟨e, hnew, hadded⟩, hsame⟩ := hstored
  have hname : e.name = lit " x" := (hsame e ⟨hnew, hadded⟩).2.2
  have hchain : ((avctl_main (ProcState.boot singleBucket) .root
      ((addArgs ⟨lit " x", by decide⟩).map Subtype.val)).2.2.sig.sig_table.chain
        (sigBucket singleBucket e.key)).all (fun x => x.name == lit "x") = true := by
    show ((avctl_main (ProcState.boot singleBucket) .root
      ((addArgs ⟨lit " x", by decide⟩).map Subtype.val)).2.2.sig.sig_table.chain
        ⟨0, by decide⟩).all (fun x => x.name == lit "x") = true
    decide +kernel
  have hread := List.all_eq_true.mp hchain e (HashTable.find?_eq_some.mp hadded).1
  rw [beq_iff_eq, hname] at hread
  exact absurd hread (by decide)

end KernelAv.Userspace.Avctl
