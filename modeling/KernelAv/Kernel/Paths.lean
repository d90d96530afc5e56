/- digest: Path strings: absolute forms, lexical normalisation, and the tables of the checks. -/

import KernelAv.Lib.CText

set_option autoImplicit false
set_option relaxedAutoImplicit false

namespace KernelAv.Kernel.Paths

open KernelAv.Lib.CText

def PATH_MAX : Nat := 4096
def slash : UInt8 := 47
def dot : UInt8 := 46

/-- The `strsep` loop of `normalize_abs_path` over a stack of 128 components, the last one first;
`none` when the path has more components than it can track. -/
def collapse : List Bytes → List Bytes → Option (List Bytes)
  | [], stack => some stack
  | tok :: toks, stack =>
      if tok = [] ∨ tok = [dot] then collapse toks stack
      else if tok = [dot, dot] then collapse toks stack.tail
      else if stack.length < 128 then collapse toks (tok :: stack)
      else none

def normalize_abs_path (dup_ok : Bool) (path : Bytes) (path_len : Nat) : Bytes :=
  if !dup_ok then path
  else
    match collapse (path.splitOn slash) [] with
    | none => path
    | some [] => strlcat path_len [] [slash]
    | some stack =>
        stack.reverse.foldl
          (fun out tok => strlcat path_len (strlcat path_len out [slash]) tok) []

/-- What the calls that `resolve_absolute_path` makes return: the two allocations, and `d_path`
of the base. -/
structure ResolveIo where
  tmp_ok : Bool
  d_path : Option Bytes
  dup_ok : Bool
  deriving DecidableEq

def resolve_absolute_path (io : ResolveIo) (path : Bytes) (out_len : Nat) : Bytes :=
  if path = [] then
    if !io.tmp_ok then []
    else
      match io.d_path with
      | none => []
      | some dirpath => strscpy out_len dirpath
  else if path.head? = some slash then
    normalize_abs_path io.dup_ok (strscpy out_len path) out_len
  else if !io.tmp_ok then strscpy out_len path
  else
    match io.d_path with
    | none => strscpy out_len path
    | some dirpath =>
        let full := dirpath ++ slash :: path
        if out_len ≤ full.length then strscpy out_len path
        else normalize_abs_path io.dup_ok full out_len

private theorem normalize_length {dup_ok : Bool} {path : Bytes} {path_len : Nat}
    (h : path.length < path_len) : (normalize_abs_path dup_ok path path_len).length < path_len := by
  have hjoin : ∀ (toks : List Bytes) (out : Bytes), out.length < path_len →
      (toks.foldl (fun out tok => strlcat path_len (strlcat path_len out [slash]) tok)
        out).length < path_len := by
    intro toks
    induction toks with
    | nil => exact fun out hout => hout
    | cons tok toks ih =>
      intro out hout
      exact ih _ (strlcat_length (strlcat_length hout _) _)
  have hempty : ([] : Bytes).length < path_len := Nat.lt_of_le_of_lt (Nat.zero_le _) h
  unfold normalize_abs_path
  split
  · exact h
  split
  · exact h
  · exact strlcat_length hempty _
  · exact hjoin _ _ hempty

/-- The result fits the buffer it is written to. -/
theorem resolve_length {io : ResolveIo} {path : Bytes} {out_len : Nat} (h : 0 < out_len) :
    (resolve_absolute_path io path out_len).length < out_len := by
  unfold resolve_absolute_path
  split
  · split
    · exact h
    · split
      · exact h
      · exact strscpy_length h _
  split
  · exact normalize_length (strscpy_length h _)
  split
  · exact strscpy_length h _
  split
  · exact strscpy_length h _
  dsimp only
  split
  · exact strscpy_length h _
  · rename_i hfits
    exact normalize_length (by omega)

def excluded_path_prefixes : List Bytes := [lit "/sys/", lit "/proc/", lit "/dev/"]

def excluded_path_cache_substrings : List Bytes := [lit "/.cache/"]

def excluded_path_suffixes : List Bytes := [lit "-journal", lit "-wal", lit "-shm"]

def sensitive_path_substrings : List Bytes := [lit "/etc/passwd", lit "/etc/shadow", lit "/.ssh/"]

def sensitive_path_prefixes : List Bytes := [lit "/boot/"]

def path_is_pseudo_fs (path : Bytes) : Bool :=
  excluded_path_prefixes.any fun p => p.isPrefixOf path

def path_is_rapid_write_noise (path : Bytes) : Bool :=
  excluded_path_cache_substrings.any (fun s => strstr path s) ||
    excluded_path_suffixes.any fun s => s.isSuffixOf path

/-- The needle stands at the head of `p`, and ends a path component there. -/
def boundedAt (needle p : Bytes) : Bool :=
  needle.isPrefixOf p &&
    (needle.getLast? = some slash || (p.drop needle.length).head? = none ||
      (p.drop needle.length).head? = some slash)

/-- The `strstr` loop, from each place of the path on. -/
def path_has_bounded_substring (needle : Bytes) : Bytes → Bool
  | [] => boundedAt needle []
  | c :: p => boundedAt needle (c :: p) || path_has_bounded_substring needle p

def path_is_sensitive (path : Bytes) : Bool :=
  sensitive_path_prefixes.any (fun p => p.isPrefixOf path) ||
    sensitive_path_substrings.any fun s => path_has_bounded_substring s path

def path_basename (path : Bytes) : Bytes := (path.reverse.takeWhile (· ≠ slash)).reverse

def is_extension_append_rename (old_path new_path : Bytes) : Bool :=
  let old_base := path_basename old_path
  let new_base := path_basename new_path
  if new_base.length ≤ old_base.length then false
  else if !old_base.isPrefixOf new_base then false
  else (new_base.drop old_base.length).head? = some dot

end KernelAv.Kernel.Paths
