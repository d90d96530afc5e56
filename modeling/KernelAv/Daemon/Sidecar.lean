/- digest: The quarantine sidecar: its writer, its reader, and exactly which paths survive both. -/

import KernelAv.Lib.Lines

set_option autoImplicit false
set_option relaxedAutoImplicit false

namespace KernelAv.Daemon.Sidecar

open KernelAv.Lib.CText
open KernelAv.Lib.Lines

def PATH_MAX : Nat := 4096
def AV_RULE_NAME_MAXLEN : Nat := 63

/-- The fields of `struct stat` the sidecar records. -/
structure Stat where
  st_mode : UInt32
  st_uid : UInt32
  st_gid : UInt32
  deriving DecidableEq

/-- `struct quarantine_meta`; `time_t` has 64 bits. -/
structure QuarantineMeta where
  original_path : Bytes
  original_mode : UInt32
  original_uid : UInt32
  original_gid : UInt32
  timestamp : Int64
  rule_name : Bytes
  sha256_hex : Bytes
  deriving DecidableEq

def tagMode : Bytes := lit "ORIGINAL_MODE="
def tagUid : Bytes := lit "ORIGINAL_UID="
def tagGid : Bytes := lit "ORIGINAL_GID="
def tagTime : Bytes := lit "TIMESTAMP="
def tagRule : Bytes := lit "RULE_NAME="
def tagSha : Bytes := lit "SHA256="
def tagPath : Bytes := lit "ORIGINAL_PATH="

/-- The cast `(int)` of a 32-bit unsigned value, as the `%d` directives print it. -/
def asInt (n : UInt32) : Int := if n.toNat < 2 ^ 31 then n.toNat else n.toNat - 2 ^ 32

def savedMode (orig_st : Option Stat) : UInt32 :=
  orig_st.elim 0o600 fun st => st.st_mode &&& 0o7777

def savedUid (orig_st : Option Stat) : UInt32 := orig_st.elim 0 Stat.st_uid

def savedGid (orig_st : Option Stat) : UInt32 := orig_st.elim 0 Stat.st_gid

/-- The seven lines `write_quarantine_meta` prints; a missing stat gives 0600 and root. -/
def metaLines (orig_st : Option Stat) (time : Int64) (orig_path rule_name sha256_hex : Bytes) :
    List Bytes :=
  [tagMode ++ fmtNat 8 (savedMode orig_st).toNat,
    tagUid ++ fmtInt (asInt (savedUid orig_st)),
    tagGid ++ fmtInt (asInt (savedGid orig_st)),
    tagTime ++ fmtInt time.toInt,
    tagRule ++ rule_name,
    tagSha ++ sha256_hex,
    tagPath ++ orig_path]

/-- What the calls of `write_quarantine_meta` that can fail return. -/
structure MetaIo where
  open_ok : Bool
  fdopen_ok : Bool
  fclose_ok : Bool

/-- The sidecar that is left on disk, by name and content; `none` is the return value -1, after
which no sidecar of this call is left. -/
def write_quarantine_meta (io : MetaIo) (dest : Bytes) (orig_st : Option Stat) (time : Int64)
    (orig_path rule_name sha256_hex : Bytes) : Option (Bytes × Bytes) :=
  let meta_path := dest ++ lit ".meta"
  if PATH_MAX + 8 ≤ meta_path.length then none
  else if !io.open_ok || !io.fdopen_ok || !io.fclose_ok then none
  else some (meta_path, unlines (metaLines orig_st time orig_path rule_name sha256_hex))

/-- One buffer filled by `fgets`: its C string without the final newline. -/
def chomp (buf : Bytes) : Bytes :=
  let line := cstr buf
  if line.getLast? = some nl then line.dropLast else line

/-- The prefix dispatcher over one line. -/
def parseLine (out : QuarantineMeta) (line : Bytes) : QuarantineMeta :=
  if let some v := after tagPath line then
    { out with original_path := snprintf_s PATH_MAX v }
  else if let some v := after tagMode line then
    { out with original_mode := UInt32.ofNat (strtoul v 8) }
  else if let some v := after tagUid line then
    { out with original_uid := UInt32.ofNat (strtoul v 10) }
  else if let some v := after tagGid line then
    { out with original_gid := UInt32.ofNat (strtoul v 10) }
  else if let some v := after tagTime line then
    { out with timestamp := Int64.ofInt (strtoll v) }
  else if let some v := after tagRule line then
    { out with rule_name := snprintf_s (AV_RULE_NAME_MAXLEN + 1) v }
  else if let some v := after tagSha line then
    { out with sha256_hex := snprintf_s 65 v }
  else out

/-- The zeroed structure with the fallback mode. -/
def metaInit : QuarantineMeta := ⟨[], 0o600, 0, 0, 0, [], []⟩

/-- `none` stands for -1: the file did not open, or no path was found. -/
def read_quarantine_meta (file : Option Bytes) : Option QuarantineMeta :=
  match file with
  | none => none
  | some content =>
      let out := ((fgetsAll (PATH_MAX + 64) content).map chomp).foldl parseLine metaInit
      if out.original_path = [] then none else some out

section Bounds

/-- The texts of the structure stay within its arrays. -/
structure WithinArrays (m : QuarantineMeta) : Prop where
  original_path : m.original_path.length < PATH_MAX
  rule_name : m.rule_name.length < AV_RULE_NAME_MAXLEN + 1
  sha256_hex : m.sha256_hex.length < 65

private theorem withinArrays_parseLine {m : QuarantineMeta} (h : WithinArrays m) (l : Bytes) :
    WithinArrays (parseLine m l) := by
  have hcut : ∀ {size : Nat} (v : Bytes), 0 < size → (snprintf_s size v).length < size := by
    intro size v hsize
    rw [snprintf_s, List.length_take]
    omega
  unfold parseLine
  split
  · exact ⟨hcut _ (by decide), h.rule_name, h.sha256_hex⟩
  split
  · exact ⟨h.original_path, h.rule_name, h.sha256_hex⟩
  split
  · exact ⟨h.original_path, h.rule_name, h.sha256_hex⟩
  split
  · exact ⟨h.original_path, h.rule_name, h.sha256_hex⟩
  split
  · exact ⟨h.original_path, h.rule_name, h.sha256_hex⟩
  split
  · exact ⟨h.original_path, hcut _ (by decide), h.sha256_hex⟩
  split
  · exact ⟨h.original_path, h.rule_name, hcut _ (by decide)⟩
  · exact h

/-- Whatever is in a sidecar, what is read of it has a path and stays within its arrays. -/
theorem read_within {file : Option Bytes} {m : QuarantineMeta}
    (h : read_quarantine_meta file = some m) : m.original_path ≠ [] ∧ WithinArrays m := by
  have hfold : ∀ (ls : List Bytes) (m : QuarantineMeta), WithinArrays m →
      WithinArrays (ls.foldl parseLine m) := by
    intro ls
    induction ls with
    | nil => exact fun _ hm => hm
    | cons l ls ih => exact fun m hm => ih _ (withinArrays_parseLine hm l)
  cases file with
  | none => cases h
  | some content =>
    rw [read_quarantine_meta] at h
    split at h
    · cases h
    · rename_i hne
      obtain rfl := Option.some.inj h
      exact ⟨hne, hfold _ metaInit ⟨by decide, by decide, by decide⟩⟩

end Bounds

private theorem uid_round_trip (n : UInt32) :
    UInt32.ofNat (strtoul (fmtInt (asInt n)) 10) = n := by
  have hn := n.toNat_lt
  apply UInt32.toNat_inj.mp
  rw [UInt32.toNat_ofNat']
  unfold asInt
  split
  · have h := strtoul_fmtInt_nonneg (i := n.toNat) (by omega) (by omega)
    omega
  · have h := strtoul_fmtInt_neg (i := n.toNat - 2 ^ 32) (by omega) (by omega)
    omega

private theorem mode_round_trip (n : UInt32) :
    UInt32.ofNat (strtoul (fmtNat 8 n.toNat) 8) = n := by
  have hn := n.toNat_lt
  rw [strtoul_fmtNat (by decide) (by decide) (by omega)]
  exact UInt32.ofNat_toNat

/-- The seven tags, in the order in which the dispatcher tries them. -/
def tags : List Bytes := [tagPath, tagMode, tagUid, tagGid, tagTime, tagRule, tagSha]

private theorem tags_prefix_free : ∀ s ∈ tags, ∀ t ∈ tags, s ≠ t → ¬ s <+: t := by
  decide

private theorem other_tag {s t l v : Bytes} (hs : s ∈ tags) (ht : t ∈ tags) (hne : s ≠ t)
    (h : after s l = some v) : after t l = none :=
  after_exclusive (tags_prefix_free s hs t ht hne) (tags_prefix_free t ht s hs hne.symm) h

/-- A line with one of the tags has none of the others. -/
private theorem other_tags {s l v : Bytes} (ts : List Bytes)
    (hts : s ∈ tags ∧ ∀ t ∈ ts, t ∈ tags ∧ s ≠ t) (h : after s l = some v) :
    ∀ t ∈ ts, after t l = none :=
  fun t ht => other_tag hts.1 (hts.2 t ht).1 (hts.2 t ht).2 h

private theorem other_value {s t : Bytes} (hs : s ∈ tags) (ht : t ∈ tags) (hne : s ≠ t)
    (v : Bytes) : after t (s ++ v) = none :=
  other_tag hs ht hne (after_append s v)

section Fields

variable (m : QuarantineMeta) (ls : List Bytes)

private theorem path_field : (ls.foldl parseLine m).original_path =
    ((lastField tagPath ls).map (snprintf_s PATH_MAX)).getD m.original_path := by
  apply foldl_lastField parseLine (·.original_path)
  · intro m l v h
    simp [parseLine, h]
  · intro m l h
    simp only [parseLine, h]
    repeat' split
    all_goals rfl

private theorem mode_field : (ls.foldl parseLine m).original_mode =
    ((lastField tagMode ls).map fun v => UInt32.ofNat (strtoul v 8)).getD m.original_mode := by
  apply foldl_lastField parseLine (·.original_mode)
  · intro m l v h
    have hother := other_tags [tagPath] (by decide) h
    simp [parseLine, h, hother]
  · intro m l h
    simp only [parseLine, h]
    repeat' split
    all_goals rfl

private theorem uid_field : (ls.foldl parseLine m).original_uid =
    ((lastField tagUid ls).map fun v => UInt32.ofNat (strtoul v 10)).getD m.original_uid := by
  apply foldl_lastField parseLine (·.original_uid)
  · intro m l v h
    have hother := other_tags [tagPath, tagMode] (by decide) h
    simp [parseLine, h, hother]
  · intro m l h
    simp only [parseLine, h]
    repeat' split
    all_goals rfl

private theorem gid_field : (ls.foldl parseLine m).original_gid =
    ((lastField tagGid ls).map fun v => UInt32.ofNat (strtoul v 10)).getD m.original_gid := by
  apply foldl_lastField parseLine (·.original_gid)
  · intro m l v h
    have hother := other_tags [tagPath, tagMode, tagUid] (by decide) h
    simp [parseLine, h, hother]
  · intro m l h
    simp only [parseLine, h]
    repeat' split
    all_goals rfl

private theorem rule_field : (ls.foldl parseLine m).rule_name =
    ((lastField tagRule ls).map (snprintf_s (AV_RULE_NAME_MAXLEN + 1))).getD m.rule_name := by
  apply foldl_lastField parseLine (·.rule_name)
  · intro m l v h
    have hother := other_tags [tagPath, tagMode, tagUid, tagGid, tagTime] (by decide) h
    simp [parseLine, h, hother]
  · intro m l h
    simp only [parseLine, h]
    repeat' split
    all_goals rfl

private theorem sha_field : (ls.foldl parseLine m).sha256_hex =
    ((lastField tagSha ls).map (snprintf_s 65)).getD m.sha256_hex := by
  apply foldl_lastField parseLine (·.sha256_hex)
  · intro m l v h
    have hother := other_tags [tagPath, tagMode, tagUid, tagGid, tagTime, tagRule] (by decide) h
    simp [parseLine, h, hother]
  · intro m l h
    simp only [parseLine, h]
    repeat' split
    all_goals rfl

end Fields

/-- The first line of the path, which is all that its own tag can carry. -/
def firstLine (path : Bytes) : Bytes := path.takeWhile (· ≠ nl)

/-- The lines that a path with newlines adds to the sidecar. -/
def extraLines (path : Bytes) : List Bytes := (path.splitOn nl).tail

/-- Every field comes back as written; of the path, its first line. -/
def RoundTrips (text : Bytes) (orig_st : Option Stat) (path rule sha : Bytes) : Prop :=
  ∃ m, read_quarantine_meta (some text) = some m ∧
    m.original_path = firstLine path ∧ m.original_mode = savedMode orig_st ∧
    m.original_uid = savedUid orig_st ∧ m.original_gid = savedGid orig_st ∧
    m.rule_name = rule ∧ m.sha256_hex = sha

/-- The path does not begin with a newline, and where one of its later lines begins with a tag,
the last line that does so carries the value that was written under this tag. -/
structure PathInert (orig_st : Option Stat) (path rule sha : Bytes) : Prop where
  starts : path.head? ≠ some nl
  path_line : ∀ v, lastField tagPath (extraLines path) = some v → v = firstLine path
  mode_line : ∀ v, lastField tagMode (extraLines path) = some v →
    UInt32.ofNat (strtoul v 8) = savedMode orig_st
  uid_line : ∀ v, lastField tagUid (extraLines path) = some v →
    UInt32.ofNat (strtoul v 10) = savedUid orig_st
  gid_line : ∀ v, lastField tagGid (extraLines path) = some v →
    UInt32.ofNat (strtoul v 10) = savedGid orig_st
  rule_line : ∀ v, lastField tagRule (extraLines path) = some v →
    snprintf_s (AV_RULE_NAME_MAXLEN + 1) v = rule
  sha_line : ∀ v, lastField tagSha (extraLines path) = some v → snprintf_s 65 v = sha

section Written

variable {orig_st : Option Stat} {time : Int64} {path rule sha : Bytes}

private theorem splitOn_cons (path : Bytes) :
    path.splitOn nl = firstLine path :: extraLines path := by
  have hhead := splitOn_head path
  unfold firstLine extraLines
  cases h : path.splitOn nl with
  | nil => exact absurd h (List.splitOn_ne_nil nl path)
  | cons p ps =>
    rw [h] at hhead
    simpa using hhead

/-- The sidecar of a path with newlines: its first line under the path tag, the rest bare. -/
def sidecarLines (orig_st : Option Stat) (time : Int64) (path rule sha : Bytes) : List Bytes :=
  metaLines orig_st time (firstLine path) rule sha ++ extraLines path

private theorem text_eq (orig_st : Option Stat) (time : Int64) (path rule sha : Bytes) :
    unlines (metaLines orig_st time path rule sha) =
      unlines (sidecarLines orig_st time path rule sha) := by
  have hp : path ++ [nl] = firstLine path ++ nl :: unlines (extraLines path) := by
    rw [← unlines_splitOn path, splitOn_cons, unlines_cons]
  simp only [sidecarLines, metaLines, List.cons_append, List.nil_append, unlines_cons,
    unlines_nil, List.append_assoc]
  rw [hp]

/-- What the arguments of the writer are: C strings within the bounds of their buffers, the rule
name and the digest on one line. -/
structure Writable (path rule sha : Bytes) : Prop where
  path_cstr : (0 : UInt8) ∉ path
  path_len : path.length < PATH_MAX
  rule_cstr : (0 : UInt8) ∉ rule
  rule_line : nl ∉ rule
  rule_len : rule.length ≤ AV_RULE_NAME_MAXLEN
  sha_cstr : (0 : UInt8) ∉ sha
  sha_line : nl ∉ sha
  sha_len : sha.length ≤ 64

/-- A line that one call of `fgets` reads whole. -/
private def Readable (l : Bytes) : Prop := (0 : UInt8) ∉ l ∧ nl ∉ l ∧ l.length + 1 < PATH_MAX + 64

private theorem readable_tagged {t v : Bytes} (ht : t ∈ tags) (h0 : (0 : UInt8) ∉ v)
    (hv : nl ∉ v) (hlen : v.length < PATH_MAX) : Readable (t ++ v) := by
  have hclean : ∀ t ∈ tags, (0 : UInt8) ∉ t ∧ nl ∉ t ∧ t.length ≤ 14 := by decide
  obtain ⟨ht0, htn, htl⟩ := hclean t ht
  refine ⟨by simp [ht0, h0], by simp [htn, hv], ?_⟩
  rw [List.length_append]
  omega

private theorem readable_segment {l : Bytes} (h0 : (0 : UInt8) ∉ path)
    (hlen : path.length < PATH_MAX) (hl : l ∈ path.splitOn nl) :
    (0 : UInt8) ∉ l ∧ nl ∉ l ∧ l.length < PATH_MAX := by
  obtain ⟨hn, hsub⟩ := splitOn_clean hl
  exact ⟨fun h => h0 (hsub 0 h), hn, lt_of_le_of_lt (splitOn_length_le hl) hlen⟩

private theorem asInt_length (n : UInt32) : (fmtInt (asInt n)).length ≤ 11 := by
  apply fmtInt_length_le (by decide)
  have := n.toNat_lt
  unfold asInt
  split <;> omega

private theorem time_length (t : Int64) : (fmtInt t.toInt).length ≤ 20 := by
  apply fmtInt_length_le (by decide)
  have hlo := t.le_toInt
  have hhi := t.toInt_lt
  omega

private theorem mode_length (n : UInt32) : (fmtNat 8 n.toNat).length ≤ 11 := by
  apply fmtNat_length_le (by decide) (by decide)
  have := n.toNat_lt
  omega

private theorem sidecarLines_readable (orig_st : Option Stat) (time : Int64)
    (h : Writable path rule sha) :
    ∀ l ∈ sidecarLines orig_st time path rule sha, Readable l := by
  have hint : ∀ i, (0 : UInt8) ∉ fmtInt i ∧ nl ∉ fmtInt i := fun i =>
    ⟨fmtInt_clean i 0 (by decide), fmtInt_clean i nl (by decide)⟩
  have hmode := mode_length (savedMode orig_st)
  have huid := asInt_length (savedUid orig_st)
  have hgid := asInt_length (savedGid orig_st)
  have htime := time_length time
  have hrule := h.rule_len
  have hsha := h.sha_len
  obtain ⟨hp0, hpn, hplen⟩ := readable_segment h.path_cstr h.path_len
    (l := firstLine path) (by rw [splitOn_cons]; exact List.mem_cons_self)
  intro l hl
  rcases List.mem_append.mp hl with hl | hl
  · simp only [metaLines, List.mem_cons, List.not_mem_nil, or_false] at hl
    rcases hl with rfl | rfl | rfl | rfl | rfl | rfl | rfl
    · exact readable_tagged (by decide) (fmtNat_clean (by decide) (by decide) _ 0 (by decide))
        (fmtNat_clean (by decide) (by decide) _ nl (by decide)) (by unfold PATH_MAX; omega)
    · exact readable_tagged (by decide) (hint _).1 (hint _).2 (by unfold PATH_MAX; omega)
    · exact readable_tagged (by decide) (hint _).1 (hint _).2 (by unfold PATH_MAX; omega)
    · exact readable_tagged (by decide) (hint _).1 (hint _).2 (by unfold PATH_MAX; omega)
    · exact readable_tagged (by decide) h.rule_cstr h.rule_line
        (by unfold PATH_MAX; unfold AV_RULE_NAME_MAXLEN at hrule; omega)
    · exact readable_tagged (by decide) h.sha_cstr h.sha_line (by unfold PATH_MAX; omega)
    · exact readable_tagged (by decide) hp0 hpn hplen
  · have hmem : l ∈ path.splitOn nl := by
      rw [splitOn_cons]
      exact List.mem_cons_of_mem _ hl
    obtain ⟨h0, hn, hlen⟩ := readable_segment h.path_cstr h.path_len hmem
    exact ⟨h0, hn, by omega⟩

private theorem chomp_line {l : Bytes} (h0 : (0 : UInt8) ∉ l) : chomp (l ++ [nl]) = l := by
  have hc : (0 : UInt8) ∉ l ++ [nl] := by
    simp only [List.mem_append, List.mem_singleton, not_or]
    exact ⟨h0, by decide⟩
  simp [chomp, cstr_eq_self hc]

/-- The reader sees exactly the lines of the sidecar. -/
private theorem read_lines (h : Writable path rule sha) :
    (fgetsAll (PATH_MAX + 64) (unlines (metaLines orig_st time path rule sha))).map chomp =
      sidecarLines orig_st time path rule sha := by
  have hread := sidecarLines_readable orig_st time h
  rw [text_eq, fgetsAll_unlines _ _ fun l hl => ⟨(hread l hl).2.1, (hread l hl).2.2⟩,
    List.map_map]
  refine (List.map_congr_left ?_).trans (List.map_id _)
  intro l hl
  exact chomp_line (hread l hl).1

/-- The record that the reader has built when the file ends. -/
private def parsed (orig_st : Option Stat) (time : Int64) (path rule sha : Bytes) :
    QuarantineMeta :=
  (sidecarLines orig_st time path rule sha).foldl parseLine metaInit

private theorem read_eq (h : Writable path rule sha) :
    read_quarantine_meta (some (unlines (metaLines orig_st time path rule sha))) =
      if (parsed orig_st time path rule sha).original_path = [] then none
      else some (parsed orig_st time path rule sha) := by
  rw [read_quarantine_meta, read_lines h]
  rfl

/-- A field comes back as it was written unless the added lines carry another value for it. -/
private theorem read_back {β : Type} {val : Bytes → β} {tag v₀ : Bytes} {ls ms : List Bytes}
    {d x : β} (hw : lastField tag ls = some v₀) (hv : val v₀ = x) :
    ((lastField tag (ls ++ ms)).map val).getD d = x ↔
      ∀ v, lastField tag ms = some v → val v = x := by
  rw [lastField_append, hw]
  cases lastField tag ms with
  | none => simp [hv]
  | some v => simp

private theorem lastField_tagged {kvs : List (Bytes × Bytes)} (hk : ∀ kv ∈ kvs, kv.1 ∈ tags)
    (hnd : (kvs.map Prod.fst).Nodup) {t v : Bytes} (hm : (t, v) ∈ kvs) :
    lastField t (kvs.map fun kv => kv.1 ++ kv.2) = some v := by
  induction kvs with
  | nil => cases hm
  | cons kv kvs ih =>
    obtain ⟨hkv, hk'⟩ := List.forall_mem_cons.mp hk
    obtain ⟨hnot, hnd'⟩ := List.nodup_cons.mp hnd
    rw [List.map_cons, lastField_cons]
    rcases List.mem_cons.mp hm with rfl | hm
    · have hnone : lastField t (kvs.map fun kv => kv.1 ++ kv.2) = none := by
        simp only [lastField, List.getLast?_eq_none_iff, List.filterMap_eq_nil_iff, List.mem_map]
        rintro l ⟨kv, hkv', rfl⟩
        exact other_value (hk' kv hkv') hkv
          (fun e => hnot (e ▸ List.mem_map_of_mem hkv')) kv.2
      rw [hnone, after_append]
      rfl
    · rw [ih hk' hnd' hm]
      rfl

private theorem written_field {orig_path t v : Bytes}
    (hm : (t, v) ∈ [(tagMode, fmtNat 8 (savedMode orig_st).toNat),
      (tagUid, fmtInt (asInt (savedUid orig_st))), (tagGid, fmtInt (asInt (savedGid orig_st))),
      (tagTime, fmtInt time.toInt), (tagRule, rule), (tagSha, sha), (tagPath, orig_path)]) :
    lastField t (metaLines orig_st time orig_path rule sha) = some v := by
  refine lastField_tagged ?_ ?_ hm
  · intro kv hkv
    have hfst : ∀ t ∈ [tagMode, tagUid, tagGid, tagTime, tagRule, tagSha, tagPath], t ∈ tags := by
      decide
    exact hfst kv.1 (List.mem_map_of_mem (f := Prod.fst) hkv)
  · show [tagMode, tagUid, tagGid, tagTime, tagRule, tagSha, tagPath].Nodup
    decide

theorem firstLine_eq_nil : firstLine path = [] ↔ path = [] ∨ path.head? = some nl := by
  unfold firstLine
  cases path with
  | nil => simp
  | cons b s => by_cases hb : b = nl <;> simp [hb]

private theorem extraLines_length {l : Bytes} (h : l ∈ extraLines path) :
    l.length ≤ path.length := by
  apply splitOn_length_le
  rw [splitOn_cons]
  exact List.mem_cons_of_mem _ h

private theorem path_value (h : Writable path rule sha) {v : Bytes}
    (hv : lastField tagPath (extraLines path) = some v) : snprintf_s PATH_MAX v = v := by
  obtain ⟨l, hl, ha⟩ := List.mem_filterMap.mp (List.mem_of_getLast? hv)
  have hlen := extraLines_length hl
  have hpath := h.path_len
  rw [after_eq_some.mp ha, List.length_append] at hlen
  exact snprintf_s_eq_self (by omega)

private theorem parsed_mode :
    (parsed orig_st time path rule sha).original_mode = savedMode orig_st ↔
      ∀ v, lastField tagMode (extraLines path) = some v →
        UInt32.ofNat (strtoul v 8) = savedMode orig_st := by
  rw [parsed, mode_field]
  exact read_back (written_field List.mem_cons_self) (mode_round_trip _)

private theorem parsed_uid :
    (parsed orig_st time path rule sha).original_uid = savedUid orig_st ↔
      ∀ v, lastField tagUid (extraLines path) = some v →
        UInt32.ofNat (strtoul v 10) = savedUid orig_st := by
  rw [parsed, uid_field]
  exact read_back (written_field (v := fmtInt (asInt (savedUid orig_st))) (by simp))
    (uid_round_trip _)

private theorem parsed_gid :
    (parsed orig_st time path rule sha).original_gid = savedGid orig_st ↔
      ∀ v, lastField tagGid (extraLines path) = some v →
        UInt32.ofNat (strtoul v 10) = savedGid orig_st := by
  rw [parsed, gid_field]
  exact read_back (written_field (v := fmtInt (asInt (savedGid orig_st))) (by simp))
    (uid_round_trip _)

private theorem parsed_rule (h : Writable path rule sha) :
    (parsed orig_st time path rule sha).rule_name = rule ↔
      ∀ v, lastField tagRule (extraLines path) = some v →
        snprintf_s (AV_RULE_NAME_MAXLEN + 1) v = rule := by
  rw [parsed, rule_field]
  refine read_back (written_field (v := rule) (by simp)) (snprintf_s_eq_self ?_)
  exact Nat.lt_succ_of_le h.rule_len

private theorem parsed_sha (h : Writable path rule sha) :
    (parsed orig_st time path rule sha).sha256_hex = sha ↔
      ∀ v, lastField tagSha (extraLines path) = some v → snprintf_s 65 v = sha := by
  rw [parsed, sha_field]
  refine read_back (written_field (v := sha) (by simp)) (snprintf_s_eq_self ?_)
  exact Nat.lt_succ_of_le h.sha_len

private theorem parsed_path (h : Writable path rule sha) :
    (parsed orig_st time path rule sha).original_path = firstLine path ↔
      ∀ v, lastField tagPath (extraLines path) = some v → v = firstLine path := by
  have hfirst : snprintf_s PATH_MAX (firstLine path) = firstLine path :=
    snprintf_s_eq_self (lt_of_le_of_lt (List.takeWhile_prefix _).length_le h.path_len)
  rw [parsed, path_field, sidecarLines,
    read_back (written_field (v := firstLine path) (by simp)) hfirst]
  constructor
  · intro hv v he
    rw [← path_value h he]
    exact hv v he
  · intro hv v he
    rw [path_value h he]
    exact hv v he

/-- A sidecar is accepted unless the last later line of the path that begins with the tag of the
path ends with it. -/
theorem accepted_iff (orig_st : Option Stat) (time : Int64) (h : Writable path rule sha)
    (hfirst : firstLine path ≠ []) :
    (∃ m, read_quarantine_meta (some (unlines (metaLines orig_st time path rule sha))) = some m) ↔
      lastField tagPath (extraLines path) ≠ some [] := by
  have hwritten : lastField tagPath (metaLines orig_st time (firstLine path) rule sha) =
      some (firstLine path) := written_field (by simp)
  have hcut : snprintf_s PATH_MAX (firstLine path) = firstLine path :=
    snprintf_s_eq_self (lt_of_le_of_lt (List.takeWhile_prefix _).length_le h.path_len)
  have hback : (parsed orig_st time path rule sha).original_path =
      (lastField tagPath (extraLines path)).getD (firstLine path) := by
    rw [parsed, path_field, sidecarLines, lastField_append, hwritten]
    cases hlast : lastField tagPath (extraLines path) with
    | none => simp [hcut]
    | some v => simp [path_value h hlast]
  rw [read_eq h, hback]
  cases lastField tagPath (extraLines path) with
  | none => simp [hfirst]
  | some v => by_cases hv : v = [] <;> simp [hv]

theorem write_fits (orig_st : Option Stat) (time : Int64) (path rule sha : Bytes) {dest : Bytes}
    (h : (dest ++ lit ".meta").length < PATH_MAX) :
    write_quarantine_meta ⟨true, true, true⟩ dest orig_st time path rule sha =
      some (dest ++ lit ".meta", unlines (metaLines orig_st time path rule sha)) := by
  unfold write_quarantine_meta
  rw [if_neg (not_le.mpr (Nat.lt_add_right 8 h))]
  rfl

theorem written_text {io : MetaIo} {dest name text : Bytes}
    (hw : write_quarantine_meta io dest orig_st time path rule sha = some (name, text)) :
    name = dest ++ lit ".meta" ∧ text = unlines (metaLines orig_st time path rule sha) := by
  simp only [write_quarantine_meta] at hw
  split at hw
  · cases hw
  · split at hw
    · cases hw
    · obtain ⟨hname, htext⟩ := Prod.mk.inj (Option.some.inj hw)
      exact ⟨hname.symm, htext.symm⟩

theorem roundTrips_of_inert (time : Int64) (hpath : path ≠ []) (h : Writable path rule sha)
    (hi : PathInert orig_st path rule sha) :
    RoundTrips (unlines (metaLines orig_st time path rule sha)) orig_st path rule sha := by
  have hp : (parsed orig_st time path rule sha).original_path = firstLine path :=
    (parsed_path h).mpr hi.path_line
  refine ⟨parsed orig_st time path rule sha, ?_, hp, parsed_mode.mpr hi.mode_line,
    parsed_uid.mpr hi.uid_line, parsed_gid.mpr hi.gid_line, (parsed_rule h).mpr hi.rule_line,
    (parsed_sha h).mpr hi.sha_line⟩
  rw [read_eq h, if_neg]
  rw [hp, firstLine_eq_nil, not_or]
  exact ⟨hpath, hi.starts⟩

theorem firstLine_of_line (hline : nl ∉ path) : firstLine path = path := by
  unfold firstLine
  rw [List.takeWhile_eq_self_iff]
  intro b hb
  rw [decide_eq_true_eq]
  rintro rfl
  exact hline hb

/-- A path on one line adds no lines to the sidecar. -/
theorem inert_of_line (hline : nl ∉ path) : PathInert orig_st path rule sha := by
  have hsplit : extraLines path = [] := by
    rw [extraLines, List.splitOn_eq_singleton hline]
    rfl
  have hnone : ∀ t, lastField t (extraLines path) = none := by
    intro t
    rw [hsplit]
    rfl
  have hstarts : path.head? ≠ some nl := fun h => hline (List.mem_of_head? h)
  constructor
  · exact hstarts
  all_goals
    intro v hv
    rw [hnone] at hv
    cases hv

/-- What of the path the reader of the mode and of the owner depends on: a path is there, and
where a later line of it begins with one of their tags, the last one carries the value that was
written under this tag. -/
structure AttributesInert (orig_st : Option Stat) (path : Bytes) : Prop where
  path_there : (lastField tagPath (extraLines path)).getD (firstLine path) ≠ []
  mode_line : ∀ v, lastField tagMode (extraLines path) = some v →
    UInt32.ofNat (strtoul v 8) = savedMode orig_st
  uid_line : ∀ v, lastField tagUid (extraLines path) = some v →
    UInt32.ofNat (strtoul v 10) = savedUid orig_st
  gid_line : ∀ v, lastField tagGid (extraLines path) = some v →
    UInt32.ofNat (strtoul v 10) = savedGid orig_st

/-- The mode and the owner come back as written. -/
def AttributesBack (text : Bytes) (orig_st : Option Stat) : Prop :=
  ∃ m, read_quarantine_meta (some text) = some m ∧ m.original_mode = savedMode orig_st ∧
    m.original_uid = savedUid orig_st ∧ m.original_gid = savedGid orig_st

theorem attributesBack_iff (time : Int64) (h : Writable path rule sha) :
    AttributesBack (unlines (metaLines orig_st time path rule sha)) orig_st ↔
      AttributesInert orig_st path := by
  have hfirst : snprintf_s PATH_MAX (firstLine path) = firstLine path :=
    snprintf_s_eq_self (lt_of_le_of_lt (List.takeWhile_prefix _).length_le h.path_len)
  have hpath : (parsed orig_st time path rule sha).original_path =
      (lastField tagPath (extraLines path)).getD (firstLine path) := by
    rw [parsed, path_field, sidecarLines, lastField_append,
      written_field (v := firstLine path) (by simp)]
    cases hlast : lastField tagPath (extraLines path) with
    | none => exact hfirst
    | some v => exact path_value h hlast
  constructor
  · rintro ⟨m, hm, hmode, huid, hgid⟩
    rw [read_eq h] at hm
    split at hm
    · cases hm
    · rename_i hne
      obtain rfl := Option.some.inj hm
      exact ⟨hpath ▸ hne, parsed_mode.mp hmode, parsed_uid.mp huid, parsed_gid.mp hgid⟩
  · intro hi
    refine ⟨parsed orig_st time path rule sha, ?_, parsed_mode.mpr hi.mode_line,
      parsed_uid.mpr hi.uid_line, parsed_gid.mpr hi.gid_line⟩
    rw [read_eq h, if_neg]
    rw [hpath]
    exact hi.path_there

theorem attributesInert_of_line (hpath : path ≠ []) (hline : nl ∉ path) :
    AttributesInert orig_st path := by
  have hinert : PathInert orig_st path [] [] := inert_of_line hline
  refine ⟨?_, hinert.mode_line, hinert.uid_line, hinert.gid_line⟩
  have hnone : lastField tagPath (extraLines path) = none := by
    rw [extraLines, List.splitOn_eq_singleton hline]
    rfl
  rw [hnone, Option.getD_none, firstLine_of_line hline]
  exact hpath

end Written

/-- The sidecar that `write_quarantine_meta` leaves is read back field by field exactly when the
path is inert: a path with a newline is parsed again, line by line, as fields of the sidecar. -/
theorem sidecar_round_trip_iff {io : MetaIo} {dest name text : Bytes} {orig_st : Option Stat}
    {time : Int64} {path rule sha : Bytes} (hpath : path ≠ []) (h : Writable path rule sha)
    (hw : write_quarantine_meta io dest orig_st time path rule sha = some (name, text)) :
    RoundTrips text orig_st path rule sha ↔ PathInert orig_st path rule sha := by
  obtain ⟨-, rfl⟩ := written_text hw
  have hfirst : firstLine path = [] ↔ path.head? = some nl := by
    rw [firstLine_eq_nil]
    simp [hpath]
  constructor
  · rintro ⟨m, hm, hp, hmode, huid, hgid, hrule, hsha⟩
    rw [read_eq h] at hm
    split at hm
    · cases hm
    · rename_i hne
      obtain rfl := Option.some.inj hm
      refine ⟨?_, (parsed_path h).mp hp, parsed_mode.mp hmode, parsed_uid.mp huid,
        parsed_gid.mp hgid, (parsed_rule h).mp hrule, (parsed_sha h).mp hsha⟩
      intro hnl
      exact hne (hp.trans (hfirst.mpr hnl))
  · exact roundTrips_of_inert _ hpath h

private theorem writable_plain : Writable (lit "/tmp/a\nb") (lit "r") (lit "00") := by
  constructor <;> decide

private theorem inert_plain : PathInert (some ⟨0o755, 1000, 1000⟩) (lit "/tmp/a\nb") (lit "r")
    (lit "00") := by
  have hnone : ∀ t ∈ tags, lastField t (extraLines (lit "/tmp/a\nb")) = none := by decide
  constructor
  · decide
  all_goals
    intro v hv
    rw [hnone _ (by decide)] at hv
    cases hv

/-- A path with a harmless second line: only the path itself is cut at the newline. -/
theorem sidecar_round_trip_harmless_newline :
    RoundTrips (unlines (metaLines (some ⟨0o755, 1000, 1000⟩) 7 (lit "/tmp/a\nb") (lit "r")
      (lit "00"))) (some ⟨0o755, 1000, 1000⟩) (lit "/tmp/a\nb") (lit "r") (lit "00") :=
  (sidecar_round_trip_iff (by decide) writable_plain
    (show write_quarantine_meta ⟨true, true, true⟩ (lit "/q/x") _ _ _ _ _ =
      some (lit "/q/x.meta", _) from rfl)).mpr inert_plain

/-- The path `/a<newline>ORIGINAL_UID=0` makes the reader report root as the owner of a file of
the user 1000. -/
theorem sidecar_newline_rewrites_uid :
    ¬ ∀ (io : MetaIo) (dest name text : Bytes) (orig_st : Option Stat) (time : Int64)
        (path rule sha : Bytes), path ≠ [] → Writable path rule sha →
        write_quarantine_meta io dest orig_st time path rule sha = some (name, text) →
        RoundTrips text orig_st path rule sha := by
  intro hall
  obtain ⟨m, hm, -, -, huid, -⟩ := hall ⟨true, true, true⟩ (lit "/q/x") (lit "/q/x.meta") _
    (some ⟨0o644, 1000, 1000⟩) 7 (lit "/a\nORIGINAL_UID=0") [] [] (by decide)
    (by constructor <;> decide) rfl
  have hread : (read_quarantine_meta (some (unlines (metaLines (some ⟨0o644, 1000, 1000⟩) 7
      (lit "/a\nORIGINAL_UID=0") [] [])))).map QuarantineMeta.original_uid = some 0 := by
    decide +kernel
  rw [hm] at hread
  simp only [Option.map_some, Option.some.injEq] at hread
  rw [hread] at huid
  exact absurd huid (by decide)

end KernelAv.Daemon.Sidecar
