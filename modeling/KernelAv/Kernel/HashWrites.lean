/- digest: Commands written to the signature and trusted-hash files, and what is cut of them. -/

import KernelAv.Kernel.ListTables
import KernelAv.Kernel.ProcWrite
import KernelAv.Kernel.SigTableRefinement

set_option autoImplicit false
set_option relaxedAutoImplicit false

namespace KernelAv.Kernel.HashWrites

open KernelAv.Lib.CText hiding isspace
open KernelAv.Lib.Chains
open KernelAv.Lib.Chains.HashTable (Inserts Deletes)
open KernelAv.Lib.Lines (nl)
open KernelAv.Lib.Scanf
open KernelAv.Kernel.BehaviorTable (KernelHash)
open KernelAv.Kernel.SigTable
open KernelAv.Kernel.SigTableRefinement (Counted isLowerHex)
open KernelAv.Kernel.TrustTable (SHA256_HEX_LEN TRUST_NAME_LEN TrustEntry av_behavior_trust_add
  av_behavior_trust_del)
open KernelAv.Kernel.ListTables (AllCanonical)
open KernelAv.Kernel.ProcWrite

/-- The hash word of a text, and what stands behind it. -/
structure Reading where
  adds : Bool
  hash : Bytes
  rest : Bytes
  deriving DecidableEq

/-- The words of the text in front of its first NUL, for the signature file. -/
def SigReads (ubuf : Bytes) (algo : AvAlgo) (r : Reading) : Prop :=
  ∃ cmd algo_str, leadingWords 3 (cstr ubuf) = ([cmd, algo_str, r.hash], r.rest) ∧
    strcaseeq cmd (commandWord r.adds) = true ∧ parse_algo algo_str = some algo

def TrustReads (ubuf : Bytes) (r : Reading) : Prop :=
  ∃ cmd, leadingWords 2 (cstr ubuf) = ([cmd, r.hash], r.rest) ∧
    strcaseeq cmd (commandWord r.adds) = true

/-- The name stands on the line of the hash and is all that is left of the buffer. -/
def NameLine (rest name : Bytes) : Prop :=
  ∃ blanks ending, rest = blanks ++ (name ++ ending) ∧
    (∀ b ∈ blanks, isspace b = true ∧ b ≠ nl) ∧ name ≠ [] ∧
    (∀ b, name.head? = some b → isspace b = false) ∧ nl ∉ name ∧ (ending = [] ∨ ending = [nl])

/-- The write passes the checks on the task, the size and the copy. -/
structure Admitted (limit : Nat) (w : WriteCall) : Prop where
  capable : w.capable = true
  count : w.count < limit
  copy_ok : w.copy_ok = true

/-- Something other than white space stands behind the field of the hash. -/
def Named (r : Reading) : Prop := ∃ b ∈ r.hash.drop 64 ++ r.rest, isspace b = false

/-- The hash word begins with a digest, and for an addition a name follows what the field holds. -/
structure SigAdmits (w : WriteCall) (algo : AvAlgo) (r : Reading) : Prop where
  gates : Admitted 256 w
  digits : (r.hash.take (algo_hexlen algo)).all isxdigit = true
  long : algo_hexlen algo ≤ r.hash.length
  fits : r.adds = true → (r.hash.take 64).length = algo_hexlen algo
  entry_ok : r.adds = true → w.entry_ok = true
  named : r.adds = true → Named r

structure TrustAdmits (w : WriteCall) (r : Reading) : Prop where
  gates : Admitted 192 w
  long : SHA256_HEX_LEN ≤ r.hash.length
  entry_ok : r.adds = true → w.entry_ok = true
  named : r.adds = true → Named r

/-- Nothing of the command is cut and nothing else is in the buffer: no NUL, a hash word of the
right length, and behind it a name that fits, or for a deletion white space only. -/
structure Uncut (hexlen : Nat) (ubuf : Bytes) (r : Reading) : Prop where
  no_nul : (0 : UInt8) ∉ ubuf
  length_eq : r.hash.length = hexlen
  name : r.adds = true → ∃ name, NameLine r.rest name ∧ name.length ≤ 63
  blank : r.adds = false → ∀ b ∈ r.rest, isspace b = true

section Tables

variable {H : KernelHash}

/-- The write returns its length and stores or removes the hash and the name that its buffer says,
or it is an error and changes nothing. -/
def SigMeans (t : SigTable.Table H) (w : WriteCall) : Prop :=
  (sig_proc_write t w).1 = w.count ∧ (0 : UInt8) ∉ w.ubuf ∧
      (∃ algo r, SigReads w.ubuf algo r ∧
        ((r.adds = true ∧ ∃ name, NameLine r.rest name ∧
            Inserts t.sig_table (sig_proc_write t w).2.sig_table
              ⟨algo, name, hex_tolower r.hash⟩) ∨
          (r.adds = false ∧ (∀ b ∈ r.rest, isspace b = true) ∧
            ∃ e : SigEntry, e.algo = algo ∧ e.hex = hex_tolower r.hash ∧
              Deletes t.sig_table (sig_proc_write t w).2.sig_table e))) ∨
    (sig_proc_write t w).1 < 0 ∧ (sig_proc_write t w).2 = t

def TrustMeans (t : TrustTable.Table H) (w : WriteCall) : Prop :=
  (trust_proc_write t w).1 = w.count ∧ (0 : UInt8) ∉ w.ubuf ∧
      (∃ r, TrustReads w.ubuf r ∧
        ((r.adds = true ∧ ∃ name, NameLine r.rest name ∧
            Inserts t (trust_proc_write t w).2 ⟨TrustTable.hex_tolower r.hash, name⟩) ∨
          (r.adds = false ∧ (∀ b ∈ r.rest, isspace b = true) ∧
            ∃ e : TrustEntry, e.sha256_hex = TrustTable.hex_tolower r.hash ∧
              Deletes t (trust_proc_write t w).2 e))) ∨
    (trust_proc_write t w).1 < 0 ∧ (trust_proc_write t w).2 = t

end Tables

section Scanning

variable {s cmd : Bytes} {r : Reading} {fmt : List Directive} {width : Nat} {adds : Bool}

/-- What the last directive of the two formats reads behind the field of the hash. -/
def nameField (r : Reading) : Bytes :=
  ((skip_spaces (r.hash.drop 64 ++ r.rest)).takeWhile (· ≠ nl)).take 63

/-- The fields that come of the hash and of what follows it. -/
def hashFields (r : Reading) : List Bytes :=
  r.hash.take 64 :: if nameField r = [] then [] else [nameField r]

/-- A word that is shorter than its field is in the field, and the scan goes on behind it. -/
private theorem whole_word (s : Bytes) (width : Nat)
    (h : ((firstWord s).take width).length < width) :
    (firstWord s).take width = firstWord s ∧ (firstWord s).drop width = [] := by
  rw [List.length_take] at h
  have hle : (firstWord s).length ≤ width := by omega
  exact ⟨List.take_of_length_le hle, List.drop_of_length_le hle⟩

private theorem scan_command {fields : List Bytes}
    (h : sscanf (.word 7 :: fmt) s = cmd :: fields)
    (hcmd : strcaseeq cmd (commandWord adds) = true) :
    cmd = firstWord s ∧ fields = sscanf fmt (afterWord s) := by
  by_cases hs : s = []
  · rw [hs, sscanf, if_pos rfl] at h
    cases h
  rw [sscanf_word_split hs] at h
  obtain ⟨rfl, hfields⟩ := List.cons.inj h
  have hlen := length_of_caseeq hcmd
  rw [commandWord_length] at hlen
  obtain ⟨htake, hdrop⟩ := whole_word s 7 (by omega)
  rw [hdrop, List.nil_append] at hfields
  exact ⟨htake, hfields.symm⟩

private theorem command_scan (hcmd : strcaseeq (firstWord s) (commandWord adds) = true) :
    sscanf (.word 7 :: fmt) s = firstWord s :: sscanf fmt (afterWord s) := by
  have hlen := length_of_caseeq hcmd
  rw [commandWord_length] at hlen
  have hs : s ≠ [] := by
    rintro rfl
    cases hlen
  obtain ⟨htake, hdrop⟩ := whole_word s 7
    (by rw [List.length_take]; omega)
  rw [sscanf_word_split hs, htake, hdrop, List.nil_append]

private theorem parse_algo_length {algo_str : Bytes} {algo : AvAlgo}
    (h : parse_algo algo_str = some algo) : algo_str.length < 7 ∧ algo_str ≠ [] := by
  have hlens : ∀ word : Bytes, strcaseeq algo_str word = true → word.length < 7 → word ≠ [] →
      algo_str.length < 7 ∧ algo_str ≠ [] := by
    intro word hsame hshort hne
    have hlen := length_of_caseeq hsame
    refine ⟨by omega, ?_⟩
    rintro rfl
    exact hne (List.length_eq_zero_iff.mp hlen.symm)
  unfold parse_algo at h
  split at h
  · rename_i hsame
    exact hlens _ hsame (by decide) (by decide)
  split at h
  · rename_i hsame
    exact hlens _ hsame (by decide) (by decide)
  split at h
  · rename_i hsame
    exact hlens _ hsame (by decide) (by decide)
  · cases h

private theorem scan_hash (adds : Bool) (s : Bytes) :
    sscanf [.space, .word 64, .space, .upTo 63 nl] s =
    if firstWord s = [] then [] else hashFields ⟨adds, firstWord s, afterWord s⟩ := by
  rw [sscanf_space_word_split]
  split
  · rfl
  · rw [sscanf_space, hashFields, sscanf, nameField]
    dsimp only
    split
    · rfl
    · rw [sscanf]

theorem sig_scan (adds : Bool) {algo_str hex : Bytes} {name : List Bytes} {algo : AvAlgo}
    (h : sscanf sigFormat s = cmd :: algo_str :: hex :: name)
    (hcmd : strcaseeq cmd (commandWord adds) = true) (halgo : parse_algo algo_str = some algo) :
    ∃ r, r.adds = adds ∧ leadingWords 3 s = ([cmd, algo_str, r.hash], r.rest) ∧
      hex :: name = hashFields r := by
  obtain ⟨rfl, hfields⟩ := scan_command h hcmd
  rw [sscanf_space_word_split] at hfields
  split at hfields
  · cases hfields
  obtain ⟨hword, hfields⟩ := List.cons.inj hfields
  obtain ⟨htake, hdrop⟩ := whole_word (afterWord s) 7
    (by rw [← hword]; exact (parse_algo_length halgo).1)
  rw [hdrop, List.nil_append, scan_hash adds] at hfields
  split at hfields
  · cases hfields
  refine ⟨⟨adds, firstWord (afterWord (afterWord s)), afterWord (afterWord (afterWord s))⟩, rfl,
    ?_, hfields⟩
  rw [hword, htake]
  rfl

theorem sig_fields {ubuf : Bytes} {algo : AvAlgo} (h : SigReads ubuf algo r) (hne : r.hash ≠ []) :
    ∃ cmd algo_str, sscanf sigFormat (cstr ubuf) = cmd :: algo_str :: hashFields r ∧
      strcaseeq cmd (commandWord r.adds) = true ∧ parse_algo algo_str = some algo := by
  obtain ⟨cmd, algo_str, hwords, hcmd, halgo⟩ := h
  obtain ⟨hlist, hrest⟩ := Prod.mk.inj hwords
  obtain ⟨rfl, htail⟩ := List.cons.inj hlist
  obtain ⟨rfl, hlast⟩ := List.cons.inj htail
  obtain ⟨hhash, -⟩ := List.cons.inj hlast
  obtain ⟨hshort, halgo_ne⟩ := parse_algo_length halgo
  refine ⟨_, _, ?_, hcmd, halgo⟩
  rw [sigFormat, command_scan hcmd, sscanf_space_word_split, if_neg halgo_ne]
  obtain ⟨htake, hdrop⟩ := whole_word (afterWord (cstr ubuf)) 7
    (by rw [List.length_take]; omega)
  rw [htake, hdrop, List.nil_append, scan_hash r.adds, hhash, if_neg hne]
  have hsame : afterWord (afterWord (afterWord (cstr ubuf))) = r.rest := hrest
  rw [hsame]

theorem trust_scan (adds : Bool) {hex : Bytes} {name : List Bytes}
    (h : sscanf trustFormat s = cmd :: hex :: name)
    (hcmd : strcaseeq cmd (commandWord adds) = true) :
    ∃ r, r.adds = adds ∧ leadingWords 2 s = ([cmd, r.hash], r.rest) ∧
      hex :: name = hashFields r := by
  obtain ⟨rfl, hfields⟩ := scan_command h hcmd
  rw [scan_hash adds] at hfields
  split at hfields
  · cases hfields
  exact ⟨⟨adds, firstWord (afterWord s), afterWord (afterWord s)⟩, rfl, rfl, hfields⟩

theorem trust_fields {ubuf : Bytes} (h : TrustReads ubuf r) (hne : r.hash ≠ []) :
    ∃ cmd, sscanf trustFormat (cstr ubuf) = cmd :: hashFields r ∧
      strcaseeq cmd (commandWord r.adds) = true := by
  obtain ⟨cmd, hwords, hcmd⟩ := h
  obtain ⟨hlist, hrest⟩ := Prod.mk.inj hwords
  obtain ⟨rfl, htail⟩ := List.cons.inj hlist
  obtain ⟨hhash, -⟩ := List.cons.inj htail
  refine ⟨_, ?_, hcmd⟩
  rw [trustFormat, command_scan hcmd, scan_hash r.adds, hhash, if_neg hne]
  have hsame : afterWord (afterWord (cstr ubuf)) = r.rest := hrest
  rw [hsame]

/-- The name has at least one byte exactly when something is there to name. -/
theorem nameField_ne_nil : nameField r ≠ [] ↔ Named r := by
  constructor
  · intro hne
    by_contra hnone
    apply hne
    have hall : ∀ b ∈ r.hash.drop 64 ++ r.rest, isspace b = true := by
      intro b hb
      by_contra hspace
      exact hnone ⟨b, hb, by simpa using hspace⟩
    rw [nameField, skip_spaces, List.dropWhile_eq_nil_iff.mpr hall]
    rfl
  · rintro ⟨b, hb, hspace⟩ hnil
    rw [nameField] at hnil
    cases hskip : skip_spaces (r.hash.drop 64 ++ r.rest) with
    | nil =>
      have hall := List.dropWhile_eq_nil_iff.mp hskip b hb
      rw [hspace] at hall
      cases hall
    | cons a tail =>
      have ha : isspace a = false := by
        have hstop := List.head?_dropWhile_not isspace (r.hash.drop 64 ++ r.rest)
        rw [show (r.hash.drop 64 ++ r.rest).dropWhile isspace = a :: tail from hskip] at hstop
        exact hstop
      have hne : a ≠ nl := by
        rintro rfl
        exact absurd ha (by decide)
      rw [hskip, List.takeWhile_cons_of_pos (by simpa using hne)] at hnil
      cases hnil

theorem NameLine.skipped {rest name : Bytes} (h : NameLine rest name) :
    ∃ ending, skip_spaces rest = name ++ ending ∧ (ending = [] ∨ ending = [nl]) := by
  obtain ⟨blanks, ending, hrest, hblanks, hne, hhead, -, hending⟩ := h
  refine ⟨ending, ?_, hending⟩
  rw [hrest, skip_spaces_append fun b hb => (hblanks b hb).1]
  apply skip_spaces_of_head
  intro b hb
  obtain ⟨a, tail, rfl⟩ := List.exists_cons_of_ne_nil hne
  exact hhead b hb

/-- A name that ends the line of the hash and fits is what the last field reads. -/
theorem nameField_of_line {name : Bytes} (hhash : r.hash.length ≤ 64)
    (h : NameLine r.rest name) (hlen : name.length ≤ 63) : nameField r = name := by
  obtain ⟨ending, hskip, hending⟩ := h.skipped
  obtain ⟨-, -, -, -, -, -, hnl, -⟩ := h
  have htake : (name ++ ending).takeWhile (· ≠ nl) = name := by
    have hall : ∀ b ∈ name, (decide (b ≠ nl)) = true := by
      intro b hb
      have hbne : b ≠ nl := fun heq => hnl (heq ▸ hb)
      simpa using hbne
    rw [List.takeWhile_append_of_pos hall]
    rcases hending with rfl | rfl
    · exact List.append_nil _
    · simp
  rw [nameField, List.drop_of_length_le hhash, List.nil_append, hskip, htake,
    List.take_of_length_le hlen]

theorem NameLine.named {name : Bytes} (h : NameLine r.rest name) : Named r := by
  obtain ⟨blanks, ending, hrest, -, hne, hhead, -, -⟩ := h
  obtain ⟨a, tail, rfl⟩ := List.exists_cons_of_ne_nil hne
  refine ⟨a, ?_, hhead a rfl⟩
  rw [hrest]
  simp

end Scanning

section Signatures

variable {H : KernelHash} {t : SigTable.Table H} {w : WriteCall} {algo : AvAlgo} {r : Reading}

theorem sig_proc_write_result (t : SigTable.Table H) (w : WriteCall) :
    (sig_proc_write t w).1 = w.count ∨
      (sig_proc_write t w).1 < 0 ∧ (sig_proc_write t w).2 = t := by
  have hadd : ∀ algo hex name, (av_sigtable_add t w.entry_ok algo hex name).1 = 0 ∨
      (av_sigtable_add t w.entry_ok algo hex name).1 < 0 ∧
        (av_sigtable_add t w.entry_ok algo hex name).2 = t := fun algo hex name =>
    (add_result t w.entry_ok algo hex name).imp_left And.left
  have hdel : ∀ algo hex, (av_sigtable_del t algo hex).1 = 0 ∨ -ENOENT < 0 ∧
      (av_sigtable_del t algo hex).2 = t := fun algo hex =>
    (sig_del_result t algo hex).imp_right fun h => ⟨by decide, h⟩
  unfold sig_proc_write
  repeat' split
  all_goals first
    | exact .inr ⟨show -EPERM < 0 by decide, rfl⟩
    | exact .inr ⟨show -EINVAL < 0 by decide, rfl⟩
    | exact .inr ⟨show -EFAULT < 0 by decide, rfl⟩
    | exact reply_result (hadd _ _ _)
    | exact reply_result (hdel _ _)

theorem sig_gates_passed (h : 0 ≤ (sig_proc_write t w).1) : Admitted 256 w := by
  unfold sig_proc_write at h
  obtain ⟨⟨hcapable, hcount, hcopy⟩, -⟩ := line_checks_passed h
  exact ⟨hcapable, hcount, hcopy⟩

private theorem val_eq {a b : AvAlgo} (h : a.val = b.val) : a = b := by
  cases a <;> cases b <;> first | rfl | cases h

private theorem hexlen_le_64 (a : AvAlgo) : algo_hexlen a ≤ 64 := by cases a <;> decide

private theorem nameField_length (r : Reading) : (nameField r).length < 64 := by
  rw [nameField, List.length_take]
  omega

/-- In a counted table the walk of a deletion stops at the digest that the hash begins with. -/
private theorem named_entry (ht : Counted t) {e : SigEntry} {hex : Bytes}
    (he : t.sig_table.find? e.key = some e) (h : e.names algo.val hex = true) :
    e.algo = algo ∧ e.hex = hex_tolower (hex.take (algo_hexlen algo)) := by
  simp only [SigEntry.names, strncaseeq, Bool.and_eq_true, decide_eq_true_eq,
    beq_iff_eq] at h
  obtain ⟨hval, hcmp⟩ := h
  obtain rfl := val_eq hval
  obtain ⟨hlen, hlower⟩ := ht.entry he
  rw [List.take_of_length_le hlen.le] at hcmp
  refine ⟨rfl, ?_⟩
  rw [hex_tolower, ← hcmp]
  symm
  refine (List.map_congr_left fun b hb => ?_).trans (List.map_id _)
  have hb' := List.all_eq_true.mp hlower b hb
  rw [isLowerHex, Bool.and_eq_true, beq_iff_eq] at hb'
  exact hb'.2

/-- A write that is not refused has a reading that it admits; what it stores or removes is what
fits in the fields. -/
theorem sig_accepted (ht : Counted t) (h : 0 ≤ (sig_proc_write t w).1) :
    ∃ algo r, SigReads w.ubuf algo r ∧ SigAdmits w algo r ∧
      ((r.adds = true ∧ Inserts t.sig_table (sig_proc_write t w).2.sig_table
          ⟨algo, nameField r, hex_tolower (r.hash.take 64)⟩) ∨
        (r.adds = false ∧ ∃ e : SigEntry, e.algo = algo ∧
          e.hex = hex_tolower (r.hash.take (algo_hexlen algo)) ∧
          Deletes t.sig_table (sig_proc_write t w).2.sig_table e)) := by
  have hgates := sig_gates_passed h
  obtain ⟨cmd, algo_str, hex, name, algo, hscan, halgo, hcase⟩ := sig_proc_write_ok h
  rcases hcase with ⟨hcmd, first, more, rfl, hret, htable⟩ | ⟨hcmd, hret, htable⟩
  · obtain ⟨r, hadds, hwords, hfields⟩ := sig_scan true hscan hcmd halgo
    obtain ⟨rfl, hname⟩ := List.cons.inj hfields
    split at hname
    · cases hname
    rename_i hne
    obtain ⟨rfl, -⟩ := List.cons.inj hname
    obtain ⟨e, hval, hhex, hename, hlen, hdigits, hnew, hfind⟩ := add_ok hret
    obtain rfl := val_eq hval
    have hlong : algo_hexlen e.algo ≤ r.hash.length := by
      rw [← hlen, List.length_take]
      exact Nat.min_le_right _ _
    have htake : r.hash.take (algo_hexlen e.algo) = r.hash.take 64 := by
      have hinner := List.take_of_length_le hlen.le
      rwa [List.take_take, Nat.min_eq_left (hexlen_le_64 e.algo)] at hinner
    refine ⟨e.algo, r, ⟨cmd, algo_str, hwords, by rw [hadds]; exact hcmd, halgo⟩,
      ⟨hgates, by rw [htake]; exact hdigits, hlong, fun _ => hlen, fun _ => ?_,
        fun _ => nameField_ne_nil.mp hne⟩, .inl ⟨hadds, ?_⟩⟩
    · rcases add_result t w.entry_ok e.algo.val (r.hash.take 64) (nameField r) with
        ⟨-, hok⟩ | ⟨hneg, -⟩
      · exact hok
      · exact absurd hret hneg.ne
    · have hname : strscpy AV_SIG_NAME_LEN (nameField r) = nameField r :=
        strscpy_eq_self (nameField_length r)
      have he : e = ⟨e.algo, nameField r, hex_tolower (r.hash.take 64)⟩ := by
        rw [← hhex, ← hname, ← hename]
      rw [htable, ← he]
      exact ⟨hnew, hfind⟩
  · obtain ⟨r, hadds, hwords, hfields⟩ := sig_scan false hscan hcmd halgo
    obtain ⟨rfl, -⟩ := List.cons.inj hfields
    obtain ⟨e, hnames, hfound, hfind⟩ := del_ok hret
    obtain ⟨rfl, hhex⟩ := named_entry ht hfound hnames
    rw [List.take_take, Nat.min_eq_left (hexlen_le_64 e.algo)] at hhex
    obtain ⟨hlen, hlower⟩ := ht.entry hfound
    have hlong : algo_hexlen e.algo ≤ r.hash.length := by
      rw [hhex, hex_tolower_length, List.length_take] at hlen
      omega
    refine ⟨e.algo, r, ⟨cmd, algo_str, hwords, by rw [hadds]; exact hcmd, halgo⟩,
      ⟨hgates, ?_, hlong, ?_, ?_, ?_⟩, .inr ⟨hadds, e, rfl, hhex, ?_⟩⟩
    · rw [hhex, SigTableRefinement.all_lower] at hlower
      exact hlower
    · rw [hadds]
      nofun
    · rw [hadds]
      nofun
    · rw [hadds]
      nofun
    · rw [htable]
      exact ⟨hfound, hfind⟩

/-- An admitted write is the addition or the deletion of its fields. -/
theorem sig_admitted (hreads : SigReads w.ubuf algo r) (h : SigAdmits w algo r) :
    sig_proc_write t w =
      if r.adds then reply w (av_sigtable_add t w.entry_ok algo.val (r.hash.take 64) (nameField r))
        (av_sigtable_add t w.entry_ok algo.val (r.hash.take 64) (nameField r)).1
      else reply w (av_sigtable_del t algo.val (r.hash.take 64)) (-ENOENT) := by
  have hne : r.hash ≠ [] := by
    intro hnil
    have hlong := h.long
    rw [hnil] at hlong
    exact absurd (SigTableRefinement.hexlen_pos algo) (not_lt.mpr hlong)
  obtain ⟨cmd, algo_str, hscan, hcmd, halgo⟩ := sig_fields hreads hne
  unfold sig_proc_write
  rw [hscan, hashFields]
  simp only [h.gates.capable, h.gates.count.not_ge, h.gates.copy_ok, Bool.not_true,
    Bool.false_eq_true, if_false, halgo]
  cases hadds : r.adds with
  | true =>
    rw [hadds] at hcmd
    rw [if_neg (nameField_ne_nil.mpr (h.named hadds)), if_pos rfl]
    exact if_pos hcmd
  | false =>
    rw [hadds] at hcmd
    rw [if_neg (not_add_of_del hcmd), if_neg Bool.false_ne_true]
    exact if_pos hcmd

private theorem take_64 (hlong : algo_hexlen algo ≤ r.hash.length) :
    ((r.hash.take 64).take (algo_hexlen algo)) = r.hash.take (algo_hexlen algo) ∧
      (r.hash.take (algo_hexlen algo)).length = algo_hexlen algo := by
  rw [List.take_take, Nat.min_eq_left (hexlen_le_64 algo), List.length_take,
    Nat.min_eq_left hlong]
  exact ⟨rfl, rfl⟩

private theorem add_to_empty (H : KernelHash) (algo : AvAlgo) {hex : Bytes} (name : Bytes)
    (hlen : hex.length = algo_hexlen algo) (hdigits : hex.all isxdigit = true) :
    (av_sigtable_add (SigTable.Table.empty : SigTable.Table H) true algo.val hex name).1 = 0 := by
  unfold av_sigtable_add
  rw [SigTableRefinement.algos_val]
  dsimp only
  rw [if_neg (not_not.mpr hlen), if_neg (by rw [hdigits]; decide), if_neg (by decide)]
  rfl

/-- Every write that is admitted some table accepts. -/
theorem sig_realised (hreads : SigReads w.ubuf algo r) (h : SigAdmits w algo r) :
    ∃ (H : KernelHash) (t : SigTable.Table H), Counted t ∧ (sig_proc_write t w).1 = w.count := by
  have hempty : Counted (SigTable.Table.empty : SigTable.Table singleBucket) :=
    ⟨∅, SigTableRefinement.refines_empty singleBucket⟩
  obtain ⟨htake, htake_len⟩ := take_64 h.long
  cases hadds : r.adds with
  | true =>
    refine ⟨singleBucket, _, hempty, ?_⟩
    have hlen := h.fits hadds
    have hdigits : (r.hash.take 64).all isxdigit = true := by
      rw [List.take_of_length_le hlen.le] at htake
      rw [htake]
      exact h.digits
    rw [sig_admitted hreads h, if_pos hadds, h.entry_ok hadds, reply,
      if_pos (add_to_empty singleBucket algo _ hlen hdigits)]
  | false =>
    -- the entry that the deletion finds was added with the digest alone
    have hadd := add_to_empty singleBucket algo [] htake_len h.digits
    refine ⟨singleBucket, _, SigTableRefinement.add_counted hempty true algo.val
      (r.hash.take (algo_hexlen algo)) [], ?_⟩
    obtain ⟨e, hval, hhex, -, -, -, -, hfind⟩ := add_ok hadd
    set t := (av_sigtable_add (SigTable.Table.empty : SigTable.Table singleBucket) true algo.val
      (r.hash.take (algo_hexlen algo)) []).2 with ht
    have hfound : t.sig_table.find? e.key = some e := by rw [hfind, if_pos rfl]
    have hnames : e.names algo.val (r.hash.take 64) = true := by
      rw [SigEntry.names, Bool.and_eq_true, decide_eq_true_eq, strncaseeq, beq_iff_eq,
        val_eq hval, htake, hhex]
      refine ⟨rfl, ?_⟩
      rw [hex_tolower, ← List.map_take, List.take_take, Nat.min_self, List.map_map]
      exact List.map_congr_left fun b _ => tolower_tolower b
    have hret : (av_sigtable_del t algo.val (r.hash.take 64)).1 = 0 := by
      unfold av_sigtable_del
      dsimp only
      split
      · rename_i hnone
        have hmem := (HashTable.find?_eq_some.mp hfound).1
        have hmiss := List.find?_eq_none.mp hnone e hmem
        exact absurd hnames hmiss
      · rfl
    rw [sig_admitted hreads h, if_neg (by rw [hadds]; exact Bool.false_ne_true), reply,
      if_pos hret]

theorem SigReads.unique {ubuf : Bytes} {algo' : AvAlgo} {r' : Reading}
    (h : SigReads ubuf algo r) (h' : SigReads ubuf algo' r') : algo = algo' ∧ r = r' := by
  obtain ⟨cmd, algo_str, hwords, hcmd, halgo⟩ := h
  obtain ⟨cmd', algo_str', hwords', hcmd', halgo'⟩ := h'
  rw [hwords, Prod.mk.injEq, List.cons.injEq, List.cons.injEq, List.cons.injEq] at hwords'
  obtain ⟨⟨rfl, rfl, hhash, -⟩, hrest⟩ := hwords'
  rw [halgo] at halgo'
  refine ⟨Option.some.inj halgo', ?_⟩
  have hadds := command_inj hcmd hcmd'
  cases r
  cases r'
  simp_all only

/-- A hash that is as long as its own beginning in lower case is not longer than that. -/
private theorem length_of_lower {n : Nat} {hash : Bytes}
    (h : hash.map tolower = (hash.take n).map tolower) : hash.length = (hash.take n).length := by
  have hlen := congrArg List.length h
  rwa [List.length_map, List.length_map] at hlen

/-- A write to the signature file means what it says, for every table, exactly when nothing of
what it admits is cut. -/
theorem sig_means_iff (w : WriteCall) :
    (∀ (H : KernelHash) (t : SigTable.Table H), Counted t → SigMeans t w) ↔
      ∀ algo r, SigReads w.ubuf algo r → SigAdmits w algo r →
        Uncut (algo_hexlen algo) w.ubuf r := by
  constructor
  · intro hmeans algo r hreads hadmits
    obtain ⟨H, t, ht, hret⟩ := sig_realised hreads hadmits
    rcases hmeans H t ht with ⟨-, hnul, algo', r', hreads', hdone⟩ | ⟨hneg, -⟩
    · obtain ⟨rfl, rfl⟩ := hreads.unique hreads'
      obtain ⟨algo', r', hreads', -, hactual⟩ := sig_accepted ht (hret ▸ Int.natCast_nonneg _)
      obtain ⟨rfl, rfl⟩ := hreads.unique hreads'
      rcases hdone with ⟨hadds, name, hline, hins⟩ | ⟨hadds, hblank, e, halgo, hhex, hdel⟩
      · rcases hactual with ⟨-, hins'⟩ | ⟨hadds', -⟩
        · have he := hins'.unique hins
          rw [SigEntry.mk.injEq] at he
          obtain ⟨-, hname, hhex⟩ := he
          refine ⟨hnul, ?_, fun _ => ⟨name, hline, ?_⟩, fun hnot => ?_⟩
          · rw [length_of_lower hhex]
            exact hadmits.fits hadds
          · have hlen := nameField_length r
            rw [← hname] at hlen
            omega
          · rw [hadds] at hnot
            cases hnot
        · rw [hadds] at hadds'
          cases hadds'
      · rcases hactual with ⟨hadds', -⟩ | ⟨-, e', -, hhex', hdel'⟩
        · rw [hadds] at hadds'
          cases hadds'
        · obtain rfl := hdel'.unique hdel
          rw [hhex] at hhex'
          refine ⟨hnul, ?_, fun hnot => ?_, fun _ => hblank⟩
          · rw [length_of_lower hhex']
            exact (take_64 hadmits.long).2
          · rw [hadds] at hnot
            cases hnot
    · rw [hret] at hneg
      exact absurd hneg (not_lt.mpr (Int.natCast_nonneg _))
  · intro huncut H t ht
    rcases sig_proc_write_result t w with hret | herror
    · obtain ⟨algo, r, hreads, hadmits, hactual⟩ :=
        sig_accepted ht (hret ▸ Int.natCast_nonneg _)
      have hwhole := huncut algo r hreads hadmits
      refine .inl ⟨hret, hwhole.no_nul, algo, r, hreads, ?_⟩
      have hle : r.hash.length ≤ 64 := hwhole.length_eq ▸ hexlen_le_64 algo
      rcases hactual with ⟨hadds, hins⟩ | ⟨hadds, e, halgo, hhex, hdel⟩
      · obtain ⟨name, hline, hlen⟩ := hwhole.name hadds
        rw [List.take_of_length_le hle, nameField_of_line hle hline hlen] at hins
        exact .inl ⟨hadds, name, hline, hins⟩
      · rw [List.take_of_length_le hwhole.length_eq.le] at hhex
        exact .inr ⟨hadds, hwhole.blank hadds, e, halgo, hhex, hdel⟩
    · exact .inr herror

end Signatures

section Trusted

variable {H : KernelHash} {t : TrustTable.Table H} {w : WriteCall} {r : Reading}

theorem trust_proc_write_result (t : TrustTable.Table H) (w : WriteCall) :
    (trust_proc_write t w).1 = w.count ∨
      (trust_proc_write t w).1 < 0 ∧ (trust_proc_write t w).2 = t := by
  have hadd : ∀ hex name, (av_behavior_trust_add t w.entry_ok hex name).1 = 0 ∨ -EINVAL < 0 ∧
      (av_behavior_trust_add t w.entry_ok hex name).2 = t := fun hex name =>
    or_iff_not_imp_left.mpr fun h => ⟨by decide, TrustTable.trust_add_failed h⟩
  have hdel : ∀ hex, (av_behavior_trust_del t hex).1 = 0 ∨ -ENOENT < 0 ∧
      (av_behavior_trust_del t hex).2 = t := fun hex =>
    or_iff_not_imp_left.mpr fun h => ⟨by decide, TrustTable.del_failed h⟩
  unfold trust_proc_write
  repeat' split
  all_goals first
    | exact .inr ⟨show -EPERM < 0 by decide, rfl⟩
    | exact .inr ⟨show -EINVAL < 0 by decide, rfl⟩
    | exact .inr ⟨show -EFAULT < 0 by decide, rfl⟩
    | exact reply_result (hadd _ _)
    | exact reply_result (hdel _)

theorem trust_gates_passed (h : 0 ≤ (trust_proc_write t w).1) : Admitted 192 w := by
  unfold trust_proc_write at h
  obtain ⟨⟨hcapable, hcount, hcopy⟩, -⟩ := line_checks_passed h
  exact ⟨hcapable, hcount, hcopy⟩

private theorem trust_add_memory {ok : Bool} {hex name : Bytes}
    (h : (av_behavior_trust_add t ok hex name).1 = 0) : ok = true := by
  unfold av_behavior_trust_add at h
  split at h
  · exact absurd h (show ¬ -EINVAL = 0 by decide)
  split at h
  · exact absurd h (show ¬ -ENOMEM = 0 by decide)
  rename_i hok
  simpa using hok

theorem trust_accepted (ht : AllCanonical t) (h : 0 ≤ (trust_proc_write t w).1) :
    ∃ r, TrustReads w.ubuf r ∧ TrustAdmits w r ∧
      ((r.adds = true ∧ Inserts t (trust_proc_write t w).2
          ⟨TrustTable.hex_tolower (r.hash.take 64), nameField r⟩) ∨
        (r.adds = false ∧ ∃ e : TrustEntry,
          e.sha256_hex = TrustTable.hex_tolower (r.hash.take 64) ∧
          Deletes t (trust_proc_write t w).2 e)) := by
  have hgates := trust_gates_passed h
  have hlong : ∀ r : Reading, (r.hash.take 64).length = SHA256_HEX_LEN →
      SHA256_HEX_LEN ≤ r.hash.length := by
    intro r hlen
    rw [← hlen, List.length_take]
    exact Nat.min_le_right _ _
  obtain ⟨cmd, hex, name, hscan, hcase⟩ := trust_proc_write_ok h
  rcases hcase with ⟨hcmd, first, more, rfl, hret, htable⟩ | ⟨hcmd, hret, htable⟩
  · obtain ⟨r, hadds, hwords, hfields⟩ := trust_scan true hscan hcmd
    obtain ⟨rfl, hname⟩ := List.cons.inj hfields
    split at hname
    · cases hname
    rename_i hne
    obtain ⟨rfl, -⟩ := List.cons.inj hname
    obtain ⟨hlen, e, hhex, hename, hnew, hfind⟩ := TrustTable.trust_add_ok hret
    refine ⟨r, ⟨cmd, hwords, by rw [hadds]; exact hcmd⟩, ⟨hgates, hlong r hlen,
      fun _ => trust_add_memory hret, fun _ => nameField_ne_nil.mp hne⟩, .inl ⟨hadds, ?_⟩⟩
    have hname : strscpy TRUST_NAME_LEN (nameField r) = nameField r :=
      strscpy_eq_self (nameField_length r)
    have he : e = ⟨TrustTable.hex_tolower (r.hash.take 64), nameField r⟩ := by
      rw [← hhex, ← hname, ← hename]
    rw [htable, ← he]
    exact ⟨hnew, hfind⟩
  · obtain ⟨r, hadds, hwords, hfields⟩ := trust_scan false hscan hcmd
    obtain ⟨rfl, -⟩ := List.cons.inj hfields
    obtain ⟨hlen, -⟩ := TrustTable.trust_del_ok hret
    rcases ListTables.trust_del_cases ht (r.hash.take 64) with ⟨-, hsome, hfind⟩ | ⟨hne, -⟩
    · obtain ⟨e, he⟩ := Option.isSome_iff_exists.mp hsome
      have hkey := HashTable.key_of_find? he
      refine ⟨r, ⟨cmd, hwords, by rw [hadds]; exact hcmd⟩, ⟨hgates, hlong r hlen, ?_, ?_⟩,
        .inr ⟨hadds, e, hkey, ?_⟩⟩
      · rw [hadds]
        nofun
      · rw [hadds]
        nofun
      · rw [htable]
        refine ⟨by rw [hkey]; exact he, fun k => ?_⟩
        rw [hfind, hkey]
    · exact absurd hret hne

theorem trust_admitted (hreads : TrustReads w.ubuf r) (h : TrustAdmits w r) :
    trust_proc_write t w =
      if r.adds then
        reply w (av_behavior_trust_add t w.entry_ok (r.hash.take 64) (nameField r)) (-EINVAL)
      else reply w (av_behavior_trust_del t (r.hash.take 64)) (-ENOENT) := by
  have hne : r.hash ≠ [] := by
    intro hnil
    have hlong := h.long
    rw [hnil] at hlong
    cases hlong
  obtain ⟨cmd, hscan, hcmd⟩ := trust_fields hreads hne
  unfold trust_proc_write
  rw [hscan, hashFields]
  simp only [h.gates.capable, h.gates.count.not_ge, h.gates.copy_ok, Bool.not_true,
    Bool.false_eq_true, if_false]
  cases hadds : r.adds with
  | true =>
    rw [hadds] at hcmd
    rw [if_neg (nameField_ne_nil.mpr (h.named hadds)), if_pos rfl]
    exact if_pos hcmd
  | false =>
    rw [hadds] at hcmd
    rw [if_neg (not_add_of_del hcmd), if_neg Bool.false_ne_true]
    exact if_pos hcmd

/-- Every write that is admitted some table accepts. -/
theorem trust_realised (hreads : TrustReads w.ubuf r) (h : TrustAdmits w r) :
    ∃ (H : KernelHash) (t : TrustTable.Table H), AllCanonical t ∧
      (trust_proc_write t w).1 = w.count := by
  have hempty : AllCanonical (HashTable.empty : TrustTable.Table singleBucket) := nofun
  have hlen : (r.hash.take 64).length = SHA256_HEX_LEN := by
    rw [List.length_take]
    exact Nat.min_eq_left h.long
  cases hadds : r.adds with
  | true =>
    refine ⟨singleBucket, _, hempty, ?_⟩
    rw [trust_admitted hreads h, if_pos hadds, h.entry_ok hadds]
    rcases ListTables.trust_add_cases hempty (r.hash.take 64) (nameField r) with
      ⟨hret, -⟩ | ⟨-, hsome, -⟩ | ⟨-, hbad, -⟩
    · rw [reply, if_pos hret]
    · cases hsome
    · exact absurd hlen hbad
  | false =>
    -- the entry that the deletion finds was added without a name
    have hfollows := ListTables.follows_step (ListTables.follows_boot singleBucket)
      (.trust_add (r.hash.take 64) [])
    refine ⟨singleBucket, _, hfollows.canonical, ?_⟩
    rw [trust_admitted hreads h, if_neg (by rw [hadds]; exact Bool.false_ne_true)]
    rcases ListTables.trust_del_cases hfollows.canonical (r.hash.take 64) with
      ⟨hret, -⟩ | ⟨-, hnone, -⟩
    · rw [reply, if_pos hret]
    · exfalso
      rcases ListTables.trust_add_cases hempty (r.hash.take 64) [] with
        ⟨-, -, -, e, -, hfind⟩ | ⟨-, hsome, -⟩ | ⟨-, hbad, -⟩
      · have hfound := hfind (TrustTable.hex_tolower (r.hash.take 64))
        rw [if_pos rfl] at hfound
        exact absurd (hnone.symm.trans hfound) nofun
      · cases hsome
      · exact hbad hlen

theorem TrustReads.unique {ubuf : Bytes} {r' : Reading} (h : TrustReads ubuf r)
    (h' : TrustReads ubuf r') : r = r' := by
  obtain ⟨cmd, hwords, hcmd⟩ := h
  obtain ⟨cmd', hwords', hcmd'⟩ := h'
  rw [hwords, Prod.mk.injEq, List.cons.injEq, List.cons.injEq] at hwords'
  obtain ⟨⟨rfl, hhash, -⟩, hrest⟩ := hwords'
  have hadds := command_inj hcmd hcmd'
  cases r
  cases r'
  simp_all only

theorem trust_means_iff (w : WriteCall) :
    (∀ (H : KernelHash) (t : TrustTable.Table H), AllCanonical t → TrustMeans t w) ↔
      ∀ r, TrustReads w.ubuf r → TrustAdmits w r → Uncut SHA256_HEX_LEN w.ubuf r := by
  have hfull : ∀ r : Reading, SHA256_HEX_LEN ≤ r.hash.length →
      (r.hash.take 64).length = SHA256_HEX_LEN := by
    intro r hlong
    rw [List.length_take]
    exact Nat.min_eq_left hlong
  constructor
  · intro hmeans r hreads hadmits
    obtain ⟨H, t, ht, hret⟩ := trust_realised hreads hadmits
    rcases hmeans H t ht with ⟨-, hnul, r', hreads', hdone⟩ | ⟨hneg, -⟩
    · obtain rfl := hreads.unique hreads'
      obtain ⟨r', hreads', -, hactual⟩ := trust_accepted ht (hret ▸ Int.natCast_nonneg _)
      obtain rfl := hreads.unique hreads'
      rcases hdone with ⟨hadds, name, hline, hins⟩ | ⟨hadds, hblank, e, hhex, hdel⟩
      · rcases hactual with ⟨-, hins'⟩ | ⟨hadds', -⟩
        · have he := hins'.unique hins
          rw [TrustEntry.mk.injEq] at he
          obtain ⟨hhex, hname⟩ := he
          refine ⟨hnul, ?_, fun _ => ⟨name, hline, ?_⟩, fun hnot => ?_⟩
          · rw [length_of_lower hhex]
            exact hfull r hadmits.long
          · have hlen := nameField_length r
            rw [← hname] at hlen
            omega
          · rw [hadds] at hnot
            cases hnot
        · rw [hadds] at hadds'
          cases hadds'
      · rcases hactual with ⟨hadds', -⟩ | ⟨-, e', hhex', hdel'⟩
        · rw [hadds] at hadds'
          cases hadds'
        · obtain rfl := hdel'.unique hdel
          rw [hhex] at hhex'
          refine ⟨hnul, ?_, fun hnot => ?_, fun _ => hblank⟩
          · rw [length_of_lower hhex']
            exact hfull r hadmits.long
          · rw [hadds] at hnot
            cases hnot
    · rw [hret] at hneg
      exact absurd hneg (not_lt.mpr (Int.natCast_nonneg _))
  · intro huncut H t ht
    rcases trust_proc_write_result t w with hret | herror
    · obtain ⟨r, hreads, hadmits, hactual⟩ := trust_accepted ht (hret ▸ Int.natCast_nonneg _)
      have hwhole := huncut r hreads hadmits
      refine .inl ⟨hret, hwhole.no_nul, r, hreads, ?_⟩
      have hle : r.hash.length ≤ 64 := hwhole.length_eq.le
      rcases hactual with ⟨hadds, hins⟩ | ⟨hadds, e, hhex, hdel⟩
      · obtain ⟨name, hline, hlen⟩ := hwhole.name hadds
        rw [List.take_of_length_le hle, nameField_of_line hle hline hlen] at hins
        exact .inl ⟨hadds, name, hline, hins⟩
      · rw [List.take_of_length_le hle] at hhex
        exact .inr ⟨hadds, hwhole.blank hadds, e, hhex, hdel⟩
    · exact .inr herror

end Trusted

section Main

/-- Writes to the two files mean what they say, for every table, exactly when nothing of what they
admit is cut: what the field of the hash has no room for goes into the name, and what the field of
the name has no room for, the lines that follow and what a NUL hides are dropped. -/
theorem hash_writes_mean_iff (w : WriteCall) :
    ((∀ (H : KernelHash) (t : SigTable.Table H), Counted t → SigMeans t w) ↔
      ∀ algo r, SigReads w.ubuf algo r → SigAdmits w algo r →
        Uncut (algo_hexlen algo) w.ubuf r) ∧
    ((∀ (H : KernelHash) (t : TrustTable.Table H), AllCanonical t → TrustMeans t w) ↔
      ∀ r, TrustReads w.ubuf r → TrustAdmits w r → Uncut SHA256_HEX_LEN w.ubuf r) :=
  ⟨sig_means_iff w, trust_means_iff w⟩

/-- A hash word of some zeros, and what is written behind it. -/
def zeros (adds : Bool) (n : Nat) (rest : Bytes) : Reading := ⟨adds, List.replicate n 48, rest⟩

/-- A digest with a digit too many, for an addition and a deletion, and a second line. -/
def cutSigs : List (AvAlgo × Bytes × Reading) :=
  [(.sha256, lit "add sha256 ", zeros true 65 (lit " x\n")),
    (.md5, lit "del md5 ", zeros false 33 (lit "\n")),
    (.md5, lit "del md5 ", zeros false 32 (lit "\nadd md5 00 x\n"))]

def cutTrust : Reading := zeros true 65 (lit " x\n")

private theorem cutSigs_read : ∀ c ∈ cutSigs, SigReads (c.2.1 ++ (c.2.2.hash ++ c.2.2.rest)) c.1
    c.2.2 := by
  have hwords : ∀ c ∈ cutSigs, ∃ cmd ∈ [lit "add", lit "del"],
      ∃ algo_str ∈ [lit "sha256", lit "md5"],
        leadingWords 3 (cstr (c.2.1 ++ (c.2.2.hash ++ c.2.2.rest))) =
          ([cmd, algo_str, c.2.2.hash], c.2.2.rest) ∧
        strcaseeq cmd (commandWord c.2.2.adds) = true ∧ parse_algo algo_str = some c.1 := by
    decide +kernel
  intro c hc
  obtain ⟨cmd, -, algo_str, -, hreads⟩ := hwords c hc
  exact ⟨cmd, algo_str, hreads⟩

/-- What these writes store or remove is not what they say. -/
theorem hash_writes_cut :
    (∀ c ∈ cutSigs, ¬ ∀ (H : KernelHash) (t : SigTable.Table H), Counted t →
      SigMeans t (.plain true (c.2.1 ++ (c.2.2.hash ++ c.2.2.rest)))) ∧
    ¬ ∀ (H : KernelHash) (t : TrustTable.Table H), AllCanonical t →
      TrustMeans t (.plain true (lit "add " ++ (cutTrust.hash ++ cutTrust.rest))) := by
  constructor
  · have hfacts : ∀ c ∈ cutSigs, (c.2.1 ++ (c.2.2.hash ++ c.2.2.rest)).length < 256 ∧
        (c.2.2.hash.take (algo_hexlen c.1)).all isxdigit = true ∧
        algo_hexlen c.1 ≤ c.2.2.hash.length ∧
        (c.2.2.adds = true → (c.2.2.hash.take 64).length = algo_hexlen c.1 ∧
          (c.2.2.hash.drop 64 ++ c.2.2.rest).any (fun b => !isspace b) = true) ∧
        ¬ (c.2.2.hash.length = algo_hexlen c.1 ∧
          (c.2.2.adds = false → c.2.2.rest.all isspace = true)) := by
      decide +kernel
    intro c hc hall
    obtain ⟨hcount, hdigits, hlong, hadd, hcut⟩ := hfacts c hc
    have hnamed : c.2.2.adds = true → Named c.2.2 := by
      intro h
      obtain ⟨b, hb, hspace⟩ := List.any_eq_true.mp (hadd h).2
      exact ⟨b, hb, by simpa using hspace⟩
    have huncut := (sig_means_iff _).mp hall c.1 c.2.2 (cutSigs_read c hc)
      ⟨⟨rfl, hcount, rfl⟩, hdigits, hlong, fun h => (hadd h).1, fun _ => rfl, hnamed⟩
    exact hcut ⟨huncut.length_eq, fun h => List.all_eq_true.mpr (huncut.blank h)⟩
  · intro hall
    have hreads : TrustReads (lit "add " ++ (cutTrust.hash ++ cutTrust.rest)) cutTrust :=
      ⟨lit "add", by decide +kernel, by decide⟩
    have huncut := (trust_means_iff _).mp hall cutTrust hreads
      ⟨⟨rfl, by decide +kernel, rfl⟩, by decide +kernel, fun _ => rfl, fun _ => ⟨120, by decide⟩⟩
    exact absurd huncut.length_eq (by decide +kernel)

end Main

end KernelAv.Kernel.HashWrites
