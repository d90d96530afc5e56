/- digest: The signature table: entries by algorithm and digest text, add, delete and match. -/

import KernelAv.Kernel.BehaviorTable

set_option autoImplicit false
set_option relaxedAutoImplicit false

namespace KernelAv.Kernel.SigTable

open KernelAv.Lib.CText
open KernelAv.Lib.Chains
open KernelAv.Kernel.BehaviorTable (KernelHash)

def SIGTABLE_BITS : Nat := 10
def AV_SIG_NAME_LEN : Nat := 64
def AV_HASH_HEX_MAXLEN : Nat := 64
def MAX_SIG_ENTRIES : Nat := 8192

def ENOENT : Int := 2
def ENOMEM : Int := 12
def EEXIST : Int := 17
def EINVAL : Int := 22
def ENOSPC : Int := 28

/-- `enum av_algo`. -/
inductive AvAlgo where
  | md5
  | sha1
  | sha256
  deriving DecidableEq

def algos : List AvAlgo := [.md5, .sha1, .sha256]

/-- The value of the enumerator. -/
def AvAlgo.val : AvAlgo → Nat
  | .md5 => 0
  | .sha1 => 1
  | .sha256 => 2

def algo_hexlen : AvAlgo → Nat
  | .md5 => 32
  | .sha1 => 40
  | .sha256 => 64

/-- `hex_tolower`, with the kernel's `tolower`. -/
def hex_tolower (hex : Bytes) : Bytes := hex.map tolower

/-- `isxdigit`: in the kernel's character table these are the ASCII hex digits. -/
def isxdigit (b : UInt8) : Bool :=
  48 ≤ b.toNat && b.toNat ≤ 57 || 65 ≤ b.toNat && b.toNat ≤ 70 || 97 ≤ b.toNat && b.toNat ≤ 102

/-- `struct av_digest`. -/
structure AvDigest where
  md5 : Bytes
  sha1 : Bytes
  sha256 : Bytes
  deriving DecidableEq

/-- `struct av_sig_entry`. -/
structure SigEntry where
  algo : AvAlgo
  name : Bytes
  hex : Bytes
  deriving DecidableEq

def SigEntry.key (e : SigEntry) : AvAlgo × Bytes := (e.algo, e.hex)

def digest_for_algo (d : AvDigest) : AvAlgo → Bytes
  | .md5 => d.md5
  | .sha1 => d.sha1
  | .sha256 => d.sha256

variable (H : KernelHash)

/-- The bucket depends on the digest text only. -/
def sigBucket (k : AvAlgo × Bytes) : Fin (2 ^ SIGTABLE_BITS) :=
  H.hash_min SIGTABLE_BITS (H.full_name_hash k.2)

/-- The bucket of a digest text, which is that of every entry with this text. -/
def textBucket (hex : Bytes) : Fin (2 ^ SIGTABLE_BITS) :=
  H.hash_min SIGTABLE_BITS (H.full_name_hash hex)

structure Table where
  sig_table : HashTable SigEntry.key (sigBucket H)
  sig_count : Nat
  sig_count_algo : AvAlgo → Nat

variable {H}

def Table.empty : Table H := ⟨HashTable.empty, 0, fun _ => 0⟩

def av_sigtable_algo_count (t : Table H) (algo : AvAlgo) : Nat := t.sig_count_algo algo

/-- The walk over the chain of one digest text. -/
def matchAlgo (t : Table H) (d : AvDigest) (algo : AvAlgo) : Option SigEntry :=
  (t.sig_table.chain (sigBucket H (algo, digest_for_algo d algo))).find? fun e =>
    e.algo = algo && strncaseeq (algo_hexlen algo) e.hex (digest_for_algo d algo)

/-- The first entry found, algorithm by algorithm. -/
def matchEntry (t : Table H) (d : AvDigest) : Option SigEntry := algos.findSome? (matchAlgo t d)

/-- The name of the first entry found, algorithm by algorithm. -/
def av_sigtable_match (t : Table H) (d : AvDigest) (name_out_len : Nat) : Option Bytes :=
  (algos.findSome? (matchAlgo t d)).map fun e => strscpy name_out_len e.name

/-- The comparison that the walks of `av_sigtable_add` and `av_sigtable_del` make; an algorithm
value without an enumerator is that of no entry. -/
def SigEntry.names (e : SigEntry) (algo : Nat) (hex : Bytes) : Bool :=
  e.algo.val = algo && strncaseeq (algo_hexlen e.algo) e.hex hex

private theorem absent_of_unnamed {t : Table H} {a : AvAlgo} {hex : Bytes}
    (h : (t.sig_table.chain (textBucket H hex)).any (·.names a.val hex) = false) :
    t.sig_table.find? (a, hex) = none := by
  apply HashTable.find?_eq_none.mpr
  intro e he hkey
  obtain ⟨rfl, rfl⟩ := Prod.mk.inj hkey
  exact absurd (List.any_eq_false.mp h e he) (by simp [SigEntry.names, strncaseeq])

def av_sigtable_add (t : Table H) (kmalloc_ok : Bool) (algo : Nat) (hex name : Bytes) :
    Int × Table H :=
  match algos[algo]? with
  | none => (-EINVAL, t)
  | some a =>
      if hex.length ≠ algo_hexlen a then (-EINVAL, t)
      else if !hex.all isxdigit then (-EINVAL, t)
      else if !kmalloc_ok then (-ENOMEM, t)
      else
        let lower_hex := hex_tolower (strscpy (AV_HASH_HEX_MAXLEN + 1) hex)
        if h : (t.sig_table.chain (textBucket H lower_hex)).any (·.names a.val lower_hex) = false
        then
          if MAX_SIG_ENTRIES ≤ t.sig_count then (-ENOSPC, t)
          else
            (0, ⟨t.sig_table.add ⟨a, strscpy AV_SIG_NAME_LEN name, lower_hex⟩ (absent_of_unnamed h),
              t.sig_count + 1, Function.update t.sig_count_algo a (t.sig_count_algo a + 1)⟩)
        else (-EEXIST, t)

def av_sigtable_del (t : Table H) (algo : Nat) (hex : Bytes) : Int × Table H :=
  let lower_hex := hex_tolower (strscpy (AV_HASH_HEX_MAXLEN + 1) hex)
  match (t.sig_table.chain (textBucket H lower_hex)).find? (·.names algo hex) with
  | none => (-ENOENT, t)
  | some e =>
      (0, ⟨t.sig_table.del e.key, t.sig_count - 1,
        Function.update t.sig_count_algo e.algo (t.sig_count_algo e.algo - 1)⟩)

section Results

variable {t : Table H} {ok : Bool} {algo : Nat} {hex name : Bytes}

theorem val_of_algos {a : AvAlgo} (h : algos[algo]? = some a) : a.val = algo := by
  match algo, h with
  | 0, h | 1, h | 2, h =>
    obtain rfl := Option.some.inj h
    rfl

theorem hex_tolower_length (hex : Bytes) : (hex_tolower hex).length = hex.length :=
  List.length_map _

theorem add_ret (t : Table H) (ok : Bool) (algo : Nat) (hex name : Bytes) :
    (av_sigtable_add t ok algo hex name).1 ≤ 0 := by
  unfold av_sigtable_add
  split
  · exact (show -EINVAL ≤ 0 by decide)
  repeat' split
  · exact (show -EINVAL ≤ 0 by decide)
  · exact (show -EINVAL ≤ 0 by decide)
  · exact (show -ENOMEM ≤ 0 by decide)
  · dsimp only
    split
    · split
      · exact (show -ENOSPC ≤ 0 by decide)
      · exact le_rfl
    · exact (show -EEXIST ≤ 0 by decide)

/-- An addition that fails leaves the table, and one that succeeds had its memory. -/
theorem add_result (t : Table H) (ok : Bool) (algo : Nat) (hex name : Bytes) :
    ((av_sigtable_add t ok algo hex name).1 = 0 ∧ ok = true) ∨
      (av_sigtable_add t ok algo hex name).1 < 0 ∧
        (av_sigtable_add t ok algo hex name).2 = t := by
  unfold av_sigtable_add
  split
  · exact .inr ⟨show -EINVAL < 0 by decide, rfl⟩
  split
  · exact .inr ⟨show -EINVAL < 0 by decide, rfl⟩
  split
  · exact .inr ⟨show -EINVAL < 0 by decide, rfl⟩
  split
  · exact .inr ⟨show -ENOMEM < 0 by decide, rfl⟩
  rename_i hok
  dsimp only
  split
  · split
    · exact .inr ⟨show -ENOSPC < 0 by decide, rfl⟩
    · exact .inl ⟨rfl, by simpa using hok⟩
  · exact .inr ⟨show -EEXIST < 0 by decide, rfl⟩

theorem sig_del_result (t : Table H) (algo : Nat) (hex : Bytes) :
    (av_sigtable_del t algo hex).1 = 0 ∨ (av_sigtable_del t algo hex).2 = t := by
  unfold av_sigtable_del
  dsimp only
  split
  · exact .inr rfl
  · exact .inl rfl

/-- A successful addition inserts one entry, with a new key. -/
theorem add_ok (h : (av_sigtable_add t ok algo hex name).1 = 0) :
    ∃ e : SigEntry, e.algo.val = algo ∧ e.hex = hex_tolower hex ∧
      e.name = strscpy AV_SIG_NAME_LEN name ∧ hex.length = algo_hexlen e.algo ∧
      hex.all isxdigit = true ∧ t.sig_table.find? e.key = none ∧
      ∀ k, (av_sigtable_add t ok algo hex name).2.sig_table.find? k =
        if k = e.key then some e else t.sig_table.find? k := by
  unfold av_sigtable_add at h ⊢
  split at h
  · exact absurd h (show ¬ -EINVAL = 0 by decide)
  rename_i a ha
  split at h
  · exact absurd h (show ¬ -EINVAL = 0 by decide)
  rename_i hlen
  split at h
  · exact absurd h (show ¬ -EINVAL = 0 by decide)
  rename_i hdigits
  split at h
  · exact absurd h (show ¬ -ENOMEM = 0 by decide)
  rename_i hok
  dsimp only at h
  split at h
  · rename_i hnew
    split at h
    · exact absurd h (show ¬ -ENOSPC = 0 by decide)
    rename_i hroom
    rw [not_not] at hlen
    have htake : strscpy (AV_HASH_HEX_MAXLEN + 1) hex = hex := by
      apply strscpy_eq_self
      have hle : algo_hexlen a ≤ AV_HASH_HEX_MAXLEN := by cases a <;> decide
      omega
    refine ⟨⟨a, strscpy AV_SIG_NAME_LEN name, hex_tolower hex⟩, val_of_algos ha, rfl, rfl, hlen,
      by simpa using hdigits, ?_, ?_⟩
    · rw [htake] at hnew
      exact absent_of_unnamed hnew
    · intro k
      simp only [hlen, ne_eq, not_true_eq_false, if_false, hdigits, hok, hroom, hnew,
        dite_true, Bool.false_eq_true]
      refine HashTable.find?_add.trans ?_
      rw [htake]
  · exact absurd h (show ¬ -EEXIST = 0 by decide)

/-- A successful deletion removes one entry, which the string begins with. -/
theorem del_ok (h : (av_sigtable_del t algo hex).1 = 0) :
    ∃ e : SigEntry, e.names algo hex = true ∧ t.sig_table.find? e.key = some e ∧
      ∀ k, (av_sigtable_del t algo hex).2.sig_table.find? k =
        if k = e.key then none else t.sig_table.find? k := by
  unfold av_sigtable_del at h ⊢
  dsimp only at h ⊢
  split at h
  · exact absurd h (show ¬ -ENOENT = 0 by decide)
  · rename_i e he
    refine ⟨e, by simpa using List.find?_some he, ?_, ?_⟩
    · exact (HashTable.mem_chain.mp (List.mem_of_find?_eq_some he)).2
    · intro k
      exact HashTable.find?_del

end Results

end KernelAv.Kernel.SigTable
