/- digest: The signature table as a finite map of digests to names, and where the two part. -/

import Mathlib.Data.Finmap
import KernelAv.Kernel.SigTable

set_option autoImplicit false
set_option relaxedAutoImplicit false

namespace KernelAv.Kernel.SigTableRefinement

open KernelAv.Lib.CText
open KernelAv.Lib.Chains
open KernelAv.Kernel.BehaviorTable (KernelHash)
open KernelAv.Kernel.SigTable

def isLowerHex (b : UInt8) : Bool := isxdigit b && tolower b == b

/-- A digest of the map: lower-case hex digits, as many as the algorithm has. -/
structure SigKey where
  algo : AvAlgo
  hex : Bytes
  length_eq : hex.length = algo_hexlen algo
  digits : hex.all isLowerHex = true
  deriving DecidableEq

/-- The purpose of the table: a finite map from digests to signature names. -/
abbrev SigMap := Finmap fun _ : SigKey => Bytes

/-- The key that an algorithm value and a string are, if they are one. -/
def sigKey? (algo : Nat) (hex : Bytes) : Option SigKey :=
  match algos[algo]? with
  | none => none
  | some a =>
      if h : hex.length = algo_hexlen a ∧ hex.all isLowerHex = true then some ⟨a, hex, h.1, h.2⟩
      else none

def addSpec (M : SigMap) (algo : Nat) (hex name : Bytes) : Int × SigMap :=
  match sigKey? algo (hex_tolower hex) with
  | none => (-EINVAL, M)
  | some k =>
      if k ∈ M then (-EEXIST, M)
      else if M.keys.card = MAX_SIG_ENTRIES then (-ENOSPC, M)
      else (0, M.insert k (name.take 63))

def delSpec (M : SigMap) (algo : Nat) (hex : Bytes) : Int × SigMap :=
  match sigKey? algo (hex_tolower hex) with
  | none => (-ENOENT, M)
  | some k => if k ∈ M then (0, M.erase k) else (-ENOENT, M)

/-- The binding of an algorithm's digest. -/
def boundTo (M : SigMap) (d : AvDigest) (algo : AvAlgo) : Option (SigKey × Bytes) :=
  (sigKey? algo.val (digest_for_algo d algo)).bind fun k => (M.lookup k).map fun name => (k, name)

def matchSpec (M : SigMap) (d : AvDigest) : Option (SigKey × Bytes) := algos.findSome? (boundTo M d)

/-- A call on the table; its allocation succeeds. -/
inductive Call where
  | add (algo : Nat) (hex name : Bytes)
  | del (algo : Nat) (hex : Bytes)
  | find (d : AvDigest) (name_out_len : Nat)

/-- What a call gives back: an error code or 0, or the name copied out; beside it, the algorithm,
digest and name of the entry that was found, which the code does not return. -/
inductive Answer where
  | code (ret : Int)
  | found (name_out : Option Bytes) (sig : Option (AvAlgo × Bytes × Bytes))
  deriving DecidableEq

variable {H : KernelHash}

def Call.onTable (t : Table H) : Call → Answer × Table H
  | .add algo hex name =>
      let (ret, u) := av_sigtable_add t true algo hex name
      (.code ret, u)
  | .del algo hex =>
      let (ret, u) := av_sigtable_del t algo hex
      (.code ret, u)
  | .find d name_out_len =>
      (.found (av_sigtable_match t d name_out_len)
        ((matchEntry t d).map fun e => (e.algo, e.hex, e.name)), t)

def Call.onMap (M : SigMap) : Call → Answer × SigMap
  | .add algo hex name =>
      let (ret, N) := addSpec M algo hex name
      (.code ret, N)
  | .del algo hex =>
      let (ret, N) := delSpec M algo hex
      (.code ret, N)
  | .find d name_out_len =>
      (.found ((matchSpec M d).map fun kn => strscpy name_out_len kn.2)
        ((matchSpec M d).map fun kn => (kn.1.algo, kn.1.hex, kn.2)), M)

/-- The table holds the bindings of the map and no others, and its counters count them. -/
structure Refines (t : Table H) (M : SigMap) : Prop where
  lookup : ∀ k : SigKey, (t.sig_table.find? (k.algo, k.hex)).map SigEntry.name = M.lookup k
  keyed : ∀ key e, t.sig_table.find? key = some e → ∃ k : SigKey, key = (k.algo, k.hex)
  count : t.sig_count = M.keys.card
  bounded : M.keys.card ≤ MAX_SIG_ENTRIES
  count_algo : ∀ algo, t.sig_count_algo algo = (M.keys.filter fun k => k.algo = algo).card

/-- Along the calls, table and map agree and give the same answers. -/
def Behaves : Table H → SigMap → List Call → Prop
  | t, M, [] => Refines t M
  | t, M, c :: cs =>
      Refines t M ∧ (c.onTable t).1 = (c.onMap M).1 ∧ Behaves (c.onTable t).2 (c.onMap M).2 cs

/-- The string is not the digest `k`, but begins with it up to letter case and lies in its
bucket. -/
def Shadows (H : KernelHash) (k : SigKey) (text bucketText : Bytes) : Prop :=
  hex_tolower (text.take (algo_hexlen k.algo)) = k.hex ∧
    textBucket H bucketText = textBucket H k.hex

/-- A deletion by a string longer than the algorithm's digests that begins with one of them, of the
same bucket; or a match, before any algorithm whose digest is in the map, of a digest that is in
the map only up to letter case or as a beginning, of the same bucket. -/
def Misses (H : KernelHash) (M : SigMap) : Call → Prop
  | .add _ _ _ => False
  | .del algo hex => ∃ k ∈ M, k.algo.val = algo ∧ algo_hexlen k.algo < hex.length ∧
      Shadows H k hex (hex_tolower (strscpy (AV_HASH_HEX_MAXLEN + 1) hex))
  | .find d _ => ∃ k ∈ M, digest_for_algo d k.algo ≠ k.hex ∧
      Shadows H k (digest_for_algo d k.algo) (digest_for_algo d k.algo) ∧
      ∀ algo : AvAlgo, algo.val < k.algo.val → boundTo M d algo = none

/-- No call of the sequence is such a deletion or match, in the map as it then stands. -/
def Unambiguous (H : KernelHash) : SigMap → List Call → Prop
  | _, [] => True
  | M, c :: cs => ¬ Misses H M c ∧ Unambiguous H (c.onMap M).2 cs

section Keys

private theorem isxdigit_tolower (b : UInt8) : isLowerHex (tolower b) = isxdigit b := by
  have hall : ∀ n : Fin 256, isLowerHex (tolower (UInt8.ofNat n)) = isxdigit (UInt8.ofNat n) := by
    decide +kernel
  simpa using hall ⟨b.toNat, b.toNat_lt⟩

theorem all_lower (hex : Bytes) : (hex_tolower hex).all isLowerHex = hex.all isxdigit := by
  rw [hex_tolower, List.all_map]
  congr 1
  funext b
  exact isxdigit_tolower b

theorem algos_val (a : AvAlgo) : algos[a.val]? = some a := by cases a <;> rfl

theorem sigKey?_eq_some {algo : Nat} {hex : Bytes} {k : SigKey} :
    sigKey? algo hex = some k ↔ k.algo.val = algo ∧ k.hex = hex := by
  unfold sigKey?
  constructor
  · intro h
    split at h
    · cases h
    · rename_i a ha
      split at h
      · obtain rfl := Option.some.inj h
        exact ⟨val_of_algos ha, rfl⟩
      · cases h
  · obtain ⟨a, x, hlen, hdigits⟩ := k
    rintro ⟨rfl, rfl⟩
    rw [algos_val]
    exact dif_pos ⟨hlen, hdigits⟩

/-- An addition is refused as invalid exactly for an invalid algorithm, length or digit. -/
theorem sigKey?_lower_eq_none {algo : Nat} {hex : Bytes} :
    sigKey? algo (hex_tolower hex) = none ↔
      ∀ a, algos[algo]? = some a → hex.length ≠ algo_hexlen a ∨ hex.all isxdigit = false := by
  unfold sigKey?
  split
  · rename_i hnone
    simp [hnone]
  · rename_i a ha
    rw [dite_eq_right_iff, ha]
    simp only [hex_tolower_length, all_lower, reduceCtorEq, imp_false, Option.some.injEq,
      forall_eq', not_and_or, ne_eq, Bool.not_eq_true]

private theorem tolower_digits {k : SigKey} : hex_tolower k.hex = k.hex := by
  refine (List.map_congr_left fun b hb => ?_).trans (List.map_id _)
  have hlower := List.all_eq_true.mp k.digits b hb
  exact beq_iff_eq.mp (Bool.and_eq_true_iff.mp hlower).2

/-- What the comparison of an entry's full digest with the beginning of a string says. -/
private theorem strncaseeq_key {k : SigKey} {text : Bytes} :
    strncaseeq (algo_hexlen k.algo) k.hex text = true ↔
      hex_tolower (text.take (algo_hexlen k.algo)) = k.hex := by
  rw [strncaseeq, beq_iff_eq, List.take_of_length_le (le_of_eq k.length_eq)]
  have hlower : k.hex.map tolower = k.hex := tolower_digits
  rw [hlower]
  exact eq_comm

theorem hexlen_le (a : AvAlgo) : algo_hexlen a ≤ AV_HASH_HEX_MAXLEN := by cases a <;> decide

theorem hexlen_pos (a : AvAlgo) : 0 < algo_hexlen a := by cases a <;> decide

end Keys

section Walks

variable {t : Table H} {M : SigMap} {e : SigEntry} {algo : Nat} {text b : Bytes}

private theorem Refines.lookup_eq_some (h : Refines t M) {k : SigKey} {name : Bytes} :
    M.lookup k = some name ↔
      ∃ e, t.sig_table.find? (k.algo, k.hex) = some e ∧ e.name = name := by
  rw [← h.lookup k, Option.map_eq_some_iff]

private theorem key_ext {k k' : SigKey} (ha : k.algo = k'.algo) (hx : k.hex = k'.hex) :
    k = k' := by
  cases k
  cases k'
  simp_all

/-- What a walk over the chain of `b` for the string `text` finds. -/
private theorem walk_eq_some (h : Refines t M) :
    (t.sig_table.chain (textBucket H b)).find? (·.names algo text) = some e ↔
      ∃ k : SigKey, e.key = (k.algo, k.hex) ∧ M.lookup k = some e.name ∧ k.algo.val = algo ∧
        Shadows H k text b := by
  have hfound : ∀ e, e ∈ t.sig_table.chain (textBucket H b) → e.names algo text = true →
      ∃ k : SigKey, e.key = (k.algo, k.hex) ∧ M.lookup k = some e.name ∧ k.algo.val = algo ∧
        Shadows H k text b := by
    intro e hmem hnames
    obtain ⟨hb, hf⟩ := HashTable.mem_chain.mp hmem
    obtain ⟨k, hk⟩ := h.keyed e.key e hf
    obtain ⟨ha, hx⟩ := Prod.mk.inj hk
    obtain ⟨hval, hbegins⟩ := Bool.and_eq_true_iff.mp hnames
    rw [decide_eq_true_eq] at hval
    rw [show e.algo = k.algo from ha] at hval hbegins
    rw [show e.hex = k.hex from hx] at hbegins
    refine ⟨k, hk, ?_, hval, strncaseeq_key.mp hbegins, ?_⟩
    · exact h.lookup_eq_some.mpr ⟨e, by rw [← hk]; exact hf, rfl⟩
    · rw [hb, hk]
      rfl
  constructor
  · intro hfind
    have hnames : e.names algo text = true := by simpa using List.find?_some hfind
    exact hfound e (List.mem_of_find?_eq_some hfind) hnames
  · rintro ⟨k, hk, hlookup, hval, hbegins, hbucket⟩
    obtain ⟨e', hf, -⟩ := h.lookup_eq_some.mp hlookup
    obtain ⟨ha, hx⟩ := Prod.mk.inj hk
    have hkey' : e'.key = (k.algo, k.hex) := HashTable.key_of_find? hf
    have hmem : e' ∈ t.sig_table.chain (textBucket H b) :=
      HashTable.mem_chain.mpr ⟨by rw [hkey', hbucket]; rfl, by rw [hkey']; exact hf⟩
    have hnames : e'.names algo text = true := by
      obtain ⟨ha', hx'⟩ := Prod.mk.inj hkey'
      rw [SigEntry.names, show e'.algo = k.algo from ha', show e'.hex = k.hex from hx']
      simp [hval, strncaseeq_key.mpr hbegins]
    cases hfind : (t.sig_table.chain (textBucket H b)).find? (·.names algo text) with
    | none => exact absurd hnames (List.find?_eq_none.mp hfind e' hmem)
    | some x =>
      have hx : x.names algo text = true := by simpa using List.find?_some hfind
      obtain ⟨k', hk', hlookup', hval', hbegins', -⟩ :=
        hfound x (List.mem_of_find?_eq_some hfind) hx
      -- two digests of one algorithm that begin the same string are the same digest
      have hkk : k' = k := by
        have halgo : k'.algo = k.algo := by
          have hboth := (algos_val k'.algo).symm.trans ((hval'.trans hval.symm) ▸ algos_val k.algo)
          exact Option.some.inj hboth
        exact key_ext halgo (hbegins'.symm.trans (halgo ▸ hbegins))
      subst hkk
      rw [hlookup] at hlookup'
      obtain ⟨ha', hx'⟩ := Prod.mk.inj hk'
      cases e
      cases x
      simp_all

/-- The walks of `av_sigtable_match` make the same comparison. -/
private theorem matchAlgo_eq (t : Table H) (d : AvDigest) (a : AvAlgo) :
    matchAlgo t d a = (t.sig_table.chain (textBucket H (digest_for_algo d a))).find?
      (·.names a.val (digest_for_algo d a)) := by
  unfold matchAlgo
  congr 1
  funext e
  rw [SigEntry.names]
  by_cases ha : e.algo = a
  · simp [ha]
  · have hval : e.algo.val ≠ a.val := by
      intro hv
      exact ha (Option.some.inj ((algos_val e.algo).symm.trans (hv ▸ algos_val a)))
    simp [ha, hval]

/-- The duplicate check of an addition. -/
private theorem duplicate_iff (h : Refines t M) {k : SigKey} :
    (t.sig_table.chain (textBucket H k.hex)).any (·.names k.algo.val k.hex) = true ↔ k ∈ M := by
  rw [Finmap.mem_iff]
  have hself : Shadows H k k.hex k.hex :=
    ⟨by rw [List.take_of_length_le (le_of_eq k.length_eq), tolower_digits], rfl⟩
  constructor
  · intro hany
    have hsome : ((t.sig_table.chain (textBucket H k.hex)).find?
        (·.names k.algo.val k.hex)).isSome = true :=
      List.find?_isSome.mpr (List.any_eq_true.mp hany)
    obtain ⟨e, he⟩ := Option.isSome_iff_exists.mp hsome
    obtain ⟨k', -, hlookup, hval, hbegins, -⟩ := (walk_eq_some h).mp he
    have halgo : k'.algo = k.algo :=
      Option.some.inj ((algos_val k'.algo).symm.trans (hval ▸ algos_val k.algo))
    obtain rfl : k' = k := key_ext halgo (by rw [← hbegins, halgo, hself.1])
    exact ⟨e.name, hlookup⟩
  · rintro ⟨name, hlookup⟩
    have hwalk := (walk_eq_some (e := ⟨k.algo, name, k.hex⟩) h).mpr ⟨k, rfl, hlookup, rfl, hself⟩
    exact List.any_eq_true.mpr ⟨_, List.mem_of_find?_eq_some hwalk, by
      simpa using List.find?_some hwalk⟩

end Walks

section Steps

variable {t : Table H} {M : SigMap}

private theorem card_filter_insert {k : SigKey} (h : k ∉ M) (name : Bytes) (algo : AvAlgo) :
    ((M.insert k name).keys.filter fun k => k.algo = algo).card =
      (M.keys.filter fun k => k.algo = algo).card + if k.algo = algo then 1 else 0 := by
  have hkeys : (M.insert k name).keys = insert k M.keys := by
    ext x
    simp [Finmap.mem_keys, Finmap.mem_insert]
  rw [hkeys, Finset.filter_insert]
  split
  · rw [Finset.card_insert_of_notMem]
    intro hmem
    exact h (Finmap.mem_keys.mp (Finset.mem_filter.mp hmem).1)
  · rfl

private theorem card_insert {k : SigKey} (h : k ∉ M) (name : Bytes) :
    (M.insert k name).keys.card = M.keys.card + 1 := by
  have hkeys : (M.insert k name).keys = insert k M.keys := by
    ext x
    simp [Finmap.mem_keys, Finmap.mem_insert]
  rw [hkeys, Finset.card_insert_of_notMem]
  exact fun hmem => h (Finmap.mem_keys.mp hmem)

private theorem card_filter_erase {k : SigKey} (h : k ∈ M) (algo : AvAlgo) :
    ((M.erase k).keys.filter fun k => k.algo = algo).card =
      (M.keys.filter fun k => k.algo = algo).card - if k.algo = algo then 1 else 0 := by
  rw [Finmap.keys_erase, Finset.filter_erase]
  split
  · rw [Finset.card_erase_of_mem]
    exact Finset.mem_filter.mpr ⟨Finmap.mem_keys.mpr h, by assumption⟩
  · rw [Finset.erase_eq_of_notMem]
    · rfl
    · exact fun hmem => absurd (Finset.mem_filter.mp hmem).2 (by assumption)

private theorem key_inj {k k' : SigKey} (h : (k.algo, k.hex) = (k'.algo, k'.hex)) : k = k' := by
  obtain ⟨ha, hx⟩ := Prod.mk.inj h
  exact key_ext ha hx

/-- The table with a new entry, which is counted. -/
private theorem Refines.insert (h : Refines t M) {k : SigKey} {e : SigEntry}
    (he : e.key = (k.algo, k.hex)) (hk : k ∉ M) (hroom : M.keys.card < MAX_SIG_ENTRIES)
    (hnew : t.sig_table.find? e.key = none) :
    Refines ⟨t.sig_table.add e hnew, t.sig_count + 1,
      Function.update t.sig_count_algo k.algo (t.sig_count_algo k.algo + 1)⟩
      (M.insert k e.name) := by
  refine ⟨?_, ?_, ?_, ?_, ?_⟩
  · intro k'
    dsimp only
    rw [HashTable.find?_add, he]
    by_cases hkk : k' = k
    · subst hkk
      rw [if_pos rfl, Finmap.lookup_insert]
      rfl
    · rw [if_neg (fun hkey => hkk (key_inj hkey)), Finmap.lookup_insert_of_ne _ hkk]
      exact h.lookup k'
  · intro key x hfind
    rw [HashTable.find?_add] at hfind
    split at hfind
    · rename_i hkey
      exact ⟨k, hkey.trans he⟩
    · exact h.keyed key x hfind
  · rw [card_insert hk, ← h.count]
  · rw [card_insert hk]
    exact hroom
  · intro a
    rw [card_filter_insert hk]
    dsimp only
    by_cases ha : a = k.algo
    · subst ha
      rw [Function.update_self, h.count_algo, if_pos rfl]
    · rw [Function.update_of_ne ha, h.count_algo, if_neg (Ne.symm ha)]
      rfl

/-- The table without the entry of a key, which is no longer counted. -/
private theorem Refines.erase (h : Refines t M) {k : SigKey} (hk : k ∈ M) :
    Refines ⟨t.sig_table.del (k.algo, k.hex), t.sig_count - 1,
      Function.update t.sig_count_algo k.algo (t.sig_count_algo k.algo - 1)⟩ (M.erase k) := by
  have hcard : (M.erase k).keys.card = M.keys.card - 1 := by
    rw [Finmap.keys_erase, Finset.card_erase_of_mem (Finmap.mem_keys.mpr hk)]
  refine ⟨?_, ?_, ?_, ?_, ?_⟩
  · intro k'
    dsimp only
    rw [HashTable.find?_del]
    by_cases hkk : k' = k
    · subst hkk
      rw [if_pos rfl, Finmap.lookup_erase]
      rfl
    · rw [if_neg (fun hkey => hkk (key_inj hkey)), Finmap.lookup_erase_ne hkk]
      exact h.lookup k'
  · intro key x hfind
    rw [HashTable.find?_del] at hfind
    split at hfind
    · cases hfind
    · exact h.keyed key x hfind
  · rw [hcard, ← h.count]
  · have hbound := h.bounded
    omega
  · intro a
    rw [card_filter_erase hk]
    dsimp only
    by_cases ha : a = k.algo
    · subst ha
      rw [Function.update_self, h.count_algo, if_pos rfl]
    · rw [Function.update_of_ne ha, h.count_algo, if_neg (Ne.symm ha)]
      rfl

/-- An addition keeps the agreement and answers as the map does. -/
theorem add_refines (h : Refines t M) (algo : Nat) (hex name : Bytes) :
    (av_sigtable_add t true algo hex name).1 = (addSpec M algo hex name).1 ∧
      Refines (av_sigtable_add t true algo hex name).2 (addSpec M algo hex name).2 := by
  unfold av_sigtable_add addSpec
  cases hnone : sigKey? algo (hex_tolower hex) with
  | none =>
    have hbad := sigKey?_lower_eq_none.mp hnone
    cases ha : algos[algo]? with
    | none => exact ⟨rfl, h⟩
    | some a =>
      dsimp only
      rcases hbad a ha with hlen | hdigits
      · rw [if_pos hlen]
        exact ⟨rfl, h⟩
      · split
        · exact ⟨rfl, h⟩
        · rw [if_pos (by simp [hdigits])]
          exact ⟨rfl, h⟩
  | some k =>
    obtain ⟨hval, hhex⟩ := sigKey?_eq_some.mp hnone
    have ha : algos[algo]? = some k.algo := hval ▸ algos_val k.algo
    have hlen : hex.length = algo_hexlen k.algo := by
      rw [← k.length_eq, hhex, hex_tolower_length]
    have hdigits : hex.all isxdigit = true := by
      rw [← all_lower, ← hhex]
      exact k.digits
    have htake : strscpy (AV_HASH_HEX_MAXLEN + 1) hex = hex := by
      have hle := hexlen_le k.algo
      exact strscpy_eq_self (by omega)
    rw [ha]
    dsimp only
    rw [if_neg (not_not.mpr hlen), if_neg (by simp [hdigits]), if_neg (by simp)]
    simp only [htake, ← hhex]
    by_cases hk : k ∈ M
    · rw [dif_neg (by rw [(duplicate_iff h).mpr hk]; simp), if_pos hk]
      exact ⟨rfl, h⟩
    · have hnew : (t.sig_table.chain (textBucket H k.hex)).any
          (·.names k.algo.val k.hex) = false := by
        rw [← Bool.not_eq_true]
        exact fun hany => hk ((duplicate_iff h).mp hany)
      have hcount := h.count
      have hbound := h.bounded
      rw [dif_pos hnew, if_neg hk]
      by_cases hfull : M.keys.card = MAX_SIG_ENTRIES
      · rw [if_pos (by omega), if_pos hfull]
        exact ⟨rfl, h⟩
      · rw [if_neg (by omega), if_neg hfull]
        exact ⟨rfl, h.insert rfl hk (by omega) _⟩

/-- A string that is a digest of the map, up to letter case, lies in the bucket of that digest. -/
private theorem shadows_of_key {k : SigKey} {hex : Bytes} (hhex : k.hex = hex_tolower hex) :
    Shadows H k hex (hex_tolower (strscpy (AV_HASH_HEX_MAXLEN + 1) hex)) := by
  have hlen : hex.length = algo_hexlen k.algo := by
    rw [← k.length_eq, hhex, hex_tolower_length]
  have hle := hexlen_le k.algo
  have htake : strscpy (AV_HASH_HEX_MAXLEN + 1) hex = hex := strscpy_eq_self (by omega)
  constructor
  · rw [List.take_of_length_le (le_of_eq hlen), ← hhex]
  · rw [htake, ← hhex]

/-- Conversely, a string that is not longer than the digest it begins with is that digest. -/
private theorem key_of_shadows {k : SigKey} {hex : Bytes}
    (hbegins : hex_tolower (hex.take (algo_hexlen k.algo)) = k.hex)
    (hlen : hex.length ≤ algo_hexlen k.algo) : k.hex = hex_tolower hex := by
  rw [← hbegins, List.take_of_length_le hlen]

/-- What a deletion does: it unlinks the digest that the string begins with, if the bucket is the
same, and otherwise nothing. -/
theorem del_cases (h : Refines t M) (algo : Nat) (hex : Bytes) :
    (∃ k ∈ M, k.algo.val = algo ∧
      Shadows H k hex (hex_tolower (strscpy (AV_HASH_HEX_MAXLEN + 1) hex)) ∧
      (av_sigtable_del t algo hex).1 = 0 ∧
      Refines (av_sigtable_del t algo hex).2 (M.erase k)) ∨
    (∀ k ∈ M, k.algo.val = algo →
      ¬ Shadows H k hex (hex_tolower (strscpy (AV_HASH_HEX_MAXLEN + 1) hex))) ∧
      av_sigtable_del t algo hex = (-ENOENT, t) := by
  unfold av_sigtable_del
  dsimp only
  split
  · rename_i hnone
    right
    refine ⟨?_, rfl⟩
    intro k hk hval hshadow
    obtain ⟨name, hname⟩ := Finmap.mem_iff.mp hk
    have hsome := (walk_eq_some (e := ⟨k.algo, name, k.hex⟩) h).mpr ⟨k, rfl, hname, hval, hshadow⟩
    rw [hsome] at hnone
    cases hnone
  · rename_i e he
    obtain ⟨k, hkey, hname, hval, hshadow⟩ := (walk_eq_some h).mp he
    have hk : k ∈ M := Finmap.mem_iff.mpr ⟨_, hname⟩
    left
    refine ⟨k, hk, hval, hshadow, rfl, ?_⟩
    have halgo : e.algo = k.algo := (Prod.mk.inj hkey).1
    rw [hkey, halgo]
    exact h.erase hk

private theorem delSpec_of_key {algo : Nat} {hex : Bytes} {k : SigKey} (hk : k ∈ M)
    (hval : k.algo.val = algo) (hhex : k.hex = hex_tolower hex) :
    delSpec M algo hex = (0, M.erase k) := by
  unfold delSpec
  rw [sigKey?_eq_some.mpr ⟨hval, hhex⟩]
  exact if_pos hk

private theorem delSpec_of_no_key {algo : Nat} {hex : Bytes}
    (h : ∀ k ∈ M, k.algo.val = algo → k.hex ≠ hex_tolower hex) :
    delSpec M algo hex = (-ENOENT, M) := by
  unfold delSpec
  split
  · rfl
  · rename_i k hk
    obtain ⟨hval, hhex⟩ := sigKey?_eq_some.mp hk
    exact if_neg fun hmem => h k hmem hval hhex

theorem del_refines (h : Refines t M) (algo : Nat) (hex : Bytes)
    (hm : ¬ Misses H M (.del algo hex)) :
    (av_sigtable_del t algo hex).1 = (delSpec M algo hex).1 ∧
      Refines (av_sigtable_del t algo hex).2 (delSpec M algo hex).2 := by
  rcases del_cases h algo hex with ⟨k, hk, hval, hshadow, hret, hnext⟩ | ⟨hnone, heq⟩
  · have hlen : hex.length ≤ algo_hexlen k.algo := by
      by_contra hlong
      exact hm ⟨k, hk, hval, not_le.mp hlong, hshadow⟩
    rw [delSpec_of_key hk hval (key_of_shadows hshadow.1 hlen)]
    exact ⟨hret, hnext⟩
  · rw [heq, delSpec_of_no_key fun k hk hval hhex => hnone k hk hval (shadows_of_key hhex)]
    exact ⟨rfl, h⟩

theorem del_differs (h : Refines t M) (algo : Nat) (hex : Bytes)
    (hm : Misses H M (.del algo hex)) :
    (av_sigtable_del t algo hex).1 ≠ (delSpec M algo hex).1 := by
  obtain ⟨k, hk, hval, hlong, hshadow⟩ := hm
  rcases del_cases h algo hex with ⟨k', -, -, -, hret, -⟩ | ⟨hnone, -⟩
  · rw [hret, delSpec_of_no_key]
    · show (0 : Int) ≠ -ENOENT
      decide
    · intro x hx hxval hxhex
      have halgo : x.algo = k.algo :=
        Option.some.inj ((algos_val x.algo).symm.trans (hxval.trans hval.symm ▸ algos_val k.algo))
      have hlen := x.length_eq
      rw [hxhex, hex_tolower_length, halgo] at hlen
      omega
  · exact absurd hshadow (hnone k hk hval)

end Steps

section Matches

variable {t : Table H} {M : SigMap}

/-- Of two searches, of which the first finds whatever the second finds, the results agree unless
the first finds something too early. -/
private theorem findSome?_eq_iff {β : Type} {f g : AvAlgo → Option β} (key : β → AvAlgo)
    (hsub : ∀ a x, g a = some x → f a = some x) (hkey : ∀ a x, f a = some x → key x = a)
    {l : List AvAlgo} (hl : l.Pairwise fun a b => a.val < b.val) :
    l.findSome? f = l.findSome? g ↔
      ∀ a ∈ l, (∀ a' ∈ l, a'.val < a.val → g a' = none) → g a = none → f a = none := by
  induction l with
  | nil => simp
  | cons a l ih =>
    obtain ⟨hlt, hl⟩ := List.pairwise_cons.mp hl
    rw [List.findSome?_cons, List.findSome?_cons]
    cases hg : g a with
    | some x =>
      rw [hsub a x hg]
      refine ⟨fun _ b hb hbefore hnone => ?_, fun _ => rfl⟩
      rcases List.mem_cons.mp hb with rfl | hb
      · rw [hg] at hnone
        cases hnone
      · have hfirst := hbefore a List.mem_cons_self (hlt b hb)
        rw [hg] at hfirst
        cases hfirst
    | none =>
      cases hf : f a with
      | some x =>
        constructor
        · intro heq
          obtain ⟨b, hb, hgb⟩ := List.exists_of_findSome?_eq_some heq.symm
          have hab : a = b := (hkey a x hf).symm.trans (hkey b x (hsub b x hgb))
          exact absurd (hab ▸ hlt b hb) (lt_irrefl _)
        · intro hall
          have hnone := hall a List.mem_cons_self (fun b hb hba => ?_) hg
          · rw [hf] at hnone
            cases hnone
          · rcases List.mem_cons.mp hb with rfl | hb
            · exact hg
            · exact absurd (hlt b hb) (by omega)
      | none =>
        rw [ih hl]
        constructor
        · intro hall b hb hbefore hnone
          rcases List.mem_cons.mp hb with rfl | hb
          · exact hf
          · exact hall b hb (fun c hc => hbefore c (List.mem_cons_of_mem a hc)) hnone
        · intro hall b hb hbefore hnone
          refine hall b (List.mem_cons_of_mem a hb) (fun c hc hcb => ?_) hnone
          rcases List.mem_cons.mp hc with rfl | hc
          · exact hg
          · exact hbefore c hc hcb

private def foundOf (e : SigEntry) : AvAlgo × Bytes × Bytes := (e.algo, e.hex, e.name)

private def boundOf (kn : SigKey × Bytes) : AvAlgo × Bytes × Bytes := (kn.1.algo, kn.1.hex, kn.2)

private theorem boundTo_eq_some {d : AvDigest} {algo : AvAlgo} {k : SigKey} {name : Bytes} :
    boundTo M d algo = some (k, name) ↔
      k.algo = algo ∧ k.hex = digest_for_algo d algo ∧ M.lookup k = some name := by
  unfold boundTo
  rw [Option.bind_eq_some_iff]
  constructor
  · rintro ⟨k', hk', hname⟩
    obtain ⟨n, hn, hpair⟩ := Option.map_eq_some_iff.mp hname
    obtain ⟨rfl, rfl⟩ := Prod.mk.inj hpair
    obtain ⟨hval, hhex⟩ := sigKey?_eq_some.mp hk'
    exact ⟨Option.some.inj ((algos_val k'.algo).symm.trans (hval ▸ algos_val algo)), hhex, hn⟩
  · rintro ⟨rfl, hhex, hname⟩
    exact ⟨k, sigKey?_eq_some.mpr ⟨rfl, hhex⟩, by rw [hname]; rfl⟩

/-- What the walk of one algorithm finds. -/
private theorem found_eq_some (h : Refines t M) {d : AvDigest} {algo : AvAlgo}
    {sig : AvAlgo × Bytes × Bytes} :
    (matchAlgo t d algo).map foundOf = some sig ↔
      ∃ k : SigKey, k.algo = algo ∧ sig.1 = algo ∧ sig.2.1 = k.hex ∧ M.lookup k = some sig.2.2 ∧
        Shadows H k (digest_for_algo d algo) (digest_for_algo d algo) := by
  rw [Option.map_eq_some_iff, matchAlgo_eq]
  constructor
  · rintro ⟨e, he, rfl⟩
    obtain ⟨k, hkey, hname, hval, hshadow⟩ := (walk_eq_some h).mp he
    obtain ⟨ha, hx⟩ := Prod.mk.inj hkey
    have halgo : k.algo = algo :=
      Option.some.inj ((algos_val k.algo).symm.trans (hval ▸ algos_val algo))
    exact ⟨k, halgo, ha.trans halgo, hx, hname, hshadow⟩
  · rintro ⟨k, rfl, halgo, hhex, hname, hshadow⟩
    refine ⟨⟨k.algo, sig.2.2, k.hex⟩, ?_, ?_⟩
    · exact (walk_eq_some h).mpr ⟨k, rfl, hname, rfl, hshadow⟩
    · rw [foundOf, ← hhex, ← halgo]

/-- A match finds the entry that the map has for the lowest algorithm, unless it misses. -/
theorem find_agrees_iff (h : Refines t M) (d : AvDigest) (name_out_len : Nat) :
    (matchEntry t d).map foundOf = (matchSpec M d).map boundOf ↔
      ¬ Misses H M (.find d name_out_len) := by
  rw [matchEntry, matchSpec, List.map_findSome?, List.map_findSome?,
    findSome?_eq_iff (f := Option.map foundOf ∘ matchAlgo t d)
      (g := Option.map boundOf ∘ boundTo M d) Prod.fst ?_ ?_ (by decide)]
  · constructor
    · rintro hall ⟨k, hk, hne, hshadow, hbefore⟩
      obtain ⟨name, hname⟩ := Finmap.mem_iff.mp hk
      have hfound : (matchAlgo t d k.algo).map foundOf = some (k.algo, k.hex, name) :=
        (found_eq_some h).mpr ⟨k, rfl, rfl, rfl, hname, hshadow⟩
      have hunbound : (boundTo M d k.algo).map boundOf = none := by
        rw [Option.map_eq_none_iff, Option.eq_none_iff_forall_ne_some]
        rintro ⟨x, n⟩ hx
        obtain ⟨halgo, hhex, -⟩ := boundTo_eq_some.mp hx
        -- the digest itself would be `k`, which begins it
        apply hne
        have hlen : (digest_for_algo d k.algo).length ≤ algo_hexlen k.algo := by
          rw [← hhex, x.length_eq, halgo]
        have hkhex := key_of_shadows hshadow.1 hlen
        rw [hkhex, ← hhex, tolower_digits]
      have hnone := hall k.algo (by cases k.algo <;> decide)
        (fun a _ ha => by simp [hbefore a ha]) hunbound
      rw [Function.comp_apply, hfound] at hnone
      cases hnone
    · intro hm a _ hbefore hunbound
      rw [Function.comp_apply, Option.eq_none_iff_forall_ne_some]
      intro sig hsig
      obtain ⟨k, rfl, -, -, hname, hshadow⟩ := (found_eq_some h).mp hsig
      refine hm ⟨k, Finmap.mem_iff.mpr ⟨_, hname⟩, ?_, hshadow, ?_⟩
      · intro hhex
        have hbound : boundTo M d k.algo = some (k, sig.2.2) :=
          boundTo_eq_some.mpr ⟨rfl, hhex.symm, hname⟩
        rw [Function.comp_apply, hbound] at hunbound
        cases hunbound
      · intro a ha
        exact Option.map_eq_none_iff.mp (hbefore a (by cases a <;> decide) ha)
  · intro a sig hsig
    obtain ⟨⟨k, name⟩, hk, rfl⟩ := Option.map_eq_some_iff.mp hsig
    obtain ⟨rfl, hhex, hname⟩ := boundTo_eq_some.mp hk
    refine (found_eq_some h).mpr ⟨k, rfl, rfl, rfl, hname, ?_, ?_⟩
    · rw [← hhex, List.take_of_length_le (le_of_eq k.length_eq), tolower_digits]
    · rw [← hhex]
  · intro a sig hsig
    obtain ⟨k, -, ha, -⟩ := (found_eq_some h).mp hsig
    exact ha

end Matches

/-- One call: unless it misses, table and map answer alike and agree afterwards. -/
theorem call_refines {t : Table H} {M : SigMap} (h : Refines t M) (c : Call)
    (hm : ¬ Misses H M c) :
    (c.onTable t).1 = (c.onMap M).1 ∧ Refines (c.onTable t).2 (c.onMap M).2 := by
  cases c with
  | add algo hex name =>
    obtain ⟨hret, hnext⟩ := add_refines h algo hex name
    exact ⟨congrArg Answer.code hret, hnext⟩
  | del algo hex =>
    obtain ⟨hret, hnext⟩ := del_refines h algo hex hm
    exact ⟨congrArg Answer.code hret, hnext⟩
  | find d name_out_len =>
    have hsig := (find_agrees_iff h d name_out_len).mpr hm
    have hname : av_sigtable_match t d name_out_len =
        (matchSpec M d).map fun kn => strscpy name_out_len kn.2 := by
      have hcopy := congrArg (Option.map fun sig => strscpy name_out_len sig.2.2) hsig
      rw [Option.map_map, Option.map_map] at hcopy
      exact hcopy
    exact ⟨congrArg₂ Answer.found hname hsig, h⟩

theorem call_differs {t : Table H} {M : SigMap} (h : Refines t M) (c : Call)
    (hm : Misses H M c) : (c.onTable t).1 ≠ (c.onMap M).1 := by
  cases c with
  | add algo hex name => exact absurd hm id
  | del algo hex =>
    intro heq
    exact del_differs h algo hex hm (Answer.code.inj heq)
  | find d name_out_len =>
    intro heq
    exact (find_agrees_iff h d name_out_len).mp (Answer.found.inj heq).2 hm

/-- Some finite map is refined by the table, so its counters are exact. -/
def Counted (t : Table H) : Prop := ∃ M, Refines t M

private theorem add_failed_alloc (t : Table H) (algo : Nat) (hex name : Bytes) :
    (av_sigtable_add t false algo hex name).2 = t := by
  unfold av_sigtable_add
  cases algos[algo]? with
  | none => rfl
  | some a =>
    dsimp only
    split
    · rfl
    · split
      · rfl
      · rfl

theorem add_counted {t : Table H} (h : Counted t) (ok : Bool) (algo : Nat) (hex name : Bytes) :
    Counted (av_sigtable_add t ok algo hex name).2 := by
  obtain ⟨M, hM⟩ := h
  cases ok with
  | true => exact ⟨_, (add_refines hM algo hex name).2⟩
  | false =>
    refine ⟨M, ?_⟩
    rw [add_failed_alloc]
    exact hM

/-- Also a deletion that hits a digest by its beginning keeps the counters exact. -/
theorem del_counted {t : Table H} (h : Counted t) (algo : Nat) (hex : Bytes) :
    Counted (av_sigtable_del t algo hex).2 := by
  obtain ⟨M, hM⟩ := h
  rcases del_cases hM algo hex with ⟨k, -, -, -, -, hnext⟩ | ⟨-, heq⟩
  · exact ⟨_, hnext⟩
  · refine ⟨M, ?_⟩
    rw [heq]
    exact hM

/-- The digest text of an entry is a full one of its algorithm, in lower case. -/
theorem Counted.entry {t : Table H} (h : Counted t) {key : AvAlgo × Bytes} {e : SigEntry}
    (he : t.sig_table.find? key = some e) :
    e.hex.length = algo_hexlen e.algo ∧ e.hex.all isLowerHex = true := by
  obtain ⟨M, hM⟩ := h
  obtain ⟨k, hk⟩ := hM.keyed key e he
  obtain ⟨ha, hx⟩ := Prod.mk.inj ((HashTable.key_of_find? he).trans hk)
  rw [show e.algo = k.algo from ha, show e.hex = k.hex from hx]
  exact ⟨k.length_eq, k.digits⟩

private theorem Refines.entries_length {t : Table H} {M : SigMap} (h : Refines t M) :
    t.sig_table.entries.length = M.keys.card := by
  have hinj : Function.Injective fun k : SigKey => (k.algo, k.hex) := fun _ _ => key_inj
  have hkeys : M.keys.image (fun k => (k.algo, k.hex)) =
      (t.sig_table.entries.map SigEntry.key).toFinset := by
    ext key
    simp only [Finset.mem_image, Finmap.mem_keys, List.mem_toFinset, List.mem_map]
    constructor
    · rintro ⟨k, hk, rfl⟩
      obtain ⟨name, hname⟩ := Finmap.mem_iff.mp hk
      obtain ⟨e, he, -⟩ := h.lookup_eq_some.mp hname
      have hkey := HashTable.key_of_find? he
      exact ⟨e, HashTable.mem_entries.mpr (hkey ▸ he), hkey⟩
    · rintro ⟨e, he, rfl⟩
      have hfind := HashTable.mem_entries.mp he
      obtain ⟨k, hk⟩ := h.keyed _ e hfind
      refine ⟨k, Finmap.mem_iff.mpr ⟨e.name, ?_⟩, hk.symm⟩
      exact h.lookup_eq_some.mpr ⟨e, hk ▸ hfind, rfl⟩
  rw [← Finset.card_image_of_injective M.keys hinj, hkeys,
    List.toFinset_card_of_nodup t.sig_table.keys_nodup, List.length_map]

/-- The count is that of the entries, and within the limit. -/
theorem Counted.length_entries {t : Table H} (h : Counted t) :
    t.sig_count = t.sig_table.entries.length ∧
      t.sig_table.entries.length ≤ MAX_SIG_ENTRIES := by
  obtain ⟨M, hM⟩ := h
  rw [hM.entries_length, hM.count]
  exact ⟨rfl, hM.bounded⟩

/-- An addition of a whole digest: it was there, or there is no room, or it is added. -/
theorem Counted.add_cases {t : Table H} (h : Counted t) {e : SigEntry}
    (hlen : e.hex.length = algo_hexlen e.algo) (hdigits : e.hex.all isLowerHex = true)
    (hname : e.name.length < AV_SIG_NAME_LEN) :
    ((av_sigtable_add t true e.algo.val e.hex e.name).1 = 0 ∧ t.sig_table.find? e.key = none ∧
      ∀ k, (av_sigtable_add t true e.algo.val e.hex e.name).2.sig_table.find? k =
        if k = e.key then some e else t.sig_table.find? k) ∨
    ((av_sigtable_add t true e.algo.val e.hex e.name).1 = -EEXIST ∧
      (t.sig_table.find? e.key).isSome = true ∧
      (av_sigtable_add t true e.algo.val e.hex e.name).2 = t) ∨
    ((av_sigtable_add t true e.algo.val e.hex e.name).1 = -ENOSPC ∧
      t.sig_table.find? e.key = none ∧ t.sig_table.entries.length = MAX_SIG_ENTRIES ∧
      (av_sigtable_add t true e.algo.val e.hex e.name).2 = t) := by
  obtain ⟨M, hM⟩ := h
  set k : SigKey := ⟨e.algo, e.hex, hlen, hdigits⟩ with hk
  have hlower : hex_tolower e.hex = e.hex := tolower_digits (k := k)
  have hkey? : sigKey? e.algo.val (hex_tolower e.hex) = some k := by
    rw [hlower]
    exact sigKey?_eq_some.mpr ⟨rfl, rfl⟩
  have hmem : k ∈ M ↔ (t.sig_table.find? e.key).isSome = true := by
    have hlookup : (t.sig_table.find? e.key).map SigEntry.name = M.lookup k := hM.lookup k
    rw [← Finmap.lookup_isSome, ← hlookup, Option.isSome_map]
  obtain ⟨hret, -⟩ := add_refines hM e.algo.val e.hex e.name
  rw [addSpec, hkey?] at hret
  dsimp only at hret
  have hfailed : (av_sigtable_add t true e.algo.val e.hex e.name).1 < 0 →
      (av_sigtable_add t true e.algo.val e.hex e.name).2 = t := by
    intro hneg
    rcases add_result t true e.algo.val e.hex e.name with ⟨hzero, -⟩ | ⟨-, hsame⟩
    · exact absurd hzero hneg.ne
    · exact hsame
  by_cases hin : k ∈ M
  · rw [if_pos hin] at hret
    exact .inr (.inl ⟨hret, hmem.mp hin, hfailed (hret.trans_lt (show -EEXIST < 0 by decide))⟩)
  · have hnone : t.sig_table.find? e.key = none := by
      rw [← Option.not_isSome_iff_eq_none, ← hmem]
      exact hin
    rw [if_neg hin] at hret
    by_cases hfull : M.keys.card = MAX_SIG_ENTRIES
    · rw [if_pos hfull] at hret
      refine .inr (.inr ⟨hret, hnone, ?_, hfailed (hret.trans_lt (show -ENOSPC < 0 by decide))⟩)
      rw [hM.entries_length, hfull]
    · rw [if_neg hfull] at hret
      obtain ⟨x, hval, hhex, hxname, -, -, -, hfind⟩ := add_ok hret
      have hx : x = e := by
        obtain ⟨algo, name, hex⟩ := x
        have halgo : algo = e.algo :=
          Option.some.inj ((algos_val algo).symm.trans (hval ▸ algos_val e.algo))
        have hsame : name = e.name := hxname.trans (strscpy_eq_self hname)
        rw [halgo, hsame, show hex = e.hex from hhex.trans hlower]
      refine .inl ⟨hret, hnone, ?_⟩
      rwa [hx] at hfind

theorem refines_empty (H : KernelHash) : Refines (Table.empty : Table H) ∅ where
  lookup := fun _ => rfl
  keyed := fun key e h => by cases h
  count := rfl
  bounded := Nat.zero_le _
  count_algo := fun _ => rfl

theorem behaves_iff {t : Table H} {M : SigMap} (h : Refines t M) (calls : List Call) :
    Behaves t M calls ↔ Unambiguous H M calls := by
  induction calls generalizing t M with
  | nil => exact iff_of_true h trivial
  | cons c cs ih =>
    constructor
    · rintro ⟨-, heq, hrest⟩
      have hm : ¬ Misses H M c := fun hm => call_differs h c hm heq
      exact ⟨hm, (ih (call_refines h c hm).2).mp hrest⟩
    · rintro ⟨hm, hrest⟩
      obtain ⟨heq, hnext⟩ := call_refines h c hm
      exact ⟨h, heq, (ih hnext).mpr hrest⟩

/-- From the empty table on, the table is the map exactly when no call is ambiguous. -/
theorem sigtable_refines_map_iff (H : KernelHash) (calls : List Call) :
    Behaves (Table.empty : Table H) ∅ calls ↔ Unambiguous H ∅ calls :=
  behaves_iff (refines_empty H) calls

/-- With one bucket for all strings, a deletion by 33 digits removes the MD5 signature that they
begin with. -/
theorem overlong_deletion_removes :
    ¬ ∀ (H : KernelHash) (calls : List Call), Behaves (Table.empty : Table H) ∅ calls := by
  intro hall
  have hrun := hall ⟨fun _ => 0, fun _ _ => ⟨0, by positivity⟩⟩
    [.add 0 (List.replicate 32 48) (lit "x"), .del 0 (List.replicate 33 48)]
  obtain ⟨-, -, -, hdel, -⟩ := hrun
  exact absurd hdel (by decide +kernel)

end KernelAv.Kernel.SigTableRefinement
