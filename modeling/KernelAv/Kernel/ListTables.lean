/- digest: The trusted hashes and the protected paths as sets, along every history of calls. -/

import KernelAv.Kernel.ProtectTable
import KernelAv.Lib.SetLogs

set_option autoImplicit false
set_option relaxedAutoImplicit false

namespace KernelAv.Kernel.ListTables

open KernelAv.Lib.CText
open KernelAv.Lib.Chains
open KernelAv.Lib.SetLogs
open KernelAv.Kernel.Paths (slash PATH_MAX)
open KernelAv.Kernel.BehaviorTable (KernelHash)
open KernelAv.Kernel.TrustTable (SHA256_HEX_LEN TRUST_NAME_LEN TrustEntry EINVAL ENOENT EEXIST
  hex_tolower trustBucket hash_is_trusted hash_is_trusted_iff av_behavior_trust_add
  av_behavior_trust_del)
open KernelAv.Kernel.ProtectTable

/-- A call on one of the two tables; its allocation succeeds. -/
inductive Call where
  | trust_add (sha256_hex name : Bytes)
  | trust_del (sha256_hex : Bytes)
  | hash_is_trusted (sha256_hex : Bytes)
  | protect_add (path : Bytes)
  | protect_del (path : Bytes)
  | path_is_on_protected_list (path : Bytes)
  deriving DecidableEq

structure Lists (H : KernelHash) where
  trust_table : TrustTable.Table H
  protected_table : ProtectTable.Table H

def Lists.boot (H : KernelHash) : Lists H := ⟨HashTable.empty, HashTable.empty⟩

variable {H : KernelHash}

/-- What a call returns, a lookup 1 or 0, and what it leaves. -/
def Call.onLists (s : Lists H) : Call → Int × Lists H
  | .trust_add sha256_hex name =>
      let (ret, t) := av_behavior_trust_add s.trust_table true sha256_hex name
      (ret, { s with trust_table := t })
  | .trust_del sha256_hex =>
      let (ret, t) := av_behavior_trust_del s.trust_table sha256_hex
      (ret, { s with trust_table := t })
  | .hash_is_trusted sha256_hex =>
      (if TrustTable.hash_is_trusted s.trust_table sha256_hex then 1 else 0, s)
  | .protect_add path =>
      let (ret, t) := av_behavior_protect_add s.protected_table true path
      (ret, { s with protected_table := t })
  | .protect_del path =>
      let (ret, t) := av_behavior_protect_del s.protected_table path
      (ret, { s with protected_table := t })
  | .path_is_on_protected_list path => (if onList s.protected_table path then 1 else 0, s)

/-- The tables after some calls. -/
def runCalls (s : Lists H) (calls : List Call) : Lists H :=
  calls.foldl (fun s c => (c.onLists s).2) s

/-- The calls with what they returned. -/
def results (s : Lists H) : List Call → List (Call × Int)
  | [] => []
  | c :: calls => (c, (c.onLists s).1) :: results (c.onLists s).2 calls

/-- The hash that a successful call has added or deleted, in lower case. -/
def trustChange : Call × Int → Option (Change Bytes)
  | (.trust_add sha256_hex _, ret) =>
      if ret = 0 then some ⟨hex_tolower sha256_hex, true⟩ else none
  | (.trust_del sha256_hex, ret) =>
      if ret = 0 then some ⟨hex_tolower sha256_hex, false⟩ else none
  | _ => none

/-- The path that a successful call has added or deleted. -/
def protectChange : Call × Int → Option (Change Bytes)
  | (.protect_add path, ret) => if ret = 0 then some ⟨path, true⟩ else none
  | (.protect_del path, ret) => if ret = 0 then some ⟨path, false⟩ else none
  | _ => none

section Trusted

variable {t : TrustTable.Table H} {hex name k : Bytes}

/-- A key of the table: 64 bytes in lower case. -/
structure Canonical (k : Bytes) : Prop where
  length_eq : k.length = SHA256_HEX_LEN
  lower : hex_tolower k = k

def AllCanonical (t : TrustTable.Table H) : Prop := ∀ k e, t.find? k = some e → Canonical k

private theorem hex_tolower_idem (hex : Bytes) :
    hex_tolower (hex_tolower hex) = hex_tolower hex := by
  rw [hex_tolower, hex_tolower, List.map_map]
  exact List.map_congr_left fun b _ => tolower_tolower b

private theorem canonical_lower (h : hex.length = SHA256_HEX_LEN) : Canonical (hex_tolower hex) :=
  ⟨(List.length_map _).trans h, hex_tolower_idem hex⟩

/-- Between canonical keys the comparison of the walks is equality. -/
private theorem names_iff {e : TrustEntry} (he : Canonical e.sha256_hex) (hk : Canonical k) :
    e.names k = true ↔ e.sha256_hex = k := by
  have hlower := hk.lower
  have hlower' := he.lower
  rw [hex_tolower] at hlower hlower'
  rw [TrustEntry.names, strncaseeq, beq_iff_eq,
    List.take_of_length_le (Nat.le_of_eq he.length_eq),
    List.take_of_length_le (Nat.le_of_eq hk.length_eq), hlower, hlower']

theorem trusted_iff (ht : AllCanonical t) (hk : Canonical k) :
    hash_is_trusted t k = true ↔ (t.find? k).isSome = true := by
  rw [hash_is_trusted_iff, Option.isSome_iff_exists]
  constructor
  · rintro ⟨e, hfind, -, hnames⟩
    obtain rfl := (names_iff (ht _ _ hfind) hk).mp hnames
    exact ⟨e, hfind⟩
  · rintro ⟨e, hfind⟩
    obtain rfl := HashTable.key_of_find? hfind
    exact ⟨e, hfind, rfl, (names_iff hk hk).mpr rfl⟩

private theorem copied (h : hex.length = SHA256_HEX_LEN) :
    strscpy (SHA256_HEX_LEN + 1) hex = hex := strscpy_eq_self (by omega)

/-- An addition: the hash was absent and is added, or it was there, or the string is no hash. -/
theorem trust_add_cases (ht : AllCanonical t) (hex name : Bytes) :
    ((av_behavior_trust_add t true hex name).1 = 0 ∧ hex.length = SHA256_HEX_LEN ∧
      t.find? (hex_tolower hex) = none ∧
      ∃ e : TrustEntry, e.sha256_hex = hex_tolower hex ∧ ∀ k,
        (av_behavior_trust_add t true hex name).2.find? k =
          if k = hex_tolower hex then some e else t.find? k) ∨
    ((av_behavior_trust_add t true hex name).1 = -EEXIST ∧ (t.find? (hex_tolower hex)).isSome ∧
      (av_behavior_trust_add t true hex name).2 = t) ∨
    ((av_behavior_trust_add t true hex name).1 = -EINVAL ∧ hex.length ≠ SHA256_HEX_LEN ∧
      (av_behavior_trust_add t true hex name).2 = t) := by
  by_cases hlen : hex.length = SHA256_HEX_LEN
  · unfold av_behavior_trust_add
    rw [if_neg (not_not.mpr hlen), if_neg (by decide)]
    simp only [copied hlen]
    have htrusted := trusted_iff ht (canonical_lower hlen)
    split
    · rename_i hnew
      have habsent : t.find? (hex_tolower hex) = none := by
        rw [← Option.not_isSome_iff_eq_none, ← htrusted, hnew]
        exact Bool.false_ne_true
      exact .inl ⟨rfl, hlen, habsent, _, rfl, fun k => HashTable.find?_add (h := habsent)⟩
    · rename_i hold
      exact .inr (.inl ⟨rfl, htrusted.mp (by simpa using hold), rfl⟩)
  · refine .inr (.inr ?_)
    rw [av_behavior_trust_add, if_pos hlen]
    exact ⟨rfl, hlen, rfl⟩

/-- A deletion: the hash was there and is gone, or the table is as it was. -/
theorem trust_del_cases (ht : AllCanonical t) (hex : Bytes) :
    ((av_behavior_trust_del t hex).1 = 0 ∧ (t.find? (hex_tolower hex)).isSome ∧
      ∀ k, (av_behavior_trust_del t hex).2.find? k =
        if k = hex_tolower hex then none else t.find? k) ∨
    (av_behavior_trust_del t hex).1 ≠ 0 ∧ t.find? (hex_tolower hex) = none ∧
      (av_behavior_trust_del t hex).2 = t := by
  by_cases hlen : hex.length = SHA256_HEX_LEN
  · have hcanonical := canonical_lower hlen
    have htrusted := trusted_iff ht hcanonical
    unfold av_behavior_trust_del
    rw [if_neg (not_not.mpr hlen)]
    simp only [copied hlen]
    split
    · rename_i hfound
      refine .inl ⟨rfl, htrusted.mp hfound, fun k => ?_⟩
      rw [HashTable.find?_sweep]
      cases hk : t.find? k with
      | none =>
        rw [Option.bind_none]
        split <;> rfl
      | some e =>
        obtain rfl := HashTable.key_of_find? hk
        have hsame := names_iff (ht _ _ hk) hcanonical
        rw [Option.bind_some]
        by_cases hkey : e.sha256_hex = hex_tolower hex
        · rw [if_pos ⟨congrArg (trustBucket H) hkey, hsame.mpr hkey⟩, if_pos hkey]
        · rw [if_neg fun h => hkey (hsame.mp h.2), if_neg hkey]
    · rename_i hfound
      refine .inr ⟨show -ENOENT ≠ 0 by decide, ?_, rfl⟩
      rw [← Option.not_isSome_iff_eq_none, ← htrusted]
      exact hfound
  · rw [av_behavior_trust_del, if_pos hlen]
    refine .inr ⟨show -EINVAL ≠ 0 by decide, ?_, rfl⟩
    rw [Option.eq_none_iff_forall_ne_some]
    intro e hfind
    have hcanonical := (ht _ _ hfind).length_eq
    rw [hex_tolower, List.length_map] at hcanonical
    exact hlen hcanonical

end Trusted

section Listed

variable {t : ProtectTable.Table H} {path : Bytes}

/-- A path that the table takes. -/
def Absolute (path : Bytes) : Prop := path.head? = some slash ∧ path.length < PATH_MAX

def AllAbsolute (t : ProtectTable.Table H) : Prop := ∀ p, (t.find? p).isSome = true → Absolute p

theorem onList_isSome : onList t path = true ↔ (t.find? path).isSome = true := by
  rw [onList_iff, Option.isSome_iff_exists]
  refine ⟨fun h => ⟨path, h⟩, ?_⟩
  rintro ⟨q, hq⟩
  rwa [HashTable.key_of_find? hq] at hq

/-- An addition: the path was absent and is added, or it was there, or it is not one to add. -/
theorem protect_add_cases (t : ProtectTable.Table H) (path : Bytes) :
    ((av_behavior_protect_add t true path).1 = 0 ∧ Absolute path ∧ t.find? path = none ∧
      ∀ p, (av_behavior_protect_add t true path).2.find? p =
        if p = path then some path else t.find? p) ∨
    ((av_behavior_protect_add t true path).1 = -EEXIST ∧ (t.find? path).isSome ∧
      (av_behavior_protect_add t true path).2 = t) ∨
    ((av_behavior_protect_add t true path).1 = -EINVAL ∧ ¬ Absolute path ∧
      (av_behavior_protect_add t true path).2 = t) := by
  by_cases hpath : Absolute path
  · have hvalid : ¬ (path.head? ≠ some slash ∨ PATH_MAX ≤ path.length) := by
      rintro (h | h)
      · exact h hpath.1
      · exact absurd hpath.2 (not_lt.mpr h)
    have hspec := protect_add_spec t true path
    by_cases hold : onList t path = true
    · refine .inr (.inl ?_)
      rw [av_behavior_protect_add, if_neg hvalid, if_neg (by decide)]
      simp only [strscpy_eq_self hpath.2, hold]
      exact ⟨rfl, onList_isSome.mp hold, rfl⟩
    · rcases hspec with ⟨hret, habsent, hfind⟩ | ⟨hret, -⟩
      · exact .inl ⟨hret, hpath, habsent, hfind⟩
      · rw [av_behavior_protect_add, if_neg hvalid, if_neg (by decide)] at hret
        simp only [strscpy_eq_self hpath.2, Bool.eq_false_of_not_eq_true hold, dite_true] at hret
        exact absurd hret (lt_irrefl _)
  · have hinvalid : path.head? ≠ some slash ∨ PATH_MAX ≤ path.length := by
      by_contra hc
      rw [not_or, not_not, not_le] at hc
      exact hpath hc
    refine .inr (.inr ?_)
    rw [av_behavior_protect_add, if_pos hinvalid]
    exact ⟨rfl, hpath, rfl⟩

end Listed

section Histories

variable {s : Lists H} {trusted listed : List (Change Bytes)}

/-- The tables are the sets that the two logs come to. -/
structure Follows (s : Lists H) (trusted listed : List (Change Bytes)) : Prop where
  canonical : AllCanonical s.trust_table
  absolute : AllAbsolute s.protected_table
  trust : ∀ k, (s.trust_table.find? k).isSome = true ↔ lastAdded trusted k = true
  protect : ∀ k, (s.protected_table.find? k).isSome = true ↔ lastAdded listed k = true

theorem follows_boot (H : KernelHash) : Follows (Lists.boot H) [] [] where
  canonical := nofun
  absolute := nofun
  trust := fun _ => Iff.rfl
  protect := fun _ => Iff.rfl

private theorem follows_trust_add (h : Follows s trusted listed) (hex name : Bytes) :
    Follows ((Call.trust_add hex name).onLists s).2
      (trusted ++ (trustChange (.trust_add hex name,
        ((Call.trust_add hex name).onLists s).1)).toList) listed := by
  rw [Call.onLists, trustChange]
  dsimp only
  rcases trust_add_cases h.canonical hex name with
    ⟨hret, hlen, habsent, e, hkey, hfind⟩ | ⟨hret, -, hsame⟩ | ⟨hret, -, hsame⟩
  · rw [if_pos hret]
    refine ⟨?_, h.absolute, follows_snoc h.trust hfind, h.protect⟩
    intro k x hx
    rw [hfind] at hx
    split at hx
    · rename_i hk
      rw [hk]
      exact canonical_lower hlen
    · exact h.canonical k x hx
  · rw [if_neg (by rw [hret]; decide), hsame, Option.toList_none, List.append_nil]
    exact h
  · rw [if_neg (by rw [hret]; decide), hsame, Option.toList_none, List.append_nil]
    exact h

private theorem follows_trust_del (h : Follows s trusted listed) (hex : Bytes) :
    Follows ((Call.trust_del hex).onLists s).2
      (trusted ++ (trustChange (.trust_del hex, ((Call.trust_del hex).onLists s).1)).toList)
      listed := by
  rw [Call.onLists, trustChange]
  dsimp only
  rcases trust_del_cases h.canonical hex with ⟨hret, -, hfind⟩ | ⟨hret, -, hsame⟩
  · rw [if_pos hret]
    refine ⟨?_, h.absolute, follows_snoc h.trust hfind, h.protect⟩
    intro k x hx
    rw [hfind] at hx
    split at hx
    · cases hx
    · exact h.canonical k x hx
  · rw [if_neg hret, hsame, Option.toList_none, List.append_nil]
    exact h

private theorem follows_protect_add (h : Follows s trusted listed) (path : Bytes) :
    Follows ((Call.protect_add path).onLists s).2 trusted
      (listed ++ (protectChange (.protect_add path,
        ((Call.protect_add path).onLists s).1)).toList) := by
  rw [Call.onLists, protectChange]
  dsimp only
  rcases protect_add_cases s.protected_table path with
    ⟨hret, hpath, -, hfind⟩ | ⟨hret, -, hsame⟩ | ⟨hret, -, hsame⟩
  · rw [if_pos hret]
    refine ⟨h.canonical, ?_, h.trust, follows_snoc h.protect hfind⟩
    intro k hk
    rw [hfind] at hk
    split at hk
    · rename_i heq
      exact heq ▸ hpath
    · exact h.absolute k hk
  · rw [if_neg (by rw [hret]; decide), hsame, Option.toList_none, List.append_nil]
    exact h
  · rw [if_neg (by rw [hret]; decide), hsame, Option.toList_none, List.append_nil]
    exact h

private theorem follows_protect_del (h : Follows s trusted listed) (path : Bytes) :
    Follows ((Call.protect_del path).onLists s).2 trusted
      (listed ++ (protectChange (.protect_del path,
        ((Call.protect_del path).onLists s).1)).toList) := by
  rw [Call.onLists, protectChange]
  dsimp only
  rcases protect_del_spec s.protected_table path with ⟨hret, -, hfind⟩ | ⟨hret, hsame⟩
  · rw [if_pos hret]
    refine ⟨h.canonical, ?_, h.trust, follows_snoc h.protect hfind⟩
    intro k hk
    rw [hfind] at hk
    split at hk
    · cases hk
    · exact h.absolute k hk
  · rw [if_neg hret.ne, hsame, Option.toList_none, List.append_nil]
    exact h

/-- One call keeps the tables to the logs of what has succeeded. -/
theorem follows_step (h : Follows s trusted listed) (c : Call) :
    Follows (c.onLists s).2 (trusted ++ (trustChange (c, (c.onLists s).1)).toList)
      (listed ++ (protectChange (c, (c.onLists s).1)).toList) := by
  cases c with
  | trust_add hex name => simpa [protectChange] using follows_trust_add h hex name
  | trust_del hex => simpa [protectChange] using follows_trust_del h hex
  | hash_is_trusted hex => simpa [trustChange, protectChange, Call.onLists] using h
  | protect_add path => simpa [trustChange] using follows_protect_add h path
  | protect_del path => simpa [trustChange] using follows_protect_del h path
  | path_is_on_protected_list path =>
    simpa [trustChange, protectChange, Call.onLists] using h

theorem follows_run (h : Follows s trusted listed) (calls : List Call) :
    Follows (runCalls s calls) (trusted ++ (results s calls).filterMap trustChange)
      (listed ++ (results s calls).filterMap protectChange) := by
  induction calls generalizing s trusted listed with
  | nil => simpa [results, runCalls] using h
  | cons c calls ih =>
    have hrun := ih (follows_step h c)
    rw [List.append_assoc, List.append_assoc] at hrun
    have htail : ∀ {β : Type} (f : Call × Int → Option β),
        (results s (c :: calls)).filterMap f = (f (c, (c.onLists s).1)).toList ++
          (results (c.onLists s).2 calls).filterMap f := by
      intro β f
      rw [results, List.filterMap_cons]
      cases f (c, (c.onLists s).1) <;> rfl
    rw [htail, htail]
    exact hrun

end Histories

section Main

variable {s : Lists H} {trusted listed : List (Change Bytes)}

/-- 64 hex digits in lower case. -/
def LowerDigest (h : Bytes) : Prop :=
  h.length = SHA256_HEX_LEN ∧ ∀ b ∈ h, 48 ≤ b ∧ b ≤ 57 ∨ 97 ≤ b ∧ b ≤ 102

instance (h : Bytes) : Decidable (LowerDigest h) := inferInstanceAs (Decidable (_ ∧ _))

private theorem tolower_digit {b : UInt8} (h : 48 ≤ b ∧ b ≤ 57 ∨ 97 ≤ b ∧ b ≤ 102) :
    tolower b = b := by
  simp only [UInt8.le_iff_toNat_le] at h
  refine if_neg ?_
  change 48 ≤ b.toNat ∧ b.toNat ≤ 57 ∨ 97 ≤ b.toNat ∧ b.toNat ≤ 102 at h
  omega

private theorem LowerDigest.canonical {h : Bytes} (hh : LowerDigest h) : Canonical h where
  length_eq := hh.1
  lower := (List.map_congr_left fun b hb => tolower_digit (hh.2 b hb)).trans (List.map_id _)

/-- Both tables are the sets that the two logs come to, without a second entry for a key; an
addition says EEXIST exactly if its key is there, and a deletion takes its key out. -/
structure AreSets (s : Lists H) (trusted listed : List (Change Bytes)) : Prop where
  trust : ∀ h, LowerDigest h →
    (hash_is_trusted s.trust_table h = true ↔ lastAdded trusted h = true)
  protect : ∀ p, onList s.protected_table p = true ↔ lastAdded listed p = true
  trust_nodup : (s.trust_table.entries.map TrustEntry.sha256_hex).Nodup
  protect_nodup : s.protected_table.entries.Nodup
  trust_add : ∀ hex name, (av_behavior_trust_add s.trust_table true hex name).1 = -EEXIST ↔
    ∃ e ∈ s.trust_table.entries, e.sha256_hex = hex_tolower hex
  protect_add : ∀ path, (av_behavior_protect_add s.protected_table true path).1 = -EEXIST ↔
    path ∈ s.protected_table.entries
  trust_del : ∀ hex, (∃ e ∈ s.trust_table.entries, e.sha256_hex = hex_tolower hex) →
    (av_behavior_trust_del s.trust_table hex).1 = 0 ∧
      ∀ e ∈ (av_behavior_trust_del s.trust_table hex).2.entries, e.sha256_hex ≠ hex_tolower hex
  protect_del : ∀ path, path ∈ s.protected_table.entries →
    (av_behavior_protect_del s.protected_table path).1 = 0 ∧
      path ∉ (av_behavior_protect_del s.protected_table path).2.entries

private theorem present_iff {t : TrustTable.Table H} {k : Bytes} :
    (∃ e ∈ t.entries, e.sha256_hex = k) ↔ (t.find? k).isSome = true := by
  rw [Option.isSome_iff_exists]
  constructor
  · rintro ⟨e, he, rfl⟩
    exact ⟨e, HashTable.mem_entries.mp he⟩
  · rintro ⟨e, he⟩
    obtain rfl := HashTable.key_of_find? he
    exact ⟨e, HashTable.mem_entries.mpr he, rfl⟩

private theorem listed_iff {t : ProtectTable.Table H} {p : Bytes} :
    p ∈ t.entries ↔ (t.find? p).isSome = true := by
  rw [HashTable.mem_entries, ← onList_iff, onList_isSome]

theorem Follows.areSets (h : Follows s trusted listed) : AreSets s trusted listed where
  trust k hk := (trusted_iff h.canonical hk.canonical).trans (h.trust k)
  protect p := onList_isSome.trans (h.protect p)
  trust_nodup := HashTable.keys_nodup _
  protect_nodup := HashTable.entries_nodup _
  trust_add hex name := by
    rw [present_iff]
    rcases trust_add_cases h.canonical hex name with
      ⟨hret, -, habsent, -⟩ | ⟨hret, hthere, -⟩ | ⟨hret, hlen, -⟩
    · rw [hret, habsent]
      decide
    · exact ⟨fun _ => hthere, fun _ => hret⟩
    · rw [hret]
      refine ⟨fun heq => absurd heq (by decide), fun hthere => ?_⟩
      obtain ⟨e, he⟩ := Option.isSome_iff_exists.mp hthere
      have hcanonical := (h.canonical _ _ he).length_eq
      rw [hex_tolower, List.length_map] at hcanonical
      exact absurd hcanonical hlen
  protect_add path := by
    rw [listed_iff]
    rcases protect_add_cases s.protected_table path with
      ⟨hret, -, habsent, -⟩ | ⟨hret, hthere, -⟩ | ⟨hret, hpath, -⟩
    · rw [hret, habsent]
      decide
    · exact ⟨fun _ => hthere, fun _ => hret⟩
    · rw [hret]
      exact ⟨fun heq => absurd heq (by decide), fun hthere => absurd (h.absolute path hthere) hpath⟩
  trust_del hex hthere := by
    rcases trust_del_cases h.canonical hex with ⟨hret, -, hfind⟩ | ⟨-, habsent, -⟩
    · refine ⟨hret, fun e he hkey => ?_⟩
      have hgone := HashTable.mem_entries.mp he
      rw [hfind, if_pos hkey] at hgone
      cases hgone
    · rw [present_iff, habsent] at hthere
      cases hthere
  protect_del path hthere := by
    rcases protect_del_spec s.protected_table path with ⟨hret, -, hfind⟩ | ⟨hret, -⟩
    · refine ⟨hret, fun hmem => ?_⟩
      rw [listed_iff, hfind, if_pos rfl] at hmem
      cases hmem
    · rw [HashTable.mem_entries] at hthere
      rw [av_behavior_protect_del, if_pos (onList_iff.mpr hthere)] at hret
      exact absurd hret (lt_irrefl _)

/-- Along every history of calls, whatever the hash function, both tables are sets. -/
theorem lists_are_sets (H : KernelHash) (calls : List Call) :
    AreSets (runCalls (Lists.boot H) calls)
      ((results (Lists.boot H) calls).filterMap trustChange)
      ((results (Lists.boot H) calls).filterMap protectChange) :=
  (follows_run (follows_boot H) calls).areSets

end Main

end KernelAv.Kernel.ListTables
