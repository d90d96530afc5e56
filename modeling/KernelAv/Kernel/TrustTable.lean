/- digest: The trusted-hash table: add, delete, lookup, and what a deletion leaves trusted. -/

import KernelAv.Kernel.BehaviorTable

set_option autoImplicit false
set_option relaxedAutoImplicit false

namespace KernelAv.Kernel.TrustTable

open KernelAv.Lib.CText
open KernelAv.Lib.Chains
open KernelAv.Kernel.BehaviorTable (KernelHash)

def TRUST_BITS : Nat := 8
def SHA256_HEX_LEN : Nat := 64
def TRUST_NAME_LEN : Nat := 64

def EINVAL : Int := 22
def ENOMEM : Int := 12
def EEXIST : Int := 17
def ENOENT : Int := 2

/-- `struct av_trust_entry`. -/
structure TrustEntry where
  sha256_hex : Bytes
  name : Bytes
  deriving DecidableEq

variable (H : KernelHash)

def hex_key (hex : Bytes) : UInt32 := H.full_name_hash hex

def trustBucket (hex : Bytes) : Fin (2 ^ TRUST_BITS) := H.hash_min TRUST_BITS (hex_key H hex)

abbrev Table := HashTable TrustEntry.sha256_hex (trustBucket H)

variable {H}

/-- The comparison that every walk over a chain of the table makes. -/
def TrustEntry.names (e : TrustEntry) (sha256_hex : Bytes) : Bool :=
  strncaseeq SHA256_HEX_LEN e.sha256_hex sha256_hex

def hash_is_trusted (t : Table H) (sha256_hex : Bytes) : Bool :=
  (t.chain (trustBucket H sha256_hex)).any (·.names sha256_hex)

def hex_tolower (hex : Bytes) : Bytes := hex.map tolower

private theorem absent_of_untrusted {t : Table H} {lower_hex : Bytes}
    (h : hash_is_trusted t lower_hex = false) : t.find? lower_hex = none := by
  rw [HashTable.find?_eq_none]
  rintro e he rfl
  have hnamed : hash_is_trusted t e.sha256_hex = true :=
    List.any_eq_true.mpr ⟨e, he, by simp [TrustEntry.names, strncaseeq]⟩
  rw [h] at hnamed
  cases hnamed

def av_behavior_trust_add (t : Table H) (kmalloc_ok : Bool) (sha256_hex name : Bytes) :
    Int × Table H :=
  if sha256_hex.length ≠ SHA256_HEX_LEN then (-EINVAL, t)
  else if !kmalloc_ok then (-ENOMEM, t)
  else
    let lower_hex := hex_tolower (strscpy (SHA256_HEX_LEN + 1) sha256_hex)
    if h : hash_is_trusted t lower_hex = false then
      (0, t.add ⟨lower_hex, strscpy TRUST_NAME_LEN name⟩ (absent_of_untrusted h))
    else (-EEXIST, t)

def av_behavior_trust_del (t : Table H) (sha256_hex : Bytes) : Int × Table H :=
  if sha256_hex.length ≠ SHA256_HEX_LEN then (-EINVAL, t)
  else
    let lower_hex := hex_tolower (strscpy (SHA256_HEX_LEN + 1) sha256_hex)
    if hash_is_trusted t lower_hex then
      (0, t.sweep
        (fun e =>
          if trustBucket H e.sha256_hex = trustBucket H lower_hex ∧ e.names lower_hex then none
          else some e)
        (by
          intro e x h
          split at h
          · cases h
          · rw [Option.some.inj h]))
    else (-ENOENT, t)

section Histories

variable {t : Table H} {sha256_hex hex name : Bytes}

theorem hash_is_trusted_iff : hash_is_trusted t sha256_hex = true ↔
    ∃ e, t.find? e.sha256_hex = some e ∧
      trustBucket H e.sha256_hex = trustBucket H sha256_hex ∧ e.names sha256_hex = true := by
  rw [hash_is_trusted, List.any_eq_true]
  constructor
  · rintro ⟨e, he, hn⟩
    obtain ⟨hb, hf⟩ := HashTable.mem_chain.mp he
    exact ⟨e, hf, hb.symm, hn⟩
  · rintro ⟨e, hf, hb, hn⟩
    exact ⟨e, HashTable.mem_chain.mpr ⟨hb.symm, hf⟩, hn⟩

/-- An addition takes nothing off the list. -/
theorem trusted_after_add (ok : Bool) (h : hash_is_trusted t sha256_hex = true) :
    hash_is_trusted (av_behavior_trust_add t ok hex name).2 sha256_hex = true := by
  unfold av_behavior_trust_add
  split
  · exact h
  split
  · exact h
  dsimp only
  split
  · rename_i hnew
    obtain ⟨e, hf, hb, hn⟩ := hash_is_trusted_iff.mp h
    refine hash_is_trusted_iff.mpr ⟨e, ?_, hb, hn⟩
    rw [HashTable.find?_add]
    split
    · rename_i hkey
      rw [absent_of_untrusted (hkey ▸ hnew)] at hf
      cases hf
    · exact hf
  · exact h

/-- A deletion takes only the named hash off the list, up to letter case. -/
theorem trusted_after_del (hne : strncaseeq SHA256_HEX_LEN hex sha256_hex = false)
    (h : hash_is_trusted t sha256_hex = true) :
    hash_is_trusted (av_behavior_trust_del t hex).2 sha256_hex = true := by
  unfold av_behavior_trust_del
  split
  · exact h
  rename_i hlen
  dsimp only
  split
  · obtain ⟨e, hf, hb, hn⟩ := hash_is_trusted_iff.mp h
    refine hash_is_trusted_iff.mpr ⟨e, ?_, hb, hn⟩
    rw [HashTable.find?_sweep, hf, Option.bind_some, if_neg]
    rintro ⟨-, hnamed⟩
    apply Bool.false_ne_true
    rw [← hne]
    have htake : strscpy (SHA256_HEX_LEN + 1) hex = hex :=
      strscpy_eq_self (by simp only [ne_eq, not_not] at hlen; omega)
    have hlower : (hex_tolower hex).map tolower = hex.map tolower := by
      rw [hex_tolower, List.map_map]
      exact List.map_congr_left fun b _ => tolower_tolower b
    simp only [TrustEntry.names, strncaseeq, beq_iff_eq, htake, List.map_take,
        hlower] at hn hnamed ⊢
    rw [← hnamed, hn]
  · exact h

theorem del_failed (h : (av_behavior_trust_del t hex).1 ≠ 0) :
    (av_behavior_trust_del t hex).2 = t := by
  unfold av_behavior_trust_del at h ⊢
  split
  · rfl
  · rename_i hlen
    rw [if_neg hlen] at h
    dsimp only at h ⊢
    split
    · rename_i hfound
      rw [if_pos hfound] at h
      exact absurd rfl h
    · rfl

theorem trust_add_failed {ok : Bool} (h : (av_behavior_trust_add t ok hex name).1 ≠ 0) :
    (av_behavior_trust_add t ok hex name).2 = t := by
  unfold av_behavior_trust_add at h ⊢
  split
  · rfl
  rename_i hlen
  split
  · rfl
  rename_i hok
  rw [if_neg hlen, if_neg hok] at h
  dsimp only at h ⊢
  split
  · rename_i hnew
    rw [dif_pos hnew] at h
    exact absurd rfl h
  · rfl

/-- A successful addition inserts one entry, with a new key. -/
theorem trust_add_ok {ok : Bool} (h : (av_behavior_trust_add t ok hex name).1 = 0) :
    hex.length = SHA256_HEX_LEN ∧ ∃ e : TrustEntry, e.sha256_hex = hex_tolower hex ∧
      e.name = strscpy TRUST_NAME_LEN name ∧ t.find? e.sha256_hex = none ∧
      ∀ k, (av_behavior_trust_add t ok hex name).2.find? k =
        if k = e.sha256_hex then some e else t.find? k := by
  unfold av_behavior_trust_add at h ⊢
  split at h
  · exact absurd h (show ¬ -EINVAL = 0 by decide)
  rename_i hlen
  split at h
  · exact absurd h (show ¬ -ENOMEM = 0 by decide)
  rename_i hok
  dsimp only at h
  split at h
  · rename_i hnew
    rw [not_not] at hlen
    have htake : strscpy (SHA256_HEX_LEN + 1) hex = hex := strscpy_eq_self (by omega)
    refine ⟨hlen, ⟨hex_tolower hex, strscpy TRUST_NAME_LEN name⟩, rfl, rfl, ?_, ?_⟩
    · rw [htake] at hnew
      exact absent_of_untrusted hnew
    · intro k
      simp only [hlen, ne_eq, not_true_eq_false, if_false, hok, hnew, dite_true,
        Bool.false_eq_true]
      rw [HashTable.find?_add, htake]
  · exact absurd h (show ¬ -EEXIST = 0 by decide)

/-- A successful deletion finds an entry that the string names, and removes all such of its
bucket. -/
theorem trust_del_ok (h : (av_behavior_trust_del t hex).1 = 0) :
    hex.length = SHA256_HEX_LEN ∧ hash_is_trusted t (hex_tolower hex) = true ∧
      ∀ k, (av_behavior_trust_del t hex).2.find? k = (t.find? k).bind fun e =>
        if trustBucket H e.sha256_hex = trustBucket H (hex_tolower hex) ∧ e.names (hex_tolower hex)
        then none else some e := by
  unfold av_behavior_trust_del at h ⊢
  split at h
  · exact absurd h (show ¬ -EINVAL = 0 by decide)
  rename_i hlen
  dsimp only at h
  split at h
  · rename_i hfound
    rw [not_not] at hlen
    have htake : strscpy (SHA256_HEX_LEN + 1) hex = hex := strscpy_eq_self (by omega)
    rw [htake] at hfound
    refine ⟨hlen, hfound, ?_⟩
    intro k
    simp only [hlen, ne_eq, not_true_eq_false, if_false, htake, hfound, if_true]
    exact HashTable.find?_sweep
  · exact absurd h (show ¬ -ENOENT = 0 by decide)

end Histories

end KernelAv.Kernel.TrustTable
