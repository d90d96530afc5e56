/- digest: Digests that no signature can match are skipped, and no verdict changes by it. -/

import KernelAv.Kernel.ExecHash
import KernelAv.Kernel.SigTableRefinement

set_option autoImplicit false
set_option relaxedAutoImplicit false

namespace KernelAv.Kernel.DigestSkipping

open KernelAv.Lib.CText
open KernelAv.Lib.Chains
open KernelAv.Kernel.BehaviorTable (KernelHash)
open KernelAv.Kernel.SigTable
open KernelAv.Kernel.SigTableRefinement
open KernelAv.Kernel.ExecHash

/-- A change of the table, by any algorithm value and any strings. -/
inductive Update where
  | add (kmalloc_ok : Bool) (algo : Nat) (hex name : Bytes)
  | del (algo : Nat) (hex : Bytes)

variable {H : KernelHash}

def Update.apply (t : Table H) : Update → Table H
  | .add kmalloc_ok algo hex name => (av_sigtable_add t kmalloc_ok algo hex name).2
  | .del algo hex => (av_sigtable_del t algo hex).2

/-- The table after a history of changes. -/
def tableAfter (H : KernelHash) (updates : List Update) : Table H :=
  updates.foldl Update.apply Table.empty

/-- The record with every digest computed. -/
def allDigests (digest : Shash) (content : Bytes) : AvDigest :=
  ⟨bin_to_hex (digest .md5 content), bin_to_hex (digest .sha1 content),
    bin_to_hex (digest .sha256 content)⟩

theorem apply_counted {t : Table H} (h : Counted t) (u : Update) : Counted (u.apply t) := by
  cases u with
  | add kmalloc_ok algo hex name => exact add_counted h kmalloc_ok algo hex name
  | del algo hex => exact del_counted h algo hex

theorem tableAfter_counted (H : KernelHash) (updates : List Update) :
    Counted (tableAfter H updates) := by
  unfold tableAfter
  induction updates using List.reverseRecOn with
  | nil => exact ⟨∅, refines_empty H⟩
  | append_singleton updates u ih =>
    rw [List.foldl_append]
    exact apply_counted ih u

/-- An algorithm that no entry is counted for matches nothing, whatever the digest text is. -/
theorem matchAlgo_uncounted {t : Table H} (h : Counted t) {algo : AvAlgo}
    (hzero : av_sigtable_algo_count t algo = 0) (d : AvDigest) : matchAlgo t d algo = none := by
  obtain ⟨M, hM⟩ := h
  have hnokey : ∀ k ∈ M, k.algo ≠ algo := by
    intro k hk halgo
    have hcard := hM.count_algo algo
    rw [show t.sig_count_algo algo = 0 from hzero] at hcard
    have hempty := Finset.card_eq_zero.mp hcard.symm
    have hmem : k ∈ M.keys.filter fun k => k.algo = algo :=
      Finset.mem_filter.mpr ⟨Finmap.mem_keys.mpr hk, halgo⟩
    rw [hempty] at hmem
    exact absurd hmem (Finset.notMem_empty k)
  unfold matchAlgo
  rw [List.find?_eq_none]
  intro e he hmatch
  obtain ⟨-, hfind⟩ := HashTable.mem_chain.mp he
  obtain ⟨k, hkey⟩ := hM.keyed e.key e hfind
  have hk : k ∈ M := by
    rw [Finmap.mem_iff]
    refine ⟨e.name, ?_⟩
    rw [← hM.lookup k, ← hkey, hfind]
    rfl
  simp only [Bool.and_eq_true, decide_eq_true_eq] at hmatch
  exact hnokey k hk ((Prod.mk.inj hkey).1.symm.trans hmatch.1)

/-- The walk of one algorithm depends on its own digest only. -/
private theorem matchAlgo_congr (t : Table H) {d d' : AvDigest} {algo : AvAlgo}
    (h : digest_for_algo d algo = digest_for_algo d' algo) :
    matchAlgo t d algo = matchAlgo t d' algo := by
  unfold matchAlgo
  rw [h]

/-- Field by field, either the digest is there or nothing can match it. -/
private theorem matchAlgo_digestOf {t : Table H} (h : Counted t) (digest : Shash)
    (content : Bytes) (algo : AvAlgo) :
    matchAlgo t (digestOf t digest content) algo =
      matchAlgo t (allDigests digest content) algo := by
  have hfield : digest_for_algo (digestOf t digest content) algo =
      digestText t digest content algo := by
    cases algo <;> rfl
  have hfull : digest_for_algo (allDigests digest content) algo =
      bin_to_hex (digest algo content) := by
    cases algo <;> rfl
  by_cases hactive : active t algo = true
  · apply matchAlgo_congr
    rw [hfield, hfull, digestText, if_pos hactive]
  · have hzero : av_sigtable_algo_count t algo = 0 := by
      cases algo with
      | md5 | sha1 => simpa [active] using hactive
      | sha256 => exact absurd rfl hactive
    rw [matchAlgo_uncounted h hzero, matchAlgo_uncounted h hzero]

/-- After any history of additions and deletions, the record of a file that `hash_file_multi`
leaves matches what the record with all three digests matches. -/
theorem skipped_digests_match_alike (digest : Shash) (updates : List Update) {io : HashIo}
    {f : OpenFile} (h : Hashable (tableAfter H updates) io f) (name_out_len : Nat) :
    ∃ d ident, hash_file_multi (tableAfter H updates) digest io = .ok (d, ident) ∧
      av_sigtable_match (tableAfter H updates) d name_out_len =
        av_sigtable_match (tableAfter H updates) (allDigests digest f.content) name_out_len := by
  refine ⟨digestOf (tableAfter H updates) digest f.content, f.ident,
    hash_file_multi_ok_iff.mpr ⟨f, h, rfl, rfl⟩, ?_⟩
  have hwalks : matchAlgo (tableAfter H updates)
      (digestOf (tableAfter H updates) digest f.content) =
      matchAlgo (tableAfter H updates) (allDigests digest f.content) := by
    funext algo
    exact matchAlgo_digestOf (tableAfter_counted H updates) digest f.content algo
  unfold av_sigtable_match
  rw [hwalks]

private def oneBucket : KernelHash := ⟨fun _ => 0, fun _ _ => ⟨0, by positivity⟩⟩

private def oneSignature : List Update := [.add true 2 (List.replicate 64 48) (lit "x")]

private theorem one_byte_chunk : lit "x" ≠ [] ∧ (lit "x").length ≤ READ_CHUNK_SIZE := by decide

private def shortFile : OpenFile := ⟨true, 1, ⟨8, 1234, 1⟩, [⟨lit "x", one_byte_chunk⟩], none⟩

private def readsFile : HashIo := ⟨.ok shortFile, fun _ => ⟨.ok (), true, 0, fun _ => 0, 0⟩, true⟩

/-- With a single SHA-256 signature in the table, two of the three digests are skipped. -/
theorem sha256_only_table_matches_alike :
    ∃ d ident, hash_file_multi (tableAfter oneBucket oneSignature)
        (fun _ _ => List.replicate 32 0) readsFile = .ok (d, ident) ∧
      av_sigtable_match (tableAfter oneBucket oneSignature) d 64 =
        av_sigtable_match (tableAfter oneBucket oneSignature)
          (allDigests (fun _ _ => List.replicate 32 0) shortFile.content) 64 :=
  skipped_digests_match_alike _ oneSignature
    ⟨rfl, rfl, by decide, rfl, by decide, rfl, fun _ _ => ⟨rfl, rfl, rfl, fun _ _ => rfl, rfl⟩⟩ 64

end KernelAv.Kernel.DigestSkipping
