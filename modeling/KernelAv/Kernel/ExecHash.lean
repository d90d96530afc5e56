/- digest: Hashing the file of an exec: the calls in order, and the outcomes that give a digest. -/

import KernelAv.Kernel.Kill
import KernelAv.Kernel.SigTable
import KernelAv.Lib.Fallible

set_option autoImplicit false
set_option relaxedAutoImplicit false

namespace KernelAv.Kernel.ExecHash

open KernelAv.Lib.CText
open KernelAv.Lib.Fallible
open KernelAv.Kernel.BehaviorTable (KernelHash)
open KernelAv.Kernel.Kill (FileIdentity)
open KernelAv.Kernel.SigTable

def READ_CHUNK_SIZE : Nat := 4096
def MAX_HASH_FILE_SIZE : Nat := 256 * 1024 * 1024

def ENOMEM : Int := 12
def EINVAL : Int := 22
def EFBIG : Int := 27

/-- The kernel's digest algorithms. -/
abbrev Shash := AvAlgo → Bytes → Bytes

/-- What one `kernel_read` before the end of the file delivers. -/
abbrev Chunk := { data : Bytes // data ≠ [] ∧ data.length ≤ READ_CHUNK_SIZE }

/-- The opened file as the worker finds it: the mode and size it checks, the identity it takes
note of, the chunks it would read, and the error that ends them instead of the end of the file. -/
structure OpenFile where
  regular : Bool
  i_size : Nat
  ident : FileIdentity
  chunks : List Chunk
  read_error : Option Int

def OpenFile.content (f : OpenFile) : Bytes := f.chunks.flatMap Subtype.val

/-- What the calls on the transform of one algorithm return, `update` for each chunk in turn. -/
structure ShashIo where
  alloc : Except Int Unit
  desc_ok : Bool
  init : Int
  update : Nat → Int
  final : Int

structure HashIo where
  opened : Except Int OpenFile
  shash : AvAlgo → ShashIo
  buf_ok : Bool

def hexDigit (n : Nat) : UInt8 := UInt8.ofNat (if n < 10 then 48 + n else 87 + n)

def bin_to_hex (bin : Bytes) : Bytes :=
  bin.flatMap fun b => [hexDigit (b.toNat / 16), hexDigit (b.toNat % 16)]

section Calls

variable {H : KernelHash} (sigs : Table H)

/-- The digests computed: SHA-256 always, another one when some signature uses it. -/
def active : AvAlgo → Bool
  | .md5 => 0 < av_sigtable_algo_count sigs .md5
  | .sha1 => 0 < av_sigtable_algo_count sigs .sha1
  | .sha256 => true

def activeAlgos : List AvAlgo := algos.filter (active sigs)

def setup (io : ShashIo) : Except Int Unit :=
  io.alloc >>= fun _ => check io.desc_ok (-ENOMEM) >>= fun _ => call io.init

/-- The `kernel_read` loop; `n` counts the chunks and `pos` the bytes read so far. -/
def readLoop (io : HashIo) (read_error : Option Int) : List Chunk → Nat → Nat → Except Int Unit
  | [], _, _ => read_error.elim (.ok ()) .error
  | chunk :: chunks, n, pos =>
      check (pos + chunk.val.length ≤ MAX_HASH_FILE_SIZE) (-EFBIG) >>= fun _ =>
      callEach (fun algo => call ((io.shash algo).update n)) (activeAlgos sigs) >>= fun _ =>
      readLoop io read_error chunks (n + 1) (pos + chunk.val.length)

/-- The hex text of an active algorithm's digest; the field of a skipped one stays empty. -/
def digestText (digest : Shash) (content : Bytes) (algo : AvAlgo) : Bytes :=
  if active sigs algo then bin_to_hex (digest algo content) else []

def digestOf (digest : Shash) (content : Bytes) : AvDigest :=
  ⟨digestText sigs digest content .md5, digestText sigs digest content .sha1,
    digestText sigs digest content .sha256⟩

def hash_file_multi (digest : Shash) (io : HashIo) : Except Int (AvDigest × FileIdentity) :=
  io.opened >>= fun f =>
  check f.regular (-EINVAL) >>= fun _ =>
  check (f.i_size ≤ MAX_HASH_FILE_SIZE) (-EFBIG) >>= fun _ =>
  callEach (fun algo => setup (io.shash algo)) (activeAlgos sigs) >>= fun _ =>
  check io.buf_ok (-ENOMEM) >>= fun _ =>
  readLoop sigs io f.read_error f.chunks 0 0 >>= fun _ =>
  callEach (fun algo => call (io.shash algo).final) (activeAlgos sigs) >>= fun _ =>
  .ok (digestOf sigs digest f.content, f.ident)

end Calls

/-- The calls on a transform all succeed, over `n` chunks. -/
structure ShashIo.Works (io : ShashIo) (n : Nat) : Prop where
  alloc : io.alloc = .ok ()
  desc_ok : io.desc_ok = true
  init : io.init = 0
  update : ∀ i < n, io.update i = 0
  final : io.final = 0

/-- A regular file within the cap, whose size check, reads and digests all succeed. -/
structure Hashable {H : KernelHash} (sigs : Table H) (io : HashIo) (f : OpenFile) : Prop where
  opened : io.opened = .ok f
  regular : f.regular = true
  i_size : f.i_size ≤ MAX_HASH_FILE_SIZE
  buf_ok : io.buf_ok = true
  length : f.content.length ≤ MAX_HASH_FILE_SIZE
  read_error : f.read_error = none
  works : ∀ algo, active sigs algo = true → (io.shash algo).Works f.chunks.length

section Outcomes

variable {H : KernelHash} {sigs : Table H} {digest : Shash} {io : HashIo}

theorem mem_activeAlgos {algo : AvAlgo} : algo ∈ activeAlgos sigs ↔ active sigs algo = true := by
  rw [activeAlgos, List.mem_filter]
  refine and_iff_right ?_
  cases algo <;> simp [algos]

private theorem setup_ok_iff {sio : ShashIo} :
    setup sio = .ok () ↔ sio.alloc = .ok () ∧ sio.desc_ok = true ∧ sio.init = 0 := by
  rw [setup, then_ok_iff, then_ok_iff, check_ok_iff, call_ok_iff]

/-- The loop reaches the end of the file exactly when nothing fails and the bytes it has read
stay within the cap; a chunk beyond the cap stops it whatever comes after. -/
private theorem readLoop_ok_iff {read_error : Option Int} {chunks : List Chunk} {n pos : Nat}
    (hpos : pos ≤ MAX_HASH_FILE_SIZE) :
    readLoop sigs io read_error chunks n pos = .ok () ↔
      pos + (chunks.flatMap Subtype.val).length ≤ MAX_HASH_FILE_SIZE ∧ read_error = none ∧
        ∀ algo, active sigs algo = true →
          ∀ i, n ≤ i → i < n + chunks.length → (io.shash algo).update i = 0 := by
  induction chunks generalizing n pos with
  | nil =>
    have hend : readLoop sigs io read_error [] n pos = .ok () ↔ read_error = none := by
      cases read_error <;> simp [readLoop]
    rw [hend]
    constructor
    · intro h
      exact ⟨hpos, h, fun _ _ i h₁ h₂ => absurd h₂ (Nat.not_lt.mpr h₁)⟩
    · exact fun h => h.2.1
  | cons chunk chunks ih =>
    have hcalls : callEach (fun algo => call ((io.shash algo).update n)) (activeAlgos sigs) =
        .ok () ↔ ∀ algo, active sigs algo = true → (io.shash algo).update n = 0 := by
      rw [callEach_ok_iff]
      refine forall_congr' fun algo => ?_
      rw [mem_activeAlgos, call_ok_iff]
    rw [readLoop, then_ok_iff, then_ok_iff, check_ok_iff, hcalls, decide_eq_true_iff,
      List.flatMap_cons, List.length_append, List.length_cons]
    by_cases hfits : pos + chunk.val.length ≤ MAX_HASH_FILE_SIZE
    · rw [ih hfits]
      constructor
      · rintro ⟨-, hnow, hlen, hend, hlater⟩
        refine ⟨by omega, hend, fun algo ha i hi hlt => ?_⟩
        rcases Nat.eq_or_lt_of_le hi with rfl | hi
        · exact hnow algo ha
        · exact hlater algo ha i hi (by omega)
      · rintro ⟨hlen, hend, hall⟩
        refine ⟨hfits, fun algo ha => hall algo ha n le_rfl (by omega), by omega, hend, ?_⟩
        intro algo ha i hi hlt
        exact hall algo ha i (by omega) (by omega)
    · constructor
      · exact fun h => absurd h.1 hfits
      · intro h
        exact absurd (Nat.le_trans (by omega) h.1) hfits

/-- A digest comes out exactly of a hashable file, and it is the one of the bytes read. -/
theorem hash_file_multi_ok_iff {d : AvDigest} {ident : FileIdentity} :
    hash_file_multi sigs digest io = .ok (d, ident) ↔
      ∃ f, Hashable sigs io f ∧ d = digestOf sigs digest f.content ∧ ident = f.ident := by
  have hsetup : callEach (fun algo => setup (io.shash algo)) (activeAlgos sigs) = .ok () ↔
      ∀ algo, active sigs algo = true → (io.shash algo).alloc = .ok () ∧
        (io.shash algo).desc_ok = true ∧ (io.shash algo).init = 0 := by
    rw [callEach_ok_iff]
    refine forall_congr' fun algo => ?_
    rw [mem_activeAlgos, setup_ok_iff]
  have hfinal : callEach (fun algo => call (io.shash algo).final) (activeAlgos sigs) = .ok () ↔
      ∀ algo, active sigs algo = true → (io.shash algo).final = 0 := by
    rw [callEach_ok_iff]
    refine forall_congr' fun algo => ?_
    rw [mem_activeAlgos, call_ok_iff]
  rw [hash_file_multi, bind_ok_iff]
  refine exists_congr fun f => ?_
  rw [then_ok_iff, then_ok_iff, then_ok_iff, then_ok_iff, then_ok_iff, then_ok_iff, check_ok_iff,
    check_ok_iff, check_ok_iff, hsetup, hfinal, readLoop_ok_iff (Nat.zero_le _),
    decide_eq_true_iff, Nat.zero_add]
  constructor
  · rintro ⟨hopen, hreg, hsize, hset, hbuf, ⟨hlen, hend, hupd⟩, hfin, hres⟩
    obtain ⟨rfl, rfl⟩ := Prod.mk.inj (Except.ok.inj hres)
    refine ⟨⟨hopen, hreg, hsize, hbuf, hlen, hend, fun algo ha => ?_⟩, rfl, rfl⟩
    obtain ⟨halloc, hdesc, hinit⟩ := hset algo ha
    exact ⟨halloc, hdesc, hinit, fun i hi => hupd algo ha i (Nat.zero_le _) (by omega),
      hfin algo ha⟩
  · rintro ⟨h, rfl, rfl⟩
    refine ⟨h.opened, h.regular, h.i_size, fun algo ha => ?_, h.buf_ok,
      ⟨h.length, h.read_error, fun algo ha i _ hi => ?_⟩, fun algo ha => (h.works algo ha).final,
      rfl⟩
    · exact ⟨(h.works algo ha).alloc, (h.works algo ha).desc_ok, (h.works algo ha).init⟩
    · exact (h.works algo ha).update i (by omega)

end Outcomes

end KernelAv.Kernel.ExecHash
