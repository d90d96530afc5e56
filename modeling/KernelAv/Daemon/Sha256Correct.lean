import KernelAv.Daemon.Sha256
import KernelAv.Lib.Fips180

/- digest: The daemon's SHA-256 is that of FIPS 180-4, for every message in every chunking. -/

set_option autoImplicit false
set_option relaxedAutoImplicit false

namespace KernelAv.Daemon.Sha256Correct

open Lib Lib.Loops Lib.Blocks Lib.BitStrings Sha256
open Lib.Fips180 (Word H0 K W primes rootBits wordAt compress)

section Words

private theorem k_roots : k.toList.map UInt32.toBitVec = primes.map (rootBits 3) := by
  rw [Fips180.primes_eq]
  decide +kernel

/-- The table of the source holds the constants of the standard. -/
theorem k_eq_K (t : Nat) (ht : t < 64) : k[t].toBitVec = K t := by
  have hlen : t < primes.length := by
    have h := congrArg List.length k_roots
    rw [List.length_map, List.length_map, Vector.length_toList] at h
    omega
  have hget : (k.toList.map UInt32.toBitVec)[t]? = (primes.map (rootBits 3))[t]? := by
    rw [k_roots]
  rw [List.getElem?_map, List.getElem?_map, List.getElem?_eq_getElem hlen,
    List.getElem?_eq_getElem (by rw [Vector.length_toList]; exact ht)] at hget
  rw [K, List.getD_eq_getElem _ _ hlen]
  simpa using hget

private theorem ROTR_eq (n : Nat) (hn : 0 < n ∧ n < 32) (x : UInt32) :
    (ROTR x (UInt32.ofNat n)).toBitVec = Fips180.ROTR n x.toBitVec := by
  have hright : ((UInt32.ofNat n).toBitVec % 32).toNat = n := by
    simp only [BitVec.toNat_umod, UInt32.toNat_toBitVec, UInt32.toNat_ofNat']
    simp
    omega
  have hleft : ((32 - UInt32.ofNat n).toBitVec % 32).toNat = 32 - n := by
    simp only [BitVec.toNat_umod, UInt32.toNat_toBitVec, UInt32.toNat_sub, UInt32.toNat_ofNat']
    simp
    omega
  rw [ROTR, Fips180.ROTR, UInt32.toBitVec_or, UInt32.toBitVec_shiftRight,
    UInt32.toBitVec_shiftLeft, BitVec.ushiftRight_eq', BitVec.shiftLeft_eq', hright, hleft]

private theorem shift_or {a b i : Nat} (hb : b < 2 ^ i) : a <<< i ||| b = a * 2 ^ i + b := by
  rw [← Nat.shiftLeft_add_eq_or_of_lt hb, Nat.shiftLeft_eq]

private theorem schedule_s0 (x : UInt32) :
    (ROTR x 7 ^^^ ROTR x 18 ^^^ (x >>> 3)).toBitVec = Fips180.sigma0 x.toBitVec := by
  rw [Fips180.sigma0, ← ROTR_eq 7 (by omega), ← ROTR_eq 18 (by omega)]
  rfl

private theorem schedule_s1 (x : UInt32) :
    (ROTR x 17 ^^^ ROTR x 19 ^^^ (x >>> 10)).toBitVec = Fips180.sigma1 x.toBitVec := by
  rw [Fips180.sigma1, ← ROTR_eq 17 (by omega), ← ROTR_eq 19 (by omega)]
  rfl

private theorem round_s0 (x : UInt32) :
    (ROTR x 2 ^^^ ROTR x 13 ^^^ ROTR x 22).toBitVec = Fips180.Sigma0 x.toBitVec := by
  rw [Fips180.Sigma0, ← ROTR_eq 2 (by omega), ← ROTR_eq 13 (by omega), ← ROTR_eq 22 (by omega)]
  rfl

private theorem round_s1 (x : UInt32) :
    (ROTR x 6 ^^^ ROTR x 11 ^^^ ROTR x 25).toBitVec = Fips180.Sigma1 x.toBitVec := by
  rw [Fips180.Sigma1, ← ROTR_eq 6 (by omega), ← ROTR_eq 11 (by omega), ← ROTR_eq 25 (by omega)]
  rfl

/-- The big-endian word of four bytes. -/
private theorem word_of_bytes (b0 b1 b2 b3 : UInt8) :
    ((b0.toUInt32 <<< 24) ||| (b1.toUInt32 <<< 16) ||| (b2.toUInt32 <<< 8) |||
      b3.toUInt32).toBitVec = BitVec.ofNat 32 (bitsVal (bytesBits [b0, b1, b2, b3])) := by
  have h0 : b0.toNat < 2 ^ 8 := b0.toNat_lt
  have h1 : b1.toNat < 2 ^ 8 := b1.toNat_lt
  have h2 : b2.toNat < 2 ^ 8 := b2.toNat_lt
  have h3 : b3.toNat < 2 ^ 8 := b3.toNat_lt
  have hval : bitsVal (bytesBits [b0, b1, b2, b3]) =
      ((b0.toNat * 2 ^ 8 + b1.toNat) * 2 ^ 8 + b2.toNat) * 2 ^ 8 + b3.toNat := by
    simp only [bytesBits, List.flatMap_cons, List.flatMap_nil, List.append_nil,
      bitsVal_append, bitsVal_natBits, List.length_append, natBits_length]
    omega
  have hlow : b2.toNat <<< 8 ||| b3.toNat = b2.toNat * 2 ^ 8 + b3.toNat :=
    shift_or h3
  have hmid : b1.toNat <<< 16 ||| (b2.toNat * 2 ^ 8 + b3.toNat) =
      b1.toNat * 2 ^ 16 + (b2.toNat * 2 ^ 8 + b3.toNat) := shift_or (by omega)
  have hhigh : b0.toNat <<< 24 ||| (b1.toNat * 2 ^ 16 + (b2.toNat * 2 ^ 8 + b3.toNat)) =
      b0.toNat * 2 ^ 24 + (b1.toNat * 2 ^ 16 + (b2.toNat * 2 ^ 8 + b3.toNat)) :=
    shift_or (by omega)
  apply BitVec.eq_of_toNat_eq
  rw [hval, UInt32.toNat_toBitVec, BitVec.toNat_ofNat, Nat.mod_eq_of_lt (by omega)]
  simp only [UInt32.toNat_or, UInt32.toNat_shiftLeft, UInt8.toNat_toUInt32]
  have hfit0 : b0.toNat <<< 24 % 2 ^ 32 = b0.toNat <<< 24 := by
    rw [Nat.shiftLeft_eq]; omega
  have hfit1 : b1.toNat <<< 16 % 2 ^ 32 = b1.toNat <<< 16 := by
    rw [Nat.shiftLeft_eq]; omega
  have hfit2 : b2.toNat <<< 8 % 2 ^ 32 = b2.toNat <<< 8 := by
    rw [Nat.shiftLeft_eq]; omega
  calc _ = b0.toNat <<< 24 ||| b1.toNat <<< 16 ||| b2.toNat <<< 8 ||| b3.toNat := by
        rw [← hfit0, ← hfit1, ← hfit2]; rfl
    _ = _ := by
        rw [Nat.or_assoc, Nat.or_assoc, hlow, hmid, hhigh]
        omega

end Words

section Transform

private theorem natBits_byte_length (b : UInt8) : (natBits 8 b.toNat).length = 8 :=
  natBits_length 8 _

private theorem four_of_block (block : Vector UInt8 64) (j : Nat) (h0 : j * 4 < 64)
    (h1 : j * 4 + 1 < 64) (h2 : j * 4 + 2 < 64) (h3 : j * 4 + 3 < 64) :
    (block.toList.drop (j * 4)).take 4 =
      [block[j * 4], block[j * 4 + 1], block[j * 4 + 2], block[j * 4 + 3]] := by
  have hlen : block.toList.length = 64 := block.length_toList
  rw [List.drop_eq_getElem_cons (by omega), List.drop_eq_getElem_cons (by omega),
    List.drop_eq_getElem_cons (by omega), List.drop_eq_getElem_cons (by omega)]
  simp only [List.take_succ_cons, List.take_zero, Vector.getElem_toList]

private theorem wordAt_eq (block : Vector UInt8 64) (j : Nat) (h0 : j * 4 < 64)
    (h1 : j * 4 + 1 < 64) (h2 : j * 4 + 2 < 64) (h3 : j * 4 + 3 < 64) :
    wordAt (bytesBits block.toList) j = BitVec.ofNat 32 (bitsVal (bytesBits
      [block[j * 4], block[j * 4 + 1], block[j * 4 + 2], block[j * 4 + 3]])) := by
  have hstart : j * 32 = j * 4 * 8 := by omega
  have hcut : ((bytesBits block.toList).drop (j * 32)).take 32 =
      bytesBits ((block.toList.drop (j * 4)).take 4) := by
    rw [bytesBits, hstart, drop_flatMap_const natBits_byte_length]
    exact take_flatMap_const natBits_byte_length 4 _
  rw [wordAt, hcut, four_of_block block j h0 h1 h2 h3]

/-- The first `n` words of the local array are those of the message schedule. -/
private def Scheduled (block : Vector UInt8 64) (n : Nat) (w : Vector UInt32 64) : Prop :=
  ∀ j (hj : j < 64), j < n → w[j].toBitVec = W (bytesBits block.toList) j

private theorem scheduled_set {block : Vector UInt8 64} {n : Nat} {w : Vector UInt32 64}
    (hn : n < 64) {x : UInt32} (h : Scheduled block n w)
    (hx : x.toBitVec = W (bytesBits block.toList) n) :
    Scheduled block (n + 1) (w.set n x) := by
  intro j hj hjn
  rcases Nat.lt_succ_iff_lt_or_eq.mp hjn with hlt | rfl
  · rw [Vector.getElem_set_ne _ _ (by omega)]
    exact h j hj hlt
  · rw [Vector.getElem_set_self]
    exact hx

private theorem scheduled_loadWords (block : Vector UInt8 64) (w : Vector UInt32 64) :
    Scheduled block 16 (loadWords block w) := by
  refine Loops.fold_invariant (Scheduled block) (fun _ _ h => absurd h (Nat.not_lt_zero _))
    fun i hi w hw => scheduled_set (by omega) hw ?_
  rw [word_of_bytes, W, if_pos hi,
    wordAt_eq block i (by omega) (by omega) (by omega) (by omega)]

private theorem scheduled_expandWords {block : Vector UInt8 64} {w : Vector UInt32 64}
    (h : Scheduled block 16 w) : Scheduled block 64 (expandWords w) := by
  refine Loops.fold_invariant (fun j => Scheduled block (j + 16)) h fun j hj w hw => ?_
  have hword : (w[j + 16 - 16] +
      (ROTR w[j + 16 - 15] 7 ^^^ ROTR w[j + 16 - 15] 18 ^^^ (w[j + 16 - 15] >>> 3)) +
      w[j + 16 - 7] +
      (ROTR w[j + 16 - 2] 17 ^^^ ROTR w[j + 16 - 2] 19 ^^^ (w[j + 16 - 2] >>> 10))).toBitVec =
      W (bytesBits block.toList) (j + 16) := by
    rw [W, if_neg (by omega), UInt32.toBitVec_add, UInt32.toBitVec_add, UInt32.toBitVec_add,
      schedule_s0, schedule_s1, hw _ (by omega) (by omega), hw _ (by omega) (by omega),
      hw _ (by omega) (by omega), hw _ (by omega) (by omega)]
    ac_rfl
  have hset := scheduled_set (by omega) hw hword
  rw [Nat.add_right_comm]
  exact hset

/-- Whatever the local array held, its words become those of the message schedule. -/
private theorem schedule_eq (block : Vector UInt8 64) (w : Vector UInt32 64) (t : Nat)
    (ht : t < 64) :
    (expandWords (loadWords block w))[t].toBitVec = W (bytesBits block.toList) t :=
  scheduled_expandWords (scheduled_loadWords block w) t ht ht

/-- The local variables as the working variables of the standard. -/
private def words (v : Vars) : Fips180.Working :=
  ⟨v.a.toBitVec, v.b.toBitVec, v.c.toBitVec, v.d.toBitVec,
    v.e.toBitVec, v.f.toBitVec, v.g.toBitVec, v.h.toBitVec⟩

private theorem words_compressRound (ki wi : UInt32) (v : Vars) :
    words (compressRound ki wi v) = Fips180.round (words v) ki.toBitVec wi.toBitVec := by
  have htemp1 : (v.h + (ROTR v.e 6 ^^^ ROTR v.e 11 ^^^ ROTR v.e 25) +
      ((v.e &&& v.f) ^^^ (~~~v.e &&& v.g)) + ki + wi).toBitVec =
      Fips180.T1 (words v) ki.toBitVec wi.toBitVec := by
    simp only [UInt32.toBitVec_add, round_s1]
    rfl
  have htemp2 : ((ROTR v.a 2 ^^^ ROTR v.a 13 ^^^ ROTR v.a 22) +
      ((v.a &&& v.b) ^^^ (v.a &&& v.c) ^^^ (v.b &&& v.c))).toBitVec =
      Fips180.T2 (words v) := by
    rw [UInt32.toBitVec_add, round_s0]
    rfl
  rw [Fips180.round, ← htemp1, ← htemp2]
  rfl

private theorem words_compressRounds {bits : List Bool} {w : Vector UInt32 64} (v : Vars)
    {H : Vector Word 8} (hv : words v = Fips180.initial H)
    (hw : ∀ t (ht : t < 64), w[t].toBitVec = W bits t) :
    words (compressRounds w v) = Fips180.working H bits 64 := by
  refine Loops.fold_invariant (fun t v => words v = Fips180.working H bits t) hv
    fun t ht v hvt => ?_
  rw [words_compressRound, hvt, k_eq_K t ht, hw t ht]
  rfl

/-- The state of a context as the hash value of the standard. -/
def hashValue (ctx : sha256_ctx) : Vector Word 8 :=
  ctx.state.map UInt32.toBitVec

private theorem hashValue_congr {ctx ctx' : sha256_ctx} (h : ctx.state = ctx'.state) :
    hashValue ctx = hashValue ctx' := by
  rw [hashValue, hashValue, h]

private theorem get_map (s : Vector UInt32 8) (i : Fin 8) :
    (s.map UInt32.toBitVec).get i = (s.get i).toBitVec :=
  Vector.getElem_map _ i.isLt

private theorem words_loadVars (s : Vector UInt32 8) :
    words (loadVars s) = Fips180.initial (s.map UInt32.toBitVec) := by
  simp only [words, loadVars, Fips180.initial, get_map]
  rfl

/-- The sums at the end of a transform, of the variables and the state it began with. -/
private theorem map_addVars (s : Vector UInt32 8) (v : Vars) :
    (addVars s v).map UInt32.toBitVec = Fips180.addTo (s.map UInt32.toBitVec) (words v) := by
  simp only [addVars, Fips180.addTo, words, Vector.map_mk, List.map_toArray, List.map_cons,
    List.map_nil, UInt32.toBitVec_add, get_map, BitVec.add_comm]
  rfl

/-- The in-place transform computes the compression of the standard. -/
theorem hashValue_transform (ctx : sha256_ctx) (block : Vector UInt8 64) :
    hashValue (sha256_transform ctx block) =
      compress (hashValue ctx) (bytesBits block.toList) := by
  have hrounds := words_compressRounds _ (words_loadVars ctx.state)
    (schedule_eq block (Vector.replicate 64 0))
  have hsums := map_addVars ctx.state (compressRounds
    (expandWords (loadWords block (Vector.replicate 64 0))) (loadVars ctx.state))
  rw [hrounds] at hsums
  exact hsums

end Transform

section Stream

/-- The chaining of the standard over blocks of bytes. -/
private def chain (bs : List (List UInt8)) : Vector Word 8 :=
  bs.foldl (fun H b => compress H (bytesBits b)) H0

/-- What a context holds once the bytes of `m` have gone through it. -/
structure Consumed (m : List UInt8) (ctx : sha256_ctx) : Prop where
  state : hashValue ctx = chain (blocks 64 m)
  buffer : ctx.buffer.toList.take ctx.buflen = rest 64 m
  buflen : ctx.buflen = m.length % 64
  bitlen : ctx.bitlen = UInt64.ofNat (8 * m.length)

theorem Consumed.buflen_lt {m : List UInt8} {ctx : sha256_ctx} (h : Consumed m ctx) :
    ctx.buflen < 64 := by
  rw [h.buflen]
  exact Nat.mod_lt _ (by omega)

private theorem init_state :
    (#v[0x6a09e667, 0xbb67ae85, 0x3c6ef372, 0xa54ff53a,
      0x510e527f, 0x9b05688c, 0x1f83d9ab, 0x5be0cd19] : Vector UInt32 8).map UInt32.toBitVec =
    H0 := by
  decide +kernel

theorem consumed_init (ctx : sha256_ctx) : Consumed [] (sha256_init ctx) where
  state := init_state
  buffer := by simp [sha256_init]
  buflen := rfl
  bitlen := rfl

private theorem getElem_memcpy (buffer : Vector UInt8 64) (off : Nat) (bytes : List UInt8) {i : Nat}
    (hi : i < 64) : (memcpy buffer off bytes)[i] =
      if off ≤ i ∧ i < off + bytes.length then bytes.getD (i - off) 0 else buffer[i] := by
  simp [memcpy]

private theorem take_memcpy (buffer : Vector UInt8 64) {off : Nat} {bytes : List UInt8}
    (hfit : off + bytes.length ≤ 64) :
    (memcpy buffer off bytes).toList.take (off + bytes.length) =
      buffer.toList.take off ++ bytes := by
  apply List.ext_getElem
  · simp only [List.length_take, Vector.length_toList, List.length_append]
    omega
  · intro i hi hi'
    have hlt : i < off + bytes.length := by
      rw [List.length_take] at hi
      omega
    rw [List.getElem_take, Vector.getElem_toList, getElem_memcpy]
    by_cases hoff : off ≤ i
    · have hlen : (buffer.toList.take off).length = off := by simp; omega
      rw [if_pos ⟨hoff, hlt⟩, List.getElem_append_right (by omega)]
      simp only [hlen]
      rw [List.getD_eq_getElem _ _ (by omega)]
    · have hlen : i < (buffer.toList.take off).length := by simp; omega
      rw [if_neg (fun h => hoff h.1), List.getElem_append_left hlen, List.getElem_take,
        Vector.getElem_toList]

private theorem bitlen_add (n l : Nat) :
    UInt64.ofNat (8 * l) + UInt64.ofNat n * 8 = UInt64.ofNat (8 * (l + n)) := by
  have height : (8 : UInt64) = UInt64.ofNat 8 := rfl
  rw [height, ← UInt64.ofNat_mul, ← UInt64.ofNat_add]
  congr 1
  ring

/-- The context with `bytes` behind those in its buffer. -/
private def buffered (ctx : sha256_ctx) (bytes : List UInt8) : sha256_ctx :=
  { ctx with
    buffer := memcpy ctx.buffer ctx.buflen bytes
    buflen := ctx.buflen + bytes.length
    bitlen := ctx.bitlen + UInt64.ofNat bytes.length * 8 }

section

variable {m bytes : List UInt8} {ctx : sha256_ctx}

private theorem buffered_bitlen (h : Consumed m ctx) :
    (buffered ctx bytes).bitlen = UInt64.ofNat (8 * (m ++ bytes).length) := by
  rw [buffered, h.bitlen, bitlen_add, List.length_append]

private theorem buffered_buffer (h : Consumed m ctx) (hfit : ctx.buflen + bytes.length ≤ 64) :
    (buffered ctx bytes).buffer.toList.take (ctx.buflen + bytes.length) = rest 64 m ++ bytes := by
  rw [← h.buffer]
  exact take_memcpy ctx.buffer hfit

private theorem consumed_short (h : Consumed m ctx) (hshort : ctx.buflen + bytes.length < 64) :
    Consumed (m ++ bytes) (buffered ctx bytes) := by
  have hrem : m.length % 64 + bytes.length < 64 := h.buflen ▸ hshort
  refine ⟨?_, ?_, ?_, buffered_bitlen h⟩
  · rw [blocks_append_short hrem]
    exact h.state
  · rw [rest_append_short hrem]
    exact buffered_buffer h (by omega)
  · have hlen : (m ++ bytes).length = m.length + bytes.length := List.length_append
    have hbuf : (buffered ctx bytes).buflen = ctx.buflen + bytes.length := rfl
    have hmod := h.buflen
    omega

private theorem chain_snoc (bs : List (List UInt8)) (b : List UInt8) :
    chain (bs ++ [b]) = compress (chain bs) (bytesBits b) := by
  rw [chain, List.foldl_append]
  rfl

private theorem consumed_full (h : Consumed m ctx) (hfull : ctx.buflen + bytes.length = 64) :
    Consumed (m ++ bytes)
      { sha256_transform (buffered ctx bytes) (buffered ctx bytes).buffer with buflen := 0 } := by
  have hrem : m.length % 64 + bytes.length = 64 := h.buflen ▸ hfull
  have hblock : (buffered ctx bytes).buffer.toList = rest 64 m ++ bytes := by
    rw [← buffered_buffer h (by omega), hfull, List.take_of_length_le (by simp)]
  refine ⟨?_, ?_, ?_, buffered_bitlen h⟩
  · have htransform := hashValue_transform (buffered ctx bytes) (buffered ctx bytes).buffer
    rw [blocks_append_full (by omega) hrem, chain_snoc, ← h.state, ← hblock]
    exact htransform
  · rw [rest_append_full (by omega) hrem]
    rfl
  · have hlen : (m ++ bytes).length = m.length + bytes.length := List.length_append
    have hzero : (m.length + bytes.length) % 64 = 0 := by omega
    rw [hlen, hzero]

end

/-- One turn of the loop takes at least one byte, and all it takes goes through the context. -/
private theorem consumed_updateStep {m data : List UInt8} {s : sha256_ctx × Nat}
    (hi : s.2 < data.length) (h : Consumed (m ++ data.take s.2) s.1) :
    s.2 < (updateStep data s).2 ∧ (updateStep data s).2 ≤ data.length ∧
      Consumed (m ++ data.take (updateStep data s).2) (updateStep data s).1 := by
  obtain ⟨ctx, i⟩ := s
  have hlt : ctx.buflen < 64 := h.buflen_lt
  have hleft : i < data.length := hi
  generalize htake : (if 64 - ctx.buflen > data.length - i then data.length - i
    else 64 - ctx.buflen) = take
  have hbounds : 0 < take ∧ take ≤ data.length - i ∧ take ≤ 64 - ctx.buflen := by
    split at htake <;> omega
  obtain ⟨hpos, hle, hroom⟩ := hbounds
  have hlen : ((data.drop i).take take).length = take := by
    rw [List.length_take, List.length_drop]
    omega
  have hall : m ++ data.take (i + take) = (m ++ data.take i) ++ (data.drop i).take take := by
    rw [List.take_add, List.append_assoc]
  have hstep : updateStep data (ctx, i) =
      (if ctx.buflen + take = 64 then
        { sha256_transform (buffered ctx ((data.drop i).take take))
            (buffered ctx ((data.drop i).take take)).buffer with buflen := 0 }
       else buffered ctx ((data.drop i).take take), i + take) := by
    simp only [updateStep, htake, buffered, hlen]
  rw [hstep]
  refine ⟨Nat.lt_add_of_pos_right hpos, by omega, ?_⟩
  simp only [hall]
  by_cases hfull : ctx.buflen + take = 64
  · rw [if_pos hfull]
    exact consumed_full h (by rw [hlen]; exact hfull)
  · rw [if_neg hfull]
    exact consumed_short h (by rw [hlen]; omega)

/-- `sha256_update` returns, and its bytes have gone through the context. -/
theorem consumed_update {m data : List UInt8} {ctx : sha256_ctx} {fuel : Nat}
    (hfuel : data.length < fuel) (h : Consumed m ctx) :
    ∃ ctx', sha256_update fuel ctx data = some ctx' ∧ Consumed (m ++ data) ctx' := by
  have hbody : ∀ s : sha256_ctx × Nat,
      (s.2 ≤ data.length ∧ Consumed (m ++ data.take s.2) s.1) →
      decide (s.2 < data.length) = true →
      ∃ t, some (updateStep data s) = some t ∧
        (t.2 ≤ data.length ∧ Consumed (m ++ data.take t.2) t.1) ∧
        data.length - t.2 < data.length - s.2 := by
    intro s hinv hc
    have hi : s.2 < data.length := of_decide_eq_true hc
    obtain ⟨hlt, hle, hcons⟩ := consumed_updateStep hi hinv.2
    exact ⟨_, rfl, ⟨hle, hcons⟩, by omega⟩
  have hstart : (ctx, 0).2 ≤ data.length ∧ Consumed (m ++ data.take (ctx, 0).2) (ctx, 0).1 :=
    ⟨Nat.zero_le _, by simpa using h⟩
  obtain ⟨s, hs, ⟨hle, hcons⟩, hend⟩ :=
    Loops.whileLoop_total (fun s : sha256_ctx × Nat =>
      s.2 ≤ data.length ∧ Consumed (m ++ data.take s.2) s.1)
      (fun s => data.length - s.2) hbody hstart hfuel
  have hall : data.length ≤ s.2 := Nat.not_lt.mp (of_decide_eq_false hend)
  rw [List.take_of_length_le hall] at hcons
  exact ⟨s.1, by rw [sha256_update, hs]; rfl, hcons⟩

theorem consumed_updates {m : List UInt8} {chunks : List (List UInt8)} {ctx : sha256_ctx}
    {fuel : Nat} (hfuel : chunks.flatten.length < fuel) (h : Consumed m ctx) :
    ∃ ctx', sha256_updates fuel ctx chunks = some ctx' ∧ Consumed (m ++ chunks.flatten) ctx' := by
  induction chunks generalizing m ctx with
  | nil => exact ⟨ctx, rfl, by simpa using h⟩
  | cons data chunks ih =>
    rw [List.flatten_cons, List.length_append] at hfuel
    have hdata : data.length < fuel := by omega
    obtain ⟨ctx₁, hupdate, h₁⟩ := consumed_update hdata h
    obtain ⟨ctx₂, hrest, h₂⟩ := ih (by omega) h₁
    refine ⟨ctx₂, ?_, by rw [List.flatten_cons, ← List.append_assoc]; exact h₂⟩
    rw [sha256_updates, List.foldlM_cons, hupdate]
    exact hrest

end Stream

section Final

/-- The padding loop ends after fewer than 64 zero bytes, at the first buffer of 56 bytes. -/
private theorem consumed_padLoop {m : List UInt8} {ctx : sha256_ctx} {fuel : Nat}
    (hfuel : 64 ≤ fuel) (h : Consumed m ctx) :
    ∃ z ctx', padLoop fuel ctx = some ctx' ∧ z < 64 ∧ (m.length + z) % 64 = 56 ∧
      Consumed (m ++ List.replicate z 0x00) ctx' := by
  have hbody : ∀ c : sha256_ctx,
      (∃ z, z + (120 - c.buflen) % 64 < 64 ∧ Consumed (m ++ List.replicate z 0x00) c) →
      decide (c.buflen ≠ 56) = true →
      ∃ c', sha256_update fuel c [0x00] = some c' ∧
        (∃ z, z + (120 - c'.buflen) % 64 < 64 ∧ Consumed (m ++ List.replicate z 0x00) c') ∧
        (120 - c'.buflen) % 64 < (120 - c.buflen) % 64 := by
    rintro c ⟨z, hz, hc⟩ hne
    have hne' : c.buflen ≠ 56 := of_decide_eq_true hne
    have hone : [(0x00 : UInt8)].length < fuel := by
      rw [List.length_singleton]
      omega
    obtain ⟨c', hupdate, hc'⟩ := consumed_update hone hc
    have hmore : m ++ List.replicate z 0x00 ++ [0x00] = m ++ List.replicate (z + 1) 0x00 := by
      rw [List.append_assoc, ← List.replicate_succ']
    have hlen : (m ++ List.replicate z (0x00 : UInt8) ++ [0x00]).length =
        (m ++ List.replicate z (0x00 : UInt8)).length + 1 := List.length_append
    have hbefore := hc.buflen
    have hafter := hc'.buflen
    rw [hmore] at hc'
    exact ⟨c', hupdate, ⟨z + 1, by omega, hc'⟩, by omega⟩
  have hstart : ∃ z, z + (120 - ctx.buflen) % 64 < 64 ∧
      Consumed (m ++ List.replicate z 0x00) ctx :=
    ⟨0, by omega, by simpa using h⟩
  obtain ⟨ctx', hloop, ⟨z, hz, hc⟩, hend⟩ :=
    Loops.whileLoop_total _ (fun c : sha256_ctx => (120 - c.buflen) % 64) hbody hstart
      (by omega : (120 - ctx.buflen) % 64 < fuel)
  have h56 : ctx'.buflen = 56 := by simpa using hend
  have hlen : (m ++ List.replicate z (0x00 : UInt8)).length = m.length + z := by simp
  have hbuf := hc.buflen
  exact ⟨z, ctx', hloop, by omega, by omega, hc⟩

private theorem lenbytes_length (bitlen : UInt64) : (lenbytes bitlen).length = 8 := by
  simp [lenbytes]

private theorem bytesBits_lenbytes (n : Nat) :
    bytesBits (lenbytes (UInt64.ofNat n)) = natBits 64 n := by
  have hbytes : natBits 64 (n % 2 ^ 64) =
      (List.range 8).flatMap fun i => natBits 8 ((n % 2 ^ 64) >>> (8 * (8 - 1 - i))) :=
    natBits_bytes 8 _
  rw [← natBits_mod 64 n, hbytes, bytesBits, lenbytes, List.flatMap_map]
  refine List.flatMap_congr fun i hi => ?_
  have hlt : i < 8 := List.mem_range.mp hi
  have hshift : (UInt64.ofNat (56 - 8 * i)).toNat % 64 = 8 * (8 - 1 - i) := by
    rw [UInt64.toNat_ofNat']
    omega
  rw [UInt64.toNat_toUInt8, UInt64.toNat_shiftRight, UInt64.toNat_ofNat', hshift]
  exact natBits_mod 8 _

private theorem bytesBits_replicate (z : Nat) :
    bytesBits (List.replicate z 0x00) = List.replicate (8 * z) false := by
  induction z with
  | zero => rfl
  | succ z ih =>
    have hzero : natBits 8 (0x00 : UInt8).toNat = List.replicate 8 false := by decide
    have hsum : 8 * (z + 1) = 8 + 8 * z := by ring
    rw [List.replicate_succ, bytesBits, List.flatMap_cons, ← bytesBits, ih, hzero, hsum,
      List.replicate_add]

/-- The bytes that `sha256_final` hashes are the padded message of the standard. -/
private theorem bytesBits_padded {m : List UInt8} {z : Nat} (hz : z < 64)
    (hmod : (m.length + 1 + z) % 64 = 56) :
    bytesBits (m ++ [0x80] ++ List.replicate z 0x00 ++ lenbytes (UInt64.ofNat (8 * m.length))) =
      Fips180.pad (bytesBits m) := by
  have hlen : (bytesBits m).length = 8 * m.length := by
    rw [bytesBits, length_flatMap_const natBits_byte_length, Nat.mul_comm]
  have hone : bytesBits [0x80] = [true] ++ List.replicate 7 false := by decide
  have hzeros : Fips180.zeroBits (bytesBits m).length = 7 + 8 * z := by
    have hbits : (8 * m.length + 1 + (7 + 8 * z)) % 512 = 448 := by omega
    obtain ⟨hsolves, hleast⟩ := Fips180.zeroBits_least (8 * m.length)
    have hle := hleast _ hbits
    rw [hlen]
    omega
  rw [bytesBits_append, bytesBits_append, bytesBits_append, bytesBits_lenbytes,
    bytesBits_replicate, hone, Fips180.pad, hzeros, hlen, List.replicate_add]
  simp only [List.append_assoc]

private theorem bytesBits_digest (s : Vector UInt32 8) :
    bytesBits (s.toList.flatMap digestBytes) =
      (s.map UInt32.toBitVec).toList.flatMap fun H => natBits 32 H.toNat := by
  have hword : ∀ x : UInt32, bytesBits (digestBytes x) = natBits 32 x.toNat := by
    intro x
    have hbytes : natBits 32 x.toNat =
        (List.range 4).flatMap fun i => natBits 8 (x.toNat >>> (8 * (4 - 1 - i))) :=
      natBits_bytes 4 _
    have hrange : List.range 4 = [0, 1, 2, 3] := rfl
    have hbyte : ∀ y : UInt32, natBits 8 y.toUInt8.toNat = natBits 8 y.toNat := fun y => by
      rw [UInt32.toNat_toUInt8]
      exact natBits_mod 8 _
    rw [hbytes, hrange]
    simp only [bytesBits, digestBytes, List.flatMap_cons, List.flatMap_nil, hbyte,
      UInt32.toNat_shiftRight]
    rfl
  rw [bytesBits, List.flatMap_assoc, Vector.toList_map, List.flatMap_map]
  exact List.flatMap_congr fun x _ => hword x

/-- The last transform, of a buffer of 56 bytes and the eight bytes of the length. -/
private theorem hashValue_last {m tail : List UInt8} {ctx : sha256_ctx} (h : Consumed m ctx)
    (hbuf : ctx.buflen = 56) (htail : tail.length = 8) :
    hashValue (sha256_transform { ctx with buffer := memcpy ctx.buffer 56 tail }
      (memcpy ctx.buffer 56 tail)) = chain (blocks 64 (m ++ tail)) := by
  have hrem : m.length % 64 + tail.length = 64 := by
    rw [← h.buflen, hbuf, htail]
  have hbuffer : ctx.buffer.toList.take 56 = rest 64 m := by
    rw [← hbuf]
    exact h.buffer
  have htake : (memcpy ctx.buffer 56 tail).toList.take (56 + tail.length) =
      ctx.buffer.toList.take 56 ++ tail := take_memcpy ctx.buffer (by omega)
  have hwhole : (memcpy ctx.buffer 56 tail).toList.length ≤ 56 + tail.length := by
    rw [Vector.length_toList]
    omega
  have hblock : (memcpy ctx.buffer 56 tail).toList = rest 64 m ++ tail := by
    rw [← List.take_of_length_le hwhole, htake, hbuffer]
  have hsame : hashValue { ctx with buffer := memcpy ctx.buffer 56 tail } = hashValue ctx :=
    hashValue_congr rfl
  rw [hashValue_transform, hblock, hsame, blocks_append_full (by omega) hrem, chain_snoc,
    ← h.state]

private theorem chain_padded {m padded : List UInt8}
    (h : bytesBits padded = Fips180.pad (bytesBits m)) :
    chain (blocks 64 padded) = Fips180.hash (bytesBits m) := by
  have hblocks : blocks (64 * 8) (bytesBits padded) = (blocks 64 padded).map bytesBits :=
    blocks_flatMap (by omega) natBits_byte_length 64 padded
  rw [Fips180.hash, ← h, hblocks, List.foldl_map, chain]

/-- `sha256_final` returns the digest of the standard for the bytes that went in. -/
private theorem final_of_consumed {m : List UInt8} {ctx : sha256_ctx} {fuel : Nat}
    (hfuel : 64 ≤ fuel) (hm : m.length < 2 ^ 61) (h : Consumed m ctx) :
    ∃ ctx' digest, sha256_final fuel ctx = some (ctx', digest) ∧
      Fips180.sha256 (bytesBits m) = some (bytesBits digest) := by
  have hone : [(0x80 : UInt8)].length < fuel := by
    rw [List.length_singleton]
    omega
  obtain ⟨ctx₁, hupdate, h₁⟩ := consumed_update hone h
  obtain ⟨z, ctx₂, hloop, hz, hmod, h₂⟩ := consumed_padLoop hfuel h₁
  rw [List.length_append, List.length_singleton] at hmod
  have hbuf : ctx₂.buflen = 56 := by
    rw [h₂.buflen, List.length_append, List.length_append, List.length_replicate]
    exact hmod
  have hlast := hashValue_last h₂ hbuf (lenbytes_length ctx.bitlen)
  rw [h.bitlen, chain_padded (bytesBits_padded hz hmod), ← h.bitlen] at hlast
  generalize hlastCtx : sha256_transform
    { ctx₂ with buffer := memcpy ctx₂.buffer 56 (lenbytes ctx.bitlen) }
    (memcpy ctx₂.buffer 56 (lenbytes ctx.bitlen)) = ctx₃ at hlast
  have hfinal : sha256_final fuel ctx = some (ctx₃, ctx₃.state.toList.flatMap digestBytes) := by
    simp only [sha256_final, hupdate, hloop, Option.bind_eq_bind, Option.bind_some, hlastCtx,
      Option.pure_def]
  have hlen : (bytesBits m).length < 2 ^ 64 := by
    rw [bytesBits, length_flatMap_const natBits_byte_length]
    omega
  refine ⟨ctx₃, _, hfinal, ?_⟩
  rw [Fips180.sha256, if_pos hlen, ← hlast, bytesBits_digest, hashValue]

/-- SHA-256 of the source is that of the standard, however the message is cut into calls. -/
theorem sha256_fips (ctx : sha256_ctx) (chunks : List (List UInt8))
    (hlen : chunks.flatten.length < 2 ^ 61) :
    ∃ enough, ∀ fuel ≥ enough,
      (∀ calls, calls <+: chunks → ∃ ctx', sha256_updates fuel (sha256_init ctx) calls =
        some ctx' ∧ ctx'.buflen < 64) ∧
      ∃ ctx' ctx'' digest, sha256_updates fuel (sha256_init ctx) chunks = some ctx' ∧
        sha256_final fuel ctx' = some (ctx'', digest) ∧
        Fips180.sha256 (bytesBits chunks.flatten) = some (bytesBits digest) := by
  refine ⟨chunks.flatten.length + 64, fun fuel hfuel => ⟨fun calls hcalls => ?_, ?_⟩⟩
  · obtain ⟨later, rfl⟩ := hcalls
    rw [List.flatten_append, List.length_append] at hfuel
    have hcallsFuel : calls.flatten.length < fuel := by omega
    obtain ⟨ctx', hrun, hcons⟩ := consumed_updates hcallsFuel (consumed_init ctx)
    exact ⟨ctx', hrun, hcons.buflen_lt⟩
  · have hchunksFuel : chunks.flatten.length < fuel := by omega
    obtain ⟨ctx', hrun, hcons⟩ := consumed_updates hchunksFuel (consumed_init ctx)
    rw [List.nil_append] at hcons
    have hfinalFuel : 64 ≤ fuel := by omega
    obtain ⟨ctx'', digest, hfinal, hdigest⟩ := final_of_consumed hfinalFuel hlen hcons
    exact ⟨ctx', ctx'', digest, hrun, hfinal, hdigest⟩

/-- A context before its first use, all zero. -/
def unused : sha256_ctx :=
  ⟨Vector.replicate 8 0, 0, Vector.replicate 64 0, 0⟩

/-- "abc" in two calls with an empty one between them. -/
theorem sha256_fips_abc :
    ∃ enough, ∀ fuel ≥ enough,
      (∀ calls, calls <+: [[0x61, 0x62], [], [0x63]] → ∃ ctx',
        sha256_updates fuel (sha256_init unused) calls = some ctx' ∧ ctx'.buflen < 64) ∧
      ∃ ctx' ctx'' digest,
        sha256_updates fuel (sha256_init unused) [[0x61, 0x62], [], [0x63]] = some ctx' ∧
        sha256_final fuel ctx' = some (ctx'', digest) ∧
        Fips180.sha256 (bytesBits [0x61, 0x62, 0x63]) = some (bytesBits digest) :=
  sha256_fips unused [[0x61, 0x62], [], [0x63]] (by decide)

end Final

end KernelAv.Daemon.Sha256Correct
