/- digest: The text of a TLSH digest and the digest of a text undo each other. -/

import KernelAv.Daemon.Tlsh

set_option autoImplicit false
set_option relaxedAutoImplicit false

namespace KernelAv.Daemon.TlshCodec

open KernelAv.Lib
open KernelAv.Lib.CText
open KernelAv.Daemon.Tlsh

/-- A hexadecimal digit, of either case. -/
def isHexDigit (b : UInt8) : Bool := 48 ≤ b && b ≤ 57 || 65 ≤ b && b ≤ 70 || 97 ≤ b && b ≤ 102

/-- Upper case, of ASCII letters. -/
def toupper (b : UInt8) : UInt8 := if 97 ≤ b ∧ b ≤ 122 then b - 32 else b

section Digits

/-- What holds of the 256 bytes holds of all. -/
theorem forall_byte {p : UInt8 → Prop} (h : ∀ n : Fin 256, p (UInt8.ofNat n)) (b : UInt8) :
    p b := by
  have hb := h ⟨b.toNat, b.toNat_lt⟩
  rwa [UInt8.ofNat_toNat] at hb

/-- Bytes of the same eight bits are the same. -/
private theorem eq_of_bits {a b : UInt8}
    (h0 : a.toBitVec.getLsbD 0 = b.toBitVec.getLsbD 0)
    (h1 : a.toBitVec.getLsbD 1 = b.toBitVec.getLsbD 1)
    (h2 : a.toBitVec.getLsbD 2 = b.toBitVec.getLsbD 2)
    (h3 : a.toBitVec.getLsbD 3 = b.toBitVec.getLsbD 3)
    (h4 : a.toBitVec.getLsbD 4 = b.toBitVec.getLsbD 4)
    (h5 : a.toBitVec.getLsbD 5 = b.toBitVec.getLsbD 5)
    (h6 : a.toBitVec.getLsbD 6 = b.toBitVec.getLsbD 6)
    (h7 : a.toBitVec.getLsbD 7 = b.toBitVec.getLsbD 7) : a = b := by
  apply UInt8.eq_of_toBitVec_eq
  apply BitVec.eq_of_getLsbD_eq
  intro i hi
  have hcases : i = 0 ∨ i = 1 ∨ i = 2 ∨ i = 3 ∨ i = 4 ∨ i = 5 ∨ i = 6 ∨ i = 7 := by omega
  rcases hcases with rfl | rfl | rfl | rfl | rfl | rfl | rfl | rfl <;> assumption

/-- A value below 16 is its own lower half. -/
private theorem low_half {q : UInt8} (h : q.toNat < 16) : q &&& 0x0F = q := by
  apply UInt8.toNat_inj.mp
  rw [UInt8.toNat_and]
  exact (Nat.and_two_pow_sub_one_eq_mod q.toNat 4).trans (Nat.mod_eq_of_lt h)

private theorem low_lt (b : UInt8) : (b &&& 0x0F).toNat < 16 := by
  rw [UInt8.toNat_and]
  exact Nat.lt_of_le_of_lt Nat.and_le_right (by decide)

private theorem high_lt (b : UInt8) : (b >>> 4).toNat < 16 := by
  have hb := b.toNat_lt
  simp only [UInt8.toNat_shiftRight, Nat.shiftRight_eq_div_pow]
  simp
  omega

private theorem hex_nibble_upper {n : UInt8} (h : n.toNat < 16) :
    hex_nibble (hex_upper.getD n.toNat 0) = some n := by
  have hall : ∀ m : Fin 16, hex_nibble (hex_upper.getD m 0) = some (UInt8.ofNat m) := by decide
  have hn := hall ⟨n.toNat, h⟩
  rwa [UInt8.ofNat_toNat] at hn

private theorem pairByte_hexPair (b : UInt8) :
    pairByte (hexPair b).1 (hexPair b).2 = some b := by
  simp only [pairByte, hexPair, hex_nibble_upper (high_lt b), hex_nibble_upper (low_lt b),
    Option.bind_eq_bind, Option.bind_some, Option.some.injEq]
  apply eq_of_bits <;> simp

private theorem hex_nibble_isSome (b : UInt8) :
    (hex_nibble b).isSome = isHexDigit b := by
  unfold hex_nibble isHexDigit
  split_ifs with hdigit hupper hlower <;> simp_all

/-- The value of a digit is below 16, and its digit is the digit in upper case. -/
private theorem hex_nibble_some {b v : UInt8} (h : hex_nibble b = some v) :
    v.toNat < 16 ∧ hex_upper.getD v.toNat 0 = toupper b := by
  have hall : ∀ b : UInt8, ∀ v ∈ hex_nibble b,
      v.toNat < 16 ∧ hex_upper.getD v.toNat 0 = toupper b :=
    forall_byte (by decide +kernel)
  exact hall b v h

private theorem halves_back {hi lo : UInt8} (hhi : hi.toNat < 16) (hlo : lo.toNat < 16) :
    ((hi <<< 4) ||| lo) >>> 4 = hi ∧ ((hi <<< 4) ||| lo) &&& 0x0F = lo := by
  rw [← low_half hhi, ← low_half hlo]
  constructor
  · apply eq_of_bits <;> simp
  · apply eq_of_bits <;> simp

private theorem hexPair_of_pairByte (x y b : UInt8) (h : pairByte x y = some b) :
    hexPair b = (toupper x, toupper y) := by
  obtain ⟨hi, hx, hrest⟩ := Option.bind_eq_some_iff.mp h
  obtain ⟨lo, hy, hb⟩ := Option.bind_eq_some_iff.mp hrest
  obtain rfl := Option.some.inj hb
  obtain ⟨hhi, hupper⟩ := hex_nibble_some hx
  obtain ⟨hlo, hupper'⟩ := hex_nibble_some hy
  obtain ⟨hback, hback'⟩ := halves_back hhi hlo
  rw [hexPair, hback, hback', hupper, hupper']

private theorem pairByte_isSome_iff (x y : UInt8) :
    (pairByte x y).isSome = true ↔ isHexDigit x = true ∧ isHexDigit y = true := by
  rw [← hex_nibble_isSome, ← hex_nibble_isSome, pairByte]
  cases hex_nibble x with
  | none => simp
  | some hi =>
    cases hex_nibble y with
    | none => simp
    | some lo => simp

end Digits

section Arrays

private theorem swap_swap (b : UInt8) : swap_byte (swap_byte b) = b := by
  apply eq_of_bits <;> simp [swap_byte]

/-- A byte is put together again from its two halves. -/
private theorem halves_join (b : UInt8) :
    (b &&& (0x0F : UInt8)) ||| (((b >>> 4) &&& (0x0F : UInt8)) <<< 4) = b := by
  apply eq_of_bits <;> simp

private theorem halves_split {q1 q2 : UInt8} (h1 : q1 < 16) (h2 : q2 < 16) :
    (q1 ||| (q2 <<< 4)) &&& 0x0F = q1 ∧ ((q1 ||| (q2 <<< 4)) >>> 4) &&& 0x0F = q2 := by
  rw [← low_half h1, ← low_half h2]
  constructor
  · apply eq_of_bits <;> simp
  · apply eq_of_bits <;> simp

theorem toRaw_length (d : tlsh_digest) : (toRaw d).length = 3 + TLSH_CODE_SIZE := by
  simp only [toRaw, List.length_cons, List.length_ofFn]
  omega

private theorem toRaw_code (d : tlsh_digest) {i : Nat} (hi : i < TLSH_CODE_SIZE) :
    (toRaw d).getD (3 + i) 0 = d.tmp_code[TLSH_CODE_SIZE - 1 - i] := by
  have hshift : 3 + i = i + 1 + 1 + 1 := by omega
  rw [toRaw, hshift, List.getD_cons_succ, List.getD_cons_succ, List.getD_cons_succ,
    List.getD_eq_getElem?_getD, List.getElem?_ofFn, dif_pos hi]
  rfl

theorem ofRaw_toRaw {d : tlsh_digest} (h1 : d.Q1ratio < 16) (h2 : d.Q2ratio < 16) :
    ofRaw (toRaw d) = d := by
  obtain ⟨hq1, hq2⟩ := halves_split h1 h2
  have hcode : (Vector.ofFn fun i : Fin TLSH_CODE_SIZE =>
      (toRaw d).getD (3 + (TLSH_CODE_SIZE - 1 - i)) 0) = d.tmp_code := by
    ext i hi
    have hback : TLSH_CODE_SIZE - 1 - (TLSH_CODE_SIZE - 1 - i) = i := by omega
    rw [Vector.getElem_ofFn, toRaw_code d (by omega)]
    simp only [hback]
  have hchecksum : swap_byte ((toRaw d).getD 0 0) = d.checksum := swap_swap d.checksum
  have hlvalue : swap_byte ((toRaw d).getD 1 0) = d.Lvalue := swap_swap d.Lvalue
  have hratios : swap_byte ((toRaw d).getD 2 0) = d.Q1ratio ||| (d.Q2ratio <<< 4) := swap_swap _
  unfold ofRaw
  rw [hcode, hchecksum, hlvalue, hratios]
  dsimp only
  rw [hq1, hq2]

theorem toRaw_ofRaw {raw : List UInt8} (h : raw.length = 3 + TLSH_CODE_SIZE) :
    toRaw (ofRaw raw) = raw := by
  match raw, h with
  | [], h | [_], h | [_, _], h =>
    simp only [List.length_cons, List.length_nil] at h
    unfold TLSH_CODE_SIZE at h
    omega
  | a :: b :: c :: code, h =>
    have hlen : code.length = TLSH_CODE_SIZE := by
      simp only [List.length_cons] at h
      omega
    have hcode : (List.ofFn fun i : Fin TLSH_CODE_SIZE =>
        (ofRaw (a :: b :: c :: code)).tmp_code[TLSH_CODE_SIZE - 1 - i]) = code := by
      apply List.ext_getElem
      · rw [List.length_ofFn, hlen]
      · intro i hi hi'
        have hback : TLSH_CODE_SIZE - 1 - (TLSH_CODE_SIZE - 1 - i) = i := by omega
        have hshift : 3 + i = i + 1 + 1 + 1 := by omega
        have hget : (a :: b :: c :: code).getD (3 + i) 0 = code[i] := by
          rw [hshift, List.getD_cons_succ, List.getD_cons_succ, List.getD_cons_succ,
            List.getD_eq_getElem?_getD, List.getElem?_eq_getElem hi', Option.getD_some]
        simp only [List.getElem_ofFn, ofRaw, Vector.getElem_ofFn, hback, hget]
    rw [toRaw, hcode]
    simp only [ofRaw, List.getD_cons_zero, List.getD_cons_succ, swap_swap, halves_join]

end Arrays

private theorem read_length {s : Bytes} {raw : List UInt8}
    (hlen : s.length = TLSH_DIGEST_HEXLEN) (hread : PairCodes.read pairByte s = some raw) :
    raw.length = 3 + TLSH_CODE_SIZE := by
  have htwice := PairCodes.read_length hread
  unfold TLSH_DIGEST_HEXLEN at hlen
  unfold TLSH_CODE_SIZE
  omega

/-- A text is accepted when it can be read. -/
private theorem tlsh_from_hex_eq_some {s : Bytes} {d : tlsh_digest} :
    tlsh_from_hex s = some d ↔ s.length = TLSH_DIGEST_HEXLEN ∧
      ∃ raw, PairCodes.read pairByte s = some raw ∧ ofRaw raw = d := by
  unfold tlsh_from_hex
  split
  · rename_i hlen
    exact iff_of_false (fun h => by cases h) fun h => hlen h.1
  · rename_i hlen
    rw [Option.map_eq_some_iff]
    exact (and_iff_right (not_not.mp hlen)).symm

/-- What is written is read, whatever its ratios. -/
theorem from_hex_written (d : tlsh_digest) :
    tlsh_from_hex (tlsh_to_hex d) = some (ofRaw (toRaw d)) := by
  rw [tlsh_from_hex_eq_some]
  refine ⟨?_, toRaw d, PairCodes.read_write pairByte_hexPair _, rfl⟩
  rw [tlsh_to_hex, PairCodes.write_length, toRaw_length]
  rfl

theorem from_hex_to_hex {d : tlsh_digest} (h1 : d.Q1ratio < 16) (h2 : d.Q2ratio < 16) :
    tlsh_from_hex (tlsh_to_hex d) = some d := by
  rw [from_hex_written, ofRaw_toRaw h1 h2]

/-- The ratios of a digest that was read have four bits. -/
theorem from_hex_ratios {s : Bytes} {d : tlsh_digest} (h : tlsh_from_hex s = some d) :
    d.Q1ratio < 16 ∧ d.Q2ratio < 16 := by
  obtain ⟨-, raw, -, rfl⟩ := tlsh_from_hex_eq_some.mp h
  exact ⟨low_lt _, low_lt _⟩

theorem from_hex_accepts (s : Bytes) : (∃ d, tlsh_from_hex s = some d) ↔
    s.length = TLSH_DIGEST_HEXLEN ∧ ∀ b ∈ s, isHexDigit b = true := by
  have hreads := PairCodes.read_isSome_iff pairByte_isSome_iff s
  constructor
  · rintro ⟨d, hd⟩
    obtain ⟨hlen, raw, hread, -⟩ := tlsh_from_hex_eq_some.mp hd
    exact ⟨hlen, (hreads.mp (Option.isSome_of_mem hread)).2⟩
  · rintro ⟨hlen, hdigits⟩
    have heven : 2 ∣ s.length := by
      rw [hlen]
      decide
    obtain ⟨raw, hread⟩ := Option.isSome_iff_exists.mp (hreads.mpr ⟨heven, hdigits⟩)
    exact ⟨ofRaw raw, tlsh_from_hex_eq_some.mpr ⟨hlen, raw, hread, rfl⟩⟩

theorem to_hex_from_hex {s : Bytes} {d : tlsh_digest} (h : tlsh_from_hex s = some d) :
    tlsh_to_hex d = s.map toupper := by
  obtain ⟨hlen, raw, hread, rfl⟩ := tlsh_from_hex_eq_some.mp h
  rw [tlsh_to_hex, toRaw_ofRaw (read_length hlen hread)]
  exact PairCodes.write_read hexPair_of_pairByte hread

/-- Digests and their texts: what is written is read back, exactly the texts of 70 hexadecimal
digits are accepted, and what was read of one is written as the same text in upper case. -/
theorem tlsh_hex_codec :
    (∀ d : tlsh_digest, d.Q1ratio < 16 → d.Q2ratio < 16 →
      tlsh_from_hex (tlsh_to_hex d) = some d) ∧
    ∀ s : Bytes,
      ((∃ d, tlsh_from_hex s = some d) ↔
        s.length = TLSH_DIGEST_HEXLEN ∧ ∀ b ∈ s, isHexDigit b = true) ∧
      ∀ d, tlsh_from_hex s = some d → tlsh_to_hex d = s.map toupper :=
  ⟨fun _ => from_hex_to_hex, fun s => ⟨from_hex_accepts s, fun _ => to_hex_from_hex⟩⟩

/-- A digest whose halves and ends all differ. -/
example : tlsh_to_hex ⟨0x12, 0x34, 5, 6, Vector.ofFn fun i => UInt8.ofNat i⟩ =
    lit "2143561F1E1D1C1B1A191817161514131211100F0E0D0C0B0A09080706050403020100" := by
  decide +kernel

end KernelAv.Daemon.TlshCodec
