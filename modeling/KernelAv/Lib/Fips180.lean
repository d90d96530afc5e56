import KernelAv.Lib.BitStrings
import KernelAv.Lib.Blocks
import Mathlib.Data.Nat.NthRoot.Defs
import Mathlib.Data.Nat.Prime.Basic
import Mathlib.Tactic.Linarith

/- digest: SHA-256 as FIPS 180-4 defines it, on bit strings of any length. -/

set_option autoImplicit false
set_option relaxedAutoImplicit false

namespace KernelAv.Lib.Fips180

open BitStrings (natBits bitsVal)
open Blocks (blocks)

abbrev Word := BitVec 32

/-! Section 4.1.2: the functions on words. -/

def SHR (n : Nat) (x : Word) : Word := x >>> n

def ROTR (n : Nat) (x : Word) : Word := (x >>> n) ||| (x <<< (32 - n))

def Ch (x y z : Word) : Word := (x &&& y) ^^^ (~~~x &&& z)

def Maj (x y z : Word) : Word := (x &&& y) ^^^ (x &&& z) ^^^ (y &&& z)

def Sigma0 (x : Word) : Word := ROTR 2 x ^^^ ROTR 13 x ^^^ ROTR 22 x

def Sigma1 (x : Word) : Word := ROTR 6 x ^^^ ROTR 11 x ^^^ ROTR 25 x

def sigma0 (x : Word) : Word := ROTR 7 x ^^^ ROTR 18 x ^^^ SHR 3 x

def sigma1 (x : Word) : Word := ROTR 17 x ^^^ ROTR 19 x ^^^ SHR 10 x

/-! Sections 4.2.2 and 5.3.3: the constants, by what the standard says they are. -/

/-- The first sixty-four prime numbers. -/
def primes : List Nat := (List.range 312).filter fun p => decide p.Prime

/-- The first 32 bits of the fractional part of the `n`-th root of `p`. -/
def rootBits (n p : Nat) : Word := BitVec.ofNat 32 (Nat.nthRoot n (p * 2 ^ (32 * n)))

/-- The constant of round `t`, from the cube root of a prime. -/
def K (t : Nat) : Word := rootBits 3 (primes.getD t 0)

/-- The initial hash value, from the square roots of the first eight primes. -/
def H0 : Vector Word 8 := Vector.ofFn fun i : Fin 8 => rootBits 2 (primes.getD i 0)

/-! Section 5.1.1: padding. -/

/-- The number of zero bits, the least `k` with `l + 1 + k ≡ 448` modulo 512. -/
def zeroBits (l : Nat) : Nat := (448 + 511 * (l + 1)) % 512

def pad (M : List Bool) : List Bool :=
  M ++ [true] ++ List.replicate (zeroBits M.length) false ++ natBits 64 M.length

/-! Section 6.2.2: the computation. -/

/-- Word `j` of a message block. -/
def wordAt (block : List Bool) (j : Nat) : Word :=
  BitVec.ofNat 32 (bitsVal ((block.drop (j * 32)).take 32))

/-- The message schedule. -/
def W (block : List Bool) (t : Nat) : Word :=
  if t < 16 then wordAt block t
  else sigma1 (W block (t - 2)) + W block (t - 7) + sigma0 (W block (t - 15)) + W block (t - 16)
termination_by t

/-- The eight working variables. -/
structure Working where
  a : Word
  b : Word
  c : Word
  d : Word
  e : Word
  f : Word
  g : Word
  h : Word

def initial (H : Vector Word 8) : Working :=
  ⟨H.get 0, H.get 1, H.get 2, H.get 3, H.get 4, H.get 5, H.get 6, H.get 7⟩

def T1 (v : Working) (k w : Word) : Word := v.h + Sigma1 v.e + Ch v.e v.f v.g + k + w

def T2 (v : Working) : Word := Sigma0 v.a + Maj v.a v.b v.c

def round (v : Working) (k w : Word) : Working :=
  ⟨T1 v k w + T2 v, v.a, v.b, v.c, v.d + T1 v k w, v.e, v.f, v.g⟩

/-- The working variables before round `t`. -/
def working (H : Vector Word 8) (block : List Bool) : Nat → Working
  | 0 => initial H
  | t + 1 => round (working H block t) (K t) (W block t)

def addTo (H : Vector Word 8) (v : Working) : Vector Word 8 :=
  #v[v.a + H.get 0, v.b + H.get 1, v.c + H.get 2, v.d + H.get 3,
    v.e + H.get 4, v.f + H.get 5, v.g + H.get 6, v.h + H.get 7]

/-- The hash value after a block. -/
def compress (H : Vector Word 8) (block : List Bool) : Vector Word 8 :=
  addTo H (working H block 64)

/-- The hash value of a message, block by block from the initial one. -/
def hash (M : List Bool) : Vector Word 8 :=
  (blocks 512 (pad M)).foldl compress H0

/-- The 256-bit message digest of a message that the standard covers. -/
def sha256 (M : List Bool) : Option (List Bool) :=
  if M.length < 2 ^ 64 then some ((hash M).toList.flatMap fun H => natBits 32 H.toNat) else none

section

/-- Below 312 a divisor below 18 is enough to tell that a number is not prime. -/
private theorem prime_iff_of_lt {p : Nat} (hp : p < 312) :
    p.Prime ↔ 2 ≤ p ∧ ∀ m ∈ List.range 18, 2 ≤ m → m < p → ¬ m ∣ p := by
  constructor
  · intro h
    exact ⟨h.two_le, fun m _ h2 hlt => (Nat.prime_def_lt'.mp h).2 m h2 hlt⟩
  · rintro ⟨h2, hall⟩
    refine Nat.prime_def_le_sqrt.mpr ⟨h2, fun m hm hle => ?_⟩
    have hsq : m * m ≤ p := Nat.le_sqrt.mp hle
    have hm18 : m < 18 := by nlinarith
    have hmp : m < p := by nlinarith
    exact hall m (List.mem_range.mpr hm18) hm hmp

/-- The list of primes by trial division. -/
theorem primes_eq : primes = (List.range 312).filter
    (fun p => decide (2 ≤ p ∧ ∀ m ∈ List.range 18, 2 ≤ m → m < p → ¬ m ∣ p)) := by
  refine List.filter_congr fun p hp => ?_
  exact decide_eq_decide.mpr (prime_iff_of_lt (List.mem_range.mp hp))

/-- The count of zero bits solves the congruence of the standard, and no smaller one does. -/
theorem zeroBits_least (l : Nat) : (l + 1 + zeroBits l) % 512 = 448 ∧
    ∀ k, (l + 1 + k) % 512 = 448 → zeroBits l ≤ k := by
  rw [zeroBits]
  refine ⟨by omega, fun k hk => by omega⟩

end

end KernelAv.Lib.Fips180
