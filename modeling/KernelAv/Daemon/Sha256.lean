import KernelAv.Lib.Loops

/- digest: The SHA-256 of the daemon: the block transform, update and final. -/

set_option autoImplicit false
set_option relaxedAutoImplicit false

namespace KernelAv.Daemon.Sha256

open Lib.Loops (whileLoop)

def k : Vector UInt32 64 := #v[
  0x428a2f98, 0x71374491, 0xb5c0fbcf, 0xe9b5dba5, 0x3956c25b, 0x59f111f1,
  0x923f82a4, 0xab1c5ed5, 0xd807aa98, 0x12835b01, 0x243185be, 0x550c7dc3,
  0x72be5d74, 0x80deb1fe, 0x9bdc06a7, 0xc19bf174, 0xe49b69c1, 0xefbe4786,
  0x0fc19dc6, 0x240ca1cc, 0x2de92c6f, 0x4a7484aa, 0x5cb0a9dc, 0x76f988da,
  0x983e5152, 0xa831c66d, 0xb00327c8, 0xbf597fc7, 0xc6e00bf3, 0xd5a79147,
  0x06ca6351, 0x14292967, 0x27b70a85, 0x2e1b2138, 0x4d2c6dfc, 0x53380d13,
  0x650a7354, 0x766a0abb, 0x81c2c92e, 0x92722c85, 0xa2bfe8a1, 0xa81a664b,
  0xc24b8b70, 0xc76c51a3, 0xd192e819, 0xd6990624, 0xf40e3585, 0x106aa070,
  0x19a4c116, 0x1e376c08, 0x2748774c, 0x34b0bcb5, 0x391c0cb3, 0x4ed8aa4a,
  0x5b9cca4f, 0x682e6ff3, 0x748f82ee, 0x78a5636f, 0x84c87814, 0x8cc70208,
  0x90befffa, 0xa4506ceb, 0xbef9a3f7, 0xc67178f2]

structure sha256_ctx where
  state : Vector UInt32 8
  bitlen : UInt64
  buffer : Vector UInt8 64
  buflen : Nat
deriving DecidableEq

def ROTR (x n : UInt32) : UInt32 := (x >>> n) ||| (x <<< (32 - n))

/-- The first loop of `sha256_transform`, from whatever the local array held before. -/
def loadWords (block : Vector UInt8 64) (w : Vector UInt32 64) : Vector UInt32 64 :=
  Nat.fold 16 (fun i hi w => w.set i
    ((block[i * 4].toUInt32 <<< 24) ||| (block[i * 4 + 1].toUInt32 <<< 16) |||
      (block[i * 4 + 2].toUInt32 <<< 8) ||| block[i * 4 + 3].toUInt32)) w

/-- The second loop of `sha256_transform`; the counter `j` is `i - 16`. -/
def expandWords (w : Vector UInt32 64) : Vector UInt32 64 :=
  Nat.fold 48 (fun j hj w =>
    let i := j + 16
    let s0 := ROTR w[i - 15] 7 ^^^ ROTR w[i - 15] 18 ^^^ (w[i - 15] >>> 3)
    let s1 := ROTR w[i - 2] 17 ^^^ ROTR w[i - 2] 19 ^^^ (w[i - 2] >>> 10)
    w.set i (w[i - 16] + s0 + w[i - 7] + s1)) w

/-- The local variables `a` to `h` of `sha256_transform`. -/
structure Vars where
  a : UInt32
  b : UInt32
  c : UInt32
  d : UInt32
  e : UInt32
  f : UInt32
  g : UInt32
  h : UInt32

/-- One round of the third loop. -/
def compressRound (ki wi : UInt32) (v : Vars) : Vars :=
  let s1 := ROTR v.e 6 ^^^ ROTR v.e 11 ^^^ ROTR v.e 25
  let ch := (v.e &&& v.f) ^^^ (~~~v.e &&& v.g)
  let temp1 := v.h + s1 + ch + ki + wi
  let s0 := ROTR v.a 2 ^^^ ROTR v.a 13 ^^^ ROTR v.a 22
  let maj := (v.a &&& v.b) ^^^ (v.a &&& v.c) ^^^ (v.b &&& v.c)
  let temp2 := s0 + maj
  { h := v.g, g := v.f, f := v.e, e := v.d + temp1, d := v.c, c := v.b, b := v.a
    a := temp1 + temp2 }

def compressRounds (w : Vector UInt32 64) (v : Vars) : Vars :=
  Nat.fold 64 (fun i _ v => compressRound k[i] w[i] v) v

/-- The variables before the third loop. -/
def loadVars (s : Vector UInt32 8) : Vars :=
  ⟨s[0], s[1], s[2], s[3], s[4], s[5], s[6], s[7]⟩

/-- What is added to the state after the third loop. -/
def addVars (s : Vector UInt32 8) (v : Vars) : Vector UInt32 8 :=
  #v[s[0] + v.a, s[1] + v.b, s[2] + v.c, s[3] + v.d, s[4] + v.e, s[5] + v.f, s[6] + v.g, s[7] + v.h]

/-- The array `w` starts uninitialised; `Vector.replicate` stands for its contents. -/
def sha256_transform (ctx : sha256_ctx) (block : Vector UInt8 64) : sha256_ctx :=
  let w := expandWords (loadWords block (Vector.replicate 64 0))
  { ctx with state := addVars ctx.state (compressRounds w (loadVars ctx.state)) }

/-- The buffer of the context is left as it was. -/
def sha256_init (ctx : sha256_ctx) : sha256_ctx :=
  { ctx with
    state := #v[0x6a09e667, 0xbb67ae85, 0x3c6ef372, 0xa54ff53a,
      0x510e527f, 0x9b05688c, 0x1f83d9ab, 0x5be0cd19]
    bitlen := 0
    buflen := 0 }

/-- `memcpy(buffer + off, bytes, length of bytes)`. -/
def memcpy (buffer : Vector UInt8 64) (off : Nat) (bytes : List UInt8) : Vector UInt8 64 :=
  Vector.ofFn fun j : Fin 64 =>
    if off ≤ j ∧ j < off + bytes.length then bytes.getD (j - off) 0 else buffer[j]

/-- One turn of the loop of `sha256_update`, on the context and the index `i`. -/
def updateStep (data : List UInt8) (s : sha256_ctx × Nat) : sha256_ctx × Nat :=
  let ctx := s.1
  let i := s.2
  let take := if 64 - ctx.buflen > data.length - i then data.length - i else 64 - ctx.buflen
  let ctx := { ctx with
    buffer := memcpy ctx.buffer ctx.buflen ((data.drop i).take take)
    buflen := ctx.buflen + take
    bitlen := ctx.bitlen + UInt64.ofNat take * 8 }
  (if ctx.buflen = 64 then { sha256_transform ctx ctx.buffer with buflen := 0 } else ctx,
    i + take)

def sha256_update (fuel : Nat) (ctx : sha256_ctx) (data : List UInt8) : Option sha256_ctx :=
  (whileLoop (fun s => decide (s.2 < data.length)) (fun s => some (updateStep data s))
    fuel (ctx, 0)).map Prod.fst

/-- The padding loop of `sha256_final`. -/
def padLoop (fuel : Nat) (ctx : sha256_ctx) : Option sha256_ctx :=
  whileLoop (fun ctx => decide (ctx.buflen ≠ 56)) (fun ctx => sha256_update fuel ctx [0x00])
    fuel ctx

def lenbytes (bitlen : UInt64) : List UInt8 :=
  (List.range 8).map fun i => (bitlen >>> UInt64.ofNat (56 - 8 * i)).toUInt8

/-- The four bytes of the digest that one word of the state gives. -/
def digestBytes (s : UInt32) : List UInt8 :=
  [(s >>> 24).toUInt8, (s >>> 16).toUInt8, (s >>> 8).toUInt8, s.toUInt8]

/-- The context after the padding, and the digest. -/
def sha256_final (fuel : Nat) (ctx : sha256_ctx) : Option (sha256_ctx × List UInt8) := do
  let bitlen := ctx.bitlen
  let ctx ← sha256_update fuel ctx [0x80]
  let ctx ← padLoop fuel ctx
  let ctx := { ctx with buffer := memcpy ctx.buffer 56 (lenbytes bitlen) }
  let ctx := sha256_transform ctx ctx.buffer
  return (ctx, ctx.state.toList.flatMap digestBytes)

/-- Successive calls of `sha256_update`. -/
def sha256_updates (fuel : Nat) (ctx : sha256_ctx) (chunks : List (List UInt8)) :
    Option sha256_ctx :=
  chunks.foldlM (sha256_update fuel) ctx

end KernelAv.Daemon.Sha256
