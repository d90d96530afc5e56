/- digest: The TLSH of the daemon: the sliding window, the digest and its text. -/

import KernelAv.Lib.CText
import KernelAv.Lib.PairCodes

set_option autoImplicit false
set_option relaxedAutoImplicit false

namespace KernelAv.Daemon.Tlsh

open KernelAv.Lib
open KernelAv.Lib.CText

def TLSH_CODE_SIZE : Nat := 32
def TLSH_DIGEST_HEXLEN : Nat := 70
def BUCKET_COUNT : Nat := 256
def EFF_BUCKETS : Nat := 128
def SLIDING_WND_SIZE : Nat := 5
def MIN_DATA_LENGTH : Nat := 50

instance : NeZero SLIDING_WND_SIZE := ⟨Nat.succ_ne_zero 4⟩

def v_table : Bytes := [
  1, 87, 49, 12, 176, 178, 102, 166, 121, 193, 6, 84, 249, 230, 44, 163, 14, 197, 213, 181, 161,
  85, 218, 80, 64, 239, 24, 226, 236, 142, 38, 200, 110, 177, 104, 103, 141, 253, 255, 50, 77,
  101, 81, 18, 45, 96, 31, 222, 25, 107, 190, 70, 86, 237, 240, 34, 72, 242, 20, 214, 244, 227,
  149, 235, 97, 234, 57, 22, 60, 250, 82, 175, 208, 5, 127, 199, 111, 62, 135, 248, 174, 169,
  211, 58, 66, 154, 106, 195, 245, 171, 17, 187, 182, 179, 0, 243, 132, 56, 148, 75, 128, 133,
  158, 100, 130, 126, 91, 13, 153, 246, 216, 219, 119, 68, 223, 78, 83, 88, 201, 99, 122, 11, 92,
  32, 136, 114, 52, 10, 138, 30, 48, 183, 156, 35, 61, 26, 143, 74, 251, 94, 129, 162, 63, 152,
  170, 7, 115, 167, 241, 206, 3, 150, 55, 59, 151, 220, 90, 53, 23, 131, 125, 173, 15, 238, 79,
  95, 89, 16, 105, 137, 225, 224, 217, 160, 37, 123, 118, 73, 2, 157, 46, 116, 9, 145, 134, 228,
  207, 212, 202, 215, 69, 229, 27, 188, 67, 124, 168, 252, 42, 4, 29, 108, 21, 247, 19, 205, 39,
  203, 233, 40, 186, 147, 198, 192, 155, 33, 164, 191, 98, 204, 165, 180, 117, 76, 140, 36, 210,
  172, 41, 54, 159, 8, 185, 232, 113, 196, 231, 47, 146, 120, 51, 65, 28, 144, 254, 221, 93, 189,
  194, 139, 112, 43, 71, 109, 184, 209]

def fast_b_mapping (ms i j k : UInt8) : UInt8 :=
  let pearson (b : UInt8) : UInt8 := v_table.getD b.toNat 0
  pearson (pearson (pearson (ms ^^^ i) ^^^ j) ^^^ k)

def topval : List Nat := [
  1, 2, 3, 5, 7, 11, 17, 25, 38, 57, 86, 129, 194, 291, 437, 656, 854, 1110, 1443, 1876, 2439,
  3171, 3475, 3823, 4205, 4626, 5088, 5597, 6157, 6772, 7450, 8195, 9014, 9916, 10907, 11998,
  13198, 14518, 15970, 17567, 19323, 21256, 23382, 25720, 28292, 31121, 34233, 37656, 41422,
  45564, 50121, 55133, 60646, 66711, 73382, 80721, 88793, 97672, 107439, 118183, 130002, 143002,
  157302, 173032, 190335, 209369, 230306, 253337, 278670, 306538, 337191, 370911, 408002, 448802,
  493682, 543050, 597356, 657091, 722800, 795081, 874589, 962048, 1058252, 1164078, 1280486,
  1408534, 1549388, 1704327, 1874759, 2062236, 2268459, 2495305, 2744836, 3019320, 3321252,
  3653374, 4018711, 4420582, 4862641, 5348905, 5883796, 6472176, 7119394, 7831333, 8614467,
  9475909, 10423501, 11465851, 12612437, 13873681, 15261050, 16787154, 18465870, 20312458,
  22343706, 24578077, 27035886, 29739474, 32713425, 35984770, 39583245, 43541573, 47895730,
  52685306, 57953837, 63749221, 70124148, 77136564, 84850228, 93335252, 102668779, 112935659,
  124229227, 136652151, 150317384, 165349128, 181884040, 200072456, 220079703, 242087671,
  266296456, 292926096, 322218735, 354440623, 389884688, 428873168, 471760495, 518936559,
  570830240, 627913311, 690704607, 759775136, 835752671, 919327967, 1011260767, 1112386880,
  1223623232, 1345985727, 1480584256, 1628642751, 1791507135, 1970657856, 2167723648, 2384496256,
  2622945920, 2885240448, 3173764736, 3491141248, 3840255616, 4224281216]

structure tlsh_digest where
  checksum : UInt8
  Lvalue : UInt8
  Q1ratio : UInt8
  Q2ratio : UInt8
  tmp_code : Vector UInt8 TLSH_CODE_SIZE
deriving DecidableEq

def swap_byte (b : UInt8) : UInt8 := ((b &&& 0xF0) >>> 4) ||| ((b &&& 0x0F) <<< 4)

section Update

/-- `struct tlsh_ctx`; the counters of the buckets have 32 bits. -/
structure tlsh_ctx where
  a_bucket : Option (Vector Nat BUCKET_COUNT)
  slide_window : Vector UInt8 SLIDING_WND_SIZE
  data_len : UInt32
  checksum : UInt8
  alloc_failed : Bool
deriving DecidableEq

def tlsh_init : tlsh_ctx := ⟨none, Vector.replicate SLIDING_WND_SIZE 0, 0, 0, false⟩

theorem bucket_lt (r : UInt8) : r.toNat < BUCKET_COUNT := r.toNat_lt

/-- `a_bucket[r]++`. -/
def bump (a_bucket : Vector Nat BUCKET_COUNT) (r : UInt8) : Vector Nat BUCKET_COUNT :=
  a_bucket.set r.toNat ((a_bucket.get ⟨r.toNat, bucket_lt r⟩ + 1) % 2 ^ 32) (bucket_lt r)

/-- The variables of the loop of `tlsh_update`. -/
structure Feed where
  slide_window : Vector UInt8 SLIDING_WND_SIZE
  checksum : UInt8
  a_bucket : Vector Nat BUCKET_COUNT
  fed_len : UInt32
  j : Fin SLIDING_WND_SIZE

/-- One round of it. -/
def Feed.step (f : Feed) (b : UInt8) : Feed :=
  let sw := f.slide_window.set f.j b f.j.isLt
  let next := { f with
    slide_window := sw
    fed_len := f.fed_len + 1
    j := Fin.ofNat SLIDING_WND_SIZE (f.j + 1) }
  if SLIDING_WND_SIZE - 1 ≤ f.fed_len.toNat then
    let cur := sw.get f.j
    let p1 := sw.get (Fin.ofNat SLIDING_WND_SIZE (f.j + SLIDING_WND_SIZE - 1))
    let p2 := sw.get (Fin.ofNat SLIDING_WND_SIZE (f.j + SLIDING_WND_SIZE - 2))
    let p3 := sw.get (Fin.ofNat SLIDING_WND_SIZE (f.j + SLIDING_WND_SIZE - 3))
    let p4 := sw.get (Fin.ofNat SLIDING_WND_SIZE (f.j + SLIDING_WND_SIZE - 4))
    let a := bump f.a_bucket (fast_b_mapping 49 cur p1 p2)
    let a := bump a (fast_b_mapping 12 cur p1 p3)
    let a := bump a (fast_b_mapping 178 cur p2 p3)
    let a := bump a (fast_b_mapping 166 cur p2 p4)
    let a := bump a (fast_b_mapping 84 cur p1 p4)
    let a := bump a (fast_b_mapping 230 cur p3 p4)
    { next with checksum := fast_b_mapping 1 cur p1 f.checksum, a_bucket := a }
  else next

/-- The first three lines say whether there is an array, or whether `calloc` gives one. -/
def tlsh_update (calloc_ok : Bool) (ctx : tlsh_ctx) (data : Bytes) : tlsh_ctx :=
  if ctx.alloc_failed then ctx
  else
    match ctx.a_bucket, calloc_ok with
    | none, false => { ctx with alloc_failed := true }
    | a_bucket, _ =>
        let feed := data.foldl Feed.step
          ⟨ctx.slide_window, ctx.checksum, a_bucket.getD (Vector.replicate BUCKET_COUNT 0),
            ctx.data_len, Fin.ofNat SLIDING_WND_SIZE ctx.data_len.toNat⟩
        { ctx with
          a_bucket := some feed.a_bucket
          slide_window := feed.slide_window
          checksum := feed.checksum
          data_len := ctx.data_len + UInt32.ofNat data.length }

end Update

section Final

/-- The copy of the buckets in use. -/
abbrev Buckets := Vector Nat EFF_BUCKETS

def Buckets.at (buf : Buckets) (i : Nat) : Nat := buf.getD i 0

/-- One round of the loop of `partition`. -/
def sift (val : Nat) (s : Nat × Buckets) (i : Nat) : Nat × Buckets :=
  if s.2.at i < val then
    (s.1 + 1, (s.2.setIfInBounds s.1 (s.2.at i)).setIfInBounds i (s.2.at s.1))
  else s

def partition (buf : Buckets) (left right : Nat) : Nat × Buckets :=
  if left = right then (left, buf)
  else if left + 1 = right then
    (left, if buf.at right < buf.at left then
      (buf.setIfInBounds left (buf.at right)).setIfInBounds right (buf.at left) else buf)
  else
    let pivot := (left + right) / 2
    let val := buf.at pivot
    let (ret, buf) := (List.range' left (right - left)).foldl (sift val)
      (left, (buf.setIfInBounds pivot (buf.at right)).setIfInBounds right val)
    (ret, (buf.setIfInBounds right (buf.at ret)).setIfInBounds ret val)

/-- The variables of the loops of `find_quartile`. -/
structure Select where
  buf : Buckets
  l : Nat
  r : Nat
  short_cut_left : List Nat
  short_cut_right : List Nat

/-- The loop that looks for the value at `p`, of at most so many rounds; only the first of the
three such loops uses its short cuts. -/
def select (p : Nat) : Nat → Select → Option Select
  | 0, _ => none
  | fuel + 1, s =>
      let (ret, buf) := partition s.buf s.l s.r
      if p < ret then
        select p fuel { s with
          buf := buf, r := ret - 1, short_cut_right := s.short_cut_right ++ [ret] }
      else if ret < p then
        select p fuel { s with
          buf := buf, l := ret + 1, short_cut_left := s.short_cut_left ++ [ret] }
      else some { s with buf := buf }

/-- The loop over the left short cuts: the value at `p`, and the buffer. -/
def selectLeft (p : Nat) : List Nat → Nat → Buckets → Option (Nat × Buckets)
  | [], _, _ => none
  | r :: rs, l, buf =>
      if p < r then (select p EFF_BUCKETS ⟨buf, l, r, [], []⟩).map fun s => (s.buf.at p, s.buf)
      else if r < p then selectLeft p rs r buf
      else some (buf.at p, buf)

/-- The loop over the right short cuts. -/
def selectRight (p : Nat) : List Nat → Nat → Buckets → Option (Nat × Buckets)
  | [], _, _ => none
  | l :: ls, r, buf =>
      if l < p then (select p EFF_BUCKETS ⟨buf, l, r, [], []⟩).map fun s => (s.buf.at p, s.buf)
      else if p < l then selectRight p ls l buf
      else some (buf.at p, buf)

/-- `none` stands for a loop that does not end. -/
def find_quartile (a_bucket : Vector Nat BUCKET_COUNT) : Option (Nat × Nat × Nat) := do
  let p1 := EFF_BUCKETS / 4 - 1
  let p2 := EFF_BUCKETS / 2 - 1
  let p3 := EFF_BUCKETS - EFF_BUCKETS / 4 - 1
  let last := EFF_BUCKETS - 1
  let bucket_copy : Buckets := Vector.ofFn fun i => a_bucket.getD i 0
  let s ← select p2 EFF_BUCKETS ⟨bucket_copy, 0, last, [], []⟩
  let (q1, buf) ← selectLeft p1 (s.short_cut_left ++ [p2 - 1]) 0 s.buf
  let (q3, _) ← selectRight p3 (s.short_cut_right ++ [p2 + 1]) last buf
  some (q1, s.buf.at p2, q3)

/-- The loop of `l_capturing`, of at most so many rounds. -/
def captureLoop (len : Nat) : Nat → Nat → Nat → Nat → Option Nat
  | 0, _, _, _ => none
  | fuel + 1, bottom, top, idx =>
      if idx = 0 then some idx
      else if len ≤ topval.getD idx 0 ∧ topval.getD (idx - 1) 0 < len then some idx
      else if len < topval.getD idx 0 then
        captureLoop len fuel bottom (idx - 1) ((bottom + (idx - 1)) / 2)
      else captureLoop len fuel (idx + 1) top ((idx + 1 + top) / 2)

def l_capturing (len : UInt32) : Option UInt8 :=
  if topval.getD 169 0 < len.toNat then some 169
  else (captureLoop len.toNat 171 0 170 85).map UInt8.ofNat

/-- The two bits of a bucket. -/
def quartileBits (q1 q2 q3 k : Nat) : UInt8 :=
  if q3 < k then 3 else if q2 < k then 2 else if q1 < k then 1 else 0

/-- The byte of four buckets. -/
def codeByte (q1 q2 q3 : Nat) (a_bucket : Vector Nat BUCKET_COUNT) (i : Nat) : UInt8 :=
  (List.range 4).foldl (fun h j =>
    h + (quartileBits q1 q2 q3 (a_bucket.getD (4 * i + j) 0) <<< UInt8.ofNat (j * 2))) 0

def nonzero (a_bucket : Vector Nat BUCKET_COUNT) : Nat :=
  (List.range (4 * TLSH_CODE_SIZE)).countP fun i => 0 < a_bucket.getD i 0

/-- What `tlsh_final` makes of the buckets; inside, `none` stands for -1. -/
def summarize (a_bucket : Vector Nat BUCKET_COUNT) (data_len : UInt32) (checksum : UInt8) :
    Option (Option tlsh_digest) := do
  let (q1, q2, q3) ← find_quartile a_bucket
  if q3 = 0 then some none
  else if nonzero a_bucket ≤ 4 * TLSH_CODE_SIZE / 2 then some none
  else
    let Lvalue ← l_capturing data_len
    some (some {
      checksum := checksum
      Lvalue := Lvalue
      Q1ratio := UInt8.ofNat (q1 * 100 / q3 % 16)
      Q2ratio := UInt8.ofNat (q2 * 100 / q3 % 16)
      tmp_code := Vector.ofFn fun i => codeByte q1 q2 q3 a_bucket i })

def tlsh_final (ctx : tlsh_ctx) : Option (Option tlsh_digest) :=
  match ctx.alloc_failed, ctx.a_bucket with
  | false, some a_bucket =>
      if ctx.data_len.toNat < MIN_DATA_LENGTH then some none
      else summarize a_bucket ctx.data_len ctx.checksum
  | _, _ => some none

end Final

section Hex

def hex_upper : Bytes := lit "0123456789ABCDEF"

/-- The value of a hexadecimal digit; `none` stands for -1. -/
def hex_nibble (c : UInt8) : Option UInt8 :=
  if 48 ≤ c ∧ c ≤ 57 then some (c - 48)
  else if 65 ≤ c ∧ c ≤ 70 then some (c - 65 + 10)
  else if 97 ≤ c ∧ c ≤ 102 then some (c - 97 + 10)
  else none

/-- The two digits of a byte. -/
def hexPair (b : UInt8) : UInt8 × UInt8 :=
  (hex_upper.getD (b >>> 4).toNat 0, hex_upper.getD (b &&& 0x0F).toNat 0)

/-- The byte of two digits. -/
def pairByte (hi lo : UInt8) : Option UInt8 := do
  let hi ← hex_nibble hi
  let lo ← hex_nibble lo
  some ((hi <<< 4) ||| lo)

/-- The array `raw` of `tlsh_to_hex`. -/
def toRaw (d : tlsh_digest) : List UInt8 :=
  swap_byte d.checksum :: swap_byte d.Lvalue :: swap_byte (d.Q1ratio ||| (d.Q2ratio <<< 4)) ::
    List.ofFn fun i : Fin TLSH_CODE_SIZE => d.tmp_code[TLSH_CODE_SIZE - 1 - i]

/-- What `tlsh_from_hex` makes of its array `raw`. -/
def ofRaw (raw : List UInt8) : tlsh_digest :=
  let qb := swap_byte (raw.getD 2 0)
  { checksum := swap_byte (raw.getD 0 0)
    Lvalue := swap_byte (raw.getD 1 0)
    Q1ratio := qb &&& 0x0F
    Q2ratio := (qb >>> 4) &&& 0x0F
    tmp_code := Vector.ofFn fun i => raw.getD (3 + (TLSH_CODE_SIZE - 1 - i)) 0 }

def tlsh_to_hex (d : tlsh_digest) : Bytes := PairCodes.write hexPair (toRaw d)

/-- `none` stands for -1. -/
def tlsh_from_hex (str : Bytes) : Option tlsh_digest :=
  if str.length ≠ TLSH_DIGEST_HEXLEN then none else (PairCodes.read pairByte str).map ofRaw

end Hex

section HashFd

/-- What a call of `read` can give: an interruption, another error, or at most so many bytes and
one more. -/
inductive ReadResult where
  | eintr
  | error
  | upTo (k : Nat)
deriving DecidableEq

/-- A round of the loop: what `read` gives, and whether `calloc` would give an array. -/
structure ReadStep where
  read : ReadResult
  calloc_ok : Bool
deriving DecidableEq

/-- The variables of the loop of `av_tlsh_hash_fd`. -/
structure Hashing where
  ctx : tlsh_ctx
  total : Nat
  any_data : Bool

def BUF_SIZE : Nat := 65536

/-- The loop, over the rounds that there are; `none` stands for a loop that still reads. -/
def readLoop (content : Bytes) (max_len : Nat) :
    List ReadStep → Hashing → Option (Except Int Hashing)
  | [], h => if max_len ≤ h.total then some (.ok h) else none
  | step :: steps, h =>
      if max_len ≤ h.total then some (.ok h)
      else
        match step.read with
        | .eintr => readLoop content max_len steps h
        | .error => some (.error (-1))
        | .upTo k =>
            let want := min BUF_SIZE (max_len - h.total)
            let buf := (content.drop h.total).take (min (k + 1) want)
            if buf = [] then some (.ok h)
            else readLoop content max_len steps
              ⟨tlsh_update step.calloc_ok h.ctx buf, h.total + buf.length, true⟩

/-- What it writes to `out`, or the code it returns. -/
def av_tlsh_hash_fd (lseek_ok : Bool) (content : Bytes) (outlen max_len : Nat)
    (steps : List ReadStep) : Option (Except Int Bytes) := do
  if !lseek_ok then some (.error (-1))
  else
    match ← readLoop content max_len steps ⟨tlsh_init, 0, false⟩ with
    | .error code => some (.error code)
    | .ok h =>
        if !h.any_data then some (.error (-2))
        else
          match ← tlsh_final h.ctx with
          | none => some (.error (-2))
          | some digest =>
              if outlen ≤ TLSH_DIGEST_HEXLEN then some (.error (-3))
              else some (.ok (tlsh_to_hex digest))

end HashFd

end KernelAv.Daemon.Tlsh
