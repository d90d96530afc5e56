/- digest: Text as Python has it: decoded bytes, universal newlines, lines and fields. -/

import KernelAv.Lib.Lines

set_option autoImplicit false
set_option relaxedAutoImplicit false

namespace KernelAv.Lib.PyText

open KernelAv.Lib.CText (Bytes)
open KernelAv.Lib.Lines (nl unlines unlines_cons)

/-- A `str`: its code points, lone surrogates among them. -/
abbrev Str := List Nat

def str (s : String) : Str := s.toList.map Char.toNat

section Decoding

/-- How many bytes follow a first byte, and the range of the first one that does. -/
def lead (b : UInt8) : Option (Nat × UInt8 × UInt8) :=
  if 0xC2 ≤ b ∧ b ≤ 0xDF then some (1, 0x80, 0xBF)
  else if b = 0xE0 then some (2, 0xA0, 0xBF)
  else if b = 0xED then some (2, 0x80, 0x9F)
  else if 0xE1 ≤ b ∧ b ≤ 0xEF then some (2, 0x80, 0xBF)
  else if b = 0xF0 then some (3, 0x90, 0xBF)
  else if 0xF1 ≤ b ∧ b ≤ 0xF3 then some (3, 0x80, 0xBF)
  else if b = 0xF4 then some (3, 0x80, 0x8F)
  else none

def isTail (b : UInt8) : Bool := 0x80 ≤ b && b ≤ 0xBF

/-- The code point that the bytes begin with in UTF-8, and how many bytes come after the first. -/
def front (b : UInt8) (s : Bytes) : Option (Nat × Nat) :=
  if b < 0x80 then some (b.toNat, 0)
  else
    match lead b with
    | none => none
    | some (n, low, high) =>
        if (s.take n).length = n ∧ (s.take n).all isTail = true ∧
            s.head?.any (fun c => low ≤ c && c ≤ high) = true then
          some ((s.take n).foldl (fun v c => v * 64 + c.toNat % 64) (b.toNat % 2 ^ (6 - n)), n)
        else none

def decodeFuel : Nat → Bytes → Str
  | 0, _ => []
  | _ + 1, [] => []
  | k + 1, b :: s =>
      match front b s with
      | some (c, n) => c :: decodeFuel k (s.drop n)
      | none => (0xDC00 + b.toNat) :: decodeFuel k s

/-- `decode("utf-8", "surrogateescape")`; a byte that begins no code point is escaped. -/
def decode (s : Bytes) : Str := decodeFuel s.length s

/-- The bytes of a character; only the escapes of bytes are surrogates that have any. -/
def encodeChar (c : Nat) : Option Bytes :=
  if c < 0x80 then some [UInt8.ofNat c]
  else if c < 0x800 then some [UInt8.ofNat (0xC0 + c / 64), UInt8.ofNat (0x80 + c % 64)]
  else if 0xDC80 ≤ c ∧ c ≤ 0xDCFF then some [UInt8.ofNat (c - 0xDC00)]
  else if 0xD800 ≤ c ∧ c ≤ 0xDFFF then none
  else if c < 0x10000 then
    some [UInt8.ofNat (0xE0 + c / 4096), UInt8.ofNat (0x80 + c / 64 % 64),
      UInt8.ofNat (0x80 + c % 64)]
  else if c < 0x110000 then
    some [UInt8.ofNat (0xF0 + c / 262144), UInt8.ofNat (0x80 + c / 4096 % 64),
      UInt8.ofNat (0x80 + c / 64 % 64), UInt8.ofNat (0x80 + c % 64)]
  else none

/-- `os.fsencode`; `none` stands for a `UnicodeEncodeError`. -/
def fsencode : Str → Option Bytes
  | [] => some []
  | c :: s => do
      let first ← encodeChar c
      let rest ← fsencode s
      some (first ++ rest)

end Decoding

section Lines

/-- What `replace("\r\n", "\n").replace("\r", "\n")` makes of a text. -/
def translateNewlines : Str → Str
  | [] => []
  | 13 :: 10 :: s => 10 :: translateNewlines s
  | c :: s => (if c = 13 then 10 else c) :: translateNewlines s

/-- The characters that end a line for `str.splitlines`. -/
def isBreak (c : Nat) : Bool :=
  c = 10 || c = 11 || c = 12 || c = 13 || c = 0x1C || c = 0x1D || c = 0x1E || c = 0x85 ||
    c = 0x2028 || c = 0x2029

/-- The bytes of these characters. -/
def breakBytes : List Bytes :=
  [[10], [11], [12], [13], [0x1C], [0x1D], [0x1E], [0xC2, 0x85], [0xE2, 0x80, 0xA8],
    [0xE2, 0x80, 0xA9]]

/-- A character of ASCII that is no control character. -/
def isPrintable (b : UInt8) : Bool := 32 ≤ b.toNat && b.toNat < 0x80

/-- The bytes of one of them occur. -/
def HasBreak (s : Bytes) : Prop := ∃ t ∈ breakBytes, t <:+: s

/-- The lines of what follows the beginning of one. -/
def linesFrom (line : Str) : Str → List Str
  | [] => if line = [] then [] else [line]
  | 13 :: 10 :: s => line :: linesFrom [] s
  | c :: s => if isBreak c then line :: linesFrom [] s else linesFrom (line ++ [c]) s

def splitlines (s : Str) : List Str := linesFrom [] s

/-- `split(" ", maxsplit)`. -/
def split : Nat → Str → List Str
  | 0, s => [s]
  | n + 1, s =>
      match s.span (· ≠ 32) with
      | (word, []) => [word]
      | (word, _ :: rest) => word :: split n rest

/-- What follows the prefix. -/
def afterPrefix (tag line : Str) : Option Str :=
  if tag.isPrefixOf line then some (line.drop tag.length) else none

/-- `str.isspace`, of one character. -/
def isSpace (c : Nat) : Bool :=
  (9 ≤ c && c ≤ 13) || (0x1C ≤ c && c ≤ 0x20) || c = 0x85 || c = 0xA0 || c = 0x1680 ||
    (0x2000 ≤ c && c ≤ 0x200A) || c = 0x2028 || c = 0x2029 || c = 0x202F || c = 0x205F ||
    c = 0x3000

def strip (s : Str) : Str := ((s.dropWhile isSpace).reverse.dropWhile isSpace).reverse

end Lines

section DecodingLemmas

variable {b x : UInt8} {s u v : Bytes} {c n k : Nat}

theorem front_ascii (h : b < 0x80) (s : Bytes) : front b s = some (b.toNat, 0) := if_pos h

theorem lead_pos {low high : UInt8} (h : lead b = some (n, low, high)) : 0 < n := by
  unfold lead at h
  split_ifs at h <;> cases h <;> decide

theorem front_le (h : front b s = some (c, n)) : n ≤ s.length := by
  unfold front at h
  split at h
  · obtain ⟨-, rfl⟩ := Prod.mk.inj (Option.some.inj h)
    exact Nat.zero_le _
  · split at h
    · cases h
    · split at h
      · rename_i hvalid
        obtain ⟨-, rfl⟩ := Prod.mk.inj (Option.some.inj h)
        rw [← hvalid.1]
        exact (List.length_take_le' _ _)
      · cases h

private theorem not_tail (hx : x < 0x80) : isTail x = false := by
  have hlt : ¬ (0x80 : UInt8) ≤ x := UInt8.not_le.mpr hx
  rw [isTail, decide_eq_false hlt, Bool.false_and]

/-- What follows an ASCII byte does not decide about a code point before it. -/
private theorem front_append (hx : x < 0x80) (u v : Bytes) :
    front b (u ++ x :: v) = front b u := by
  unfold front
  split
  · rfl
  split
  · rfl
  rename_i n low high hlead
  have hpos := lead_pos hlead
  rcases le_or_gt n u.length with hle | hlt
  · rw [List.take_append_of_le_length hle]
    cases u with
    | nil => exact absurd (hpos.trans_le hle) (lt_irrefl 0)
    | cons a u => rfl
  · have hmem : x ∈ (u ++ x :: v).take n := by
      rw [List.take_append, List.mem_append]
      right
      obtain ⟨m, hm⟩ : ∃ m, n - u.length = m + 1 := ⟨n - u.length - 1, by omega⟩
      rw [hm, List.take_succ_cons]
      exact List.mem_cons_self
    rw [if_neg, if_neg]
    · rintro ⟨hlen, -⟩
      rw [List.length_take] at hlen
      omega
    · rintro ⟨-, htail, -⟩
      have hbad := List.all_eq_true.mp htail x hmem
      rw [not_tail hx] at hbad
      cases hbad

private theorem decodeFuel_eq (k : Nat) (s : Bytes) (hk : s.length ≤ k) :
    decodeFuel k s = decode s := by
  unfold decode
  generalize hn : s.length = n at hk
  replace hn : s.length ≤ n := hn.le
  induction k generalizing n s with
  | zero =>
    obtain rfl : s = [] := List.eq_nil_of_length_eq_zero (by omega)
    cases n <;> rfl
  | succ k ih =>
    cases s with
    | nil => cases n <;> rfl
    | cons b s =>
      cases n with
      | zero => simp at hn
      | succ n =>
        rw [decodeFuel, decodeFuel]
        simp only [List.length_cons] at hn
        cases hfront : front b s with
        | none =>
          dsimp only
          rw [ih s n (by omega) (by omega)]
        | some r =>
          obtain ⟨c, m⟩ := r
          dsimp only
          rw [ih (s.drop m) n (by omega) (by rw [List.length_drop]; omega)]

theorem decode_some (h : front b s = some (c, n)) : decode (b :: s) = c :: decode (s.drop n) := by
  rw [decode, List.length_cons, decodeFuel, h]
  dsimp only
  rw [decodeFuel_eq _ _ (by rw [List.length_drop]; omega)]

theorem decode_none (h : front b s = none) :
    decode (b :: s) = (0xDC00 + b.toNat) :: decode s := by
  rw [decode, List.length_cons, decodeFuel, h]
  rfl

/-- By induction on the length: every code point is decoded from the bytes in front of the ASCII
byte alone. -/
theorem decode_append (hx : x < 0x80) (u v : Bytes) :
    decode (u ++ x :: v) = decode u ++ x.toNat :: decode v := by
  obtain ⟨m, hm⟩ : ∃ m, u.length ≤ m := ⟨_, le_rfl⟩
  induction m generalizing u with
  | zero =>
    obtain rfl : u = [] := List.eq_nil_of_length_eq_zero (by omega)
    exact decode_some (front_ascii hx v)
  | succ m ih =>
    cases u with
    | nil => exact decode_some (front_ascii hx v)
    | cons b u =>
      simp only [List.length_cons] at hm
      have hsame := front_append (b := b) hx u v
      cases hfront : front b u with
      | none =>
        rw [List.cons_append, decode_none (hsame.trans hfront), decode_none hfront,
          ih u (by omega), List.cons_append]
      | some r =>
        obtain ⟨c, n⟩ := r
        have hle := front_le hfront
        rw [List.cons_append, decode_some (hsame.trans hfront), decode_some hfront,
          List.drop_append_of_le_length hle,
          ih (u.drop n) (by rw [List.length_drop]; omega), List.cons_append]

theorem decode_ascii (h : ∀ b ∈ s, b < 0x80) : decode s = s.map UInt8.toNat := by
  induction s with
  | nil => rfl
  | cons b s ih =>
    obtain ⟨hb, hs⟩ := List.forall_mem_cons.mp h
    rw [List.map_cons, ← ih hs]
    exact decode_append hb [] s

theorem decode_ascii_append (hu : ∀ b ∈ u, b < 0x80) (v : Bytes) :
    decode (u ++ v) = u.map UInt8.toNat ++ decode v := by
  induction u with
  | nil => rfl
  | cons b u ih =>
    obtain ⟨hb, hrest⟩ := List.forall_mem_cons.mp hu
    rw [List.map_cons, List.cons_append, List.cons_append, ← ih hrest]
    exact decode_append hb [] (u ++ v)

/-- A byte that can only continue a code point. -/
def InTail (t : UInt8) : Prop := 0x80 ≤ t.toNat ∧ t.toNat ≤ 0xBF

private theorem isTail_iff (t : UInt8) : isTail t = true ↔ InTail t := by
  rw [isTail, Bool.and_eq_true, decide_eq_true_iff, decide_eq_true_iff]
  exact Iff.rfl

private theorem lead_cases {low high : UInt8} (h : lead b = some (n, low, high)) :
    (n = 1 ∧ 0xC2 ≤ b.toNat ∧ b.toNat ≤ 0xDF) ∨
      (n = 2 ∧ 0xE0 ≤ b.toNat ∧ b.toNat ≤ 0xEF ∧ (b.toNat = 0xE0 → low = 0xA0)) ∨
      (n = 3 ∧ 0xF0 ≤ b.toNat ∧ b.toNat ≤ 0xF4 ∧ (b.toNat = 0xF0 → low = 0x90)) := by
  unfold lead at h
  split_ifs at h with h2 hE0 hED h3 hF0 h4 hF4
  · cases h
    exact .inl ⟨rfl, h2.1, h2.2⟩
  · cases h
    subst hE0
    exact .inr (.inl ⟨rfl, by decide, by decide, fun _ => rfl⟩)
  · cases h
    subst hED
    exact .inr (.inl ⟨rfl, by decide, by decide, fun hbad => absurd hbad (by decide)⟩)
  · cases h
    refine .inr (.inl ⟨rfl, Nat.le_of_succ_le h3.1, h3.2, fun hbad => ?_⟩)
    exact absurd (UInt8.toNat_inj.mp hbad) hE0
  · cases h
    subst hF0
    exact .inr (.inr ⟨rfl, by decide, by decide, fun _ => rfl⟩)
  · cases h
    refine .inr (.inr ⟨rfl, Nat.le_of_succ_le h4.1, Nat.le_succ_of_le h4.2, fun hbad => ?_⟩)
    exact absurd (UInt8.toNat_inj.mp hbad) hF0
  · cases h
    subst hF4
    exact .inr (.inr ⟨rfl, by decide, by decide, fun hbad => absurd hbad (by decide)⟩)

/-- The code points that bytes begin with, by the number of the bytes. -/
theorem front_cases (h : front b s = some (c, n)) :
    (n = 0 ∧ b.toNat < 0x80 ∧ c = b.toNat) ∨
    (n = 1 ∧ 0xC2 ≤ b.toNat ∧ b.toNat ≤ 0xDF ∧ ∃ t r, s = t :: r ∧ InTail t ∧
      c = b.toNat % 32 * 64 + t.toNat % 64) ∨
    (n = 2 ∧ 0xE0 ≤ b.toNat ∧ b.toNat ≤ 0xEF ∧ ∃ t u r, s = t :: u :: r ∧ InTail t ∧ InTail u ∧
      (b.toNat = 0xE0 → 0xA0 ≤ t.toNat) ∧
      c = (b.toNat % 16 * 64 + t.toNat % 64) * 64 + u.toNat % 64) ∨
    (n = 3 ∧ 0xF0 ≤ b.toNat ∧ b.toNat ≤ 0xF4 ∧ ∃ t u v r, s = t :: u :: v :: r ∧ InTail t ∧
      InTail u ∧ InTail v ∧ (b.toNat = 0xF0 → 0x90 ≤ t.toNat) ∧
      c = ((b.toNat % 8 * 64 + t.toNat % 64) * 64 + u.toNat % 64) * 64 + v.toNat % 64) := by
  unfold front at h
  split at h
  · rename_i hb
    obtain ⟨rfl, rfl⟩ := Prod.mk.inj (Option.some.inj h)
    exact .inl ⟨rfl, hb, rfl⟩
  right
  split at h
  · cases h
  rename_i m low high hlead
  split at h
  · rename_i hvalid
    obtain ⟨rfl, rfl⟩ := Prod.mk.inj (Option.some.inj h)
    obtain ⟨hlen, htail, hhead⟩ := hvalid
    rw [List.length_take] at hlen
    rcases lead_cases hlead with ⟨rfl, hb⟩ | ⟨rfl, hb, hb', hlow⟩ | ⟨rfl, hb, hb', hlow⟩
    · left
      obtain ⟨t, r, rfl⟩ := List.exists_cons_of_length_pos (l := s) (by omega)
      simp [isTail_iff] at htail
      exact ⟨rfl, hb.1, hb.2, t, r, rfl, htail, rfl⟩
    · right
      left
      obtain ⟨t, r, rfl⟩ := List.exists_cons_of_length_pos (l := s) (by omega)
      rw [List.length_cons] at hlen
      obtain ⟨u, r, rfl⟩ := List.exists_cons_of_length_pos (l := r) (by omega)
      simp [isTail_iff] at htail hhead
      refine ⟨rfl, hb, hb', t, u, r, rfl, htail.1, htail.2, fun hzero => ?_, rfl⟩
      obtain rfl := hlow hzero
      exact hhead.1
    · right
      right
      obtain ⟨t, r, rfl⟩ := List.exists_cons_of_length_pos (l := s) (by omega)
      rw [List.length_cons] at hlen
      obtain ⟨u, r, rfl⟩ := List.exists_cons_of_length_pos (l := r) (by omega)
      rw [List.length_cons] at hlen
      obtain ⟨v, r, rfl⟩ := List.exists_cons_of_length_pos (l := r) (by omega)
      simp [isTail_iff] at htail hhead
      refine ⟨rfl, hb, hb', t, u, v, r, rfl, htail.1, htail.2.1, htail.2.2, fun hzero => ?_, rfl⟩
      obtain rfl := hlow hzero
      exact hhead.1
  · cases h

end DecodingLemmas

section EncodingLemmas

variable {b : UInt8} {w : Bytes} {c : Nat} {s : Str}

/-- A byte of ASCII is a character of its own. -/
private theorem encodeChar_ascii (h : encodeChar c = some w) (hb : b ∈ w) (hascii : b < 0x80) :
    b.toNat = c := by
  have hlt : b.toNat < 0x80 := hascii
  unfold encodeChar at h
  split_ifs at h with h1 h2 h3 h4 h5 h6
  · cases h
    obtain rfl := List.mem_singleton.mp hb
    rw [UInt8.toNat_ofNat']
    omega
  all_goals
    cases h
    simp only [List.mem_cons, List.not_mem_nil, or_false] at hb
  · rcases hb with rfl | rfl <;> rw [UInt8.toNat_ofNat'] at hlt <;> omega
  · obtain rfl := hb
    rw [UInt8.toNat_ofNat'] at hlt
    omega
  · rcases hb with rfl | rfl | rfl <;> rw [UInt8.toNat_ofNat'] at hlt <;> omega
  · rcases hb with rfl | rfl | rfl | rfl <;> rw [UInt8.toNat_ofNat'] at hlt <;> omega

theorem fsencode_cons (h : fsencode (c :: s) = some w) :
    ∃ first rest, encodeChar c = some first ∧ fsencode s = some rest ∧ w = first ++ rest := by
  obtain ⟨first, hfirst, htail⟩ := Option.bind_eq_some_iff.mp h
  obtain ⟨rest, hrest, hw⟩ := Option.bind_eq_some_iff.mp htail
  exact ⟨first, rest, hfirst, hrest, (Option.some.inj hw).symm⟩

theorem fsencode_ascii (h : fsencode s = some w) (hb : b ∈ w) (hascii : b < 0x80) :
    b.toNat ∈ s := by
  induction s generalizing w with
  | nil =>
    obtain rfl := Option.some.inj h
    exact absurd hb List.not_mem_nil
  | cons c s ih =>
    obtain ⟨first, rest, hfirst, hrest, rfl⟩ := fsencode_cons h
    rcases List.mem_append.mp hb with hb | hb
    · rw [encodeChar_ascii hfirst hb hascii]
      exact List.mem_cons_self
    · exact List.mem_cons_of_mem c (ih hrest hb)

/-- Text in ASCII is its own bytes. -/
theorem fsencode_of_ascii (h : ∀ c ∈ s, c < 0x80) : fsencode s = some (s.map UInt8.ofNat) := by
  induction s with
  | nil => rfl
  | cons c s ih =>
    obtain ⟨hc, hs⟩ := List.forall_mem_cons.mp h
    rw [fsencode, encodeChar, if_pos hc, ih hs]
    rfl

end EncodingLemmas

section Breaks

variable {b : UInt8} {s t u v w : Bytes} {c n : Nat}

/-- No byte sequence of a break starts in the middle of a code point. -/
private theorem breakBytes_start (ht : t ∈ breakBytes) : ∃ x r, t = x :: r ∧ ¬ InTail x := by
  simp only [breakBytes, List.mem_cons, List.not_mem_nil, or_false] at ht
  rcases ht with rfl | rfl | rfl | rfl | rfl | rfl | rfl | rfl | rfl | rfl
  all_goals exact ⟨_, _, rfl, by unfold InTail; decide⟩

private theorem front_of_prefix (ht : t ∈ breakBytes) (h : t <+: b :: s) :
    ∃ c n, front b s = some (c, n) ∧ isBreak c = true := by
  obtain ⟨r, hr⟩ := h
  simp only [breakBytes, List.mem_cons, List.not_mem_nil, or_false] at ht
  rcases ht with rfl | rfl | rfl | rfl | rfl | rfl | rfl | rfl | rfl | rfl
  all_goals
    obtain ⟨rfl, rfl⟩ := List.cons.inj hr
    exact ⟨_, _, rfl, rfl⟩

private theorem prefix_of_front (h : front b s = some (c, n)) (hc : isBreak c = true) :
    ∃ t ∈ breakBytes, t <+: b :: s := by
  simp only [isBreak, Bool.or_eq_true, decide_eq_true_iff] at hc
  rcases front_cases h with ⟨-, hb, rfl⟩ | ⟨-, hb, hb', t, r, rfl, ht, rfl⟩ |
    ⟨-, hb, hb', t, u, r, rfl, ht, hu, hlow, rfl⟩ |
    ⟨-, hb, hb', t, u, v, r, rfl, ht, hu, hv, hlow, rfl⟩
  · have hbyte : [b] ∈ breakBytes := by
      have hb8 : b = UInt8.ofNat b.toNat := UInt8.ofNat_toNat.symm
      rw [hb8]
      rcases hc with (((((((((hc | hc) | hc) | hc) | hc) | hc) | hc) | hc) | hc) | hc)
      all_goals first
        | (rw [hc]; decide)
        | omega
    exact ⟨[b], hbyte, s, rfl⟩
  · have hfirst : b.toNat = 0xC2 ∧ t.toNat = 0x85 := by
      unfold InTail at ht
      omega
    obtain rfl : b = 0xC2 := UInt8.toNat_inj.mp hfirst.1
    obtain rfl : t = 0x85 := UInt8.toNat_inj.mp hfirst.2
    exact ⟨[0xC2, 0x85], by decide, r, rfl⟩
  · have hfirst : b.toNat = 0xE2 ∧ t.toNat = 0x80 ∧ (u.toNat = 0xA8 ∨ u.toNat = 0xA9) := by
      unfold InTail at ht hu
      omega
    obtain rfl : b = 0xE2 := UInt8.toNat_inj.mp hfirst.1
    obtain rfl : t = 0x80 := UInt8.toNat_inj.mp hfirst.2.1
    rcases hfirst.2.2 with hlast | hlast
    · obtain rfl : u = 0xA8 := UInt8.toNat_inj.mp hlast
      exact ⟨[0xE2, 0x80, 0xA8], by decide, r, rfl⟩
    · obtain rfl : u = 0xA9 := UInt8.toNat_inj.mp hlast
      exact ⟨[0xE2, 0x80, 0xA9], by decide, r, rfl⟩
  · exfalso
    unfold InTail at ht hu hv
    omega

private theorem hasBreak_cons :
    HasBreak (b :: s) ↔ (∃ t ∈ breakBytes, t <+: b :: s) ∨ HasBreak s := by
  constructor
  · rintro ⟨t, ht, hin⟩
    rcases List.infix_cons_iff.mp hin with hpre | hin
    · exact .inl ⟨t, ht, hpre⟩
    · exact .inr ⟨t, ht, hin⟩
  · rintro (⟨t, ht, hpre⟩ | ⟨t, ht, hin⟩)
    · exact ⟨t, ht, hpre.isInfix⟩
    · exact ⟨t, ht, List.infix_cons hin⟩

/-- The bytes that continue a code point begin no break. -/
private theorem hasBreak_after_tail (hw : ∀ x ∈ w, InTail x) : HasBreak (w ++ v) ↔ HasBreak v := by
  induction w with
  | nil => exact Iff.rfl
  | cons a w ih =>
    obtain ⟨ha, hrest⟩ := List.forall_mem_cons.mp hw
    rw [List.cons_append, hasBreak_cons, ih hrest]
    refine or_iff_right ?_
    rintro ⟨t, ht, r, hr⟩
    obtain ⟨x, r', rfl, hx⟩ := breakBytes_start ht
    obtain ⟨rfl, -⟩ := List.cons.inj hr
    exact hx ha

private theorem hasBreak_drop (h : front b s = some (c, n)) :
    HasBreak (s.drop n) ↔ HasBreak s := by
  have htake : ∀ x ∈ s.take n, InTail x := by
    rcases front_cases h with ⟨rfl, -⟩ | ⟨rfl, -, -, t, r, rfl, ht, -⟩ |
      ⟨rfl, -, -, t, u, r, rfl, ht, hu, -⟩ | ⟨rfl, -, -, t, u, v, r, rfl, ht, hu, hv, -⟩
    · simp
    · simpa using ht
    · simpa using ⟨ht, hu⟩
    · simpa using ⟨ht, hu, hv⟩
  have hsame := hasBreak_after_tail (v := s.drop n) htake
  rw [List.take_append_drop] at hsame
  exact hsame.symm

/-- A decoded text has a break exactly where the bytes have those of one; by induction on the
length, code point by code point. -/
theorem decode_break_iff (s : Bytes) : (∃ c ∈ decode s, isBreak c = true) ↔ HasBreak s := by
  obtain ⟨m, hm⟩ : ∃ m, s.length ≤ m := ⟨_, le_rfl⟩
  induction m generalizing s with
  | zero =>
    obtain rfl : s = [] := List.eq_nil_of_length_eq_zero (by omega)
    refine iff_of_false (by rintro ⟨c, hc, -⟩; cases hc) ?_
    rintro ⟨t, ht, hin⟩
    obtain ⟨x, r, rfl, -⟩ := breakBytes_start ht
    cases List.infix_nil.mp hin
  | succ m ih =>
    cases s with
    | nil => exact ih [] (Nat.zero_le m)
    | cons b s =>
      simp only [List.length_cons] at hm
      rw [hasBreak_cons]
      cases hfront : front b s with
      | none =>
        have hquiet : isBreak (0xDC00 + b.toNat) = false := by
          have hb := b.toNat_lt
          simp only [isBreak, Bool.or_eq_false_iff, decide_eq_false_iff_not]
          omega
        rw [decode_none hfront, List.exists_mem_cons_iff, hquiet, ih s (by omega)]
        refine or_congr ?_ Iff.rfl
        refine iff_of_false Bool.false_ne_true ?_
        rintro ⟨t, ht, hpre⟩
        obtain ⟨c, n, hsome, -⟩ := front_of_prefix ht hpre
        rw [hfront] at hsome
        cases hsome
      | some r =>
        obtain ⟨c, n⟩ := r
        rw [decode_some hfront, List.exists_mem_cons_iff,
          ih (s.drop n) (by rw [List.length_drop]; omega), hasBreak_drop hfront]
        refine or_congr ⟨prefix_of_front hfront, ?_⟩ Iff.rfl
        rintro ⟨t, ht, hpre⟩
        obtain ⟨c', n', hsome, hbreak⟩ := front_of_prefix ht hpre
        obtain ⟨rfl, -⟩ := Prod.mk.inj (Option.some.inj (hfront.symm.trans hsome))
        exact hbreak

theorem printable (h : isPrintable b = true) : 32 ≤ b.toNat ∧ b.toNat < 0x80 := by
  simpa only [isPrintable, Bool.and_eq_true, decide_eq_true_iff] using h

theorem no_break_of_printable (h : s.all isPrintable = true) : ¬ HasBreak s := by
  rw [← decode_break_iff, decode_ascii fun b hb => (printable (List.all_eq_true.mp h b hb)).2]
  rintro ⟨c, hc, hbreak⟩
  obtain ⟨b, hb, rfl⟩ := List.mem_map.mp hc
  have hrange := printable (List.all_eq_true.mp h b hb)
  simp only [isBreak, Bool.or_eq_true, decide_eq_true_iff] at hbreak
  omega

/-- A printable byte keeps its neighbours apart. -/
theorem hasBreak_append (hb : 32 ≤ b.toNat ∧ b.toNat < 0x80) :
    HasBreak (u ++ b :: v) ↔ HasBreak u ∨ HasBreak v := by
  have hquiet : isBreak b.toNat = false := by
    simp only [isBreak, Bool.or_eq_false_iff, decide_eq_false_iff_not]
    omega
  simp only [← decode_break_iff, decode_append (x := b) hb.2, List.mem_append, List.mem_cons,
    or_and_right, exists_or, exists_eq_left, hquiet, Bool.false_eq_true, false_or]

theorem not_mem_decode_ascii (hb : b < 0x80) (h : b ∉ s) : b.toNat ∉ decode s := by
  obtain ⟨m, hm⟩ : ∃ m, s.length ≤ m := ⟨_, le_rfl⟩
  induction m generalizing s with
  | zero =>
    obtain rfl : s = [] := List.eq_nil_of_length_eq_zero (by omega)
    exact List.not_mem_nil
  | succ m ih =>
    cases s with
    | nil => exact List.not_mem_nil
    | cons a s =>
      obtain ⟨hne, hs⟩ := List.ne_and_not_mem_of_not_mem_cons h
      simp only [List.length_cons] at hm
      have hlt : b.toNat < 0x80 := hb
      cases hfront : front a s with
      | none =>
        rw [decode_none hfront]
        exact List.not_mem_cons_of_ne_of_not_mem (by omega) (ih hs (by omega))
      | some r =>
        obtain ⟨c, n⟩ := r
        rw [decode_some hfront]
        refine List.not_mem_cons_of_ne_of_not_mem ?_
          (ih (fun hb => hs (List.mem_of_mem_drop hb)) (by rw [List.length_drop]; omega))
        rintro rfl
        rcases front_cases hfront with ⟨-, -, heq⟩ | ⟨-, h1, h2, t, r, -, -, heq⟩ |
          ⟨-, h1, h2, t, u, r, -, ht, -, hlow, heq⟩ |
          ⟨-, h1, h2, t, u, v, r, -, ht, -, -, hlow, heq⟩
        · exact hne (UInt8.toNat_inj.mp heq)
        · omega
        · unfold InTail at ht
          omega
        · unfold InTail at ht
          omega

end Breaks

section LineLemmas

variable {l s line word rest tag : Str} {c n : Nat}

private theorem translateNewlines_cons (hc : c ≠ 13) (s : Str) :
    translateNewlines (c :: s) = c :: translateNewlines s := by
  rw [translateNewlines, if_neg hc]
  rintro t rfl
  exact absurd rfl hc

private theorem translateNewlines_line (hl : ∀ c ∈ l, isBreak c = false) (s : Str) :
    translateNewlines (l ++ 10 :: s) = l ++ 10 :: translateNewlines s := by
  induction l with
  | nil => exact translateNewlines_cons (by decide) s
  | cons c l ih =>
    obtain ⟨hc, hrest⟩ := List.forall_mem_cons.mp hl
    have hne : c ≠ 13 := by
      rintro rfl
      cases hc
    rw [List.cons_append, translateNewlines_cons hne, ih hrest, List.cons_append]

private theorem linesFrom_char (hc : isBreak c = false) (line s : Str) :
    linesFrom line (c :: s) = linesFrom (line ++ [c]) s := by
  rw [linesFrom, hc]
  · rfl
  · rintro t rfl
    cases hc

private theorem linesFrom_line (hl : ∀ c ∈ l, isBreak c = false) (line s : Str) :
    linesFrom line (l ++ 10 :: s) = (line ++ l) :: linesFrom [] s := by
  induction l generalizing line with
  | nil =>
    rw [List.append_nil]
    rfl
  | cons c l ih =>
    obtain ⟨hc, hrest⟩ := List.forall_mem_cons.mp hl
    rw [List.cons_append, linesFrom_char hc, ih hrest, List.append_assoc]
    rfl

/-- Lines of bytes without breaks are the lines of their text. -/
theorem splitlines_unlines {ls : List Bytes} (h : ∀ l ∈ ls, ¬ HasBreak l) :
    splitlines (translateNewlines (decode (unlines ls))) = ls.map decode := by
  induction ls with
  | nil => rfl
  | cons l ls ih =>
    obtain ⟨hl, hls⟩ := List.forall_mem_cons.mp h
    have hquiet : ∀ c ∈ decode l, isBreak c = false := by
      intro c hc
      by_contra hbreak
      exact hl ((decode_break_iff l).mp ⟨c, hc, by simpa using hbreak⟩)
    rw [unlines_cons, decode_append (by decide)]
    show splitlines (translateNewlines (decode l ++ 10 :: decode (unlines ls))) = _
    rw [translateNewlines_line hquiet, splitlines, linesFrom_line hquiet, List.nil_append,
      List.map_cons, ← ih hls]
    rfl

private theorem no_break_of_mem_linesFrom (hline : ∀ c ∈ line, isBreak c = false)
    (h : l ∈ linesFrom line s) : ∀ c ∈ l, isBreak c = false := by
  have hnil : ∀ c ∈ ([] : Str), isBreak c = false := fun c hc => absurd hc List.not_mem_nil
  fun_induction linesFrom line s with
  | case1 => exact absurd h List.not_mem_nil
  | case2 line hne =>
    obtain rfl := List.mem_singleton.mp h
    exact hline
  | case3 line s ih =>
    rcases List.mem_cons.mp h with rfl | h
    · exact hline
    · exact ih hnil h
  | case4 line c s hcr hbreak ih =>
    rcases List.mem_cons.mp h with rfl | h
    · exact hline
    · exact ih hnil h
  | case5 line c s hcr hbreak ih =>
    refine ih (fun d hd => ?_) h
    rcases List.mem_append.mp hd with hd | hd
    · exact hline d hd
    · obtain rfl := List.mem_singleton.mp hd
      simpa using hbreak

/-- No line has a break in it. -/
theorem no_break_of_mem_splitlines (h : l ∈ splitlines s) : ∀ c ∈ l, isBreak c = false :=
  no_break_of_mem_linesFrom (fun _ hc => absurd hc List.not_mem_nil) h

theorem split_word (hword : 32 ∉ word) (n : Nat) (rest : Str) :
    split (n + 1) (word ++ 32 :: rest) = word :: split n rest := by
  have hspan : (word ++ 32 :: rest).span (· ≠ 32) = (word, 32 :: rest) := by
    rw [List.span_eq_takeWhile_dropWhile]
    have hall : ∀ c ∈ word, decide (c ≠ 32) = true := by
      intro c hc
      have hne : c ≠ 32 := fun heq => hword (heq ▸ hc)
      simpa using hne
    rw [List.takeWhile_append_of_pos hall, List.dropWhile_append_of_pos hall,
      List.takeWhile_cons_of_neg (by simp), List.dropWhile_cons_of_neg (by simp), List.append_nil]
  rw [split, hspan]

theorem mem_of_mem_split (h : word ∈ split n s) (hc : c ∈ word) : c ∈ s := by
  induction n generalizing s with
  | zero =>
    obtain rfl := List.mem_singleton.mp h
    exact hc
  | succ n ih =>
    rw [split, List.span_eq_takeWhile_dropWhile] at h
    have hparts := List.takeWhile_append_dropWhile (p := fun c => decide (c ≠ 32)) (l := s)
    rw [← hparts]
    split at h
    · rename_i heq
      obtain ⟨hfirst, -⟩ := Prod.mk.inj heq
      obtain rfl := List.mem_singleton.mp h
      exact List.mem_append_left _ (hfirst ▸ hc)
    · rename_i heq
      obtain ⟨hfirst, hrest⟩ := Prod.mk.inj heq
      rcases List.mem_cons.mp h with rfl | h
      · exact List.mem_append_left _ (hfirst ▸ hc)
      · refine List.mem_append_right _ ?_
        rw [hrest]
        exact List.mem_cons_of_mem _ (ih h)

theorem afterPrefix_append (tag rest : Str) : afterPrefix tag (tag ++ rest) = some rest := by
  rw [afterPrefix, if_pos (by simp), List.drop_left]

theorem mem_of_afterPrefix (h : afterPrefix tag line = some rest) (hc : c ∈ rest) : c ∈ line := by
  unfold afterPrefix at h
  split at h
  · obtain rfl := Option.some.inj h
    exact List.mem_of_mem_drop hc
  · cases h

end LineLemmas

end KernelAv.Lib.PyText
