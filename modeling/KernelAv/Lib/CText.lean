/- digest: Byte strings of the C library: formatting and parsing numbers, and their round trips. -/

import Mathlib.Data.Nat.Digits.Lemmas
import Mathlib.Data.List.TakeWhile

set_option autoImplicit false
set_option relaxedAutoImplicit false

namespace KernelAv.Lib.CText

/-- A C string without its terminator, or the content of a file. -/
abbrev Bytes := List UInt8

def lit (s : String) : Bytes := s.toList.map (fun c => UInt8.ofNat c.toNat)

/-- What the C library sees of a buffer: everything before the first NUL. -/
def cstr (b : Bytes) : Bytes := b.takeWhile (· ≠ 0)

theorem cstr_eq_self {b : Bytes} (h : (0 : UInt8) ∉ b) : cstr b = b := by
  refine List.takeWhile_eq_self_iff.mpr fun x hx => ?_
  have hne : x ≠ 0 := fun e => h (e ▸ hx)
  simpa using hne

/-- `snprintf(dst, size, "%s", s)`: at most `size - 1` bytes arrive. -/
def snprintf_s (size : Nat) (s : Bytes) : Bytes := s.take (size - 1)

theorem snprintf_s_eq_self {size : Nat} {s : Bytes} (h : s.length < size) :
    snprintf_s size s = s := by
  exact List.take_of_length_le (by omega)

/-- `strscpy(dst, s, size)`: the string, cut to `size - 1` bytes. -/
def strscpy (size : Nat) (s : Bytes) : Bytes := s.take (size - 1)

/-- `strlcat(dst, s, size)`: as much of `s` behind `dst` as fits in `size - 1` bytes. -/
def strlcat (size : Nat) (dst s : Bytes) : Bytes := dst ++ s.take (size - 1 - dst.length)

theorem strscpy_length {size : Nat} (h : 0 < size) (s : Bytes) :
    (strscpy size s).length < size := by
  rw [strscpy, List.length_take]
  omega

theorem strscpy_eq_self {size : Nat} {s : Bytes} (h : s.length < size) : strscpy size s = s :=
  List.take_of_length_le (by omega)

theorem strlcat_length {size : Nat} {dst : Bytes} (h : dst.length < size) (s : Bytes) :
    (strlcat size dst s).length < size := by
  rw [strlcat, List.length_append, List.length_take]
  omega

/-- `strstr` as a truth value. -/
def strstr (s needle : Bytes) : Bool := s.tails.any fun p => needle.isPrefixOf p

/-- The kernel's `tolower`, whose character table is Latin-1. -/
def tolower (b : UInt8) : UInt8 :=
  if 65 ≤ b.toNat ∧ b.toNat ≤ 90 ∨ 192 ≤ b.toNat ∧ b.toNat ≤ 222 ∧ b.toNat ≠ 215 then b + 32
  else b

theorem tolower_tolower (b : UInt8) : tolower (tolower b) = tolower b := by
  by_cases h : 65 ≤ b.toNat ∧ b.toNat ≤ 90 ∨ 192 ≤ b.toNat ∧ b.toNat ≤ 222 ∧ b.toNat ≠ 215
  · have hadd : (b + 32).toNat = b.toNat + 32 := by
      rw [UInt8.toNat_add]
      exact Nat.mod_eq_of_lt (by show b.toNat + 32 < 2 ^ 8; omega)
    have hlower : tolower b = b + 32 := if_pos h
    rw [hlower]
    apply if_neg
    rw [hadd]
    omega
  · have hlower : tolower b = b := if_neg h
    rw [hlower, hlower]

/-- `strncasecmp(s, t, n) == 0`. -/
def strncaseeq (n : Nat) (s t : Bytes) : Bool := (s.take n).map tolower == (t.take n).map tolower

def digitList (base n : Nat) : List Nat :=
  if n = 0 then [0] else (Nat.digits base n).reverse

def fmtNat (base n : Nat) : Bytes := (digitList base n).map (fun d => UInt8.ofNat (48 + d))

def fmtInt (i : Int) : Bytes :=
  if i < 0 then 45 :: fmtNat 10 i.natAbs else fmtNat 10 i.natAbs

def isspace (b : UInt8) : Bool := b == 32 || (9 ≤ b && b ≤ 13)

def takeDigits (base : Nat) : Bytes → List Nat
  | [] => []
  | b :: s =>
      if 48 ≤ b.toNat ∧ b.toNat - 48 < base ∧ b.toNat ≤ 57 then
        (b.toNat - 48) :: takeDigits base s
      else []

def magnitude (base : Nat) (ds : List Nat) : Nat := ds.foldl (fun a d => a * base + d) 0

def takeSign : Bytes → Bool × Bytes
  | [] => (false, [])
  | b :: s => if b = 45 then (true, s) else if b = 43 then (false, s) else (false, b :: s)

/-- `strtoul(s, NULL, base)` for bases 8 and 10 on a 64-bit target: white space, a sign, digits;
no digits give 0, overflow gives `ULONG_MAX`, a minus sign negates modulo `2^64`. -/
def strtoul (s : Bytes) (base : Nat) : Nat :=
  let r := takeSign (s.dropWhile isspace)
  let n := magnitude base (takeDigits base r.2)
  if 2 ^ 64 ≤ n then 2 ^ 64 - 1 else if r.1 then (2 ^ 64 - n) % 2 ^ 64 else n

/-- `strtoll(s, NULL, 10)`, clamped to the `long long` range. -/
def strtoll (s : Bytes) : Int :=
  let r := takeSign (s.dropWhile isspace)
  let n : Int := magnitude 10 (takeDigits 10 r.2)
  if r.1 then max (-n) (-2 ^ 63) else min n (2 ^ 63 - 1)

/-- The decimal number that a string begins with, after white space, and what follows its digits;
none without digits. -/
def longPrefix (s : Bytes) : Option (Int × Bytes) :=
  let r := takeSign (s.dropWhile isspace)
  let ds := takeDigits 10 r.2
  let n : Int := magnitude 10 ds
  if ds = [] then none else some (if r.1 then -n else n, r.2.drop ds.length)

private theorem digitList_lt {base n d : Nat} (hb : 2 ≤ base) (hd : d ∈ digitList base n) :
    d < base := by
  unfold digitList at hd
  split at hd
  · obtain rfl := List.mem_singleton.mp hd
    omega
  · exact Nat.digits_lt_base (by omega) (List.mem_reverse.mp hd)

private theorem magnitude_reverse (base : Nat) (ds : List Nat) :
    magnitude base ds.reverse = Nat.ofDigits base ds := by
  unfold magnitude
  rw [List.foldl_reverse]
  induction ds with
  | nil => rfl
  | cons d ds ih =>
    rw [List.foldr_cons, ih, Nat.ofDigits_cons]
    ring

private theorem magnitude_digitList (base n : Nat) : magnitude base (digitList base n) = n := by
  unfold digitList
  split
  · simp_all [magnitude]
  · rw [magnitude_reverse, Nat.ofDigits_digits]

private theorem takeDigits_map {base : Nat} {t : Bytes} (hb : base ≤ 10)
    (ht : takeDigits base t = []) (ds : List Nat) (h : ∀ d ∈ ds, d < base) :
    takeDigits base (ds.map (fun d => UInt8.ofNat (48 + d)) ++ t) = ds := by
  induction ds with
  | nil => exact ht
  | cons d ds ih =>
    have hd := h d (by simp)
    have hv : (UInt8.ofNat (48 + d)).toNat = 48 + d := by
      simp only [UInt8.toNat_ofNat']
      omega
    simp only [List.map_cons, List.cons_append, takeDigits, hv]
    rw [if_pos (by omega), ih (fun e he => h e (by simp [he]))]
    simp

private theorem takeDigits_append {base : Nat} (h2 : 2 ≤ base) (h10 : base ≤ 10) (n : Nat)
    {t : Bytes} (ht : takeDigits base t = []) :
    takeDigits base (fmtNat base n ++ t) = digitList base n :=
  takeDigits_map h10 ht _ (fun _ => digitList_lt h2)

theorem takeDigits_fmtNat {base : Nat} (h2 : 2 ≤ base) (h10 : base ≤ 10) (n : Nat) :
    magnitude base (takeDigits base (fmtNat base n)) = n := by
  have happend := takeDigits_append h2 h10 n (t := []) rfl
  rw [List.append_nil] at happend
  rw [happend, magnitude_digitList]

/-- Every formatted number starts with a digit byte, so no sign and no space is skipped. -/
theorem fmtNat_head {base : Nat} (h2 : 2 ≤ base) (h10 : base ≤ 10) (n : Nat) :
    ∃ b s, fmtNat base n = b :: s ∧ 48 ≤ b.toNat ∧ b.toNat ≤ 57 := by
  have hne : digitList base n ≠ [] := by
    unfold digitList
    split
    · simp
    · simpa using Nat.digits_ne_nil_iff_ne_zero.mpr ‹_›
  obtain ⟨d, ds, hd⟩ := List.exists_cons_of_ne_nil hne
  have hlt : d < base := digitList_lt h2 (by rw [hd]; simp)
  refine ⟨UInt8.ofNat (48 + d), ds.map (fun d => UInt8.ofNat (48 + d)), by simp [fmtNat, hd], ?_⟩
  simp only [UInt8.toNat_ofNat']
  omega

theorem isspace_digit {b : UInt8} (h : 48 ≤ b.toNat) : isspace b = false := by
  have h32 : b ≠ 32 := by rintro rfl; simp at h
  have h13 : ¬ b ≤ 13 := by
    rw [UInt8.le_iff_toNat_le]
    simp only [UInt8.reduceToNat]
    omega
  simp [isspace, h32, h13]

private theorem takeSign_fmtNat {base : Nat} (h2 : 2 ≤ base) (h10 : base ≤ 10) (n : Nat) :
    takeSign ((fmtNat base n).dropWhile isspace) = (false, fmtNat base n) := by
  obtain ⟨b, s, he, hlo, hhi⟩ := fmtNat_head h2 h10 n
  have h45 : b ≠ 45 := by rintro rfl; simp at hlo
  have h43 : b ≠ 43 := by rintro rfl; simp at hlo
  rw [he, List.dropWhile_cons_of_neg (by simp [isspace_digit hlo])]
  simp [takeSign, h45, h43]

theorem strtoul_fmtNat {base n : Nat} (h2 : 2 ≤ base) (h10 : base ≤ 10) (hn : n < 2 ^ 64) :
    strtoul (fmtNat base n) base = n := by
  simp only [strtoul, takeSign_fmtNat h2 h10, takeDigits_fmtNat h2 h10]
  rw [if_neg (by omega)]
  simp

private theorem takeSign_minus (s : Bytes) :
    takeSign ((45 :: s).dropWhile isspace) = (true, s) := by
  rw [List.dropWhile_cons_of_neg (by decide)]
  simp [takeSign]

theorem strtoul_fmtInt_nonneg {i : Int} (h0 : 0 ≤ i) (h : i < 2 ^ 64) :
    (strtoul (fmtInt i) 10 : Int) = i := by
  rw [fmtInt, if_neg (by omega), strtoul_fmtNat (by decide) (by decide) (by omega)]
  omega

theorem strtoul_fmtInt_neg {i : Int} (h0 : i < 0) (h : -2 ^ 64 < i) :
    (strtoul (fmtInt i) 10 : Int) = 2 ^ 64 + i := by
  rw [fmtInt, if_pos h0]
  simp only [strtoul, takeSign_minus, takeDigits_fmtNat (by decide : 2 ≤ 10) (le_refl 10)]
  rw [if_neg (by omega)]
  simp only [↓reduceIte]
  omega

theorem fmtNat_digit {base : Nat} (h2 : 2 ≤ base) (h10 : base ≤ 10) (n : Nat) {b : UInt8}
    (hb : b ∈ fmtNat base n) : 48 ≤ b.toNat ∧ b.toNat ≤ 57 := by
  obtain ⟨d, hd, rfl⟩ := List.mem_map.mp hb
  have := digitList_lt h2 hd
  simp only [UInt8.toNat_ofNat']
  omega

/-- Formatted numbers contain neither a NUL nor a newline. -/
theorem fmtNat_clean {base : Nat} (h2 : 2 ≤ base) (h10 : base ≤ 10) (n : Nat) (b : UInt8)
    (hb : b.toNat < 48) : b ∉ fmtNat base n := by
  intro hm
  have := fmtNat_digit h2 h10 n hm
  omega

private theorem longPrefix_digits {t : Bytes} (ht : takeDigits 10 t = []) (n : Nat) :
    takeDigits 10 (fmtNat 10 n ++ t) ≠ [] ∧
      magnitude 10 (takeDigits 10 (fmtNat 10 n ++ t)) = n ∧
      (fmtNat 10 n ++ t).drop (takeDigits 10 (fmtNat 10 n ++ t)).length = t := by
  have hlen : (fmtNat 10 n).length = (digitList 10 n).length := by rw [fmtNat, List.length_map]
  obtain ⟨b, s, hs, -⟩ := fmtNat_head (by decide) (le_refl 10) n
  rw [takeDigits_append (by decide) le_rfl n ht, magnitude_digitList, ← hlen, List.drop_left]
  refine ⟨?_, rfl, rfl⟩
  intro hnil
  rw [hnil, hs] at hlen
  cases hlen

/-- A formatted number is read back, up to the first byte that is no digit. -/
theorem longPrefix_fmtInt (i : Int) {t : Bytes} (ht : takeDigits 10 t = []) :
    longPrefix (fmtInt i ++ t) = some (i, t) := by
  obtain ⟨hne, hval, hdrop⟩ := longPrefix_digits ht i.natAbs
  unfold fmtInt
  split
  · rename_i hneg
    rw [List.cons_append, longPrefix]
    simp only [takeSign_minus, if_neg hne, hval, hdrop, if_true]
    rw [show -(i.natAbs : Int) = i by omega]
  · rename_i hpos
    have hsign : takeSign ((fmtNat 10 i.natAbs ++ t).dropWhile isspace) =
        (false, fmtNat 10 i.natAbs ++ t) := by
      obtain ⟨b, s, hs, hlo, -⟩ := fmtNat_head (by decide) (le_refl 10) i.natAbs
      have h45 : b ≠ 45 := by rintro rfl; simp at hlo
      have h43 : b ≠ 43 := by rintro rfl; simp at hlo
      rw [hs, List.cons_append, List.dropWhile_cons_of_neg (by simp [isspace_digit hlo])]
      simp [takeSign, h45, h43]
    rw [longPrefix]
    simp only [hsign, if_neg hne, hval, hdrop, Bool.false_eq_true, if_false]
    rw [show (i.natAbs : Int) = i by omega]

theorem fmtInt_clean (i : Int) (b : UInt8) (hb : b.toNat < 45) : b ∉ fmtInt i := by
  unfold fmtInt
  have hn := fmtNat_clean (by decide) (le_refl 10) i.natAbs b (by omega)
  split
  · simp only [List.mem_cons, not_or]
    refine ⟨?_, hn⟩
    rintro rfl
    simp at hb
  · exact hn

private theorem digitList_length_le {base k n : Nat} (hb : 2 ≤ base) (hk : 0 < k)
    (h : n < base ^ k) : (digitList base n).length ≤ k := by
  unfold digitList
  split
  · simp only [List.length_singleton]
    omega
  · rw [List.length_reverse]
    exact (Nat.digits_length_le_iff (by omega) n).mpr h

theorem fmtNat_length_le {base k n : Nat} (hb : 2 ≤ base) (hk : 0 < k) (h : n < base ^ k) :
    (fmtNat base n).length ≤ k := by
  rw [fmtNat, List.length_map]
  exact digitList_length_le hb hk h

theorem fmtInt_length_le {k : Nat} {i : Int} (hk : 0 < k) (h : i.natAbs < 10 ^ k) :
    (fmtInt i).length ≤ k + 1 := by
  have := fmtNat_length_le (by decide : 2 ≤ 10) hk h
  unfold fmtInt
  split
  · simp only [List.length_cons]
    omega
  · omega

end KernelAv.Lib.CText
