/- digest: The C library's sscanf for white space, runs up to stop bytes, and long numbers. -/

import KernelAv.Lib.CText

set_option autoImplicit false
set_option relaxedAutoImplicit false

namespace KernelAv.Lib.StdScanf

open KernelAv.Lib.CText

/-- The directives: white space, `%<width>[^...]`, and `%ld`. -/
inductive Directive where
  | space
  | upTo (width : Nat) (stops : Bytes)
  | long
  deriving DecidableEq

inductive Field where
  | text (s : Bytes)
  | number (n : Int)
  deriving DecidableEq

/-- A `long` has 64 bits. -/
def clampLong (n : Int) : Int := max (-2 ^ 63) (min n (2 ^ 63 - 1))

/-- The fields that are converted before one does not match. -/
def sscanf : List Directive → Bytes → List Field
  | [], _ => []
  | .space :: fmt, s => sscanf fmt (s.dropWhile isspace)
  | .upTo width stops :: fmt, s =>
      let field := (s.takeWhile fun b => !stops.contains b).take width
      if field = [] then [] else .text field :: sscanf fmt (s.drop field.length)
  | .long :: fmt, s =>
      match longPrefix s with
      | none => []
      | some (n, rest) => .number (clampLong n) :: sscanf fmt rest

variable {fmt : List Directive} {width : Nat} {stops w s t : Bytes} {c : UInt8}

/-- The string does not begin with white space. -/
def Tight (s : Bytes) : Prop := ∀ b, s.head? = some b → isspace b = false

instance (s : Bytes) : Decidable (Tight s) :=
  match s with
  | [] => isTrue nofun
  | b :: _ => decidable_of_iff (isspace b = false)
      ⟨fun h _ ha => Option.some.inj ha ▸ h, fun h => h b rfl⟩

theorem dropWhile_of_tight (h : Tight s) : s.dropWhile isspace = s := by
  cases s with
  | nil => rfl
  | cons b s => exact List.dropWhile_cons_of_neg (by simp [h b rfl])

theorem tight_dropWhile (s : Bytes) : Tight (s.dropWhile isspace) := by
  intro b hb
  have hne : s.dropWhile isspace ≠ [] := by
    intro hnil
    rw [hnil] at hb
    cases hb
  have hhead := List.dropWhile_get_zero_not isspace s (List.length_pos_iff.mpr hne)
  rw [List.head?_eq_some_head hne] at hb
  rw [← Option.some.inj hb, List.head_eq_getElem]
  simpa using hhead

theorem Tight.append (h : Tight s) (hne : s ≠ []) : Tight (s ++ t) := by
  cases s with
  | nil => exact absurd rfl hne
  | cons a s => exact h

private theorem takeWhile_run (h : ∀ b ∈ w, b ∉ stops) (hc : c ∈ stops) :
    (w ++ c :: t).takeWhile (fun b => !stops.contains b) = w := by
  induction w with
  | nil => simp [hc]
  | cons a w ih =>
    obtain ⟨ha, hw⟩ := List.forall_mem_cons.mp h
    rw [List.cons_append, List.takeWhile_cons_of_pos (by simpa using ha), ih hw]

/-- A run that fits is read whole, up to the stop byte that follows it. -/
theorem sscanf_upTo (h : ∀ b ∈ w, b ∉ stops) (hne : w ≠ []) (hlen : w.length ≤ width)
    (hc : c ∈ stops) :
    sscanf (.upTo width stops :: fmt) (w ++ c :: t) = .text w :: sscanf fmt (c :: t) := by
  rw [sscanf, takeWhile_run h hc, List.take_of_length_le hlen, if_neg hne, List.drop_left]

/-- A run that fits is read whole at the end of the string. -/
theorem sscanf_upTo_end (h : ∀ b ∈ w, b ∉ stops) (hne : w ≠ []) (hlen : w.length ≤ width) :
    sscanf (.upTo width stops :: fmt) w = .text w :: sscanf fmt [] := by
  have hrun : w.takeWhile (fun b => !stops.contains b) = w :=
    List.takeWhile_eq_self_iff.mpr fun b hb => by simpa using h b hb
  rw [sscanf, hrun, List.take_of_length_le hlen, if_neg hne, List.drop_length]

theorem sscanf_tight (h : Tight s) : sscanf (.space :: fmt) s = sscanf fmt s := by
  rw [sscanf, dropWhile_of_tight h]

/-- White space in the format passes over one such byte in front of a string without more. -/
theorem sscanf_space (hc : isspace c = true) (h : Tight s) :
    sscanf (.space :: fmt) (c :: s) = sscanf fmt s := by
  rw [sscanf, List.dropWhile_cons_of_pos hc, dropWhile_of_tight h]

/-- What is read after white space does not begin with any. -/
theorem tight_of_space {fields : List Field}
    (h : sscanf (.space :: .upTo width stops :: fmt) s = .text w :: fields) : w ≠ [] ∧ Tight w := by
  rw [sscanf, sscanf] at h
  split at h
  · cases h
  · rename_i hne
    obtain ⟨hw, -⟩ := List.cons.inj h
    obtain rfl := Field.text.inj hw
    refine ⟨hne, fun b hb => tight_dropWhile s b ?_⟩
    generalize s.dropWhile isspace = u at hb hne ⊢
    cases u with
    | nil => simp at hne
    | cons a u =>
      rw [List.takeWhile_cons] at hb
      split at hb
      · cases width with
        | zero => cases hb
        | succ width => exact hb
      · simp at hb

/-- A number is read back, up to the first byte that is no digit. -/
theorem sscanf_long {i : Int} (hlo : -2 ^ 63 ≤ i) (hhi : i < 2 ^ 63) (ht : takeDigits 10 t = []) :
    sscanf (.long :: fmt) (fmtInt i ++ t) = .number i :: sscanf fmt t := by
  have hclamp : clampLong i = i := by
    unfold clampLong
    omega
  rw [sscanf, longPrefix_fmtInt i ht]
  dsimp only
  rw [hclamp]

/-- The last run is read if anything but white space is left. -/
theorem sscanf_last (hc : isspace c = true) (h : ∀ b ∈ s, b ∉ stops) (hwidth : 0 < width) :
    (∃ w, sscanf [.space, .upTo width stops] (c :: s) = [.text w]) ↔
      ∃ b ∈ s, isspace b = false := by
  have hrun : (s.dropWhile isspace).takeWhile (fun b => !stops.contains b) =
      s.dropWhile isspace := by
    refine List.takeWhile_eq_self_iff.mpr fun b hb => ?_
    simpa using h b ((List.dropWhile_suffix _).subset hb)
  rw [sscanf, List.dropWhile_cons_of_pos hc, sscanf, hrun]
  by_cases hnil : s.dropWhile isspace = []
  · rw [hnil, List.take_nil, if_pos rfl]
    have hall := List.dropWhile_eq_nil_iff.mp hnil
    constructor
    · rintro ⟨w, hw⟩
      cases hw
    · rintro ⟨b, hb, hspace⟩
      rw [hall b hb] at hspace
      cases hspace
  · have htake : (s.dropWhile isspace).take width ≠ [] := by
      rw [ne_eq, List.take_eq_nil_iff]
      rintro (h0 | h0)
      · omega
      · exact hnil h0
    rw [if_neg htake, sscanf]
    refine ⟨fun _ => ?_, fun _ => ⟨_, rfl⟩⟩
    by_contra hall
    refine hnil (List.dropWhile_eq_nil_iff.mpr fun b hb => ?_)
    by_contra hspace
    exact hall ⟨b, hb, by simpa using hspace⟩

/-- The white space of the C locale, where `%<width>s` stops. -/
def spaces : Bytes := [9, 10, 11, 12, 13, 32]

theorem mem_spaces {b : UInt8} : b ∈ spaces ↔ isspace b = true := by
  have hall : ∀ n : Fin 256, UInt8.ofNat n ∈ spaces ↔ isspace (UInt8.ofNat n) = true := by
    decide +kernel
  simpa using hall ⟨b.toNat, b.toNat_lt⟩

/-- The directives of `%<width>s`, which skips white space first. -/
def word (width : Nat) : List Directive := [.space, .upTo width spaces]

/-- A string without white space, and not empty. -/
def IsWord (w : Bytes) : Prop := w ≠ [] ∧ ∀ b ∈ w, isspace b = false

theorem isWord_of_all (hne : w ≠ []) (h : (w.all fun b => !isspace b) = true) : IsWord w :=
  ⟨hne, fun b hb => by simpa using List.all_eq_true.mp h b hb⟩

theorem IsWord.tight (h : IsWord w) : Tight w := by
  intro b hb
  exact h.2 b (List.mem_of_head? hb)

theorem IsWord.no_stop (h : IsWord w) : ∀ b ∈ w, b ∉ spaces := by
  intro b hb hstop
  have hspace := mem_spaces.mp hstop
  rw [h.2 b hb] at hspace
  cases hspace

/-- A word that fits is read whole, up to the white space that follows it. -/
theorem sscanf_word (h : IsWord w) (hlen : w.length ≤ width) (hc : isspace c = true) :
    sscanf (word width ++ fmt) (w ++ c :: t) = .text w :: sscanf fmt (c :: t) := by
  show sscanf (.space :: .upTo width spaces :: fmt) (w ++ c :: t) = _
  rw [sscanf_tight (h.tight.append h.1), sscanf_upTo h.no_stop h.1 hlen (mem_spaces.mpr hc)]

theorem sscanf_space_word {d : UInt8} (hd : isspace d = true) (h : IsWord w)
    (hlen : w.length ≤ width) (hc : isspace c = true) :
    sscanf (word width ++ fmt) (d :: (w ++ c :: t)) = .text w :: sscanf fmt (c :: t) := by
  show sscanf (.space :: .upTo width spaces :: fmt) (d :: (w ++ c :: t)) = _
  rw [sscanf_space hd (h.tight.append h.1), sscanf_upTo h.no_stop h.1 hlen (mem_spaces.mpr hc)]

/-- The texts that were converted. -/
def texts (fields : List Field) : List Bytes :=
  fields.filterMap fun
    | .text s => some s
    | .number _ => none

theorem tight_fmtInt (i : Int) : Tight (fmtInt i) ∧ fmtInt i ≠ [] := by
  obtain ⟨a, t, hs, hlo, -⟩ := fmtNat_head (by decide) (le_refl 10) i.natAbs
  unfold fmtInt
  split
  · exact ⟨fun b hb => Option.some.inj hb ▸ rfl, List.cons_ne_nil _ _⟩
  · rw [hs]
    exact ⟨fun b hb => Option.some.inj hb ▸ isspace_digit hlo, List.cons_ne_nil _ _⟩

end KernelAv.Lib.StdScanf
