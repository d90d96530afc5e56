/- digest: The kernel's sscanf for white space, words and runs up to a stop byte. -/

import KernelAv.Lib.CText

set_option autoImplicit false
set_option relaxedAutoImplicit false

namespace KernelAv.Lib.Scanf

open KernelAv.Lib.CText

/-- The kernel's `isspace`: its character table, which is Latin-1, counts the no-break space. -/
def isspace (b : UInt8) : Bool := 9 ≤ b.toNat && b.toNat ≤ 13 || b == 32 || b == 160

def skip_spaces (s : Bytes) : Bytes := s.dropWhile isspace

/-- The directives: white space, `%<width>s`, and `%<width>[^c]`. -/
inductive Directive where
  | space
  | word (width : Nat)
  | upTo (width : Nat) (stop : UInt8)

/-- The first white-space delimited word of a string. -/
def firstWord (s : Bytes) : Bytes := (skip_spaces s).takeWhile fun b => !isspace b

/-- The fields that are converted before the string or the format ends or a field is missing. -/
def sscanf : List Directive → Bytes → List Bytes
  | [], _ => []
  | .space :: fmt, s => sscanf fmt (skip_spaces s)
  | .word width :: fmt, s =>
      if s = [] then []
      else
        let field := (firstWord s).take width
        field :: sscanf fmt ((skip_spaces s).drop field.length)
  | .upTo width stop :: fmt, s =>
      let field := (s.takeWhile (· ≠ stop)).take width
      if field = [] then [] else field :: sscanf fmt (s.drop field.length)

section Words

variable {s t w : Bytes} {c : UInt8} {fmt : List Directive} {width : Nat}

/-- A string without white space, and not empty. -/
def IsWord (w : Bytes) : Prop := w ≠ [] ∧ ∀ b ∈ w, isspace b = false

instance (w : Bytes) : Decidable (IsWord w) :=
  have : Decidable (∀ b ∈ w, isspace b = false) := List.decidableBAll _ w
  inferInstanceAs (Decidable (_ ∧ _))

theorem skip_spaces_append (h : ∀ b ∈ s, isspace b = true) :
    skip_spaces (s ++ t) = skip_spaces t := by
  rw [skip_spaces, List.dropWhile_append_of_pos h]
  rfl

theorem skip_spaces_of_head (h : ∀ b, s.head? = some b → isspace b = false) :
    skip_spaces s = s := by
  cases s with
  | nil => rfl
  | cons b s =>
    have hb : ¬ isspace b = true := by simp [h b rfl]
    exact List.dropWhile_cons_of_neg hb

theorem IsWord.skip_spaces (h : IsWord w) : skip_spaces (w ++ t) = w ++ t := by
  apply skip_spaces_of_head
  intro b hb
  obtain ⟨a, w, rfl⟩ := List.exists_cons_of_ne_nil h.1
  obtain rfl := Option.some.inj hb
  exact h.2 a List.mem_cons_self

private theorem takeWhile_word (h : ∀ b ∈ w, isspace b = false) (hc : isspace c = true) :
    (w ++ c :: t).takeWhile (fun b => !isspace b) = w := by
  induction w with
  | nil => simp [hc]
  | cons a w ih =>
    obtain ⟨ha, hw⟩ := List.forall_mem_cons.mp h
    rw [List.cons_append, List.takeWhile_cons_of_pos (by simp [ha]), ih hw]

theorem firstWord_word (h : IsWord w) (hc : isspace c = true) :
    firstWord (w ++ c :: t) = w := by
  rw [firstWord, h.skip_spaces, takeWhile_word h.2 hc]

/-- A word that fits its field is read whole, up to the white space that follows it. -/
theorem sscanf_word (h : IsWord w) (hc : isspace c = true) (hw : w.length ≤ width) :
    sscanf (.word width :: fmt) (w ++ c :: t) = w :: sscanf fmt (c :: t) := by
  rw [sscanf, if_neg (by simp [h.1])]
  dsimp only
  rw [firstWord_word h hc, List.take_of_length_le hw, h.skip_spaces, List.drop_left]

theorem firstWord_length_le (s : Bytes) : (firstWord s).length ≤ s.length :=
  ((List.takeWhile_prefix _).length_le).trans (List.dropWhile_suffix _).length_le

theorem firstWord_no_space {b : UInt8} (h : b ∈ firstWord s) : isspace b = false := by
  simpa using List.mem_takeWhile_imp h

/-- A string that is as long as its first word is that word. -/
theorem firstWord_eq_self (h : s.length ≤ (firstWord s).length) : firstWord s = s := by
  have hsub : (firstWord s).Sublist s :=
    (List.takeWhile_prefix _).sublist.trans (List.dropWhile_suffix _).sublist
  exact hsub.eq_of_length_le h

/-- Only white space in front of a word, or nothing, keeps it from being the first. -/
theorem firstWord_append (hc : isspace c = true) :
    firstWord (s ++ c :: t) = firstWord s ∨
      (∀ b ∈ s, isspace b = true) ∧ firstWord (s ++ c :: t) = firstWord t := by
  by_cases hall : ∀ b ∈ s, isspace b = true
  · refine Or.inr ⟨hall, ?_⟩
    have hskip : skip_spaces (s ++ c :: t) = skip_spaces t := by
      rw [skip_spaces_append hall]
      exact List.dropWhile_cons_of_pos hc
    rw [firstWord, firstWord, hskip]
  · left
    have hne : skip_spaces s ≠ [] := fun hnil => hall (List.dropWhile_eq_nil_iff.mp hnil)
    have hskip : skip_spaces (s ++ c :: t) = skip_spaces s ++ c :: t := by
      have hempty : ¬ (s.dropWhile isspace).isEmpty = true := by
        rw [List.isEmpty_iff]
        exact hne
      rw [skip_spaces, List.dropWhile_append, if_neg hempty]
      rfl
    have hstop : ∀ u : Bytes, (u ++ c :: t).takeWhile (fun b => !isspace b) =
        u.takeWhile fun b => !isspace b := by
      intro u
      induction u with
      | nil => simp [hc]
      | cons a u ih =>
        rw [List.cons_append, List.takeWhile_cons, List.takeWhile_cons, ih]
    rw [firstWord, firstWord, hskip, hstop]

theorem sscanf_space : sscanf (.space :: fmt) s = sscanf fmt (skip_spaces s) := rfl

/-- White space in the format passes over white space, and a word that fits follows. -/
theorem sscanf_space_word {a : UInt8} (ha : isspace a = true) (h : IsWord w)
    (hc : isspace c = true) (hw : w.length ≤ width) :
    sscanf (.space :: .word width :: fmt) (a :: (w ++ c :: t)) = w :: sscanf fmt (c :: t) := by
  have hskip : skip_spaces (a :: (w ++ c :: t)) = w ++ c :: t := by
    rw [skip_spaces, List.dropWhile_cons_of_pos ha]
    exact h.skip_spaces
  rw [sscanf_space, hskip, sscanf_word h hc hw]

theorem isspace_iff {b : UInt8} :
    isspace b = true ↔ 9 ≤ b.toNat ∧ b.toNat ≤ 13 ∨ b.toNat = 32 ∨ b.toNat = 160 := by
  simp only [isspace, Bool.or_eq_true, Bool.and_eq_true, decide_eq_true_eq, beq_iff_eq,
    ← UInt8.toNat_inj, or_assoc]
  rfl

/-- Letter case has no part in what is white space. -/
theorem isspace_tolower (b : UInt8) : isspace (tolower b) = isspace b := by
  by_cases h : 65 ≤ b.toNat ∧ b.toNat ≤ 90 ∨ 192 ≤ b.toNat ∧ b.toNat ≤ 222 ∧ b.toNat ≠ 215
  · have hadd : (b + 32).toNat = b.toNat + 32 := by
      rw [UInt8.toNat_add]
      exact Nat.mod_eq_of_lt (by show b.toNat + 32 < 2 ^ 8; omega)
    have hlower : tolower b = b + 32 := if_pos h
    rw [hlower, Bool.eq_iff_iff, isspace_iff, isspace_iff, hadd]
    omega
  · have hlower : tolower b = b := if_neg h
    rw [hlower]

theorem skip_spaces_skip_spaces : skip_spaces (skip_spaces s) = skip_spaces s :=
  List.dropWhile_eq_self_iff.mpr fun hl => List.dropWhile_get_zero_not _ s hl

theorem firstWord_skip_spaces : firstWord (skip_spaces s) = firstWord s := by
  rw [firstWord, skip_spaces_skip_spaces, firstWord]

/-- The field that `%<width>s` reads is the beginning of the first word. -/
theorem sscanf_space_word_head {field : Bytes} {fields : List Bytes}
    (h : sscanf (.space :: .word width :: fmt) s = field :: fields) :
    field = (firstWord s).take width := by
  rw [sscanf, sscanf] at h
  split at h
  · cases h
  · obtain ⟨hfield, -⟩ := List.cons.inj h
    rw [← hfield, firstWord_skip_spaces]

/-- The rest of a line without the white space in front of it, unless nothing else is there. -/
theorem sscanf_space_upTo {a : UInt8} (ha : isspace a = true) (hc : isspace c = true)
    (hs : c ∉ s) (hlen : s.length ≤ width) :
    sscanf [.space, .upTo width c] (a :: (s ++ [c])) =
      if skip_spaces s = [] then [] else [skip_spaces s] := by
  have hsub : (skip_spaces s).Sublist s := (List.dropWhile_suffix _).sublist
  have hskip : skip_spaces (a :: (s ++ [c])) =
      if skip_spaces s = [] then [] else skip_spaces s ++ [c] := by
    rw [skip_spaces, List.dropWhile_cons_of_pos ha, List.dropWhile_append]
    simp only [List.isEmpty_iff, List.dropWhile_cons_of_pos hc]
    rfl
  rw [sscanf_space, hskip]
  split
  · rw [sscanf, List.takeWhile_nil, List.take_nil]
    exact if_pos rfl
  · rename_i hne
    have hstop : (skip_spaces s ++ [c]).takeWhile (· ≠ c) = skip_spaces s := by
      rw [List.takeWhile_append_of_pos]
      · simp
      · intro b hb
        have hbc : b ≠ c := fun heq => hs (heq ▸ hsub.subset hb)
        simpa using hbc
    have htake : ((skip_spaces s ++ [c]).takeWhile (· ≠ c)).take width = skip_spaces s := by
      rw [hstop]
      exact List.take_of_length_le (hsub.length_le.trans hlen)
    rw [sscanf, htake, if_neg hne, sscanf]

end Words

section Splitting

variable {s : Bytes} {fmt : List Directive} {width : Nat}

/-- What follows the first word. -/
def afterWord (s : Bytes) : Bytes := (skip_spaces s).dropWhile fun b => !isspace b

/-- The first words of a text, which are empty where it has no more, and what follows them. -/
def leadingWords : Nat → Bytes → List Bytes × Bytes
  | 0, s => ([], s)
  | n + 1, s =>
      (firstWord s :: (leadingWords n (afterWord s)).1, (leadingWords n (afterWord s)).2)

theorem firstWord_append_afterWord (s : Bytes) : firstWord s ++ afterWord s = skip_spaces s :=
  List.takeWhile_append_dropWhile

theorem firstWord_eq_nil : firstWord s = [] ↔ ∀ b ∈ s, isspace b = true := by
  constructor
  · intro hnil
    apply List.dropWhile_eq_nil_iff.mp
    show skip_spaces s = []
    cases hs : skip_spaces s with
    | nil => rfl
    | cons a rest =>
      have ha : isspace a = false := by
        have hstop := List.head?_dropWhile_not isspace s
        rw [show s.dropWhile isspace = a :: rest from hs] at hstop
        exact hstop
      rw [firstWord, hs, List.takeWhile_cons_of_pos (by simp [ha])] at hnil
      cases hnil
  · intro hall
    rw [firstWord, skip_spaces, List.dropWhile_eq_nil_iff.mpr hall]
    rfl

/-- A field takes the beginning of the first word, and leaves what the field has no room for. -/
theorem sscanf_word_split (h : s ≠ []) : sscanf (.word width :: fmt) s =
    (firstWord s).take width :: sscanf fmt ((firstWord s).drop width ++ afterWord s) := by
  have hdrop : (skip_spaces s).drop ((firstWord s).take width).length =
      (firstWord s).drop width ++ afterWord s := by
    rw [← firstWord_append_afterWord, List.length_take, List.drop_append]
    rcases Nat.le_total width (firstWord s).length with hle | hle
    · rw [Nat.min_eq_left hle, Nat.sub_eq_zero_of_le hle, List.drop_zero]
    · rw [Nat.min_eq_right hle, Nat.sub_self, List.drop_zero, List.drop_length,
        List.drop_of_length_le hle]
  rw [sscanf, if_neg h, ← hdrop]

theorem sscanf_space_word_split : sscanf (.space :: .word width :: fmt) s =
    if firstWord s = [] then []
    else (firstWord s).take width :: sscanf fmt ((firstWord s).drop width ++ afterWord s) := by
  have hnil : firstWord s = [] ↔ skip_spaces s = [] := by
    rw [firstWord_eq_nil]
    exact List.dropWhile_eq_nil_iff.symm
  rw [sscanf_space]
  split
  · rename_i hempty
    rw [hnil.mp hempty, sscanf]
    exact if_pos rfl
  · rename_i hsome
    rw [sscanf_word_split (mt hnil.mpr hsome), firstWord_skip_spaces, afterWord,
      skip_spaces_skip_spaces]
    rfl

/-- What a word directive has read, and that the rest of the format reads the rest. -/
theorem sscanf_word_inv {field : Bytes} {fields : List Bytes}
    (h : sscanf (.word width :: fmt) s = field :: fields) :
    field = (firstWord s).take width ∧ ∃ t, fields = sscanf fmt t := by
  rw [sscanf] at h
  split at h
  · cases h
  · obtain ⟨hfield, hfields⟩ := List.cons.inj h
    exact ⟨hfield.symm, _, hfields.symm⟩

/-- A last run has no stop byte, fits its width, and is not empty. -/
theorem sscanf_upTo_inv {stop : UInt8} {field : Bytes} {fields : List Bytes}
    (h : sscanf [.upTo width stop] s = field :: fields) :
    field = (s.takeWhile (· ≠ stop)).take width ∧ field ≠ [] := by
  rw [sscanf] at h
  split at h
  · cases h
  · rename_i hne
    obtain ⟨hfield, -⟩ := List.cons.inj h
    rw [← hfield]
    exact ⟨rfl, hne⟩

/-- Every byte of a field stands in the string. -/
theorem mem_of_mem_sscanf {field : Bytes} {b : UInt8} (hf : field ∈ sscanf fmt s)
    (hb : b ∈ field) : b ∈ s := by
  induction fmt generalizing s with
  | nil => cases hf
  | cons d fmt ih =>
    have hskip : ∀ x ∈ skip_spaces s, x ∈ s := fun x hx => (List.dropWhile_suffix _).subset hx
    cases d with
    | space => exact hskip b (ih hf)
    | word width =>
      rw [sscanf] at hf
      split at hf
      · cases hf
      rcases List.mem_cons.mp hf with rfl | hf
      · exact hskip b ((List.takeWhile_prefix _).subset (List.mem_of_mem_take hb))
      · exact hskip b (List.mem_of_mem_drop (ih hf))
    | upTo width stop =>
      rw [sscanf] at hf
      split at hf
      · cases hf
      rcases List.mem_cons.mp hf with rfl | hf
      · exact (List.takeWhile_prefix _).subset (List.mem_of_mem_take hb)
      · exact List.mem_of_mem_drop (ih hf)

end Splitting

end KernelAv.Lib.Scanf
