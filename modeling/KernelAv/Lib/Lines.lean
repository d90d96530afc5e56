/- digest: Line-oriented text: reading by `fgets`, and tagged lines of which the last one wins. -/

import KernelAv.Lib.CText

set_option autoImplicit false
set_option relaxedAutoImplicit false

namespace KernelAv.Lib.Lines

open KernelAv.Lib.CText (Bytes)

def nl : UInt8 := 10

/-- Up to `n` bytes, ending early after the first newline, and what is left. -/
def chunk : Nat → Bytes → Bytes × Bytes
  | 0, s => ([], s)
  | _ + 1, [] => ([], [])
  | n + 1, b :: s => if b = nl then ([b], s) else (b :: (chunk n s).1, (chunk n s).2)

/-- The buffers that `while (fgets(line, size, f))` sees in turn; every call but the last
consumes at least one byte, so the length of the text bounds the number of calls. -/
def fgetsFuel (size : Nat) : Nat → Bytes → List Bytes
  | 0, _ => []
  | _ + 1, [] => []
  | k + 1, b :: s =>
      let r := chunk (size - 1) (b :: s)
      r.1 :: fgetsFuel size k r.2

def fgetsAll (size : Nat) (s : Bytes) : List Bytes := fgetsFuel size s.length s

def unlines (ls : List Bytes) : Bytes := ls.flatMap (fun l => l ++ [nl])

@[simp] theorem unlines_nil : unlines [] = [] := rfl

@[simp] theorem unlines_cons (l : Bytes) (ls : List Bytes) :
    unlines (l :: ls) = l ++ nl :: unlines ls := by
  simp [unlines]

theorem unlines_append (ls ms : List Bytes) : unlines (ls ++ ms) = unlines ls ++ unlines ms :=
  List.flatMap_append

theorem chunk_line (n : Nat) (l r : Bytes) (hl : nl ∉ l) (hn : l.length < n) :
    chunk n (l ++ nl :: r) = (l ++ [nl], r) := by
  induction l generalizing n with
  | nil =>
    cases n with
    | zero => omega
    | succ n => simp [chunk]
  | cons b l ih =>
    cases n with
    | zero => omega
    | succ n =>
      have hb : b ≠ nl := fun e => hl (e ▸ List.mem_cons_self)
      have := ih n (fun h => hl (List.mem_cons_of_mem _ h)) (by simpa using hn)
      simp [chunk, hb, this]

/-- A line that is longer than the buffer is cut. -/
theorem chunk_long (n : Nat) (l r : Bytes) (hl : nl ∉ l) (hn : n ≤ l.length) :
    chunk n (l ++ r) = (l.take n, l.drop n ++ r) := by
  induction l generalizing n with
  | nil =>
    obtain rfl : n = 0 := Nat.le_zero.mp hn
    rfl
  | cons b l ih =>
    cases n with
    | zero => rfl
    | succ n =>
      have hb : b ≠ nl := fun heq => hl (heq ▸ List.mem_cons_self)
      have htail := ih n (fun h => hl (List.mem_cons_of_mem b h)) (by simpa using hn)
      rw [List.cons_append, chunk, if_neg hb, htail]
      rfl

private theorem chunk_rest (n : Nat) (p : Bytes) (hp : nl ∉ p) (hn : p.length ≤ n) :
    chunk n p = (p, []) := by
  induction p generalizing n with
  | nil => cases n <;> rfl
  | cons b p ih =>
    cases n with
    | zero => exact absurd hn (by simp)
    | succ n =>
      have hb : b ≠ nl := fun e => hp (e ▸ List.mem_cons_self)
      have htail := ih n (fun h => hp (List.mem_cons_of_mem b h)) (by simpa using hn)
      rw [chunk, if_neg hb, htail]

private theorem fgetsFuel_rest (size k : Nat) (p : Bytes) (hk : p.length ≤ k) (hp : nl ∉ p)
    (hlen : p.length < size) : fgetsFuel size k p = if p = [] then [] else [p] := by
  cases p with
  | nil => cases k <;> rfl
  | cons b p =>
    obtain ⟨k, rfl⟩ : ∃ j, k = j + 1 := ⟨k - 1, by simp at hk; omega⟩
    have hread := chunk_rest (size - 1) (b :: p) hp (by omega)
    rw [fgetsFuel, hread, if_neg (List.cons_ne_nil b p)]
    cases k <;> rfl

private theorem fgetsFuel_unlines_append (size k : Nat) (ls : List Bytes) (p : Bytes)
    (hk : (unlines ls ++ p).length ≤ k) (h : ∀ l ∈ ls, nl ∉ l ∧ l.length + 1 < size)
    (hp : nl ∉ p) (hlen : p.length < size) : fgetsFuel size k (unlines ls ++ p) =
      ls.map (fun l => l ++ [nl]) ++ if p = [] then [] else [p] := by
  induction ls generalizing k with
  | nil => exact fgetsFuel_rest size k p hk hp hlen
  | cons l ls ih =>
    obtain ⟨hl, hfits⟩ := h l List.mem_cons_self
    have hsplit : unlines (l :: ls) ++ p = l ++ nl :: (unlines ls ++ p) := by simp
    obtain ⟨b, s, hs⟩ : ∃ b s, l ++ nl :: (unlines ls ++ p) = b :: s :=
      List.exists_cons_of_ne_nil (by simp)
    have hread := chunk_line (size - 1) l (unlines ls ++ p) hl (by omega)
    rw [hsplit] at hk ⊢
    cases k with
    | zero => simp at hk
    | succ k =>
      have hk' : (unlines ls ++ p).length ≤ k := by
        simp only [List.length_append, List.length_cons] at hk ⊢
        omega
      rw [hs, fgetsFuel, ← hs, hread]
      dsimp only
      rw [ih k hk' fun m hm => h m (List.mem_cons_of_mem l hm), List.map_cons, List.cons_append]

/-- Complete lines, and an incomplete last one. -/
theorem fgetsAll_unlines_append (size : Nat) (ls : List Bytes) (p : Bytes)
    (h : ∀ l ∈ ls, nl ∉ l ∧ l.length + 1 < size) (hp : nl ∉ p) (hlen : p.length < size) :
    fgetsAll size (unlines ls ++ p) =
      ls.map (fun l => l ++ [nl]) ++ if p = [] then [] else [p] :=
  fgetsFuel_unlines_append size _ ls p le_rfl h hp hlen

theorem fgetsAll_unlines (size : Nat) (ls : List Bytes)
    (h : ∀ l ∈ ls, nl ∉ l ∧ l.length + 1 < size) :
    fgetsAll size (unlines ls) = ls.map (fun l => l ++ [nl]) := by
  cases ls with
  | nil => rfl
  | cons l ls =>
    have hsize : 0 < size := lt_of_le_of_lt (Nat.zero_le _) (h l List.mem_cons_self).2
    have hread := fgetsAll_unlines_append size (l :: ls) [] h List.not_mem_nil hsize
    rwa [List.append_nil, if_pos rfl, List.append_nil] at hread

/-- A beginning of a text of lines is some of the lines and a beginning of the next. -/
theorem prefix_unlines {s : Bytes} {ls : List Bytes} (h : s <+: unlines ls) :
    ∃ k p, s = unlines (ls.take k) ++ p ∧ (k < ls.length ∧ (∃ l ∈ ls, p <+: l) ∨
      k = ls.length ∧ p = []) := by
  induction ls generalizing s with
  | nil => exact ⟨0, [], by simpa using h, .inr ⟨rfl, rfl⟩⟩
  | cons l ls ih =>
    have hsplit : unlines (l :: ls) = (l ++ [nl]) ++ unlines ls := by simp
    rw [hsplit] at h
    have hwhole : ∀ t, s = (l ++ [nl]) ++ t → ∃ k p, s = unlines ((l :: ls).take k) ++ p ∧
        (k < (l :: ls).length ∧ (∃ m ∈ l :: ls, p <+: m) ∨ k = (l :: ls).length ∧ p = []) := by
      rintro t rfl
      obtain ⟨k, p, rfl, hcase⟩ := ih ((List.prefix_append_right_inj _).mp h)
      refine ⟨k + 1, p, by simp, ?_⟩
      rcases hcase with ⟨hk, m, hm, hp⟩ | ⟨hk, hp⟩
      · exact .inl ⟨Nat.succ_lt_succ hk, m, List.mem_cons_of_mem l hm, hp⟩
      · exact .inr ⟨congrArg Nat.succ hk, hp⟩
    rcases List.prefix_or_prefix_of_prefix h (List.prefix_append (l ++ [nl]) (unlines ls)) with
      hshort | ⟨t, hlong⟩
    · rcases List.prefix_concat_iff.mp hshort with heq | hpart
      · exact hwhole [] (by rw [heq, List.append_nil])
      · exact ⟨0, s, rfl, .inl ⟨Nat.succ_pos _, l, List.mem_cons_self, hpart⟩⟩
    · exact hwhole t hlong.symm

/-- Any text followed by a newline is its newline-separated segments, each as a complete line. -/
theorem unlines_splitOn (s : Bytes) : unlines (s.splitOn nl) = s ++ [nl] := by
  induction s with
  | nil => simp [List.splitOn_nil]
  | cons b s ih =>
    rw [List.splitOn_cons_eq_if_modifyHead]
    split
    · simp_all
    · obtain ⟨p, ps, hp⟩ := List.exists_cons_of_ne_nil (List.splitOn_ne_nil nl s)
      rw [hp] at ih ⊢
      simpa using ih

theorem splitOn_clean {s l : Bytes} {sep : UInt8} (hl : l ∈ s.splitOn sep) :
    sep ∉ l ∧ ∀ b ∈ l, b ∈ s := by
  induction s generalizing l with
  | nil =>
    rw [List.splitOn_nil] at hl
    obtain rfl := List.mem_singleton.mp hl
    simp
  | cons b s ih =>
    obtain ⟨p, ps, hp⟩ := List.exists_cons_of_ne_nil (List.splitOn_ne_nil sep s)
    rw [List.splitOn_cons_eq_if_modifyHead, hp] at hl
    split at hl
    · rcases List.mem_cons.mp hl with rfl | hl
      · simp
      · obtain ⟨h1, h2⟩ := ih (hp ▸ hl)
        exact ⟨h1, fun c hc => List.mem_cons_of_mem _ (h2 c hc)⟩
    · rename_i hb
      rcases List.mem_cons.mp hl with rfl | hl
      · obtain ⟨h1, h2⟩ := ih (l := p) (by simp [hp])
        have hne : sep ≠ b := fun e => hb (by simp [e])
        refine ⟨?_, ?_⟩
        · simp only [List.mem_cons, not_or]
          exact ⟨hne, h1⟩
        · intro c hc
          rcases List.mem_cons.mp hc with rfl | hc
          · simp
          · exact List.mem_cons_of_mem _ (h2 c hc)
      · obtain ⟨h1, h2⟩ := ih (l := l) (by simp [hp, hl])
        exact ⟨h1, fun c hc => List.mem_cons_of_mem _ (h2 c hc)⟩

theorem splitOn_length_le {s l : Bytes} (hl : l ∈ s.splitOn nl) : l.length ≤ s.length := by
  have hsub : (l ++ [nl]).length ≤ (unlines (s.splitOn nl)).length := by
    obtain ⟨ps, qs, h⟩ := List.append_of_mem hl
    rw [h, unlines_append, unlines_cons]
    simp only [List.length_append, List.length_cons, List.length_nil]
    omega
  rw [unlines_splitOn] at hsub
  simpa using hsub

theorem splitOn_head (s : Bytes) : (s.splitOn nl).head? = some (s.takeWhile (· ≠ nl)) := by
  induction s with
  | nil => simp [List.splitOn_nil]
  | cons b s ih =>
    rw [List.splitOn_cons_eq_if_modifyHead]
    obtain ⟨p, ps, hp⟩ := List.exists_cons_of_ne_nil (List.splitOn_ne_nil nl s)
    rw [hp] at ih ⊢
    by_cases hb : b = nl <;> simp_all

theorem splitOn_unlines {ls : List Bytes} (h : ∀ l ∈ ls, nl ∉ l) :
    (unlines ls).splitOn nl = ls ++ [[]] := by
  induction ls with
  | nil => simp [List.splitOn_nil]
  | cons l ls ih =>
    obtain ⟨hl, hls⟩ := List.forall_mem_cons.mp h
    rw [unlines_cons, List.splitOn_append_cons_self_of_not_mem hl, ih hls, List.cons_append]

section Rows

/-! Lines whose fields are separated by tabs. -/

def tab : UInt8 := 9

def tabbed (fs : List Bytes) : Bytes := [tab].intercalate fs

/-- A field that survives in a row. -/
def Plain (f : Bytes) : Prop := tab ∉ f ∧ nl ∉ f

instance (f : Bytes) : Decidable (Plain f) := inferInstanceAs (Decidable (_ ∧ _))

theorem tabbed_cons (f : Bytes) {fs : List Bytes} (h : fs ≠ []) :
    tabbed (f :: fs) = f ++ tab :: tabbed fs := by
  rw [tabbed, List.intercalate_cons_of_ne_nil h, List.append_assoc]
  rfl

theorem splitOn_tabbed {fs : List Bytes} (h : ∀ f ∈ fs, Plain f) (hne : fs ≠ []) :
    (tabbed fs).splitOn tab = fs :=
  List.splitOn_intercalate tab (fun f hf => (h f hf).1) hne

theorem nl_notMem_tabbed {fs : List Bytes} (h : ∀ f ∈ fs, Plain f) : nl ∉ tabbed fs := by
  induction fs with
  | nil => exact List.not_mem_nil
  | cons f fs ih =>
    obtain ⟨hf, hfs⟩ := List.forall_mem_cons.mp h
    cases fs with
    | nil => simpa [tabbed] using hf.2
    | cons g gs =>
      have hne : nl ≠ tab := by decide
      rw [tabbed_cons f (List.cons_ne_nil g gs)]
      simp [hf.2, ih hfs, hne]

/-- A row of two fields or more contains a tab. -/
theorem tab_mem_tabbed {fs : List Bytes} (h : 2 ≤ fs.length) : tab ∈ tabbed fs := by
  match fs with
  | f :: g :: gs =>
    rw [tabbed_cons f (List.cons_ne_nil g gs)]
    simp

theorem length_tabbed (fs : List Bytes) :
    (tabbed fs).length = (fs.map List.length).sum + (fs.length - 1) := by
  induction fs with
  | nil => rfl
  | cons f fs ih =>
    cases fs with
    | nil => simp [tabbed]
    | cons g gs =>
      rw [tabbed_cons f (List.cons_ne_nil g gs), List.length_append, List.length_cons, ih]
      simp only [List.map_cons, List.sum_cons, List.length_cons]
      omega

end Rows

/-- What follows the tag on a line that begins with it. -/
def after (tag line : Bytes) : Option Bytes :=
  if tag.isPrefixOf line then some (line.drop tag.length) else none

theorem after_append (tag v : Bytes) : after tag (tag ++ v) = some v := by
  simp [after]

theorem after_eq_some {tag line v : Bytes} : after tag line = some v ↔ line = tag ++ v := by
  constructor
  · intro h
    unfold after at h
    split at h
    · rename_i hp
      obtain ⟨t, rfl⟩ := List.isPrefixOf_iff_prefix.mp hp
      simpa using h
    · cases h
  · rintro rfl
    exact after_append tag v

/-- Of two tags neither of which begins the other at most one begins a line. -/
theorem after_exclusive {s t line v : Bytes} (hst : ¬ s <+: t) (hts : ¬ t <+: s)
    (hs : after s line = some v) : after t line = none := by
  by_contra hc
  obtain ⟨w, hw⟩ := Option.ne_none_iff_exists'.mp hc
  have hps : s <+: line := ⟨v, (after_eq_some.mp hs).symm⟩
  have hpt : t <+: line := ⟨w, (after_eq_some.mp hw).symm⟩
  rcases List.prefix_or_prefix_of_prefix hps hpt with h | h
  · exact hst h
  · exact hts h

/-- The value on the last line that carries the tag. -/
def lastField (tag : Bytes) (ls : List Bytes) : Option Bytes :=
  (ls.filterMap (after tag)).getLast?

@[simp] theorem lastField_nil (tag : Bytes) : lastField tag [] = none := rfl

theorem lastField_cons (tag l : Bytes) (ls : List Bytes) :
    lastField tag (l :: ls) = (lastField tag ls).or (after tag l) := by
  unfold lastField
  cases h : after tag l with
  | none => simp [h]
  | some v =>
    rw [List.filterMap_cons_some h, List.getLast?_cons]
    cases (ls.filterMap (after tag)).getLast? <;> simp

theorem lastField_append (tag : Bytes) (ls ms : List Bytes) :
    lastField tag (ls ++ ms) = (lastField tag ms).or (lastField tag ls) := by
  simp [lastField, List.filterMap_append, List.getLast?_append]

section LastWins

variable {σ β : Type} (step : σ → Bytes → σ) (get : σ → β) (val : Bytes → β) (tag : Bytes)

/-- A fold that overwrites a field on every line with the field's tag, and leaves it alone on
every other line, ends with the value of the last tagged line. -/
theorem foldl_lastField
    (hit : ∀ m l v, after tag l = some v → get (step m l) = val v)
    (miss : ∀ m l, after tag l = none → get (step m l) = get m) (m : σ) (ls : List Bytes) :
    get (ls.foldl step m) = ((lastField tag ls).map val).getD (get m) := by
  induction ls generalizing m with
  | nil => rfl
  | cons l ls ih =>
    rw [List.foldl_cons, ih, lastField_cons]
    cases hl : lastField tag ls with
    | some v => simp
    | none =>
      cases ha : after tag l with
      | none => simpa using miss m l ha
      | some v => simpa using hit m l v ha

end LastWins

end KernelAv.Lib.Lines
