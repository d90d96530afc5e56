/- digest: Components behind separators, and what a prefix of their text says of them. -/

import Mathlib.Data.List.Infix

set_option autoImplicit false
set_option relaxedAutoImplicit false

namespace KernelAv.Lib.Components

variable {α : Type}

/-- Each component behind a separator. -/
def text (sep : α) (comps : List (List α)) : List α := comps.flatMap (sep :: ·)

theorem text_cons (sep : α) (c : List α) (comps : List (List α)) :
    text sep (c :: comps) = sep :: (c ++ text sep comps) := by
  rw [text, List.flatMap_cons, List.cons_append, ← text]

/-- Nothing, or a text that goes on with the next component. -/
def AtEnd (sep : α) (b : List α) : Prop := b = [] ∨ b.head? = some sep

theorem atEnd_text (sep : α) (comps : List (List α)) : AtEnd sep (text sep comps) := by
  cases comps with
  | nil => exact Or.inl rfl
  | cons c comps => exact Or.inr (by rw [text_cons]; rfl)

theorem AtEnd.append {sep : α} {comps : List (List α)} {b : List α} (h : AtEnd sep b) :
    AtEnd sep (text sep comps ++ b) := by
  cases comps with
  | nil => exact h
  | cons c comps => exact Or.inr (by rw [text_cons]; rfl)

/-- A component ends where the text of the next one begins. -/
private theorem component_unique {sep : α} {c d x y : List α} (hc : sep ∉ c) (hd : sep ∉ d)
    (hx : AtEnd sep x) (hy : AtEnd sep y) (h : c ++ x = d ++ y) : c = d ∧ x = y := by
  induction c generalizing d with
  | nil =>
    cases d with
    | nil => exact ⟨rfl, h⟩
    | cons a d =>
      rw [List.nil_append, List.cons_append] at h
      rw [h] at hx
      rcases hx with hnil | hhead
      · cases hnil
      · exact absurd (Option.some.inj hhead ▸ List.mem_cons_self) hd
  | cons a c ih =>
    cases d with
    | nil =>
      rw [List.nil_append, List.cons_append] at h
      rw [← h] at hy
      rcases hy with hnil | hhead
      · cases hnil
      · exact absurd (Option.some.inj hhead ▸ List.mem_cons_self) hc
    | cons b d =>
      rw [List.cons_append, List.cons_append] at h
      obtain ⟨rfl, hrest⟩ := List.cons.inj h
      obtain ⟨rfl, rfl⟩ := ih (fun hm => hc (List.mem_cons_of_mem a hm))
        (fun hm => hd (List.mem_cons_of_mem a hm)) hrest
      exact ⟨rfl, rfl⟩

/-- A text that is cut at the end of a component is cut between components. -/
theorem text_eq_append {sep : α} {ns cs : List (List α)} {b : List α} (hn : ∀ c ∈ ns, sep ∉ c)
    (hc : ∀ c ∈ cs, sep ∉ c) (hb : AtEnd sep b) (h : text sep cs = text sep ns ++ b) :
    ∃ rest, cs = ns ++ rest ∧ b = text sep rest := by
  induction ns generalizing cs with
  | nil => exact ⟨cs, rfl, h.symm⟩
  | cons n ns ih =>
    cases cs with
    | nil =>
      rw [text_cons] at h
      cases h
    | cons c cs =>
      rw [text_cons, text_cons, List.cons_append, List.append_assoc] at h
      obtain ⟨hsame, hrest⟩ := component_unique (hc c List.mem_cons_self)
        (hn n List.mem_cons_self) (atEnd_text sep cs) hb.append (List.cons.inj h).2
      obtain ⟨rest, rfl, rfl⟩ := ih (fun x hx => hn x (List.mem_cons_of_mem n hx))
        (fun x hx => hc x (List.mem_cons_of_mem c hx)) hrest
      exact ⟨rest, by rw [hsame]; rfl, rfl⟩

theorem text_append (sep : α) (ns rest : List (List α)) :
    text sep (ns ++ rest) = text sep ns ++ text sep rest :=
  List.flatMap_append

theorem prefix_iff {sep : α} {ns cs : List (List α)} (hn : ∀ c ∈ ns, sep ∉ c)
    (hc : ∀ c ∈ cs, sep ∉ c) :
    (∃ b, text sep cs = text sep ns ++ b ∧ AtEnd sep b) ↔ ns <+: cs := by
  constructor
  · rintro ⟨b, h, hb⟩
    obtain ⟨rest, rfl, -⟩ := text_eq_append hn hc hb h
    exact List.prefix_append ns rest
  · rintro ⟨rest, rfl⟩
    exact ⟨text sep rest, text_append sep ns rest, atEnd_text sep rest⟩

/-- With a separator at its end, a prefix of the text leaves at least one more component. -/
theorem prefix_sep_iff {sep : α} {ns cs : List (List α)} (hn : ∀ c ∈ ns, sep ∉ c)
    (hc : ∀ c ∈ cs, sep ∉ c) :
    text sep ns ++ [sep] <+: text sep cs ↔ ∃ x, ns ++ [x] <+: cs := by
  constructor
  · rintro ⟨b, h⟩
    rw [List.append_assoc, List.singleton_append] at h
    obtain ⟨rest, rfl, hrest⟩ := text_eq_append hn hc (Or.inr rfl) h.symm
    cases rest with
    | nil => cases hrest
    | cons x rest => exact ⟨x, rest, by simp⟩
  · rintro ⟨x, rest, rfl⟩
    refine ⟨x ++ text sep rest, ?_⟩
    rw [text_append, text_append, text_cons]
    simp [text]

/-- Two neighbours of an appended list are neighbours in one part, or meet at the seam. -/
theorem pair_infix_append {x y : α} {l r : List α} :
    [x, y] <:+: l ++ r ↔
      [x, y] <:+: l ∨ [x, y] <:+: r ∨ l.getLast? = some x ∧ r.head? = some y := by
  constructor
  · rintro ⟨a, b, h⟩
    rw [List.append_assoc] at h
    rcases List.append_eq_append_iff.mp h with ⟨m, rfl, hm⟩ | ⟨m, rfl, hm⟩
    · cases m with
      | nil => exact Or.inr (Or.inl ⟨[], b, by simpa using hm⟩)
      | cons c m =>
        simp only [List.cons_append, List.nil_append, List.cons.injEq] at hm
        obtain ⟨rfl, hm⟩ := hm
        cases m with
        | nil =>
          refine Or.inr (Or.inr ⟨by simp, ?_⟩)
          rw [List.nil_append] at hm
          rw [← hm]
          rfl
        | cons d m =>
          simp only [List.cons_append, List.cons.injEq] at hm
          obtain ⟨rfl, -⟩ := hm
          exact Or.inl ⟨a, m, by simp⟩
    · exact Or.inr (Or.inl ⟨m, b, by rw [List.append_assoc]; exact hm.symm⟩)
  · rintro (h | h | ⟨hl, hr⟩)
    · exact h.trans (List.prefix_append l r).isInfix
    · exact h.trans (List.suffix_append l r).isInfix
    · obtain ⟨l, rfl⟩ := List.getLast?_eq_some_iff.mp hl
      obtain ⟨r, rfl⟩ := List.head?_eq_some_iff.mp hr
      exact ⟨l, r, by simp⟩

end KernelAv.Lib.Components
