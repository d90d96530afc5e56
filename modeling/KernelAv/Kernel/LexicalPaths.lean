/- digest: Normalisation against the components of a path, and the sensitive paths by components. -/

import KernelAv.Kernel.RenameRelocation
import KernelAv.Lib.Lines

set_option autoImplicit false
set_option relaxedAutoImplicit false

namespace KernelAv.Kernel.LexicalPaths

open KernelAv.Lib.CText
open KernelAv.Lib.Lines (splitOn_clean)
open KernelAv.Kernel.Paths
open KernelAv.Kernel.PathSpelling
open KernelAv.Kernel.RenameRelocation

section Definitions

/-- What a component does to those that remain before it. -/
def enter (kept : List Bytes) (tok : Bytes) : List Bytes :=
  if tok = [] ∨ tok = [dot] then kept
  else if tok = [dot, dot] then kept.dropLast
  else kept ++ [tok]

/-- The components that remain of a list of them. -/
def remaining (toks : List Bytes) : List Bytes := toks.foldl enter []

/-- The components that remain of a path. -/
def components (path : Bytes) : List Bytes := remaining (path.splitOn slash)

/-- A slash, and the components with slashes between them. -/
def spelling (comps : List Bytes) : Bytes := slash :: [slash].intercalate comps

/-- Up to no component of the path do more than 128 remain. -/
def Shallow (path : Bytes) : Prop :=
  ∀ toks, toks <+: path.splitOn slash → (remaining toks).length ≤ 128

/-- A path that fits a buffer, and is absolute. -/
structure Absolute (path : Bytes) (path_len : Nat) : Prop where
  head : path.head? = some slash
  fits : path.length < path_len

end Definitions

section Components

variable {toks stack : List Bytes} {path : Bytes}

theorem spelling_eq_render (comps : List Bytes) : spelling comps = render comps := by
  cases comps with
  | nil => rfl
  | cons c comps =>
      rw [spelling, render_of_ne_nil (List.cons_ne_nil c comps)]
      induction comps generalizing c with
      | nil => rw [List.intercalate_singleton, List.flatMap_singleton]
      | cons d comps ih =>
          rw [List.intercalate_cons_cons, List.flatMap_cons, ← ih d]
          simp

/-- The stack of the code is the list of what remains, from its end. -/
theorem foldl_enter (toks kept : List Bytes) :
    toks.foldl enter kept = (lexical toks kept.reverse).reverse := by
  induction toks generalizing kept with
  | nil => exact (List.reverse_reverse kept).symm
  | cons tok toks ih =>
      rw [List.foldl_cons, ih, lexical, enter]
      split
      · rfl
      · split
        · rw [List.tail_reverse]
        · rw [List.reverse_append]
          rfl

theorem remaining_eq (toks : List Bytes) : remaining toks = (lexical toks []).reverse :=
  foldl_enter toks []

/-- The stack has room for every component exactly where no more than 128 ever remain. -/
theorem collapse_isSome_iff (hroom : stack.length ≤ 128) :
    (collapse toks stack).isSome = true ↔
      ∀ pre, pre <+: toks → (lexical pre stack).length ≤ 128 := by
  induction toks generalizing stack with
  | nil =>
      refine iff_of_true rfl fun pre hpre => ?_
      rw [List.prefix_nil.mp hpre]
      exact hroom
  | cons tok toks ih =>
      have hsplit : (∀ pre, pre <+: tok :: toks → (lexical pre stack).length ≤ 128) ↔
          ∀ pre, pre <+: toks → (lexical (tok :: pre) stack).length ≤ 128 := by
        constructor
        · exact fun h pre hpre => h (tok :: pre) (List.cons_prefix_cons.mpr ⟨rfl, hpre⟩)
        · intro h pre hpre
          cases pre with
          | nil => exact hroom
          | cons a pre =>
              obtain ⟨rfl, hrest⟩ := List.cons_prefix_cons.mp hpre
              exact h pre hrest
      rw [hsplit, collapse]
      simp only [lexical]
      split
      · exact ih hroom
      · split
        · apply ih
          rw [List.length_tail]
          omega
        · split
          · rename_i hlt
            apply ih
            rw [List.length_cons]
            omega
          · rename_i hfull
            refine iff_of_false Bool.false_ne_true fun h => ?_
            have hover := h [] (List.nil_prefix)
            rw [lexical, List.length_cons] at hover
            omega

theorem shallow_iff : Shallow path ↔ (collapse (path.splitOn slash) []).isSome = true := by
  rw [collapse_isSome_iff (Nat.zero_le _)]
  simp only [Shallow, remaining_eq, List.length_reverse]

theorem normalize_shallow {path_len : Nat} (hp : Absolute path path_len) (h : Shallow path) :
    normalize_abs_path true path path_len = spelling (components path) := by
  rw [normalize_eq hp.head hp.fits, if_pos (shallow_iff.mp h), spelling_eq_render, components,
    remaining_eq]

theorem normalize_deep {path_len : Nat} (hp : Absolute path path_len) (h : ¬ Shallow path) :
    normalize_abs_path true path path_len = path := by
  rw [normalize_eq hp.head hp.fits, if_neg fun hs => h (shallow_iff.mpr hs)]

end Components

section Names

variable {path : Bytes}

private theorem lexical_keeps : ∀ (toks stack : List Bytes), (∀ tok ∈ toks, slash ∉ tok) →
    (∀ tok ∈ stack, IsName tok) → ∀ tok ∈ lexical toks stack, IsName tok
  | [], _, _, hstack => hstack
  | tok :: toks, stack, htoks, hstack => by
      obtain ⟨htok, hrest⟩ := List.forall_mem_cons.mp htoks
      rw [lexical]
      split
      · exact lexical_keeps toks stack hrest hstack
      · rename_i hkeep
        rw [not_or] at hkeep
        split
        · exact lexical_keeps toks stack.tail hrest fun a ha => hstack a (List.mem_of_mem_tail ha)
        · rename_i hdots
          apply lexical_keeps toks (tok :: stack) hrest
          intro a ha
          rcases List.mem_cons.mp ha with rfl | ha
          · exact ⟨hkeep.1, htok, hkeep.2, hdots⟩
          · exact hstack a ha

/-- No component of a path is empty, a dot, two dots or holds a slash. -/
theorem components_names (path : Bytes) : ∀ tok ∈ components path, IsName tok := by
  intro tok htok
  rw [components, remaining_eq, List.mem_reverse] at htok
  exact lexical_keeps _ [] (fun a ha => (splitOn_clean ha).1)
    (fun a ha => absurd ha List.not_mem_nil) tok htok

/-- The components of a spelling are those spelled. -/
theorem components_spelling {comps : List Bytes} (h : ∀ tok ∈ comps, IsName tok) :
    components (spelling comps) = comps := by
  rw [components, remaining_eq, spelling_eq_render, lexical_render h, List.reverse_reverse]

theorem spelling_injective {comps comps' : List Bytes} (h : ∀ tok ∈ comps, IsName tok)
    (h' : ∀ tok ∈ comps', IsName tok) (heq : spelling comps = spelling comps') :
    comps = comps' := by
  rw [← components_spelling h, heq, components_spelling h']

private theorem lexical_length (toks stack : List Bytes) :
    (lexical toks stack).length ≤ toks.length + stack.length := by
  induction toks generalizing stack with
  | nil => exact Nat.le_add_left _ _
  | cons tok toks ih =>
      rw [lexical, List.length_cons]
      split
      · have hskip := ih stack
        omega
      · split
        · have hdrop := ih stack.tail
          rw [List.length_tail] at hdrop
          omega
        · have hpush := ih (tok :: stack)
          rw [List.length_cons] at hpush
          omega

theorem remaining_length (toks : List Bytes) : (remaining toks).length ≤ toks.length := by
  rw [remaining_eq, List.length_reverse]
  exact lexical_length toks []

theorem splitOn_spelling {comps : List Bytes} (h : ∀ tok ∈ comps, IsName tok) :
    (spelling comps).splitOn slash = [] :: (if comps = [] then [[]] else comps) := by
  have hsep : slash :: [slash].intercalate comps = [] ++ slash :: [slash].intercalate comps := rfl
  rw [spelling, hsep, List.splitOn_append_cons_self, List.splitOn_nil, List.singleton_append]
  by_cases hnil : comps = []
  · rw [if_pos hnil, hnil]
    rfl
  · rw [if_neg hnil, List.splitOn_intercalate slash (fun c hc => (h c hc).no_slash) hnil]

/-- The spelling of at most 128 names is shallow. -/
theorem shallow_spelling {comps : List Bytes} (h : ∀ tok ∈ comps, IsName tok)
    (hlen : comps.length ≤ 128) : Shallow (spelling comps) := by
  intro toks htoks
  rw [splitOn_spelling h] at htoks
  cases toks with
  | nil => exact Nat.zero_le _
  | cons tok toks =>
      obtain ⟨rfl, hrest⟩ := List.cons_prefix_cons.mp htoks
      have hskip : remaining ([] :: toks) = remaining toks := rfl
      have hle := (remaining_length toks).trans hrest.length_le
      rw [hskip]
      split at hle
      · exact hle.trans (by decide)
      · exact hle.trans hlen

/-- A slash at the head is an empty component, and nothing remains of it. -/
theorem components_cons (rest : Bytes) :
    components (slash :: rest) = remaining (rest.splitOn slash) := by
  have hsep : slash :: rest = [] ++ slash :: rest := rfl
  rw [components, hsep, List.splitOn_append_cons_self, List.splitOn_nil, List.singleton_append]
  rfl

/-- What remains is not longer than the path. -/
theorem spelling_length (hhead : path.head? = some slash) :
    (spelling (components path)).length ≤ path.length := by
  obtain ⟨rest, rfl⟩ := List.head?_eq_some_iff.mp hhead
  have hweight := weight_lexical (rest.splitOn slash) []
  have hzero : weight [] = 0 := rfl
  rw [weight_splitOn, ← weight_reverse, ← remaining_eq, ← components_cons] at hweight
  rw [spelling_eq_render]
  by_cases hnil : components (slash :: rest) = []
  · rw [hnil, List.length_cons]
    exact Nat.succ_le_succ (Nat.zero_le _)
  · rw [render_of_ne_nil hnil, List.length_cons]
    exact hweight.trans_eq (by rw [hzero])

/-- Where no more than 128 components ever remain, no more remain at the end. -/
theorem components_length (h : Shallow path) : (components path).length ≤ 128 :=
  h _ (List.prefix_refl _)

end Names

section Normalisation

variable {path path' : Bytes} {path_len : Nat}

theorem absolute_spelling (hp : Absolute path path_len) :
    Absolute (spelling (components path)) path_len :=
  ⟨rfl, (spelling_length hp.head).trans_lt hp.fits⟩

/-- What the result is, in either case: absolute, not longer, within the buffer, and normal. -/
structure Result (path : Bytes) (path_len : Nat) (out : Bytes) : Prop where
  head : out.head? = some slash
  length : out.length ≤ path.length
  fits : out.length < path_len
  again : normalize_abs_path true out path_len = out

theorem normalize_result (hp : Absolute path path_len) :
    Result path path_len (normalize_abs_path true path path_len) := by
  by_cases h : Shallow path
  · have habs := absolute_spelling hp
    have hagain := normalize_shallow habs
      (shallow_spelling (components_names path) (components_length h))
    rw [components_spelling (components_names path)] at hagain
    rw [normalize_shallow hp h]
    exact ⟨rfl, spelling_length hp.head, habs.fits, hagain⟩
  · rw [normalize_deep hp h]
    exact ⟨hp.head, le_refl _, hp.fits, normalize_deep hp h⟩

/-- With an allocation that succeeds: a path of which no more than 128 components ever remain is
rewritten to a slash and its remaining components with slashes between them, any other is left
as it is; the result is absolute, not longer, fits the buffer and is not changed by another call.
Two paths of the first kind have the same result exactly if the same components remain. -/
theorem normalize_by_components (path : Bytes) (path_len : Nat) (hp : Absolute path path_len) :
    (Shallow path → normalize_abs_path true path path_len = spelling (components path)) ∧
      (¬ Shallow path → normalize_abs_path true path path_len = path) ∧
      Result path path_len (normalize_abs_path true path path_len) ∧
      ∀ path', Absolute path' path_len → Shallow path → Shallow path' →
        (normalize_abs_path true path path_len = normalize_abs_path true path' path_len ↔
          components path = components path') := by
  refine ⟨normalize_shallow hp, normalize_deep hp, normalize_result hp, fun path' hp' h h' => ?_⟩
  rw [normalize_shallow hp h, normalize_shallow hp' h']
  constructor
  · exact spelling_injective (components_names path) (components_names path')
  · intro heq
    rw [heq]

/-- A path with all that normalisation takes out. -/
theorem dotted_path_normalized :
    normalize_abs_path true (lit "/a/./b/..//c") PATH_MAX = lit "/a/c" ∧
      Result (lit "/a/./b/..//c") PATH_MAX
        (normalize_abs_path true (lit "/a/./b/..//c") PATH_MAX) := by
  have h := normalize_by_components (lit "/a/./b/..//c") PATH_MAX ⟨by decide, by decide⟩
  have hshallow : Shallow (lit "/a/./b/..//c") := shallow_iff.mpr (by decide)
  exact ⟨(h.1 hshallow).trans (by decide), h.2.2.1⟩

end Normalisation

section Sensitive

/-- An absolute path as normalisation leaves it. -/
def Normal (path : Bytes) : Prop := path = spelling (components path)

theorem sensitive_components {path : Bytes} (h : Normal path) :
    path_is_sensitive path = true ↔ Sensitive (components path) := by
  have hiff := sensitive_iff fun c hc => (components_names path c hc).no_slash
  rw [← spelling_eq_render, ← h] at hiff
  exact hiff

private theorem not_mem_of_infix {x y : Bytes} {comps : List Bytes} (h : y ∉ comps) :
    ¬ [x, y] <:+: comps := fun hin => h (hin.subset (List.mem_cons_of_mem x List.mem_cons_self))

/-- Without a component that is one of the names as a whole, nothing is sensitive. -/
theorem not_sensitive {comps : List Bytes} (hboot : comps.head? ≠ some boot)
    (hetc : etc ∉ comps ∨ passwd ∉ comps ∧ shadow ∉ comps) (hssh : ssh ∉ comps) :
    ¬ Sensitive comps := by
  rintro (⟨x, rest, rfl⟩ | hpasswd | hshadow | ⟨x, hx⟩)
  · exact hboot rfl
  · rcases hetc with hno | ⟨hno, -⟩
    · exact hno (hpasswd.subset List.mem_cons_self)
    · exact not_mem_of_infix hno hpasswd
  · rcases hetc with hno | ⟨-, hno⟩
    · exact hno (hshadow.subset List.mem_cons_self)
    · exact not_mem_of_infix hno hshadow
  · exact hssh (hx.subset List.mem_cons_self)

/-- A normalised absolute path is sensitive exactly if its components begin with `boot` and another,
or have `passwd` or `shadow` right behind `etc`, or another behind `.ssh`; a path whose components
only begin or end with one of these names is not. -/
theorem sensitive_by_components (path : Bytes) (h : Normal path) :
    (path_is_sensitive path = true ↔
      (∃ x, [boot, x] <+: components path) ∨ [etc, passwd] <:+: components path ∨
        [etc, shadow] <:+: components path ∨ ∃ x, [ssh, x] <:+: components path) ∧
    ((components path).head? ≠ some boot →
      (etc ∉ components path ∨ passwd ∉ components path ∧ shadow ∉ components path) →
        ssh ∉ components path → path_is_sensitive path = false) := by
  refine ⟨sensitive_components h, fun hboot hetc hssh => ?_⟩
  rw [← Bool.not_eq_true, sensitive_components h]
  exact not_sensitive hboot hetc hssh

/-- A key is sensitive, and a backup of the passwords is not. -/
theorem key_and_backup :
    path_is_sensitive (lit "/home/u/.ssh/id") = true ∧
      path_is_sensitive (lit "/etc/passwd.bak") = false := by
  constructor
  · refine (sensitive_by_components (lit "/home/u/.ssh/id") (by unfold Normal; decide)).1.mpr ?_
    exact .inr (.inr (.inr ⟨lit "id", by decide⟩))
  · exact (sensitive_by_components (lit "/etc/passwd.bak") (by unfold Normal; decide)).2
      (by decide) (.inr (by decide)) (by decide)

end Sensitive

end KernelAv.Kernel.LexicalPaths
