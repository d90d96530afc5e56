/- digest: Which spellings of one path the checks tell apart after resolution. -/

import KernelAv.Kernel.BehaviorChecks

set_option autoImplicit false
set_option relaxedAutoImplicit false

namespace KernelAv.Kernel.PathSpelling

open KernelAv.Lib.CText
open KernelAv.Kernel.Paths

/-- The name of a directory entry, as a component that normalisation keeps. -/
structure IsName (tok : Bytes) : Prop where
  ne_nil : tok ≠ []
  no_slash : slash ∉ tok
  ne_dot : tok ≠ [dot]
  ne_dots : tok ≠ [dot, dot]

/-- The absolute path of a list of components. -/
def render : List Bytes → Bytes
  | [] => [slash]
  | comps => comps.flatMap (slash :: ·)

theorem render_of_ne_nil {comps : List Bytes} (h : comps ≠ []) :
    render comps = comps.flatMap (slash :: ·) := by
  cases comps with
  | nil => exact absurd rfl h
  | cons tok toks => rfl

theorem render_head (comps : List Bytes) : (render comps).head? = some slash := by
  cases comps <;> rfl

/-- A base directory whose path is absolute and normalised, and fits the buffer of `d_path`. -/
structure AbsDir where
  comps : List Bytes
  names : ∀ tok ∈ comps, IsName tok
  fits : (render comps).length < PATH_MAX

def AbsDir.path (base : AbsDir) : Bytes := render base.comps

/-- Lexical resolution of components over a stack without a limit, the last component first. -/
def lexical : List Bytes → List Bytes → List Bytes
  | [], stack => stack
  | tok :: toks, stack =>
      if tok = [] ∨ tok = [dot] then lexical toks stack
      else if tok = [dot, dot] then lexical toks stack.tail
      else lexical toks (tok :: stack)

/-- The absolute path that an argument stands for, read against a base directory. -/
def lexicalPath (base : AbsDir) (path : Bytes) : List Bytes :=
  if path.head? = some slash then (lexical (path.splitOn slash) []).reverse
  else (lexical (path.splitOn slash) base.comps.reverse).reverse

/-- Every allocation and `d_path` succeed. -/
def resolveOk (base : AbsDir) : ResolveIo := ⟨true, some base.path, true⟩

def resolved (base : AbsDir) (path : Bytes) : Bytes :=
  resolve_absolute_path (resolveOk base) path PATH_MAX

/-- The comparison with the path of the running program that `av_behavior_check_unlink` makes. -/
def isExecPath (exec_path path : Bytes) : Bool :=
  exec_path.head? = some slash && path.head? = some slash && exec_path == path

/-- The three tests do not tell the two strings apart. -/
structure SameAnswers (path path' : Bytes) : Prop where
  pseudo_fs : path_is_pseudo_fs path = path_is_pseudo_fs path'
  sensitive : path_is_sensitive path = path_is_sensitive path'
  exec_path : ∀ exec_path, isExecPath exec_path path = isExecPath exec_path path'

/-- The string that is normalised: the argument, or the argument behind the base. -/
def spelled (base : AbsDir) (path : Bytes) : Bytes :=
  if path = [] then base.path
  else if path.head? = some slash then path
  else base.path ++ slash :: path

/-- A relative argument that does not fit the buffer behind the base. -/
def TooLong (base : AbsDir) (path : Bytes) : Prop :=
  path.head? ≠ some slash ∧ PATH_MAX ≤ (spelled base path).length

/-- The walk along the components of the string never holds more than 128 of them, or the string
is the normalised one already. -/
def Normalised (base : AbsDir) (path : Bytes) : Prop :=
  ¬ TooLong base path ∧ ((collapse ((spelled base path).splitOn slash) []).isSome = true ∨
    spelled base path = render (lexicalPath base path))

/-- The unlink check reads its path through the three tests only. -/
theorem unlink_reads_answers {H : BehaviorTable.KernelHash} (t : BehaviorTable.Table H)
    (jiffies : UInt64) (kzalloc_ok : Bool) (pid : Nat) {path path' : Bytes}
    (h : SameAnswers path path') :
    (BehaviorChecks.av_behavior_check_unlink t jiffies kzalloc_ok pid path).table =
        (BehaviorChecks.av_behavior_check_unlink t jiffies kzalloc_ok pid path').table ∧
      (BehaviorChecks.av_behavior_check_unlink t jiffies kzalloc_ok pid path).detection.isSome =
        (BehaviorChecks.av_behavior_check_unlink t jiffies kzalloc_ok pid
          path').detection.isSome := by
  have hexec : ∀ e : Option BehaviorTable.Entry,
      (e.any fun e => e.exec_path.head? = some slash && path.head? = some slash &&
        e.exec_path == path) =
      (e.any fun e => e.exec_path.head? = some slash && path'.head? = some slash &&
        e.exec_path == path') := by
    intro e
    cases e with
    | none => rfl
    | some e => exact h.exec_path e.exec_path
  unfold BehaviorChecks.av_behavior_check_unlink
  rw [h.pseudo_fs]
  split
  · exact ⟨rfl, rfl⟩
  · dsimp only
    rw [hexec, h.sensitive]
    refine ⟨rfl, ?_⟩
    unfold BehaviorChecks.convict
    split
    · rfl
    split
    · rfl
    · rfl

section Normal

variable {toks stack : List Bytes}

theorem lexical_append (toks toks' stack : List Bytes) :
    lexical (toks ++ toks') stack = lexical toks' (lexical toks stack) := by
  induction toks generalizing stack with
  | nil => rfl
  | cons tok toks ih =>
    rw [List.cons_append, lexical, lexical]
    split
    · exact ih stack
    split
    · exact ih stack.tail
    · exact ih (tok :: stack)

theorem lexical_names (h : ∀ tok ∈ toks, IsName tok) :
    lexical toks stack = toks.reverse ++ stack := by
  induction toks generalizing stack with
  | nil => rfl
  | cons tok toks ih =>
    obtain ⟨hname, htoks⟩ := List.forall_mem_cons.mp h
    rw [lexical, if_neg (not_or.mpr ⟨hname.ne_nil, hname.ne_dot⟩), if_neg hname.ne_dots, ih htoks,
      List.reverse_cons, List.append_assoc, List.singleton_append]

/-- Within its limit the stack of the code is that of lexical resolution. -/
theorem collapse_eq_some {out : List Bytes} (h : collapse toks stack = some out) :
    lexical toks stack = out := by
  induction toks generalizing stack with
  | nil => exact Option.some.inj h
  | cons tok toks ih =>
    rw [collapse] at h
    rw [lexical]
    split
    · rename_i hskip
      rw [if_pos hskip] at h
      exact ih h
    rename_i hskip
    rw [if_neg hskip] at h
    split
    · rename_i hdots
      rw [if_pos hdots] at h
      exact ih h
    · rename_i hdots
      rw [if_neg hdots] at h
      split at h
      · exact ih h
      · cases h

/-- The bytes of components that are each written behind a slash. -/
def weight (toks : List Bytes) : Nat := (toks.flatMap (slash :: ·)).length

theorem weight_cons (tok : Bytes) (toks : List Bytes) :
    weight (tok :: toks) = tok.length + 1 + weight toks := by
  rw [weight, weight, List.flatMap_cons, List.length_append, List.length_cons]

theorem weight_reverse (toks : List Bytes) : weight toks.reverse = weight toks := by
  simp [weight, List.length_flatMap, List.sum_reverse]

theorem weight_lexical (toks stack : List Bytes) :
    weight (lexical toks stack) ≤ weight toks + weight stack := by
  induction toks generalizing stack with
  | nil => exact Nat.le_add_left _ _
  | cons tok toks ih =>
    rw [lexical, weight_cons]
    split
    · have := ih stack
      omega
    split
    · have htail := ih stack.tail
      have hle : weight stack.tail ≤ weight stack := by
        cases stack with
        | nil => exact le_rfl
        | cons a stack =>
          rw [weight_cons]
          exact Nat.le_add_left _ _
      omega
    · have hpush := ih (tok :: stack)
      rw [weight_cons] at hpush
      omega

theorem weight_splitOn (s : Bytes) : weight (s.splitOn slash) = s.length + 1 := by
  induction s with
  | nil => rfl
  | cons b s ih =>
    rw [List.splitOn_cons_eq_if_modifyHead]
    split
    · rw [weight_cons, ih, List.length_cons, List.length_nil]
      omega
    · obtain ⟨tok, toks, hsplit⟩ := List.exists_cons_of_ne_nil (List.splitOn_ne_nil slash s)
      rw [hsplit, weight_cons] at ih
      rw [hsplit, List.modifyHead_cons, weight_cons, List.length_cons, List.length_cons]
      omega

/-- Nothing is cut off while the components are joined. -/
theorem join_eq {path_len : Nat} (toks : List Bytes) (out : Bytes)
    (h : out.length + weight toks < path_len) :
    toks.foldl (fun out tok => strlcat path_len (strlcat path_len out [slash]) tok) out =
      out ++ toks.flatMap (slash :: ·) := by
  induction toks generalizing out with
  | nil => simp
  | cons tok toks ih =>
    rw [weight_cons] at h
    have hslash : strlcat path_len out [slash] = out ++ [slash] := by
      rw [strlcat, List.take_of_length_le]
      simp only [List.length_singleton]
      omega
    have htok : strlcat path_len (out ++ [slash]) tok = out ++ [slash] ++ tok := by
      rw [strlcat, List.take_of_length_le]
      simp only [List.length_append, List.length_singleton]
      omega
    rw [List.foldl_cons, hslash, htok, ih, List.flatMap_cons]
    · simp
    · simp only [List.length_append, List.length_singleton]
      omega

theorem normalize_eq {path : Bytes} {path_len : Nat} (hslash : path.head? = some slash)
    (hlen : path.length < path_len) :
    normalize_abs_path true path path_len =
      if (collapse (path.splitOn slash) []).isSome = true then
        render (lexical (path.splitOn slash) []).reverse
      else path := by
  unfold normalize_abs_path
  rw [if_neg (by simp)]
  cases hout : collapse (path.splitOn slash) [] with
  | none => rfl
  | some stack =>
    rw [collapse_eq_some hout, if_pos (by simp)]
    cases stack with
    | nil =>
      have hpos : path ≠ [] := fun h => by rw [h] at hslash; cases hslash
      have hone := List.length_pos_iff.mpr hpos
      show strlcat path_len [] [slash] = [slash]
      rw [strlcat, List.take_of_length_le]
      · rfl
      · simp only [List.length_nil, List.length_singleton]
        omega
    | cons tok toks =>
      have hweight : weight (tok :: toks).reverse < path_len := by
        obtain ⟨rest, rfl⟩ : ∃ rest, path = slash :: rest := by
          cases path with
          | nil => cases hslash
          | cons b rest => exact ⟨rest, by rw [Option.some.inj hslash]⟩
        have hsplit : (slash :: rest).splitOn slash = [] :: rest.splitOn slash := by
          rw [List.splitOn_cons_eq_if_modifyHead, if_pos (by simp)]
        have hlex := weight_lexical (rest.splitOn slash) []
        have hsame : lexical ((slash :: rest).splitOn slash) [] =
            lexical (rest.splitOn slash) [] := by
          rw [hsplit, lexical, if_pos (Or.inl rfl)]
        rw [← hsame, collapse_eq_some hout, weight_splitOn] at hlex
        rw [weight_reverse]
        have hzero : weight [] = 0 := rfl
        rw [List.length_cons] at hlen
        omega
      have hjoin := join_eq (tok :: toks).reverse [] (by simpa using hweight)
      rw [List.nil_append] at hjoin
      refine hjoin.trans (render_of_ne_nil ?_).symm
      simp

private theorem splitOn_components (h : ∀ tok ∈ toks, IsName tok) :
    (toks.flatMap (slash :: ·)).splitOn slash = [] :: toks := by
  induction toks using List.reverseRecOn with
  | nil => rfl
  | append_singleton toks tok ih =>
    have htok := h tok (by simp)
    have hrest := ih fun a ha => h a (List.mem_append_left _ ha)
    rw [List.flatMap_append, List.flatMap_singleton, List.splitOn_append_cons_self, hrest,
      List.splitOn_eq_singleton htok.no_slash, List.cons_append]

theorem lexical_render (h : ∀ tok ∈ toks, IsName tok) :
    lexical ((render toks).splitOn slash) [] = toks.reverse := by
  by_cases hnil : toks = []
  · subst hnil
    rfl
  · rw [render_of_ne_nil hnil, splitOn_components h, lexical, if_pos (Or.inl rfl),
      lexical_names h, List.append_nil]

end Normal

section Resolution

variable {base : AbsDir} {path path' : Bytes}

private theorem not_tooLong_nil : ¬ TooLong base [] := by
  rintro ⟨-, hlen⟩
  exact absurd base.fits (not_lt.mpr hlen)

private theorem not_tooLong_absolute (h : path.head? = some slash) : ¬ TooLong base path :=
  fun hlong => hlong.1 h

/-- What is written for a path: the argument itself when it is too long, its normal form, or the
string as it is spelled. -/
theorem resolved_eq (hlen : path.length < PATH_MAX) :
    (TooLong base path ∧ resolved base path = path) ∨
      ¬ TooLong base path ∧ resolved base path =
        if (collapse ((spelled base path).splitOn slash) []).isSome = true then
          render (lexicalPath base path)
        else spelled base path := by
  by_cases hnil : path = []
  · subst hnil
    have hbase : resolved base [] = base.path := strscpy_eq_self base.fits
    have hlex : render (lexicalPath base []) = base.path := by
      show render (lexical [[]] base.comps.reverse).reverse = render base.comps
      rw [lexical, if_pos (Or.inl rfl), lexical, List.reverse_reverse]
    have hspelled : spelled base [] = base.path := if_pos rfl
    rw [hbase, hlex, hspelled, ite_self]
    exact Or.inr ⟨not_tooLong_nil, rfl⟩
  by_cases hslash : path.head? = some slash
  · right
    have hspelled : spelled base path = path := by rw [spelled, if_neg hnil, if_pos hslash]
    refine ⟨not_tooLong_absolute hslash, ?_⟩
    rw [resolved, resolve_absolute_path, if_neg hnil, if_pos hslash, strscpy_eq_self hlen,
      hspelled, lexicalPath, if_pos hslash]
    exact normalize_eq hslash hlen
  · have hspelled : spelled base path = base.path ++ slash :: path := by
      rw [spelled, if_neg hnil, if_neg hslash]
    have hresolve : resolved base path =
        if PATH_MAX ≤ (base.path ++ slash :: path).length then strscpy PATH_MAX path
        else normalize_abs_path true (base.path ++ slash :: path) PATH_MAX := by
      rw [resolved, resolve_absolute_path, if_neg hnil, if_neg hslash, if_neg (by simp [resolveOk])]
      rfl
    rw [hresolve]
    by_cases hlong : PATH_MAX ≤ (base.path ++ slash :: path).length
    · left
      rw [if_pos hlong]
      exact ⟨⟨hslash, hspelled.symm ▸ hlong⟩, strscpy_eq_self hlen⟩
    · right
      rw [if_neg hlong]
      refine ⟨fun h => hlong (hspelled ▸ h.2), ?_⟩
      have hhead : (base.path ++ slash :: path).head? = some slash := by
        rw [List.head?_append, AbsDir.path, render_head]
        rfl
      have hlex : lexical ((base.path ++ slash :: path).splitOn slash) [] =
          lexical (path.splitOn slash) base.comps.reverse := by
        rw [List.splitOn_append_cons_self, lexical_append, AbsDir.path, lexical_render base.names]
      rw [hspelled, lexicalPath, if_neg hslash, ← hlex]
      exact normalize_eq hhead (not_le.mp hlong)

private theorem resolved_of_tooLong (hlen : path.length < PATH_MAX) (h : TooLong base path) :
    resolved base path = path := by
  rcases resolved_eq hlen with ⟨-, heq⟩ | ⟨hshort, -⟩
  · exact heq
  · exact absurd h hshort

private theorem resolved_of_not_tooLong (hlen : path.length < PATH_MAX) (h : ¬ TooLong base path) :
    resolved base path =
      if (collapse ((spelled base path).splitOn slash) []).isSome = true then
        render (lexicalPath base path)
      else spelled base path := by
  rcases resolved_eq hlen with ⟨hlong, -⟩ | ⟨-, heq⟩
  · exact absurd hlong h
  · exact heq

private theorem spelled_head : (spelled base path).head? = some slash := by
  rw [spelled]
  split
  · exact render_head _
  split
  · assumption
  · rw [List.head?_append, AbsDir.path, render_head]
    rfl

private theorem resolved_head (hlen : path.length < PATH_MAX) (h : ¬ TooLong base path) :
    (resolved base path).head? = some slash := by
  rw [resolved_of_not_tooLong hlen h]
  split
  · exact render_head _
  · exact spelled_head

theorem normalised_iff (hlen : path.length < PATH_MAX) : Normalised base path ↔
    ¬ TooLong base path ∧ resolved base path = render (lexicalPath base path) := by
  refine and_congr_right fun hshort => ?_
  rw [resolved_of_not_tooLong hlen hshort]
  split
  · rename_i hsome
    exact iff_of_true (Or.inl hsome) rfl
  · rename_i hnone
    exact or_iff_right hnone

private theorem sameAnswers_absolute {a b : Bytes} (ha : a.head? = some slash) :
    SameAnswers a b ↔ a = b := by
  constructor
  · intro h
    have hself : isExecPath a a = true := by simp [isExecPath, ha]
    rw [h.exec_path a] at hself
    simp only [isExecPath, Bool.and_eq_true, beq_iff_eq] at hself
    exact hself.2
  · rintro rfl
    exact ⟨rfl, rfl, fun _ => rfl⟩

theorem SameAnswers.symm {a b : Bytes} (h : SameAnswers a b) : SameAnswers b a :=
  ⟨h.pseudo_fs.symm, h.sensitive.symm, fun e => (h.exec_path e).symm⟩

private theorem relative_not_pseudo {a : Bytes} (ha : a.head? ≠ some slash) :
    path_is_pseudo_fs a = false := by
  cases a with
  | nil => rfl
  | cons b a =>
    have hb : b ≠ slash := fun heq => ha (congrArg some heq)
    have habs : ∀ p ∈ excluded_path_prefixes, p.head? = some slash := by decide
    refine List.any_eq_false.mpr fun p hp hbegins => ?_
    have hhead := habs p hp
    obtain ⟨rest, hrest⟩ := List.isPrefixOf_iff_prefix.mp hbegins
    cases p with
    | nil => cases hhead
    | cons c p =>
      obtain rfl := Option.some.inj hhead
      exact hb (List.cons.inj hrest).1.symm

private theorem sameAnswers_relative {a b : Bytes} (ha : a.head? ≠ some slash)
    (hb : b.head? ≠ some slash) :
    SameAnswers a b ↔ path_is_sensitive a = path_is_sensitive b := by
  constructor
  · exact fun h => h.sensitive
  · intro h
    refine ⟨by rw [relative_not_pseudo ha, relative_not_pseudo hb], h, fun e => ?_⟩
    simp [isExecPath, ha, hb]

end Resolution

/-- Spellings of one path are treated alike within the limits of the walk and of the buffer, and
exactly in the cases named beyond them. -/
theorem same_answers_iff (base : AbsDir) (path path' : Bytes) (hlen : path.length < PATH_MAX)
    (hlen' : path'.length < PATH_MAX) (hlex : lexicalPath base path = lexicalPath base path') :
    SameAnswers (resolved base path) (resolved base path') ↔
      Normalised base path ∧ Normalised base path' ∨
      ¬ TooLong base path ∧ ¬ TooLong base path' ∧ spelled base path = spelled base path' ∨
      TooLong base path ∧ TooLong base path' ∧
        path_is_sensitive path = path_is_sensitive path' := by
  by_cases hlong : TooLong base path
  · have hrel : (resolved base path).head? ≠ some slash := by
      rw [resolved_of_tooLong hlen hlong]
      exact hlong.1
    have hnot : ¬ Normalised base path := fun h => h.1 hlong
    simp only [hnot, hlong, not_true_eq_false, false_and, true_and, false_or]
    by_cases hlong' : TooLong base path'
    · rw [resolved_of_tooLong hlen hlong, resolved_of_tooLong hlen' hlong',
        sameAnswers_relative hlong.1 hlong'.1, and_iff_right hlong']
    · refine iff_of_false (fun h => hrel ?_) (fun h => hlong' h.1)
      have habs := resolved_head hlen' hlong'
      rw [← (sameAnswers_absolute habs).mp h.symm]
      exact habs
  · have habs := resolved_head hlen hlong
    by_cases hlong' : TooLong base path'
    · have hnot' : ¬ Normalised base path' := fun h => h.1 hlong'
      simp only [hnot', hlong, hlong', not_true_eq_false, false_and, and_false, or_false, iff_false]
      intro h
      have heq := (sameAnswers_absolute habs).mp h
      rw [resolved_of_tooLong hlen' hlong'] at heq
      rw [heq] at habs
      exact hlong'.1 habs
    · simp only [hlong, hlong', not_false_eq_true, true_and, false_and, or_false]
      rw [sameAnswers_absolute habs, normalised_iff hlen, normalised_iff hlen',
        and_iff_right hlong, and_iff_right hlong']
      constructor
      · intro heq
        by_cases hnorm : resolved base path = render (lexicalPath base path)
        · refine Or.inl ⟨hnorm, ?_⟩
          rw [← heq, hnorm, hlex]
        · -- neither string was normalised, so both stand as they are spelled
          right
          have hself : resolved base path = spelled base path := by
            rw [resolved_of_not_tooLong hlen hlong] at hnorm ⊢
            split at hnorm
            · exact absurd rfl hnorm
            · rename_i hnone
              exact if_neg hnone
          have hnorm' : resolved base path' ≠ render (lexicalPath base path') := by
            rw [← heq, ← hlex]
            exact hnorm
          have hself' : resolved base path' = spelled base path' := by
            rw [resolved_of_not_tooLong hlen' hlong'] at hnorm' ⊢
            split at hnorm'
            · exact absurd rfl hnorm'
            · rename_i hnone
              exact if_neg hnone
          rw [← hself, ← hself', heq]
      · rintro (⟨hnorm, hnorm'⟩ | hspelled)
        · rw [hnorm, hnorm', hlex]
        · rw [resolved_of_not_tooLong hlen hlong, resolved_of_not_tooLong hlen' hlong', hspelled,
            hlex]

def rootDir : AbsDir := ⟨[], by simp, by decide⟩

/-- A dot in the path makes no difference. -/
theorem dotted_passwd_same_answers :
    SameAnswers (resolved rootDir (lit "/etc/passwd")) (resolved rootDir (lit "/etc/./passwd")) :=
  (same_answers_iff rootDir (lit "/etc/passwd") (lit "/etc/./passwd") (by decide) (by decide)
    (by decide +kernel)).mpr
    (Or.inl ⟨⟨fun h => h.1 rfl, Or.inl (by decide +kernel)⟩,
      ⟨fun h => h.1 rfl, Or.inl (by decide +kernel)⟩⟩)

/-- `/a` 129 times, `/..` 129 times, and then the password file behind a dot. -/
def deepPasswd : Bytes :=
  (List.replicate 129 (lit "/a")).flatten ++ (List.replicate 129 (lit "/..")).flatten ++
    lit "/etc/./passwd"

/-- On the way to the same file the walk meets a 129th component, and the path stays as it is. -/
theorem deep_passwd_not_sensitive :
    ¬ ∀ (base : AbsDir) (path path' : Bytes), path.length < PATH_MAX → path'.length < PATH_MAX →
        lexicalPath base path = lexicalPath base path' →
          SameAnswers (resolved base path) (resolved base path') := by
  intro hall
  have hsame := hall rootDir (lit "/etc/passwd") deepPasswd (by decide) (by decide +kernel)
    (by decide +kernel)
  have hsensitive : path_is_sensitive (resolved rootDir (lit "/etc/passwd")) = true := by
    decide +kernel
  rw [hsame.sensitive] at hsensitive
  exact absurd hsensitive (by decide +kernel)

end KernelAv.Kernel.PathSpelling
