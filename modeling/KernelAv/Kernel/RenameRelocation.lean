/- digest: Renames of directories with sensitive files beneath them, and which are flagged. -/

import KernelAv.Kernel.PathSpelling
import KernelAv.Lib.Components

set_option autoImplicit false
set_option relaxedAutoImplicit false

namespace KernelAv.Kernel.RenameRelocation

open KernelAv.Lib.CText
open KernelAv.Lib.Chains
open KernelAv.Lib.Components
open KernelAv.Kernel.Paths
open KernelAv.Kernel.SlidingWindow
open KernelAv.Kernel.BehaviorTable
open KernelAv.Kernel.BehaviorChecks
open KernelAv.Kernel.PathSpelling (IsName render render_of_ne_nil)

def etc : Bytes := lit "etc"
def passwd : Bytes := lit "passwd"
def shadow : Bytes := lit "shadow"
def ssh : Bytes := lit ".ssh"
def boot : Bytes := lit "boot"

/-- What `path_is_sensitive` looks for, on the components of a path: something beneath `/boot`,
`passwd` or `shadow` in a directory `etc`, something in a directory `.ssh`. -/
def Sensitive (comps : List Bytes) : Prop :=
  (∃ x, [boot, x] <+: comps) ∨ [etc, passwd] <:+: comps ∨ [etc, shadow] <:+: comps ∨
    ∃ x, [ssh, x] <:+: comps

section Components

variable {comps : List Bytes}

private theorem needle_misses {needle tok rest : Bytes} (hneedle : needle.head? = some slash)
    (htok : slash ∉ tok) :
    path_has_bounded_substring needle (tok ++ rest) = path_has_bounded_substring needle rest := by
  induction tok with
  | nil => rfl
  | cons c tok ih =>
    have hc : c ≠ slash := fun h => htok (h ▸ List.mem_cons_self)
    obtain ⟨needle, rfl⟩ := List.head?_eq_some_iff.mp hneedle
    have hmiss : boundedAt (slash :: needle) (c :: (tok ++ rest)) = false := by
      rw [boundedAt]
      simp [hc.symm]
    rw [List.cons_append, path_has_bounded_substring, hmiss, Bool.false_or]
    exact ih fun h => htok (List.mem_cons_of_mem c h)

/-- A needle that starts with a slash is found where a component starts. -/
private theorem bounded_text {needle : Bytes} (hneedle : needle.head? = some slash)
    (hc : ∀ c ∈ comps, slash ∉ c) :
    path_has_bounded_substring needle (text slash comps) = true ↔
      ∃ s, s <:+ comps ∧ s ≠ [] ∧ boundedAt needle (text slash s) = true := by
  induction comps with
  | nil =>
    obtain ⟨needle, rfl⟩ := List.head?_eq_some_iff.mp hneedle
    simp [text, path_has_bounded_substring, boundedAt]
  | cons c comps ih =>
    have hrest := ih fun x hx => hc x (List.mem_cons_of_mem c hx)
    rw [text_cons, path_has_bounded_substring, Bool.or_eq_true,
      needle_misses hneedle (hc c List.mem_cons_self), hrest, ← text_cons]
    constructor
    · rintro (h | ⟨s, hs, hne, h⟩)
      · exact ⟨c :: comps, List.suffix_refl _, by simp, h⟩
      · exact ⟨s, hs.trans (List.suffix_cons c comps), hne, h⟩
    · rintro ⟨s, hs, hne, h⟩
      rcases List.suffix_cons_iff.mp hs with rfl | hs
      · exact Or.inl h
      · exact Or.inr ⟨s, hs, hne, h⟩

private theorem boundedAt_iff {needle p : Bytes} : boundedAt needle p = true ↔
    ∃ b, p = needle ++ b ∧ (needle.getLast? = some slash ∨ AtEnd slash b) := by
  rw [boundedAt, Bool.and_eq_true, List.isPrefixOf_iff_prefix]
  constructor
  · rintro ⟨⟨b, rfl⟩, h⟩
    refine ⟨b, rfl, ?_⟩
    rw [List.drop_left] at h
    simpa [AtEnd, or_assoc] using h
  · rintro ⟨b, rfl, h⟩
    refine ⟨List.prefix_append needle b, ?_⟩
    rw [List.drop_left]
    simpa [AtEnd, or_assoc] using h

/-- A needle of two components, found as two neighbours. -/
private theorem bounded_pair {x y : Bytes} (hx : slash ∉ x) (hy : slash ∉ y) (hne : y ≠ [])
    (hc : ∀ c ∈ comps, slash ∉ c) :
    path_has_bounded_substring (text slash [x, y]) (text slash comps) = true ↔
      [x, y] <:+: comps := by
  have hxy : ∀ c ∈ [x, y], slash ∉ c := by simp [hx, hy]
  have hlast : (text slash [x, y]).getLast? ≠ some slash := by
    have hend : (text slash [x, y]).getLast? = y.getLast? := by
      rw [text_cons, text_cons, ← List.cons_append, List.getLast?_append, List.getLast?_cons]
      obtain ⟨a, ha⟩ := List.getLast?_isSome.mpr hne |> Option.isSome_iff_exists.mp
      simp [text, ha]
    rw [hend]
    exact fun h => hy (List.mem_of_getLast? h)
  rw [bounded_text rfl hc, List.infix_iff_prefix_suffix]
  constructor
  · rintro ⟨s, hs, -, h⟩
    obtain ⟨b, hb, hend⟩ := boundedAt_iff.mp h
    have hplain : ∀ c ∈ s, slash ∉ c := fun c hm => hc c (hs.subset hm)
    exact ⟨s, (prefix_iff hxy hplain).mp ⟨b, hb, hend.resolve_left hlast⟩, hs⟩
  · rintro ⟨s, hpre, hs⟩
    have hplain : ∀ c ∈ s, slash ∉ c := fun c hm => hc c (hs.subset hm)
    obtain ⟨b, hb, hend⟩ := (prefix_iff hxy hplain).mpr hpre
    refine ⟨s, hs, ?_, boundedAt_iff.mpr ⟨b, hb, Or.inr hend⟩⟩
    rintro rfl
    exact absurd (List.prefix_nil.mp hpre) (by simp)

/-- A needle of one component and a slash, found as one with another behind it. -/
private theorem bounded_inside {x : Bytes} (hx : slash ∉ x) (hc : ∀ c ∈ comps, slash ∉ c) :
    path_has_bounded_substring (text slash [x] ++ [slash]) (text slash comps) = true ↔
      ∃ y, [x, y] <:+: comps := by
  have hxs : ∀ c ∈ [x], slash ∉ c := by simp [hx]
  have hlast : (text slash [x] ++ [slash]).getLast? = some slash := by simp
  rw [bounded_text (by rw [text_cons]; rfl) hc]
  constructor
  · rintro ⟨s, hs, -, h⟩
    obtain ⟨b, hb, -⟩ := boundedAt_iff.mp h
    have hplain : ∀ c ∈ s, slash ∉ c := fun c hm => hc c (hs.subset hm)
    obtain ⟨y, hy⟩ := (prefix_sep_iff hxs hplain).mp ⟨b, hb.symm⟩
    exact ⟨y, List.infix_iff_prefix_suffix.mpr ⟨s, hy, hs⟩⟩
  · rintro ⟨y, hy⟩
    obtain ⟨s, hpre, hs⟩ := List.infix_iff_prefix_suffix.mp hy
    have hplain : ∀ c ∈ s, slash ∉ c := fun c hm => hc c (hs.subset hm)
    obtain ⟨b, hb⟩ := (prefix_sep_iff hxs hplain).mpr ⟨y, hpre⟩
    refine ⟨s, hs, ?_, boundedAt_iff.mpr ⟨b, hb.symm, Or.inl hlast⟩⟩
    rintro rfl
    exact absurd (List.prefix_nil.mp hpre) (by simp)

/-- `path_is_sensitive`, on components. -/
theorem sensitive_iff (hc : ∀ c ∈ comps, slash ∉ c) :
    path_is_sensitive (render comps) = true ↔ Sensitive comps := by
  by_cases hnil : comps = []
  · subst hnil
    have hroot : path_is_sensitive (render []) = false := by decide
    rw [hroot]
    simp [Sensitive]
  · have htext : render comps = text slash comps := render_of_ne_nil hnil
    have hboot : lit "/boot/" = text slash [boot] ++ [slash] := by decide
    have hpasswd : lit "/etc/passwd" = text slash [etc, passwd] := by decide
    have hshadow : lit "/etc/shadow" = text slash [etc, shadow] := by decide
    have hssh : lit "/.ssh/" = text slash [ssh] ++ [slash] := by decide
    have hunder : (text slash [boot] ++ [slash]).isPrefixOf (text slash comps) = true ↔
        ∃ x, [boot, x] <+: comps := by
      rw [List.isPrefixOf_iff_prefix]
      exact prefix_sep_iff (by decide) hc
    rw [htext, path_is_sensitive, Sensitive, sensitive_path_prefixes, sensitive_path_substrings,
      hboot, hpasswd, hshadow, hssh]
    simp only [List.any_cons, List.any_nil, Bool.or_false, Bool.or_eq_true]
    rw [hunder, bounded_pair (by decide) (by decide) (by decide) hc,
      bounded_pair (by decide) (by decide) (by decide) hc, bounded_inside (by decide) hc]

end Components

/-- What lies beneath a directory is sensitive by its own names. -/
def Inside (rest : List Bytes) : Prop :=
  [etc, passwd] <:+: rest ∨ [etc, shadow] <:+: rest ∨ ∃ x, [ssh, x] <:+: rest

/-- What lies beneath the directory is sensitive for being beneath it: the directory is `/boot`,
or one named `.ssh`, or one named `etc` with `passwd` or `shadow` in it. The root directory counts
for `boot` beneath it. -/
def Exposes (dir rest : List Bytes) : Prop :=
  (dir = [boot] ∧ rest ≠ [] ∨ dir = [] ∧ ∃ x, [boot, x] <+: rest) ∨
    (dir.getLast? = some etc ∧ (rest.head? = some passwd ∨ rest.head? = some shadow) ∨
      dir.getLast? = some ssh ∧ rest ≠ [])

section Beneath

variable {dir rest : List Bytes}

private theorem boot_append (hdir : ¬ ∃ x, [boot, x] <+: dir) :
    (∃ x, [boot, x] <+: dir ++ rest) ↔
      dir = [boot] ∧ rest ≠ [] ∨ dir = [] ∧ ∃ x, [boot, x] <+: rest := by
  cases dir with
  | nil => simp
  | cons a dir =>
    cases dir with
    | nil =>
      cases rest with
      | nil => simp
      | cons y rest => simp [eq_comm]
    | cons b dir =>
      have hsame : (∃ x, [boot, x] <+: a :: b :: dir ++ rest) ↔
          ∃ x, [boot, x] <+: a :: b :: dir := by simp
      rw [hsame]
      constructor
      · exact fun h => absurd h hdir
      · rintro (⟨h, -⟩ | ⟨h, -⟩) <;> cases h

private theorem exists_head (rest : List Bytes) : (∃ x, rest.head? = some x) ↔ rest ≠ [] := by
  cases rest <;> simp

private theorem gather {a p p' s s' k k' : Prop} :
    a ∨ (p ∨ p') ∨ (s ∨ s') ∨ k ∨ k' ↔ (p ∨ s ∨ k) ∨ a ∨ (p' ∨ s') ∨ k' := by
  tauto

/-- Beneath a directory that is not sensitive itself, a path is sensitive by the names below it or
by what the last name of the directory makes of them. -/
theorem sensitive_append (hdir : ¬ Sensitive dir) :
    Sensitive (dir ++ rest) ↔ Inside rest ∨ Exposes dir rest := by
  simp only [Sensitive, not_or] at hdir
  obtain ⟨hboot, hpasswd, hshadow, hssh⟩ := hdir
  have hsshAppend : (∃ x, [ssh, x] <:+: dir ++ rest) ↔
      (∃ x, [ssh, x] <:+: rest) ∨ dir.getLast? = some ssh ∧ rest ≠ [] := by
    simp only [pair_infix_append, exists_or, exists_and_left, exists_head]
    simp only [hssh, false_or]
  have hpasswdAppend : [etc, passwd] <:+: dir ++ rest ↔
      [etc, passwd] <:+: rest ∨ dir.getLast? = some etc ∧ rest.head? = some passwd := by
    rw [pair_infix_append]
    simp only [hpasswd, false_or]
  have hshadowAppend : [etc, shadow] <:+: dir ++ rest ↔
      [etc, shadow] <:+: rest ∨ dir.getLast? = some etc ∧ rest.head? = some shadow := by
    rw [pair_infix_append]
    simp only [hshadow, false_or]
  rw [Sensitive, boot_append hboot, hpasswdAppend, hshadowAppend, hsshAppend, Inside, Exposes,
    and_or_left]
  exact gather

end Beneath

/-- A directory tree: its regular files and its directories, by the components of their paths. -/
structure Tree where
  files : List (List Bytes)
  dirs : List (List Bytes)
  names : ∀ p, p ∈ files ∨ p ∈ dirs → ∀ tok ∈ p, IsName tok
  closed : ∀ p tok, p ++ [tok] ∈ files ∨ p ++ [tok] ∈ dirs → p ∈ dirs
  apart : ∀ p ∈ files, p ∉ dirs

/-- Where a file is after the rename: the new name takes the place of the old one. -/
def relocated (old new p : List Bytes) : List Bytes :=
  if old <+: p then new ++ p.drop old.length else p

/-- The counter of an entry convicts: the entry is not trusted, neither path is exempt, and its
ring counts this rename above the threshold. -/
structure Counts (H : KernelHash) (r : TickRate) (jiffies : UInt64) (oldpath newpath : Bytes)
    (e : Entry) : Prop where
  not_exempt : (e.trusted || path_is_pseudo_fs oldpath || path_is_pseudo_fs newpath ||
    path_is_rapid_write_noise oldpath || path_is_rapid_write_noise newpath) = false
  count : RENAME_THRESHOLD < (sliding_window_note r (H.full_name_hash oldpath) jiffies
    RENAME_WINDOW_MS e.recent_rename).1

/-- The rename appends an extension, and the counter of the process convicts. -/
def Burst {H : KernelHash} (r : TickRate) (t : Table H) (jiffies : UInt64) (pid : Nat)
    (oldpath newpath : Bytes) : Prop :=
  is_extension_append_rename oldpath newpath = true ∧
    ∃ e, t.behavior_table.find? pid = some e ∧ Counts H r jiffies oldpath newpath e

section Flagged

variable {H : KernelHash} {r : TickRate} {t : Table H} {jiffies : UInt64} {ok : Bool} {pid : Nat}
  {oldpath newpath : Bytes}

private theorem convict_isSome {path reason reason' : Bytes} {first second : Bool} :
    (convict path first reason second reason').isSome = true ↔ first = true ∨ second = true := by
  cases first <;> cases second <;> simp [convict]

/-- The first path that a ring sees counts as one. -/
private theorem count_zero {cap : Nat} [NeZero cap] (hash : UInt32) (window_ms : Nat) :
    (sliding_window_note r hash jiffies window_ms (PathRing.zero : PathRing cap)).1 = 1 := by
  have hempty : (PathRing.zero : PathRing cap).slots.take (PathRing.zero : PathRing cap).filled =
      [] := List.take_zero
  rw [sliding_window_note, hempty, scan]
  rfl

private theorem get_or_create_absent (jiffies : UInt64) (ok : Bool)
    (h : t.behavior_table.find? pid = none) :
    (get_or_create_entry t pid jiffies ok).2 = none ∨
      (get_or_create_entry t pid jiffies ok).2 = some (Entry.fresh pid jiffies) := by
  unfold get_or_create_entry
  split
  · rename_i x hx
    rw [h] at hx
    cases hx
  split
  · exact Or.inl rfl
  · split
    · exact Or.inr rfl
    · exact Or.inl rfl

private theorem not_counts_fresh :
    ¬ Counts H r jiffies oldpath newpath (Entry.fresh pid jiffies) := by
  rintro ⟨-, hcount⟩
  have hone : (sliding_window_note r (H.full_name_hash oldpath) jiffies RENAME_WINDOW_MS
      (Entry.fresh pid jiffies).recent_rename).1 = 1 := count_zero _ _
  rw [hone] at hcount
  exact absurd hcount (by decide)

/-- The check asks for a kill for a sensitive argument or for the count of the entry it finds. -/
private theorem flagged_of_append (happend : is_extension_append_rename oldpath newpath = true) :
    (av_behavior_check_rename r t jiffies ok pid oldpath newpath).detection.isSome = true ↔
      (path_is_sensitive oldpath = true ∨ path_is_sensitive newpath = true) ∨
        ∃ e, (get_or_create_entry t pid jiffies ok).2 = some e ∧
          Counts H r jiffies oldpath newpath e := by
  rw [av_behavior_check_rename, if_pos happend, ← Bool.or_eq_true]
  dsimp only
  split
  · rename_i u hu
    rw [hu, convict_isSome]
    simp
  · rename_i u e hu
    rw [hu]
    simp only [Option.some.injEq, exists_eq_left']
    by_cases hexempt : (e.trusted || path_is_pseudo_fs oldpath || path_is_pseudo_fs newpath ||
        path_is_rapid_write_noise oldpath || path_is_rapid_write_noise newpath) = true
    · have hno : ¬ Counts H r jiffies oldpath newpath e := fun h => by
        rw [h.not_exempt] at hexempt
        cases hexempt
      rw [if_pos hexempt, convict_isSome]
      simp [hno]
    · have hcounts : Counts H r jiffies oldpath newpath e ↔ RENAME_THRESHOLD <
          (sliding_window_note r (H.full_name_hash oldpath) jiffies RENAME_WINDOW_MS
            e.recent_rename).1 :=
        ⟨fun h => h.count, fun h => ⟨Bool.eq_false_iff.mpr hexempt, h⟩⟩
      rw [if_neg hexempt, convict_isSome, decide_eq_true_iff, hcounts]

theorem rename_flagged_iff :
    (av_behavior_check_rename r t jiffies ok pid oldpath newpath).detection.isSome = true ↔
      path_is_sensitive oldpath = true ∨ path_is_sensitive newpath = true ∨
        Burst r t jiffies pid oldpath newpath := by
  by_cases happend : is_extension_append_rename oldpath newpath = true
  swap
  · rw [av_behavior_check_rename, if_neg happend, CheckResult.early]
    dsimp only
    rw [convict_isSome, Bool.or_eq_true, or_assoc]
    have hno : ¬ Burst r t jiffies pid oldpath newpath := fun h => happend h.1
    simp only [hno, Bool.false_eq_true]
  rw [flagged_of_append happend, or_assoc]
  have hburst : (∃ e, (get_or_create_entry t pid jiffies ok).2 = some e ∧
      Counts H r jiffies oldpath newpath e) ↔ Burst r t jiffies pid oldpath newpath := by
    rw [Burst, and_iff_right happend]
    cases hfind : t.behavior_table.find? pid with
    | some e =>
      rw [get_or_create_entry_found hfind]
      -- the lookup changes nothing of the entry that the counter reads
      have hsame : Counts H r jiffies oldpath newpath { e with last_touched := jiffies } ↔
          Counts H r jiffies oldpath newpath e :=
        ⟨fun h => ⟨h.not_exempt, h.count⟩, fun h => ⟨h.not_exempt, h.count⟩⟩
      simp only [Option.some.injEq, exists_eq_left']
      exact hsame
    | none =>
      refine iff_of_false ?_ (by simp)
      rintro ⟨e, he, hcounts⟩
      rcases get_or_create_absent jiffies ok hfind with hnone | hfresh
      · rw [hnone] at he
        cases he
      · obtain rfl := Option.some.inj (hfresh.symm.trans he)
        exact not_counts_fresh hcounts
  rw [hburst]

end Flagged

section Relocation

variable {tree : Tree} {old new : List Bytes}

/-- Some regular file is sensitive on one side of the rename and not on the other. -/
def Relocates (tree : Tree) (old new : List Bytes) : Prop :=
  ∃ p ∈ tree.files, path_is_sensitive (render p) ≠ path_is_sensitive (render (relocated old new p))

private theorem names_plain {comps : List Bytes} (h : ∀ tok ∈ comps, IsName tok) :
    ∀ c ∈ comps, slash ∉ c :=
  fun c hc => (h c hc).no_slash

/-- Between two names that are not sensitive themselves, a file changes sides exactly when nothing
below the name decides it and one of the two names exposes it. -/
private theorem relocates_iff (hold : ∀ tok ∈ old, IsName tok) (hnew : ∀ tok ∈ new, IsName tok)
    (holds : path_is_sensitive (render old) = false)
    (hnews : path_is_sensitive (render new) = false) :
    Relocates tree old new ↔
      ∃ rest, old ++ rest ∈ tree.files ∧
        ¬ (Inside rest ∨ (Exposes old rest ↔ Exposes new rest)) := by
  have hside : ∀ {dir rest : List Bytes}, (∀ tok ∈ dir, IsName tok) → (∀ tok ∈ rest, IsName tok) →
      path_is_sensitive (render dir) = false →
      (path_is_sensitive (render (dir ++ rest)) = true ↔ Inside rest ∨ Exposes dir rest) := by
    intro dir rest hdir hrest hs
    have hall : ∀ tok ∈ dir ++ rest, IsName tok := by
      intro tok htok
      rcases List.mem_append.mp htok with h | h
      · exact hdir tok h
      · exact hrest tok h
    rw [sensitive_iff (names_plain hall), sensitive_append]
    rw [← sensitive_iff (names_plain hdir), hs]
    simp
  constructor
  · rintro ⟨p, hp, hne⟩
    rw [relocated] at hne
    split at hne
    · rename_i hpre
      obtain ⟨rest, rfl⟩ := hpre
      have hrest : ∀ tok ∈ rest, IsName tok := fun tok htok =>
        tree.names _ (Or.inl hp) tok (List.mem_append_right _ htok)
      rw [List.drop_left, ne_eq, Bool.eq_iff_iff, hside hold hrest holds,
        hside hnew hrest hnews] at hne
      exact ⟨rest, hp, fun h => hne (by tauto)⟩
    · exact absurd rfl hne
  · rintro ⟨rest, hp, hne⟩
    have hrest : ∀ tok ∈ rest, IsName tok := fun tok htok =>
      tree.names _ (Or.inl hp) tok (List.mem_append_right _ htok)
    refine ⟨old ++ rest, hp, ?_⟩
    rw [relocated, if_pos (List.prefix_append old rest), List.drop_left, ne_eq, Bool.eq_iff_iff,
      hside hold hrest holds, hside hnew hrest hnews]
    tauto

/-- A rename that takes a file to or from a sensitive path is flagged exactly when one of its two
arguments is sensitive, when the volume counter convicts, or when no file beneath the old name is
exposed by one of the two names alone. -/
theorem relocation_flagged_iff (tree : Tree) (old new : List Bytes)
    (hold : old ∈ tree.files ∨ old ∈ tree.dirs) (hnew : ∀ tok ∈ new, IsName tok)
    {H : KernelHash} (r : TickRate) (t : Table H) (jiffies : UInt64) (ok : Bool) (pid : Nat) :
    (Relocates tree old new →
      (av_behavior_check_rename r t jiffies ok pid (render old) (render new)).detection.isSome =
        true) ↔
    (path_is_sensitive (render old) = true ∨ path_is_sensitive (render new) = true ∨
      Burst r t jiffies pid (render old) (render new) ∨
      ∀ rest, old ++ rest ∈ tree.files →
        Inside rest ∨ (Exposes old rest ↔ Exposes new rest)) := by
  have hnames := tree.names old hold
  rw [rename_flagged_iff]
  by_cases holds : path_is_sensitive (render old) = true
  · simp only [holds, true_or, implies_true]
  by_cases hnews : path_is_sensitive (render new) = true
  · simp only [hnews, true_or, or_true, implies_true]
  rw [Bool.not_eq_true] at holds hnews
  rw [relocates_iff hnames hnew holds hnews]
  simp only [holds, hnews, Bool.false_eq_true, false_or]
  constructor
  · intro h
    by_cases hburst : Burst r t jiffies pid (render old) (render new)
    · exact Or.inl hburst
    · refine Or.inr fun rest hrest => ?_
      by_contra hne
      exact hburst (h ⟨rest, hrest, hne⟩)
  · rintro (hburst | hall) ⟨rest, hrest, hne⟩
    · exact hburst
    · exact absurd (hall rest hrest) hne

private theorem isName_of_check {tok : Bytes}
    (h : tok ≠ [] ∧ slash ∉ tok ∧ tok ≠ [dot] ∧ tok ≠ [dot, dot]) : IsName tok :=
  ⟨h.1, h.2.1, h.2.2.1, h.2.2.2⟩

private theorem etcTree_names (p : List Bytes) (hp : p ∈ [[etc, shadow]] ∨ p ∈ [[], [etc]]) :
    ∀ tok ∈ p, IsName tok := by
  have hetc : IsName etc := isName_of_check (by decide)
  have hshadow : IsName shadow := isName_of_check (by decide)
  intro tok htok
  simp only [List.mem_cons, List.not_mem_nil, or_false] at hp
  rcases hp with rfl | rfl | rfl
  · simp only [List.mem_cons, List.not_mem_nil, or_false] at htok
    rcases htok with rfl | rfl
    · exact hetc
    · exact hshadow
  · cases htok
  · rw [List.mem_singleton.mp htok]
    exact hetc

private theorem etcTree_closed (p : List Bytes) (tok : Bytes)
    (hp : p ++ [tok] ∈ [[etc, shadow]] ∨ p ++ [tok] ∈ [[], [etc]]) : p ∈ [[], [etc]] := by
  have hlast : p = (p ++ [tok]).dropLast := by simp
  rw [hlast]
  rcases hp with h | h
  · rw [List.mem_singleton.mp h]
    decide
  · rcases List.mem_cons.mp h with h | h
    · simp at h
    · rw [List.mem_singleton.mp h]
      decide

private theorem etcTree_apart : ∀ p ∈ [[etc, shadow]], p ∉ [[], [etc]] := by
  decide

/-- The file `/etc/shadow` and the directories above it. -/
def etcTree : Tree where
  files := [[etc, shadow]]
  dirs := [[], [etc]]
  names := etcTree_names
  closed := etcTree_closed
  apart := etcTree_apart

def backup : Bytes := lit "backup"

private theorem backup_names : ∀ tok ∈ [backup], IsName tok := by
  intro tok htok
  rw [List.mem_singleton.mp htok]
  exact isName_of_check (by decide)

private def flatTable : KernelHash := ⟨fun _ => 0, fun _ _ => ⟨0, Nat.two_pow_pos _⟩⟩

theorem relocation_flagged_iff_etc :
    (Relocates etcTree [etc] [backup] →
      (av_behavior_check_rename hz1000 (Table.empty : Table flatTable) 0 true 100 (lit "/etc")
        (lit "/backup")).detection.isSome = true) ↔
    (path_is_sensitive (lit "/etc") = true ∨ path_is_sensitive (lit "/backup") = true ∨
      Burst hz1000 (Table.empty : Table flatTable) 0 100 (lit "/etc") (lit "/backup") ∨
      ∀ rest, [etc] ++ rest ∈ etcTree.files →
        Inside rest ∨ (Exposes [etc] rest ↔ Exposes [backup] rest)) :=
  relocation_flagged_iff etcTree [etc] [backup] (Or.inr (by decide)) backup_names hz1000
    Table.empty 0 true 100

/-- Renaming `/etc` takes `/etc/shadow` away unnoticed. -/
theorem relocation_of_etc_not_flagged :
    ¬ ∀ (tree : Tree) (old new : List Bytes), old ∈ tree.files ∨ old ∈ tree.dirs →
      (∀ tok ∈ new, IsName tok) → ∀ (H : KernelHash) (r : TickRate) (t : Table H)
      (jiffies : UInt64) (ok : Bool) (pid : Nat), Relocates tree old new →
      (av_behavior_check_rename r t jiffies ok pid (render old) (render new)).detection.isSome =
        true := by
  intro hall
  have hmoves : Relocates etcTree [etc] [backup] := ⟨[etc, shadow], by decide, by decide⟩
  have hflag := hall etcTree [etc] [backup] (Or.inr (by decide)) backup_names flatTable hz1000
    Table.empty 0 true 100 hmoves
  exact absurd hflag (by decide)

end Relocation

end KernelAv.Kernel.RenameRelocation
