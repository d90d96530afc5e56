/- digest: The trust gate of the daemon's directories, and the paths that it lets pass. -/

import KernelAv.Kernel.Paths
import KernelAv.Lib.Components
import KernelAv.Lib.Directories

set_option autoImplicit false
set_option relaxedAutoImplicit false

namespace KernelAv.Daemon.DirectoryTrust

open KernelAv.Lib.CText
open KernelAv.Lib.Components (AtEnd)
open KernelAv.Lib.Directories
open KernelAv.Kernel.Paths (PATH_MAX slash)

section Definitions

variable (lstat : Bytes → Option Stat) (euid : UInt32)

def trust_one_component (comp : Bytes) (allow_sticky_ww : Bool) : Int :=
  match lstat comp with
  | none => -1
  | some st =>
      if S_ISLNK st.st_mode then -1
      else if !S_ISDIR st.st_mode then -1
      else if st.st_uid ≠ euid ∧ st.st_uid ≠ 0 then -1
      else if st.st_mode &&& (S_IWGRP ||| S_IWOTH) ≠ 0 ∧
          (allow_sticky_ww = false ∨ st.st_mode &&& S_ISVTX = 0) then -1
      else 0

/-- The buffer without its trailing slashes, and its length. -/
def stripSlashes (buf : Bytes) : Nat → Bytes × Nat
  | 0 => (buf, 0)
  | len + 1 =>
      if 0 < len ∧ buf.getD len 0 = slash then stripSlashes (buf.set len 0) len
      else (buf, len + 1)

/-- The rounds from `i` on. A prefix is cut off in place while it is looked at. -/
def trustPrefixes (allow_sticky_ww : Bool) (len : Nat) : Nat → Nat → Bytes → Int
  | 0, _, _ => 0
  | rounds + 1, i, buf =>
      if buf.getD i 0 = slash ∨ buf.getD i 0 = 0 then
        if i = 1 ∨ buf.getD (i - 1) 0 = slash then
          trustPrefixes allow_sticky_ww len rounds (i + 1) buf
        else
          let saved := buf.getD i 0
          let cut := buf.set i 0
          let r := trust_one_component lstat euid (cstr cut)
            (if i = len then allow_sticky_ww else true)
          if r ≠ 0 then -1
          else trustPrefixes allow_sticky_ww len rounds (i + 1) (cut.set i saved)
      else trustPrefixes allow_sticky_ww len rounds (i + 1) buf

def dir_hierarchy_trusted (dir : Bytes) (allow_sticky_ww : Bool) : Int :=
  if dir.head? ≠ some slash then -1
  else if PATH_MAX ≤ dir.length then -1
  else
    let copy := snprintf_s PATH_MAX dir ++ [0]
    let (buf, len) := stripSlashes copy (cstr copy).length
    if trust_one_component lstat euid [slash] true ≠ 0 then -1
    else trustPrefixes lstat euid allow_sticky_ww len len 1 buf

end Definitions

section Policy

/-- A component of the path ends here. -/
structure Boundary (dir p rest : Bytes) : Prop where
  split : dir = p ++ rest
  ends : ∃ b, p.getLast? = some b ∧ b ≠ slash
  next : AtEnd slash rest

/-- Nothing but slashes follows the final component. -/
def OnlySlashes (rest : Bytes) : Prop := ∀ b ∈ rest, b = slash

/-- A real directory of root or of the user `euid`, that the others may write to only if it is
sticky, and `sharing` allows it. -/
structure TrustedDir (euid : UInt32) (sharing : Prop) (s : Stat) : Prop where
  dir : S_ISDIR s.st_mode = true
  not_link : S_ISLNK s.st_mode = false
  owner : s.st_uid = 0 ∨ s.st_uid = euid
  shared : s.Shared → sharing ∧ s.Sticky

theorem TrustedDir.imp {euid : UInt32} {sharing sharing' : Prop} {s : Stat}
    (h : TrustedDir euid sharing s) (himp : sharing → sharing') : TrustedDir euid sharing' s :=
  ⟨h.dir, h.not_link, h.owner, fun hs => (h.shared hs).imp_left himp⟩

/-- The root, and each component of the path. -/
structure ChainTrusted (lstat : Bytes → Option Stat) (euid : UInt32) (dir : Bytes)
    (allow_sticky_ww : Bool) : Prop where
  absolute : dir.head? = some slash
  root : ∃ s, lstat [slash] = some s ∧ TrustedDir euid True s
  components : ∀ p rest, Boundary dir p rest →
    ∃ s, lstat p = some s ∧ TrustedDir euid (OnlySlashes rest → allow_sticky_ww = true) s

end Policy

section Component

variable {lstat : Bytes → Option Stat} {euid : UInt32} {comp : Bytes} {allow : Bool}

theorem trust_one_component_iff : trust_one_component lstat euid comp allow = 0 ↔
    ∃ s, lstat comp = some s ∧ TrustedDir euid (allow = true) s := by
  unfold trust_one_component
  cases hs : lstat comp with
  | none => simp
  | some st =>
    simp only [Option.some.injEq, exists_eq_left']
    constructor
    · intro h
      split at h
      · cases h
      · rename_i hlink
        split at h
        · cases h
        · rename_i hdir
          split at h
          · cases h
          · rename_i howner
            split at h
            · cases h
            · rename_i hshared
              refine ⟨by simpa using hdir, by simpa using hlink, ?_, fun hs => ?_⟩
              · by_contra hno
                exact howner ⟨fun h => hno (Or.inr h), fun h => hno (Or.inl h)⟩
              · constructor
                · by_contra hno
                  exact hshared ⟨hs, Or.inl (Bool.eq_false_iff.mpr hno)⟩
                · exact fun hno => hshared ⟨hs, Or.inr hno⟩
    · rintro ⟨hdir, hlink, howner, hshared⟩
      have huid : ¬(st.st_uid ≠ euid ∧ st.st_uid ≠ 0) := by
        rintro ⟨heuid, hroot⟩
        exact howner.elim hroot heuid
      have hwrite : ¬(st.st_mode &&& (S_IWGRP ||| S_IWOTH) ≠ 0 ∧
          (allow = false ∨ st.st_mode &&& S_ISVTX = 0)) := by
        rintro ⟨hs, hno⟩
        obtain ⟨hallow, hsticky⟩ := hshared hs
        rcases hno with hno | hno
        · rw [hallow] at hno
          cases hno
        · exact hsticky hno
      rw [hlink, hdir, if_neg Bool.false_ne_true, if_neg (by decide), if_neg huid, if_neg hwrite]

end Component

section Loop

variable {lstat : Bytes → Option Stat} {euid : UInt32} {allow : Bool} {text init rest : Bytes}
variable {l : UInt8}

private theorem cstr_before {a : Bytes} (h : (0 : UInt8) ∉ a) (b : Bytes) :
    cstr (a ++ 0 :: b) = a := by
  have hall : ∀ x ∈ a, (decide (x ≠ 0)) = true := by
    intro x hx
    exact decide_eq_true fun heq => h (heq ▸ hx)
  rw [cstr, List.takeWhile_append_of_pos hall]
  simp

/-- What the gate asks of a prefix, with `rest` of the path behind it. -/
private def Passes (lstat : Bytes → Option Stat) (euid : UInt32) (allow : Bool)
    (p rest : Bytes) : Prop :=
  ∃ s, lstat p = some s ∧ TrustedDir euid ((if rest = [] then allow else true) = true) s

private theorem boundary_iff (htext : text = init ++ [l] ++ rest) :
    Boundary text (init ++ [l]) rest ↔ AtEnd slash rest ∧ l ≠ slash := by
  constructor
  · rintro ⟨-, ⟨b, hb, hne⟩, hnext⟩
    rw [List.getLast?_concat] at hb
    exact ⟨hnext, Option.some.inj hb ▸ hne⟩
  · rintro ⟨hnext, hne⟩
    exact ⟨htext, ⟨l, List.getLast?_concat, hne⟩, hnext⟩

/-- One round: the prefix before `i` passes if it ends a component, and the loop goes on with the
buffer as it was. -/
private theorem round (h0 : (0 : UInt8) ∉ text) (habs : text.head? = some slash)
    (htext : text = init ++ [l] ++ rest) (tail : Bytes) (rounds : Nat) :
    trustPrefixes lstat euid allow text.length (rounds + 1) (init ++ [l]).length
        (text ++ 0 :: tail) = 0 ↔
      (Boundary text (init ++ [l]) rest → Passes lstat euid allow (init ++ [l]) rest) ∧
        trustPrefixes lstat euid allow text.length rounds ((init ++ [l]).length + 1)
          (text ++ 0 :: tail) = 0 := by
  obtain ⟨more, hbuf⟩ : ∃ more, text ++ 0 :: tail = init ++ l :: rest.headD 0 :: more := by
    cases rest with
    | nil => exact ⟨tail, by simp [htext]⟩
    | cons b rest => exact ⟨rest ++ 0 :: tail, by simp [htext]⟩
  have hlen : (init ++ [l]).length = init.length + 1 := by simp
  have hhere : (text ++ 0 :: tail).getD (init.length + 1) 0 = rest.headD 0 := by
    rw [hbuf]
    simp
  have hprev : (text ++ 0 :: tail).getD (init.length + 1 - 1) 0 = l := by
    rw [hbuf]
    simp
  have hend : ((text ++ 0 :: tail).getD (init.length + 1) 0 = slash ∨
      (text ++ 0 :: tail).getD (init.length + 1) 0 = 0) ↔ AtEnd slash rest := by
    rw [hhere]
    cases rest with
    | nil => simp [AtEnd]
    | cons b rest =>
      have hb : b ≠ 0 := by
        rintro rfl
        exact h0 (by simp [htext])
      simp [AtEnd, hb]
  have hskip : (init.length + 1 = 1 ∨ (text ++ 0 :: tail).getD (init.length + 1 - 1) 0 = slash) ↔
      l = slash := by
    rw [hprev]
    refine ⟨fun h => h.elim (fun hone => ?_) id, Or.inr⟩
    have hnil : init = [] := List.length_eq_zero_iff.mp (by omega)
    rw [htext, hnil] at habs
    exact Option.some.inj habs
  rw [boundary_iff htext, trustPrefixes, hlen]
  by_cases hatend : AtEnd slash rest
  · rw [if_pos (hend.mpr hatend)]
    by_cases hl : l = slash
    · rw [if_pos (hskip.mpr hl)]
      simp [hl]
    · rw [if_neg (mt hskip.mp hl), hhere]
      have hcut : (text ++ 0 :: tail).set (init.length + 1) 0 = init ++ [l] ++ 0 :: more := by
        rw [hbuf, ← hlen]
        simp
      have hback : (init ++ [l] ++ 0 :: more).set (init.length + 1) (rest.headD 0) =
          text ++ 0 :: tail := by
        rw [hbuf, ← hlen]
        simp
      have hclean : (0 : UInt8) ∉ init ++ [l] := by
        intro hm
        exact h0 (htext ▸ List.mem_append_left rest hm)
      have hfinal : (init.length + 1 = text.length) ↔ rest = [] := by
        rw [htext, List.length_append, hlen, ← List.length_eq_zero_iff]
        omega
      dsimp only
      rw [hcut, hback, cstr_before hclean, if_congr hfinal rfl rfl]
      by_cases hr : trust_one_component lstat euid (init ++ [l])
          (if rest = [] then allow else true) = 0
      · rw [if_neg (not_not.mpr hr)]
        exact ⟨fun h => ⟨fun _ => trust_one_component_iff.mp hr, h⟩, And.right⟩
      · rw [if_pos hr]
        refine ⟨fun h => absurd h (by decide), fun h => ?_⟩
        exact absurd (trust_one_component_iff.mpr (h.1 ⟨hatend, hl⟩)) hr
  · rw [if_neg (mt hend.mp hatend)]
    exact ⟨fun h => ⟨fun hb => absurd hb.1 hatend, h⟩, And.right⟩

/-- The loop asks it of every prefix from here on that ends a component. -/
private theorem trustPrefixes_iff (h0 : (0 : UInt8) ∉ text) (habs : text.head? = some slash)
    (tail : Bytes) (htext : text = init ++ [l] ++ rest) :
    trustPrefixes lstat euid allow text.length (rest.length + 1) (init ++ [l]).length
        (text ++ 0 :: tail) = 0 ↔
      ∀ q r, init ++ [l] <+: q → Boundary text q r → Passes lstat euid allow q r := by
  induction rest generalizing init l with
  | nil =>
    rw [round h0 habs htext]
    constructor
    · rintro ⟨h, -⟩ q r hq hb
      obtain ⟨m, rfl⟩ := hq
      have hnil : m ++ r = [] := by
        have hsplit := htext.symm.trans hb.split
        simpa using hsplit
      obtain ⟨rfl, rfl⟩ := List.append_eq_nil_iff.mp hnil
      rw [List.append_nil] at hb ⊢
      exact h hb
    · exact fun h => ⟨h _ _ List.prefix_rfl, rfl⟩
  | cons b rest ih =>
    have hnext : text = init ++ [l] ++ [b] ++ rest := by
      rw [htext]
      simp
    have hlen : (init ++ [l]).length + 1 = (init ++ [l] ++ [b]).length := by simp
    rw [round h0 habs htext, List.length_cons, hlen, ih hnext]
    constructor
    · rintro ⟨hfirst, hlater⟩ q r hq hb
      obtain ⟨m, rfl⟩ := hq
      have hsplit : b :: rest = m ++ r := by
        have h := htext.symm.trans hb.split
        rw [List.append_assoc (init ++ [l]) m r] at h
        exact List.append_cancel_left h
      cases m with
      | nil =>
        rw [List.nil_append] at hsplit
        rw [List.append_nil] at hb ⊢
        rw [← hsplit] at hb ⊢
        exact hfirst hb
      | cons x m =>
        obtain ⟨rfl, -⟩ := List.cons.inj hsplit
        exact hlater _ r ⟨m, by simp⟩ hb
    · intro h
      refine ⟨h _ _ List.prefix_rfl, fun q r hq hb => h q r ?_ hb⟩
      exact (List.prefix_append (init ++ [l]) [b]).trans hq

end Loop

section Gate

variable {lstat : Bytes → Option Stat} {euid : UInt32} {allow : Bool} {dir text : Bytes}

/-- The slashes at the end are stripped, but for the root's own. -/
private theorem stripSlashes_eq (h : dir ≠ []) (zeros : Nat) :
    ∃ text k, dir = text ++ List.replicate k slash ∧ text ≠ [] ∧
      (text.length = 1 ∨ text.getLast? ≠ some slash) ∧
      stripSlashes (dir ++ List.replicate zeros 0) dir.length =
        (text ++ List.replicate (k + zeros) 0, text.length) := by
  induction dir using List.reverseRecOn generalizing zeros with
  | nil => exact absurd rfl h
  | append_singleton dir b ih =>
    have hb : (dir ++ [b] ++ List.replicate zeros 0).getD dir.length 0 = b := by simp
    rw [List.length_append, List.length_singleton, stripSlashes, hb]
    by_cases hstrip : 0 < dir.length ∧ b = slash
    · obtain ⟨hpos, rfl⟩ := hstrip
      have hset : (dir ++ [slash] ++ List.replicate zeros 0).set dir.length 0 =
          dir ++ List.replicate (zeros + 1) 0 := by
        rw [List.append_assoc, List.replicate_succ]
        simp
      obtain ⟨text, k, rfl, hne, hlast, heq⟩ := ih (List.ne_nil_of_length_pos hpos) (zeros + 1)
      refine ⟨text, k + 1, ?_, hne, hlast, ?_⟩
      · rw [List.append_assoc, ← List.replicate_succ']
      · rw [if_pos ⟨hpos, rfl⟩, hset, heq, Nat.add_right_comm, Nat.add_assoc]
    · refine ⟨dir ++ [b], 0, by simp, by simp, ?_, ?_⟩
      · by_cases hpos : 0 < dir.length
        · right
          rw [List.getLast?_concat]
          exact fun heq => hstrip ⟨hpos, Option.some.inj heq⟩
        · left
          simp only [List.length_append, List.length_singleton]
          omega
      · rw [if_neg hstrip, Nat.zero_add, List.length_append, List.length_singleton]

private theorem onlySlashes_replicate (k : Nat) : OnlySlashes (List.replicate k slash) :=
  fun _ hb => List.eq_of_mem_replicate hb

/-- The prefixes that end a component are those of the stripped path. -/
private theorem boundary_strip {k : Nat} (hdir : dir = text ++ List.replicate k slash)
    {p rest : Bytes} : Boundary dir p rest ↔
      ∃ m, Boundary text p m ∧ rest = m ++ List.replicate k slash := by
  constructor
  · rintro ⟨hsplit, ⟨b, hb, hne⟩, hnext⟩
    have hsame := hdir.symm.trans hsplit
    rcases List.append_eq_append_iff.mp hsame with ⟨m, hm, hrest⟩ | ⟨m, hm, hrest⟩
    · cases m using List.reverseRecOn with
      | nil =>
        rw [List.append_nil] at hm
        refine ⟨[], ⟨by rw [hm, List.append_nil], ⟨b, hb, hne⟩, Or.inl rfl⟩, ?_⟩
        simpa using hrest.symm
      | append_singleton m x =>
        have hx : x ∈ List.replicate k slash := by
          rw [hrest]
          simp
        rw [hm, ← List.append_assoc, List.getLast?_concat] at hb
        rw [List.eq_of_mem_replicate hx] at hb
        exact absurd (Option.some.inj hb).symm hne
    · refine ⟨m, ⟨hm, ⟨b, hb, hne⟩, ?_⟩, hrest⟩
      cases m with
      | nil => exact Or.inl rfl
      | cons x m =>
        right
        rw [hrest] at hnext
        rcases hnext with hnil | hhead
        · cases hnil
        · exact hhead
  · rintro ⟨m, ⟨hsplit, hends, hnext⟩, rfl⟩
    refine ⟨by rw [hdir, hsplit, List.append_assoc], hends, ?_⟩
    rcases hnext with rfl | hhead
    · cases k with
      | zero => exact Or.inl rfl
      | succ k => exact Or.inr rfl
    · right
      cases m with
      | nil => cases hhead
      | cons x m => exact hhead

/-- Behind a component that is not the last, more than slashes are left. -/
private theorem onlySlashes_iff {k : Nat} {p m : Bytes} (hb : Boundary text p m)
    (hlast : text.length = 1 ∨ text.getLast? ≠ some slash) :
    OnlySlashes (m ++ List.replicate k slash) ↔ m = [] := by
  constructor
  · intro h
    obtain ⟨hsplit, ⟨b, hb, hne⟩, hnext⟩ := hb
    cases m using List.reverseRecOn with
    | nil => rfl
    | append_singleton m x =>
      have hx : x = slash := h x (by simp)
      rcases hlast with hone | hlast
      · have hp : p = [] := by
          rw [hsplit] at hone
          simp only [List.length_append, List.length_singleton] at hone
          exact List.length_eq_zero_iff.mp (by omega)
        rw [hp] at hb
        cases hb
      · refine absurd ?_ hlast
        rw [hsplit, ← List.append_assoc, List.getLast?_concat, hx]
  · rintro rfl
    exact onlySlashes_replicate k

/-- What the loop asks of the stripped path is what the policy asks of the path. -/
private theorem prefixes_iff (h0 : (0 : UInt8) ∉ text) (habs : text.head? = some slash)
    (hlast : text.length = 1 ∨ text.getLast? ≠ some slash) {k : Nat}
    (hdir : dir = text ++ List.replicate k slash) :
    trustPrefixes lstat euid allow text.length text.length 1 (text ++ 0 :: List.replicate k 0) = 0 ↔
      ∀ p rest, Boundary dir p rest →
        ∃ s, lstat p = some s ∧ TrustedDir euid (OnlySlashes rest → allow = true) s := by
  obtain ⟨t, rfl⟩ := List.head?_eq_some_iff.mp habs
  have hloop : trustPrefixes lstat euid allow (slash :: t).length (slash :: t).length 1
      (slash :: t ++ 0 :: List.replicate k 0) = 0 ↔ _ :=
    trustPrefixes_iff h0 habs (List.replicate k 0) (show slash :: t = [] ++ [slash] ++ t from rfl)
  refine hloop.trans ⟨fun h p rest hb => ?_, fun h q r _ hb => ?_⟩
  · obtain ⟨m, hm, rfl⟩ := (boundary_strip hdir).mp hb
    have hprefix : [] ++ [slash] <+: p := by
      obtain ⟨b, hb, -⟩ := hm.ends
      cases p with
      | nil => cases hb
      | cons x p =>
        obtain ⟨rfl, -⟩ := List.cons.inj hm.split
        exact ⟨p, rfl⟩
    obtain ⟨s, hs, htrusted⟩ := h p m hprefix hm
    refine ⟨s, hs, htrusted.imp fun hshare hslashes => ?_⟩
    rwa [if_pos ((onlySlashes_iff hm hlast).mp hslashes)] at hshare
  · obtain ⟨s, hs, htrusted⟩ := h q _ ((boundary_strip hdir).mpr ⟨r, hb, rfl⟩)
    refine ⟨s, hs, htrusted.imp fun hshare => ?_⟩
    split
    · rename_i hnil
      exact hshare ((onlySlashes_iff hb hlast).mpr hnil)
    · rfl

/-- The gate lets a path pass exactly if every directory on it may be trusted. -/
theorem dir_hierarchy_trusted_iff (h0 : (0 : UInt8) ∉ dir) (hlen : dir.length < PATH_MAX) :
    dir_hierarchy_trusted lstat euid dir allow = 0 ↔ ChainTrusted lstat euid dir allow := by
  unfold dir_hierarchy_trusted
  by_cases habs : dir.head? = some slash
  · rw [if_neg (not_not.mpr habs), if_neg (Nat.not_le.mpr hlen), snprintf_s_eq_self hlen]
    have hne : dir ≠ [] := by
      rintro rfl
      cases habs
    have hcopy : cstr (dir ++ [0]) = dir := cstr_before h0 []
    obtain ⟨text, k, hdir, htext, hlast, heq⟩ := stripSlashes_eq hne 1
    have habs' : text.head? = some slash := by
      rw [hdir, List.head?_append_of_ne_nil _ htext] at habs
      exact habs
    have h0' : (0 : UInt8) ∉ text := fun hm => h0 (hdir ▸ List.mem_append_left _ hm)
    have hzeros : text ++ List.replicate (k + 1) 0 = text ++ 0 :: List.replicate k 0 := rfl
    rw [List.replicate_one] at heq
    dsimp only
    rw [hcopy, heq, hzeros]
    dsimp only
    by_cases hr : trust_one_component lstat euid [slash] true = 0
    · rw [if_neg (not_not.mpr hr), prefixes_iff h0' habs' hlast hdir]
      obtain ⟨s, hs, hroot⟩ := trust_one_component_iff.mp hr
      refine ⟨fun h => ⟨habs, ⟨s, hs, hroot.imp fun _ => trivial⟩, h⟩, fun h => h.components⟩
    · rw [if_pos hr]
      refine ⟨fun h => absurd h (by decide), fun h => absurd ?_ hr⟩
      obtain ⟨s, hs, hroot⟩ := h.root
      exact trust_one_component_iff.mpr ⟨s, hs, hroot.imp fun _ => rfl⟩
  · rw [if_pos habs]
    exact ⟨fun h => absurd h (by decide), fun h => absurd h.absolute habs⟩

end Gate

end KernelAv.Daemon.DirectoryTrust
