/- digest: Directories that the trust gate lets pass stay in place, whatever other users do. -/

import KernelAv.Daemon.DirectoryTrust
import KernelAv.Kernel.ExecTarget

set_option autoImplicit false
set_option relaxedAutoImplicit false

namespace KernelAv.Daemon.TrustedChain

open KernelAv.Lib.CText (Bytes)
open KernelAv.Lib.Components (AtEnd)
open KernelAv.Lib.Directories
open KernelAv.Lib.PathWalk
open KernelAv.Kernel.ExecTarget (MAXSYMLINKS component pathText)
open KernelAv.Kernel.Paths (PATH_MAX slash)
open DirectoryTrust

section Definitions

variable {ι : Type} [DecidableEq ι] (F : Fs Bytes ι) (avd : Cred) (cwd : ι)

/-- Where a walk of the path starts. -/
def base (path : Bytes) : ι := if (pathText path).absolute then F.root else cwd

/-- The call of the daemon, from its working directory. -/
def lstat (path : Bytes) : Option Stat :=
  if path = [] then none
  else (locate F.tree ⟨avd, F.root⟩ MAXSYMLINKS (pathText path).components (base F cwd path)).bind
    F.stat

/-- What the path leads to. -/
def Leads (path : Bytes) (e : ι) : Prop :=
  resolve F.tree ⟨avd, F.root⟩ MAXSYMLINKS (pathText path) cwd = some e

end Definitions

section Prefixes

variable {dir p rest q c : Bytes}

private theorem exists_run (P : UInt8 → Prop) [DecidablePred P] (p : Bytes) :
    ∃ a c, p = a ++ c ∧ (∀ b ∈ c, P b) ∧ ∀ b, a.getLast? = some b → ¬ P b := by
  induction p using List.reverseRecOn with
  | nil => exact ⟨[], [], rfl, fun b hb => absurd hb List.not_mem_nil, fun b hb => by cases hb⟩
  | append_singleton p x ih =>
    by_cases hx : P x
    · obtain ⟨a, c, rfl, hc, ha⟩ := ih
      refine ⟨a, c ++ [x], by rw [List.append_assoc], fun b hb => ?_, ha⟩
      rcases List.mem_append.mp hb with hb | hb
      · exact hc b hb
      · exact List.mem_singleton.mp hb ▸ hx
    · refine ⟨p ++ [x], [], by rw [List.append_nil], fun b hb => absurd hb List.not_mem_nil, ?_⟩
      intro b hb
      rw [List.getLast?_concat] at hb
      exact Option.some.inj hb ▸ hx

private theorem splitOn_slashes (hc : slash ∉ c) (k : Nat) :
    (List.replicate k slash ++ c).splitOn slash = List.replicate k [] ++ [c] := by
  induction k with
  | zero => exact List.splitOn_eq_singleton hc
  | succ k ih =>
    have hsplit := List.splitOn_append_cons_self (a := slash) [] (List.replicate k slash ++ c)
    rw [List.nil_append, List.splitOn_nil, ih] at hsplit
    rw [List.replicate_succ, List.cons_append, hsplit]
    rfl

private theorem components_next (hc : slash ∉ c) (k : Nat) :
    (pathText (q ++ List.replicate (k + 1) slash ++ c)).components =
      (pathText q).components ++ List.replicate k .here ++ [component c] := by
  have hhere : component [] = .here := if_pos (Or.inl rfl)
  show ((q ++ List.replicate (k + 1) slash ++ c).splitOn slash).map component =
    (q.splitOn slash).map component ++ List.replicate k .here ++ [component c]
  rw [List.append_assoc, List.replicate_succ, List.cons_append, List.splitOn_append_cons_self,
    splitOn_slashes hc, List.map_append, List.map_append, List.map_replicate, hhere,
    List.append_assoc]
  rfl

/-- The components before the last one: none, or those of a shorter prefix that ends one. -/
private theorem previous (habs : dir.head? = some slash) (hb : Boundary dir p rest) :
    ∃ comps k comp, (pathText p).components = comps ++ List.replicate k .here ++ [comp] ∧
      (comps = [] ∨ ∃ q r, Boundary dir q r ∧ q.length < p.length ∧
        comps = (pathText q).components) := by
  obtain ⟨hsplit, ⟨l, hl, hne⟩, hnext⟩ := hb
  obtain ⟨a, c, rfl, hc, ha⟩ := exists_run (· ≠ slash) p
  have hclean : slash ∉ c := fun hm => hc slash hm rfl
  have hcne : c ≠ [] := by
    rintro rfl
    rw [List.append_nil] at hl
    exact ha l hl hne
  have hane : a ≠ [] := by
    rintro rfl
    obtain ⟨x, c, rfl⟩ := List.exists_cons_of_ne_nil hcne
    rw [hsplit] at habs
    exact hc x List.mem_cons_self (Option.some.inj habs)
  obtain ⟨q, s, rfl, hs, hq⟩ := exists_run (· = slash) a
  have hrun : s = List.replicate s.length slash := List.eq_replicate_iff.mpr ⟨rfl, hs⟩
  have hsne : s ≠ [] := by
    rintro rfl
    rw [List.append_nil] at ha hane
    obtain ⟨x, hx⟩ := Option.ne_none_iff_exists'.mp (mt List.getLast?_eq_none_iff.mp hane)
    exact hq x hx (not_not.mp (ha x hx))
  obtain ⟨k, hk⟩ := Nat.exists_eq_succ_of_ne_zero (mt List.length_eq_zero_iff.mp hsne)
  rw [hk] at hrun
  have hcomps := components_next (q := q) hclean k
  rw [← hrun] at hcomps
  by_cases hnil : q = []
  · subst hnil
    refine ⟨[], k + 1, component c, ?_, Or.inl rfl⟩
    rw [hcomps, List.nil_append, List.replicate_succ]
    rfl
  · refine ⟨_, k, component c, hcomps, Or.inr ⟨q, s ++ c ++ rest, ⟨?_, ?_, ?_⟩, ?_, rfl⟩⟩
    · rw [hsplit]
      simp only [List.append_assoc]
    · obtain ⟨x, hx⟩ := Option.ne_none_iff_exists'.mp (mt List.getLast?_eq_none_iff.mp hnil)
      exact ⟨x, hx, hq x hx⟩
    · rw [hrun]
      exact Or.inr rfl
    · have hpos : 0 < s.length := List.length_pos_of_ne_nil hsne
      simp only [List.length_append]
      omega

private theorem head_boundary (habs : dir.head? = some slash) (hb : Boundary dir p rest) :
    p.head? = some slash := by
  obtain ⟨hsplit, ⟨l, hl, -⟩, -⟩ := hb
  cases p with
  | nil => cases hl
  | cons x p =>
    rw [hsplit] at habs
    exact habs

end Prefixes

section Chains

variable {ι : Type} [DecidableEq ι] {F G : Fs Bytes ι} {avd : Cred} {cwd d e : ι}
variable {dir p rest : Bytes} {allow : Bool} {n m k : Nat} {s : Stat}
variable {comps : List (Component Bytes)} {comp : Component Bytes}

/-- The walk of an absolute path, which meets no link. -/
private def Arrives (F : Fs Bytes ι) (avd : Cred) (p : Bytes) (e : ι) : Prop :=
  scan F.tree ⟨avd, F.root⟩ (pathText p).components F.root = .arrived e

/-- The root, and what the prefixes up to a length lead to. -/
private def Chain (F : Fs Bytes ι) (avd : Cred) (dir : Bytes) (n : Nat) : Set ι :=
  {e | e = F.root ∨ ∃ p rest, p.length ≤ n ∧ Boundary dir p rest ∧ Arrives F avd p e}

private theorem chain_mono (h : m ≤ n) (hd : d ∈ Chain F avd dir m) : d ∈ Chain F avd dir n := by
  rcases hd with hroot | ⟨p, rest, hle, hb, harr⟩
  · exact Or.inl hroot
  · exact Or.inr ⟨p, rest, hle.trans h, hb, harr⟩

private theorem lstat_next (hhead : p.head? = some slash)
    (hcomps : (pathText p).components = comps ++ List.replicate k .here ++ [comp])
    (hscan : scan F.tree ⟨avd, F.root⟩ comps F.root = .arrived d) :
    lstat F avd cwd p = (move F.tree ⟨avd, F.root⟩ comp d).place.bind F.stat := by
  have hne : p ≠ [] := by
    rintro rfl
    cases hhead
  have habs : (pathText p).absolute = true := decide_eq_true hhead
  rw [lstat, if_neg hne, base, if_pos habs, hcomps, locate_next MAXSYMLINKS hscan]

/-- What is no link has been entered. -/
private theorem enter_of_place (hs : (move F.tree ⟨avd, F.root⟩ comp d).place.bind F.stat = some s)
    (hlink : S_ISLNK s.st_mode = false) :
    ∃ e, move F.tree ⟨avd, F.root⟩ comp d = .enter e ∧ F.stat e = some s := by
  cases hmove : move F.tree ⟨avd, F.root⟩ comp d with
  | enter e =>
    rw [hmove] at hs
    exact ⟨e, rfl, hs⟩
  | link e =>
    have hislink : F.isLink e = true := isLink_of_move hmove
    rw [hmove] at hs
    have hstat : F.stat e = some s := hs
    rw [Fs.isLink, hstat] at hislink
    exact absurd (hlink.symm.trans hislink) (by decide)
  | lost =>
    rw [hmove] at hs
    cases hs

/-- Behind a place of the chain, the next component that the gate trusts is entered. -/
private theorem enter_next (h : ChainTrusted (lstat F avd cwd) avd.uid dir allow)
    (hb : Boundary dir p rest)
    (hcomps : (pathText p).components = comps ++ List.replicate k .here ++ [comp])
    (hscan : scan F.tree ⟨avd, F.root⟩ comps F.root = .arrived d) :
    ∃ e s, move F.tree ⟨avd, F.root⟩ comp d = .enter e ∧ F.stat e = some s ∧
      TrustedDir avd.uid (OnlySlashes rest → allow = true) s ∧ Arrives F avd p e := by
  obtain ⟨s, hs, htrusted⟩ := h.components p rest hb
  rw [lstat_next (head_boundary h.absolute hb) hcomps hscan] at hs
  obtain ⟨e, hmove, hstat⟩ := enter_of_place hs htrusted.not_link
  refine ⟨e, s, hmove, hstat, htrusted, ?_⟩
  rw [Arrives, hcomps]
  exact scan_next hscan hmove k

/-- The chain exists up to each component, and goes up to the root again. -/
private theorem chain_reached (ht : F.Tree)
    (h : ChainTrusted (lstat F avd cwd) avd.uid dir allow) (hb : Boundary dir p rest) :
    ∃ e s, Arrives F avd p e ∧ F.stat e = some s ∧
      TrustedDir avd.uid (OnlySlashes rest → allow = true) s ∧
      ∃ a ∈ Chain F avd dir p.length, F.parent e = some a := by
  induction hn : p.length using Nat.strong_induction_on generalizing p rest with
  | _ n ih =>
    subst hn
    have hclosed : ∀ m < p.length, ∀ a ∈ Chain F avd dir m,
        ∃ b ∈ Chain F avd dir m, F.parent a = some b := by
      rintro m hm a (rfl | ⟨q, r, hle, hq, harr⟩)
      · exact ⟨F.root, Or.inl rfl, ht.root_parent⟩
      · obtain ⟨e, s, he, -, -, b, hb, hparent⟩ := ih q.length (hle.trans_lt hm) hq rfl
        obtain rfl := Stop.arrived.inj (harr.symm.trans he)
        exact ⟨b, chain_mono hle hb, hparent⟩
    obtain ⟨comps, k, comp, hcomps, hprev⟩ := previous h.absolute hb
    obtain ⟨m, hm, d, hd, hscan⟩ : ∃ m < p.length, ∃ d ∈ Chain F avd dir m,
        scan F.tree ⟨avd, F.root⟩ comps F.root = .arrived d := by
      rcases hprev with rfl | ⟨q, r, hq, hlt, rfl⟩
      · obtain ⟨l, hl, -⟩ := hb.ends
        have hpos : 0 < p.length := by
          cases p with
          | nil => cases hl
          | cons x p => exact Nat.succ_pos _
        exact ⟨0, hpos, F.root, Or.inl rfl, rfl⟩
      · obtain ⟨d, _, hd, -⟩ := ih q.length hlt hq rfl
        exact ⟨q.length, hlt, d, Or.inr ⟨q, r, le_rfl, hq, hd⟩, hd⟩
    obtain ⟨e, s, hmove, hstat, htrusted, harr⟩ := enter_next h hb hcomps hscan
    refine ⟨e, s, harr, hstat, htrusted, ?_⟩
    have hdir : F.isDir e = true := by
      rw [Fs.isDir, hstat]
      exact htrusted.dir
    rcases ht.parent_of_move hmove hdir with rfl | hup | hdown
    · obtain ⟨a, ha, hparent⟩ := hclosed m hm e hd
      exact ⟨a, chain_mono hm.le ha, hparent⟩
    · obtain ⟨a, ha, hparent⟩ := hclosed m hm d hd
      obtain rfl := Option.some.inj (hparent.symm.trans hup)
      obtain ⟨b, hb, hparent⟩ := hclosed m hm a ha
      exact ⟨b, chain_mono hm.le hb, hparent⟩
    · exact ⟨d, chain_mono hm.le hd, hdown⟩

private theorem components_root :
    (pathText [slash]).components = [] ++ List.replicate 1 .here ++ [.here] := by decide

private theorem lstat_root : lstat F avd cwd [slash] =
    (move F.tree ⟨avd, F.root⟩ .here F.root).place.bind F.stat :=
  lstat_next rfl components_root rfl

private theorem enter_root (h : ChainTrusted (lstat F avd cwd) avd.uid dir allow) :
    move F.tree ⟨avd, F.root⟩ .here F.root = .enter F.root ∧
      ∃ s, F.stat F.root = some s ∧ TrustedDir avd.uid True s := by
  obtain ⟨s, hs, htrusted⟩ := h.root
  rw [lstat_root] at hs
  obtain ⟨e, hmove, hstat⟩ := enter_of_place hs htrusted.not_link
  obtain rfl : F.root = e := (move_enter_iff.mp hmove).2
  exact ⟨hmove, s, hstat, htrusted⟩

/-- Every place of the chain is a directory that the gate trusts. -/
private theorem chain_trusted (ht : F.Tree)
    (h : ChainTrusted (lstat F avd cwd) avd.uid dir allow) (hd : d ∈ Chain F avd dir n) :
    ∃ s, F.stat d = some s ∧ TrustedDir avd.uid True s := by
  rcases hd with rfl | ⟨p, rest, -, hb, harr⟩
  · exact (enter_root h).2
  · obtain ⟨e, s, he, hstat, htrusted, -⟩ := chain_reached ht h hb
    obtain rfl := Stop.arrived.inj (harr.symm.trans he)
    exact ⟨s, hstat, htrusted.imp fun _ => trivial⟩

private theorem chain_guarded (ht : F.Tree)
    (h : ChainTrusted (lstat F avd cwd) avd.uid dir allow) :
    Guarded avd.uid (Chain F avd dir dir.length) F where
  dir d hd := by
    obtain ⟨s, hstat, htrusted⟩ := chain_trusted ht h hd
    rw [Fs.isDir, hstat]
    exact htrusted.dir
  owner d hd s hs := by
    obtain ⟨t, hstat, htrusted⟩ := chain_trusted ht h hd
    obtain rfl := Option.some.inj (hs.symm.trans hstat)
    exact htrusted.owner
  sticky d hd s hs hshared := by
    obtain ⟨t, hstat, htrusted⟩ := chain_trusted ht h hd
    obtain rfl := Option.some.inj (hs.symm.trans hstat)
    exact (htrusted.shared hshared).2
  parent d hd := by
    rcases hd with rfl | ⟨p, rest, hle, hb, harr⟩
    · exact ⟨F.root, Or.inl rfl, ht.root_parent⟩
    · obtain ⟨e, s, he, -, -, a, ha, hparent⟩ := chain_reached ht h hb
      obtain rfl := Stop.arrived.inj (harr.symm.trans he)
      exact ⟨a, chain_mono hle ha, hparent⟩

private theorem boundary_length (hb : Boundary dir p rest) : p.length ≤ dir.length := by
  rw [hb.split, List.length_append]
  exact Nat.le_add_right ..

/-- As long as the directories are kept, each component leads to the same one. -/
private theorem chain_kept
    (h : ChainTrusted (lstat F avd cwd) avd.uid dir allow)
    (hk : Keeps (Chain F avd dir dir.length) F G) (hb : Boundary dir p rest) :
    lstat G avd cwd p = lstat F avd cwd p ∧
      ∃ e ∈ Chain F avd dir dir.length, Arrives F avd p e ∧ Arrives G avd p e := by
  induction hn : p.length using Nat.strong_induction_on generalizing p rest with
  | _ n ih =>
    subst hn
    obtain ⟨comps, k, comp, hcomps, hprev⟩ := previous h.absolute hb
    obtain ⟨d, hd, hscan, hscan'⟩ : ∃ d ∈ Chain F avd dir dir.length,
        scan F.tree ⟨avd, F.root⟩ comps F.root = .arrived d ∧
        scan G.tree ⟨avd, G.root⟩ comps G.root = .arrived d := by
      rcases hprev with rfl | ⟨q, r, hq, hlt, rfl⟩
      · exact ⟨F.root, Or.inl rfl, rfl, congrArg Stop.arrived hk.root⟩
      · obtain ⟨-, d, hd, harr, harr'⟩ := ih q.length hlt hq rfl
        exact ⟨d, hd, harr, harr'⟩
    obtain ⟨e, s, hmove, hstat, -, harr⟩ := enter_next h hb hcomps hscan
    have he : e ∈ Chain F avd dir dir.length :=
      Or.inr ⟨p, rest, boundary_length hb, hb, harr⟩
    have hmove' := hk.move hd he hmove
    have hhead := head_boundary h.absolute hb
    refine ⟨?_, e, he, harr, ?_⟩
    · rw [lstat_next hhead hcomps hscan', lstat_next hhead hcomps hscan, hmove', hmove]
      exact hk.stat e he
    · rw [Arrives, hcomps]
      exact scan_next hscan' hmove' k

private theorem lstat_root_kept (h : ChainTrusted (lstat F avd cwd) avd.uid dir allow)
    (hk : Keeps (Chain F avd dir dir.length) F G) :
    lstat G avd cwd [slash] = lstat F avd cwd [slash] := by
  have hroot : F.root ∈ Chain F avd dir dir.length := Or.inl rfl
  have hmove := (enter_root h).1
  have hmove' := hk.move hroot hroot hmove
  rw [lstat_root, lstat_root, hk.root, hmove]
  rw [hk.root] at hmove'
  rw [hmove']
  exact hk.stat F.root hroot

private theorem leads_of_arrives (hhead : p.head? = some slash) (h : Arrives F avd p e) :
    Leads F avd cwd p e := by
  have habs : (pathText p).absolute = true := decide_eq_true hhead
  rw [Leads, resolve, if_pos habs]
  exact walk_arrived h

end Chains

section Consequence

variable {ι : Type} [DecidableEq ι] {F G : Fs Bytes ι} {avd : Cred} {cwd : ι}
variable {dir p rest : Bytes} {allow : Bool}

/-- The root, or a prefix of the path that ends a component. -/
def OnPath (dir p : Bytes) : Prop := p = [slash] ∨ ∃ rest, Boundary dir p rest

/-- The path leads to one directory before and after, and no other user may rename it, remove it
or put something in its place. -/
def Fixed (F G : Fs Bytes ι) (avd : Cred) (cwd : ι) (p : Bytes) : Prop :=
  ∃ e, Leads F avd cwd p e ∧ Leads G avd cwd p e ∧ G.isDir e = true ∧
    ∀ c, Other avd.uid c → ∀ d k, G.entry d k = some e → ¬ G.MayRemove c d e

/-- Nor may they make an entry there, and nothing in it has changed. -/
def Shut (F G : Fs Bytes ι) (avd : Cred) (cwd : ι) (p : Bytes) : Prop :=
  ∃ e, Leads F avd cwd p e ∧ Leads G avd cwd p e ∧ G.entry e = F.entry e ∧
    ∀ c, Other avd.uid c → ¬ G.MayWrite c e

private theorem exists_final (hsome : ¬ OnlySlashes dir) :
    ∃ p rest, Boundary dir p rest ∧ OnlySlashes rest := by
  obtain ⟨a, c, rfl, hc, ha⟩ := exists_run (· = slash) dir
  have hane : a ≠ [] := by
    rintro rfl
    exact hsome hc
  obtain ⟨x, hx⟩ := Option.ne_none_iff_exists'.mp (mt List.getLast?_eq_none_iff.mp hane)
  refine ⟨a, c, ⟨rfl, ⟨x, hx, ha x hx⟩, ?_⟩, hc⟩
  cases c with
  | nil => exact Or.inl rfl
  | cons b c => exact Or.inr (congrArg some (hc b List.mem_cons_self))

private theorem trusted_kept (h : ChainTrusted (lstat F avd cwd) avd.uid dir allow)
    (hk : Keeps (Chain F avd dir dir.length) F G) :
    ChainTrusted (lstat G avd cwd) avd.uid dir allow where
  absolute := h.absolute
  root := by
    rw [lstat_root_kept h hk]
    exact h.root
  components p rest hb := by
    rw [(chain_kept h hk hb).1]
    exact h.components p rest hb

private theorem leads_root (h : ChainTrusted (lstat F avd cwd) avd.uid dir allow) :
    Leads F avd cwd [slash] F.root := by
  refine leads_of_arrives rfl ?_
  rw [Arrives, components_root]
  exact scan_next rfl (enter_root h).1 1

private theorem fixed_of_onPath (ht : G.Tree)
    (h : ChainTrusted (lstat F avd cwd) avd.uid dir allow)
    (hg : Guarded avd.uid (Chain F avd dir dir.length) G)
    (hk : Keeps (Chain F avd dir dir.length) F G) (hp : OnPath dir p) : Fixed F G avd cwd p := by
  rcases hp with rfl | ⟨rest, hb⟩
  · have hleads := leads_root (trusted_kept h hk)
    rw [hk.root] at hleads
    have hroot : F.root ∈ Chain F avd dir dir.length := Or.inl rfl
    exact ⟨F.root, leads_root h, hleads, hg.dir F.root hroot,
      fun c hc d k hentry hmay => hg.denied ht hc hentry hmay hroot⟩
  · obtain ⟨-, e, he, harr, harr'⟩ := chain_kept h hk hb
    have hhead := head_boundary h.absolute hb
    exact ⟨e, leads_of_arrives hhead harr, leads_of_arrives hhead harr', hg.dir e he,
      fun c hc d k hentry hmay => hg.denied ht hc hentry hmay he⟩

private theorem shut_of_final (ht : F.Tree)
    (h : ChainTrusted (lstat F avd cwd) avd.uid dir false)
    (hg : Guarded avd.uid (Chain F avd dir dir.length) G)
    (hk : Keeps (Chain F avd dir dir.length) F G) (hb : Boundary dir p rest)
    (hrest : OnlySlashes rest) : Shut F G avd cwd p := by
  obtain ⟨-, e, he, harr, harr'⟩ := chain_kept h hk hb
  obtain ⟨e', s, harr'', hstat, htrusted, -⟩ := chain_reached ht h hb
  obtain rfl := Stop.arrived.inj (harr.symm.trans harr'')
  have hun : F.Unshared e := by
    intro t ht hshared
    obtain rfl := Option.some.inj (ht.symm.trans hstat)
    exact absurd ((htrusted.shared hshared).1 hrest) (by decide)
  have hhead := head_boundary h.absolute hb
  exact ⟨e, leads_of_arrives hhead harr, leads_of_arrives hhead harr', hk.unshared e he hun,
    fun c hc hmay => hg.not_unshared hc he hmay ((hk.unshared_iff he).mpr hun)⟩

/-- The gate lets exactly the trusted chains pass, and what it lets pass without sharing stays
in place whatever other users do. -/
theorem trusted_chain_stays (dir : Bytes) (h0 : (0 : UInt8) ∉ dir) (hlen : dir.length < PATH_MAX)
    (hsome : ¬ OnlySlashes dir) :
    (∀ lstat euid allow_sticky_ww, dir_hierarchy_trusted lstat euid dir allow_sticky_ww = 0 ↔
      ChainTrusted lstat euid dir allow_sticky_ww) ∧
    ∀ {ι : Type} [DecidableEq ι] (F : Fs Bytes ι) (avd : Cred) (cwd : ι), F.Tree →
      dir_hierarchy_trusted (lstat F avd cwd) avd.uid dir false = 0 →
      ∀ G, Run avd.uid F G →
        dir_hierarchy_trusted (lstat G avd cwd) avd.uid dir false = 0 ∧
        (∀ p, OnPath dir p → Fixed F G avd cwd p) ∧
        ∃ p rest, Boundary dir p rest ∧ OnlySlashes rest ∧ Shut F G avd cwd p := by
  refine ⟨fun lstat euid allow => dir_hierarchy_trusted_iff h0 hlen, ?_⟩
  intro ι _ F avd cwd ht hgate G hrun
  have h := (dir_hierarchy_trusted_iff h0 hlen).mp hgate
  have hg := chain_guarded ht h
  obtain ⟨ht', hk⟩ := hrun.keeps ht hg
  obtain ⟨p, rest, hb, hrest⟩ := exists_final hsome
  refine ⟨(dir_hierarchy_trusted_iff h0 hlen).mpr (trusted_kept h hk), ?_, p, rest, hb, hrest, ?_⟩
  · exact fun p hp => fixed_of_onPath ht' h (hg.keeps hk) hk hp
  · exact shut_of_final ht h (hg.keeps hk) hk hb hrest

end Consequence

section SharedTmp

private def tmp : Bytes := [116, 109, 112]

private def av : Bytes := [97, 118]

/-- A directory of the daemon's below a sticky one of root's that everyone writes to. -/
private def disk : Fs Bytes Nat where
  root := 0
  stat
    | 0 => some ⟨0o40755, 0, 0⟩
    | 1 => some ⟨0o41777, 0, 0⟩
    | 2 => some ⟨0o40700, 7, 7⟩
    | _ => none
  parent
    | 0 => some 0
    | 1 => some 0
    | 2 => some 1
    | _ => none
  entry d k :=
    if d = 0 ∧ k = tmp then some 1 else if d = 1 ∧ k = av then some 2 else none
  target _ := ⟨false, []⟩

private def avd : Cred := ⟨7, []⟩

private def file : Stat := ⟨0o100644, 1000, 1000⟩

/-- Another user has made a file next to it. -/
private def planted : Fs Bytes Nat := (disk.make 3 file ⟨false, []⟩).place 1 tmp 3

private theorem entry_disk {d n : Nat} {k : Bytes} (h : disk.entry d k = some n) :
    d = 0 ∧ k = tmp ∧ n = 1 ∨ d = 1 ∧ k = av ∧ n = 2 := by
  simp only [disk] at h
  split at h
  · rename_i hfirst
    exact Or.inl ⟨hfirst.1, hfirst.2, (Option.some.inj h).symm⟩
  · split at h
    · rename_i hsecond
      exact Or.inr ⟨hsecond.1, hsecond.2, (Option.some.inj h).symm⟩
    · cases h

private theorem tree_disk : disk.Tree where
  root_dir := by decide
  root_parent := rfl
  entry_dir d k n h := by
    rcases entry_disk h with ⟨rfl, -, -⟩ | ⟨rfl, -, -⟩
    · decide
    · decide
  entry_live d k n h := by
    rcases entry_disk h with ⟨-, -, rfl⟩ | ⟨-, -, rfl⟩
    · rfl
    · rfl
  entry_root d k n h := by
    rcases entry_disk h with ⟨-, -, rfl⟩ | ⟨-, -, rfl⟩
    · decide
    · decide
  entry_parent d k n h _ := by
    rcases entry_disk h with ⟨rfl, -, rfl⟩ | ⟨rfl, -, rfl⟩
    · rfl
    · rfl
  entry_name d k k' n h h' _ := by
    rcases entry_disk h with ⟨rfl, rfl, -⟩ | ⟨rfl, rfl, -⟩
    · rcases entry_disk h' with ⟨-, rfl, -⟩ | ⟨hd, -, -⟩
      · rfl
      · cases hd
    · rcases entry_disk h' with ⟨hd, -, -⟩ | ⟨-, rfl, -⟩
      · cases hd
      · rfl

private theorem run_planted : Run avd.uid disk planted := by
  refine Relation.ReflTransGen.single ⟨⟨1000, []⟩, ⟨by decide, by decide⟩, ?_⟩
  exact Fs.Step.create _ ⟨⟨0o41777, 0, 0⟩, rfl, by decide, by decide, by decide⟩ (by decide) rfl rfl

/-- The path of the daemon's directory, as an operator may write it. -/
private def spool : Bytes := slash :: tmp ++ [slash, slash] ++ av ++ [slash]

theorem spool_stays :
    dir_hierarchy_trusted (lstat planted avd 0) avd.uid spool false = 0 ∧
    (∀ p, OnPath spool p → Fixed disk planted avd 0 p) ∧
    ∃ p rest, Boundary spool p rest ∧ OnlySlashes rest ∧ Shut disk planted avd 0 p :=
  (trusted_chain_stays spool (by decide) (by decide)
    fun h => absurd (h 116 (by decide)) (by decide)).2 disk avd 0 tree_disk (by decide) planted
    run_planted

end SharedTmp

end KernelAv.Daemon.TrustedChain
