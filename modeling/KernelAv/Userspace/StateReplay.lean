/- digest: What a load of a saved file does to the kernel's tables, entry by entry. -/

import KernelAv.Lib.Replay
import KernelAv.Userspace.SaveCommit

set_option autoImplicit false
set_option relaxedAutoImplicit false

namespace KernelAv.Userspace.StateReplay

open KernelAv.Lib.CText
open KernelAv.Lib.Chains
open KernelAv.Lib.Files (Disk)
open KernelAv.Lib.Lines (nl unlines unlines_splitOn splitOn_clean)
open KernelAv.Lib.Replay
open KernelAv.Kernel
open KernelAv.Kernel.Paths (PATH_MAX)
open KernelAv.Kernel.BehaviorTable (KernelHash)
open KernelAv.Kernel.SigTable
open KernelAv.Kernel.SigTableRefinement (Counted)
open KernelAv.Kernel.TrustTable (TrustEntry av_behavior_trust_add)
open KernelAv.Kernel.ProtectTable (av_behavior_protect_add)
open KernelAv.Kernel.ListTables (Absolute AllCanonical trust_add_cases protect_add_cases)
open KernelAv.Kernel.ProcWrite
open KernelAv.Userspace.Avctl
open KernelAv.Userspace.StateFile
open KernelAv.Userspace.StateInvariant
open KernelAv.Userspace.StateLines
open KernelAv.Userspace.SaveCommit

variable {H : KernelHash}

section Files

variable {s : ProcState H} {env : SaveEnv} {F : Disk Bytes} {path : CString} {file : Bytes}

/-- `do_save` returned 0 after whole reads of the one state, and the file has what it wrote, or
printed. -/
def SavedAs (s : ProcState H) (env : SaveEnv) (F : Disk Bytes) (path : CString) (file : Bytes) :
    Prop :=
  env.reads = wholeReads s ∧ (do_save env F path).ret = 0 ∧
    if to_stdout path then (do_save env F path).stdout = file
    else Installed (do_save env F path).disk path file

/-- The lines that the header comes to; only the name of the file can make it more than one. -/
def headerTexts (path : CString) : List Bytes :=
  if to_stdout path then [] else (header path).splitOn nl

/-- A load reads the line and does nothing about it. -/
def Comment (l : Bytes) : Prop := l.length + 1 < LINE_SIZE ∧ (l = [] ∨ l.head? = some hash)

instance (l : Bytes) : Decidable (Comment l) := inferInstanceAs (Decidable (_ ∧ _))

/-- The line as the loop of a load sees it. -/
def seen (l : Bytes) : Option Bytes := if l.length + 1 < LINE_SIZE then some l else none

/-- The load after the header. -/
def loadHeader (t : ProcState H) (path : CString) : LoadState H :=
  loadAll .root ⟨t, 0, 0, 0⟩ ((headerTexts path).map seen)

theorem unlines_headerTexts (path : CString) :
    unlines (headerTexts path) = unlines (headerLines path) := by
  unfold headerTexts headerLines
  split
  · rfl
  · rw [unlines_splitOn, Lib.Lines.unlines_cons]
    rfl

theorem headerTexts_line {l : Bytes} (hl : l ∈ headerTexts path) : IsLine l := by
  unfold headerTexts at hl
  split at hl
  · cases hl
  · obtain ⟨hnl, hsub⟩ := splitOn_clean hl
    refine ⟨hnl, fun hzero => ?_⟩
    have hheader := hsub 0 hzero
    rw [header, List.mem_append] at hheader
    exact hheader.elim (by decide) path.2

theorem loadHeader_comments (h : ∀ l ∈ headerTexts path, Comment l) (t : ProcState H) :
    loadHeader t path = ⟨t, 0, 0, 0⟩ := by
  unfold loadHeader
  generalize headerTexts path = ls at h
  induction ls with
  | nil => rfl
  | cons l ls ih =>
    obtain ⟨⟨hfits, hcomment⟩, hls⟩ := List.forall_mem_cons.mp h
    have hquiet : loadLine .root (⟨t, 0, 0, 0⟩ : LoadState H) (seen l) = ⟨t, 0, 0, 0⟩ := by
      rw [seen, if_pos hfits, loadLine, if_pos hcomment]
    rw [List.map_cons, loadAll, List.foldl_cons, hquiet]
    exact ih hls

theorem saved_text (h : SavedAs s env F path file) :
    file = unlines (headerLines path ++ dumpLines (wholeReads s)) := by
  obtain ⟨hreads, hret, hfile⟩ := h
  rw [← hreads]
  cases hout : to_stdout path with
  | true =>
    rw [hout, if_pos rfl] at hfile
    rw [← hfile, headerLines, hout, if_pos rfl, List.nil_append]
    unfold do_save at hret ⊢
    rw [hout] at hret ⊢
    simp only [if_true] at hret ⊢
    split at hret
    · cases hret
    split at hret
    · cases hret
    rename_i hopened hwritten
    rw [if_neg hopened, if_neg hwritten]
  | false =>
    rw [hout, if_neg Bool.false_ne_true] at hfile
    obtain ⟨j, hj, hdata⟩ := hfile
    rcases do_save_outcome env F hout with ⟨-, -, i, hi, htext⟩ | ⟨hone, -⟩
    · obtain rfl := Option.some.inj (hi.symm.trans hj)
      exact hdata.symm.trans htext
    · rw [hret] at hone
      cases hone

theorem dump_whole (hk : Kept s) (hline : OneLine s) :
    dumpLines (wholeReads s) = commands fun _ => s := by
  obtain ⟨c, -, hdump, hall⟩ :=
    dump_taken (fun _ => hk) (fun _ => hline) (whole_faithful s) fun _ => rfl
  rw [hdump, firstCommands_all (hall.mp fun file r hr => ?_)]
  obtain rfl := Option.some.inj hr
  rfl

/-- A save that nothing disturbs. -/
theorem smooth_saved (s : ProcState H) :
    SavedAs s (SaveEnv.smooth (wholeReads s)) emptyDir stateFile
      (savedText (SaveEnv.smooth (wholeReads s)) stateFile) := by
  have hout : to_stdout stateFile = false := by decide
  have hs := smooth_succeeds (wholeReads s) fun _ => rfl
  rcases do_save_outcome (SaveEnv.smooth (wholeReads s)) emptyDir hout with
    ⟨hret, -, hinstalled⟩ | ⟨-, hnot, -⟩
  · refine ⟨rfl, hret, ?_⟩
    rw [hout, if_neg Bool.false_ne_true]
    exact hinstalled
  · exact absurd hs hnot

end Files

section Replay

/-- One line of each kind. -/
def replaySig (st : LoadState H) (e : SigEntry) : LoadState H := st.count (addSig st.kernel e)

def replayTrust (st : LoadState H) (x : TrustEntry) : LoadState H :=
  st.count (addTrust st.kernel x)

def replayPath (st : LoadState H) (path : Bytes) : LoadState H :=
  st.count (addPath st.kernel path)

/-- All the commands of a state. -/
def replay (s : ProcState H) (st : LoadState H) : LoadState H :=
  let st := s.sig.sig_table.entries.foldl replaySig st
  let st := s.trust.entries.foldl replayTrust st
  let st := s.protected_table.entries.foldl replayPath st
  st.count (setPolicy st.kernel s.av_daemon_fail_closed)

private theorem load_rows {α : Type} {l : List α} {cmd : α → Bytes}
    {step : LoadState H → α → LoadState H}
    (h : ∀ a ∈ l, ∀ st, loadLine .root st (some (cmd a)) = step st a) (st : LoadState H) :
    loadAll .root st ((l.map cmd).map some) = l.foldl step st := by
  induction l generalizing st with
  | nil => rfl
  | cons a l ih =>
    obtain ⟨ha, hl⟩ := List.forall_mem_cons.mp h
    rw [List.map_cons, List.map_cons, loadAll, List.foldl_cons, ha, List.foldl_cons]
    exact ih hl (step st a)

variable {s : ProcState H}

theorem load_commands (hk : Kept s) (hline : OneLine s) (st : LoadState H) :
    loadAll .root st ((commands fun _ => s).map some) = replay s st := by
  have happend : ∀ (a b : List (Option Bytes)) (st : LoadState H),
      loadAll .root st (a ++ b) = loadAll .root (loadAll .root st a) b := fun a b st =>
    List.foldl_append
  rw [commands, List.map_append, List.map_append, List.map_append, happend, happend, happend,
    load_rows fun e he st => load_sig st (hk.sigs e he),
    load_rows fun x hx st => load_trust st (hk.trusts x hx),
    load_rows fun p hp st => load_path st (hk.paths p hp) (hline p hp)]
  exact load_policy _ s.av_daemon_fail_closed

/-- A load of a saved file replays its commands after the header. -/
theorem load_saved (hk : Kept s) (hline : OneLine s) (path : CString) (t : ProcState H) :
    do_load t .root (some (unlines (headerLines path ++ commands fun _ => s))) =
      (if (replay s (loadHeader t path)).errors = 0 then 0 else 1,
        replay s (loadHeader t path)) := by
  have hfit := commands_fit (fun _ => hk) fun _ => hline
  have hlines : ∀ l ∈ headerTexts path ++ commands fun _ => s, IsLine l := by
    intro l hl
    rcases List.mem_append.mp hl with hl | hl
    · exact headerTexts_line hl
    · exact (hfit l hl).1
  have hrest : (commands fun _ => s).map seen = (commands fun _ => s).map some :=
    List.map_congr_left fun l hl => if_pos (hfit l hl).2
  have htext : unlines (headerLines path ++ commands fun _ => s) =
      unlines (headerTexts path ++ commands fun _ => s) := by
    rw [Lib.Lines.unlines_append, Lib.Lines.unlines_append, unlines_headerTexts]
  have hall : loadAll .root ⟨t, 0, 0, 0⟩
      (loadLines (unlines (headerTexts path ++ commands fun _ => s))) =
        replay s (loadHeader t path) := by
    have hread : loadLines (unlines (headerTexts path ++ commands fun _ => s)) =
        (headerTexts path ++ commands fun _ => s).map seen := loadLines_unlines hlines
    rw [hread, List.map_append, hrest, ← load_commands hk hline]
    exact List.foldl_append
  rw [htext, do_load, hall]

end Replay

/-- The two states list the same entries and have the same policy. -/
structure SameState (s u : ProcState H) : Prop where
  sigs : ∀ e, e ∈ u.sig.sig_table.entries ↔ e ∈ s.sig.sig_table.entries
  trusts : ∀ x, x ∈ u.trust.entries ↔ x ∈ s.trust.entries
  paths : ∀ p, p ∈ u.protected_table.entries ↔ p ∈ s.protected_table.entries
  policy : u.av_daemon_fail_closed = s.av_daemon_fail_closed

section Steps

variable {st : LoadState H} {e : SigEntry} {x : TrustEntry} {path : Bytes}

theorem count_kernel (st : LoadState H) (r : Int × ProcState H) : (st.count r).kernel = r.2 := by
  unfold LoadState.count
  repeat' split
  all_goals rfl

/-- An error is counted, and no count goes back. -/
theorem count_errors (st : LoadState H) (r : Int × ProcState H) :
    (st.count r).errors = st.errors + if r.1 ≠ -EEXIST ∧ r.1 ≠ 0 then 1 else 0 := by
  unfold LoadState.count
  by_cases hexist : r.1 = -EEXIST
  · rw [if_pos hexist, if_neg fun h => h.1 hexist]
    rfl
  · by_cases hzero : r.1 = 0
    · rw [if_neg hexist, if_neg (not_not.mpr hzero), if_neg fun h => h.2 hzero]
      rfl
    · rw [if_neg hexist, if_pos hzero, if_pos ⟨hexist, hzero⟩]

theorem foldl_mono {α : Type} {l : List α} {f : LoadState H → α → LoadState H}
    (h : ∀ st a, st.errors ≤ (f st a).errors) (st : LoadState H) :
    st.errors ≤ (l.foldl f st).errors := by
  induction l generalizing st with
  | nil => exact le_rfl
  | cons a l ih => exact (h st a).trans (ih (f st a))

theorem count_mono (st : LoadState H) (r : Int × ProcState H) :
    st.errors ≤ (st.count r).errors := by
  rw [count_errors]
  exact Nat.le_add_right _ _

/-- What a fold over entries keeps, one entry at a time. -/
theorem foldl_keeps {α : Type} {l : List α} {f : LoadState H → α → LoadState H}
    {P : LoadState H → Prop} (h : ∀ a ∈ l, ∀ st, P st → P (f st a)) {st : LoadState H}
    (hst : P st) : P (l.foldl f st) := by
  induction l generalizing st with
  | nil => exact hst
  | cons a l ih =>
    obtain ⟨ha, hl⟩ := List.forall_mem_cons.mp h
    exact ih hl (ha st hst)

/-- A signature of a full digest, added where there is room. -/
theorem addSig_offer {s : ProcState H} (hc : Counted s.sig) (he : KeptSig e)
    (hroom : s.sig.sig_table.find? e.key = none →
      s.sig.sig_table.entries.length < MAX_SIG_ENTRIES) :
    ((addSig s e).1 = 0 ∨ (addSig s e).1 = -EEXIST) ∧
      (addSig s e).2.sig.sig_table.find? = offer SigEntry.key s.sig.sig_table.find? e := by
  have hname : e.name.length < AV_SIG_NAME_LEN := lt_of_le_of_lt he.name.length_le (by decide)
  rcases hc.add_cases he.length_eq he.digits hname with
    ⟨hret, hnone, hfind⟩ | ⟨hret, hsome, hsame⟩ | ⟨-, hnone, hfull, -⟩
  · refine ⟨.inl hret, ?_⟩
    funext k
    refine (hfind k).trans ?_
    rw [offer_apply]
    by_cases hk : k = e.key
    · rw [if_pos hk, if_pos hk.symm, hk, hnone, Option.none_or]
    · rw [if_neg hk, if_neg (Ne.symm hk), Option.or_none]
  · refine ⟨.inr hret, ?_⟩
    rw [offer_of_some hsome]
    show (av_sigtable_add s.sig true e.algo.val e.hex e.name).2.sig_table.find? = _
    rw [hsame]
  · have hlt := hroom hnone
    omega

theorem addTrust_offer {s : ProcState H} (hs : AllCanonical s.trust) (hx : KeptTrust x) :
    (addTrust s x).1 = (if (s.trust.find? x.sha256_hex).isSome then -EINVAL else 0) ∧
      (addTrust s x).2.trust.find? = offer TrustEntry.sha256_hex s.trust.find? x := by
  have hlower : TrustTable.hex_tolower x.sha256_hex = x.sha256_hex := hx.canonical.lower
  rcases trust_add_cases hs x.sha256_hex x.name with
    ⟨hret, -, hnone, -⟩ | ⟨hret, hsome, hsame⟩ | ⟨-, hlen, -⟩
  · rw [hlower] at hnone
    obtain ⟨-, y, hyhex, hyname, -, hfind⟩ := TrustTable.trust_add_ok hret
    have hshort : x.name.length < TrustTable.TRUST_NAME_LEN :=
      lt_of_le_of_lt hx.name.length_le (by decide)
    have hy : y = x := by
      obtain ⟨yhex, yname⟩ := y
      have hname : yname = x.name := hyname.trans (strscpy_eq_self hshort)
      rw [hname, show yhex = x.sha256_hex from hyhex.trans hlower]
    rw [hy] at hfind
    refine ⟨?_, ?_⟩
    · rw [hnone, Option.isSome_none, if_neg Bool.false_ne_true]
      exact if_pos hret
    · funext k
      refine (hfind k).trans ?_
      rw [offer_apply]
      by_cases hk : k = x.sha256_hex
      · rw [if_pos hk, if_pos hk.symm, hk, hnone, Option.none_or]
      · rw [if_neg hk, if_neg (Ne.symm hk), Option.or_none]
  · rw [hlower] at hsome
    refine ⟨?_, ?_⟩
    · rw [if_pos hsome]
      refine if_neg ?_
      rw [hret]
      decide
    · rw [offer_of_some hsome]
      show (av_behavior_trust_add s.trust true x.sha256_hex x.name).2.find? = _
      rw [hsame]
  · exact absurd hx.canonical.length_eq hlen

theorem addPath_offer (s : ProcState H) (hpath : Absolute path) :
    ((addPath s path).1 = 0 ∨ (addPath s path).1 = -EEXIST) ∧
      (addPath s path).2.protected_table.find? =
        offer (fun q => q) s.protected_table.find? (bare path) := by
  rcases protect_add_cases s.protected_table (bare path) with
    ⟨hret, -, hnone, hfind⟩ | ⟨hret, hsome, hsame⟩ | ⟨-, hbad, -⟩
  · refine ⟨.inl hret, ?_⟩
    funext q
    refine (hfind q).trans ?_
    rw [offer_apply]
    by_cases hq : q = bare path
    · rw [if_pos hq, if_pos hq.symm, hq, hnone, Option.none_or]
    · rw [if_neg hq, if_neg (Ne.symm hq), Option.or_none]
  · refine ⟨.inr hret, ?_⟩
    have hkept : offer (fun q => q) s.protected_table.find? (bare path) =
        s.protected_table.find? := if_pos hsome
    rw [hkept]
    show (av_behavior_protect_add s.protected_table true (bare path)).2.find? = _
    rw [hsame]
  · exact absurd (bare_absolute hpath) hbad

/-- The replayed paths are offered without their carriage returns, and none is an error. -/
theorem replayPaths {l : List Bytes} (hl : ∀ p ∈ l, Absolute p) (st : LoadState H) :
    (l.foldl replayPath st).errors = st.errors ∧
      (l.foldl replayPath st).kernel.protected_table.find? =
        (l.map bare).foldl (offer fun q => q) st.kernel.protected_table.find? := by
  induction l generalizing st with
  | nil => exact ⟨rfl, rfl⟩
  | cons p l ih =>
    obtain ⟨hp, hl⟩ := List.forall_mem_cons.mp hl
    obtain ⟨hret, hfind⟩ := addPath_offer st.kernel hp
    obtain ⟨herrors, hrest⟩ := ih hl (replayPath st p)
    have hkernel : (replayPath st p).kernel = (addPath st.kernel p).2 := count_kernel _ _
    refine ⟨?_, ?_⟩
    · rw [List.foldl_cons, herrors]
      refine (count_errors _ _).trans ?_
      rw [if_neg fun h => hret.elim h.2 h.1]
      rfl
    · rw [List.foldl_cons, hrest, hkernel, hfind]
      rfl

/-- The tables that a replay of one kind leaves alone. -/
theorem replaySigs_rest (l : List SigEntry) (st : LoadState H) :
    (l.foldl replaySig st).kernel.trust = st.kernel.trust ∧
      (l.foldl replaySig st).kernel.protected_table = st.kernel.protected_table := by
  refine foldl_keeps (P := fun u => u.kernel.trust = st.kernel.trust ∧
    u.kernel.protected_table = st.kernel.protected_table) ?_ ⟨rfl, rfl⟩
  rintro e - u ⟨htrust, hpaths⟩
  rw [replaySig, count_kernel]
  exact ⟨htrust, hpaths⟩

theorem replayTrusts_rest (l : List TrustEntry) (st : LoadState H) :
    (l.foldl replayTrust st).kernel.sig = st.kernel.sig ∧
      (l.foldl replayTrust st).kernel.protected_table = st.kernel.protected_table := by
  refine foldl_keeps (P := fun u => u.kernel.sig = st.kernel.sig ∧
    u.kernel.protected_table = st.kernel.protected_table) ?_ ⟨rfl, rfl⟩
  rintro x - u ⟨hsig, hpaths⟩
  rw [replayTrust, count_kernel]
  exact ⟨hsig, hpaths⟩

theorem replayPaths_rest (l : List Bytes) (st : LoadState H) :
    (l.foldl replayPath st).kernel.sig = st.kernel.sig ∧
      (l.foldl replayPath st).kernel.trust = st.kernel.trust := by
  refine foldl_keeps (P := fun u => u.kernel.sig = st.kernel.sig ∧
    u.kernel.trust = st.kernel.trust) ?_ ⟨rfl, rfl⟩
  rintro p - u ⟨hsig, htrust⟩
  rw [replayPath, count_kernel]
  exact ⟨hsig, htrust⟩

/-- What the replay makes of the tables and of the count of errors, kind by kind. -/
theorem replay_parts (s : ProcState H) (st : LoadState H) (hpaths : ∀ p ∈ s.protected_table.entries,
    Absolute p) :
    (replay s st).kernel.sig = (s.sig.sig_table.entries.foldl replaySig st).kernel.sig ∧
    (replay s st).kernel.trust = (s.trust.entries.foldl replayTrust
      (s.sig.sig_table.entries.foldl replaySig st)).kernel.trust ∧
    (replay s st).kernel.protected_table.find? = (s.protected_table.entries.map bare).foldl
      (offer fun q => q) st.kernel.protected_table.find? ∧
    (replay s st).kernel.av_daemon_fail_closed = s.av_daemon_fail_closed ∧
    (replay s st).errors = (s.trust.entries.foldl replayTrust
      (s.sig.sig_table.entries.foldl replaySig st)).errors := by
  set st₁ := s.sig.sig_table.entries.foldl replaySig st with hst₁
  set st₂ := s.trust.entries.foldl replayTrust st₁ with hst₂
  obtain ⟨herrors, hfind⟩ := replayPaths hpaths st₂
  set st₃ := s.protected_table.entries.foldl replayPath st₂ with hst₃
  have hreplay : replay s st = st₃.count (setPolicy st₃.kernel s.av_daemon_fail_closed) := rfl
  have hkernel : (replay s st).kernel = (setPolicy st₃.kernel s.av_daemon_fail_closed).2 := by
    rw [hreplay, count_kernel]
  obtain ⟨hsig₃, htrust₃⟩ := replayPaths_rest s.protected_table.entries st₂
  obtain ⟨hsig₂, hpaths₂⟩ := replayTrusts_rest s.trust.entries st₁
  obtain ⟨-, hpaths₁⟩ := replaySigs_rest s.sig.sig_table.entries st
  rw [hkernel]
  refine ⟨hsig₃.trans hsig₂, htrust₃, ?_, rfl, ?_⟩
  · refine hfind.trans ?_
    rw [hpaths₂, hpaths₁]
  · rw [hreplay, count_errors, if_neg fun h => h.2 rfl]
    exact herrors

end Steps

end KernelAv.Userspace.StateReplay
