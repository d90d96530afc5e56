/- digest: A second load of a saved state is a no-op, but for trusted hashes and odd paths. -/

import KernelAv.Userspace.StateReplay

set_option autoImplicit false
set_option relaxedAutoImplicit false

namespace KernelAv.Userspace.LoadTwice

open KernelAv.Lib.CText
open KernelAv.Lib.Chains
open KernelAv.Lib.Files (Disk)
open KernelAv.Lib.Lines (nl unlines)
open KernelAv.Lib.Replay
open KernelAv.Kernel
open KernelAv.Kernel.BehaviorTable (KernelHash)
open KernelAv.Kernel.SigTable
open KernelAv.Kernel.TrustTable (TrustEntry)
open KernelAv.Kernel.ProtectTable (av_behavior_protect_add)
open KernelAv.Kernel.ListTables (protect_add_cases)
open KernelAv.Kernel.ProcWrite
open KernelAv.Userspace.Avctl
open KernelAv.Userspace.StateFile
open KernelAv.Userspace.StateInvariant
open KernelAv.Userspace.StateLines
open KernelAv.Userspace.SaveCommit
open KernelAv.Userspace.StateReplay

variable {H : KernelHash}

section Counting

/-- The lines that were counted, one way or another. -/
def tally (st : LoadState H) : Nat := st.loaded + st.skipped + st.errors

private theorem tally_count (st : LoadState H) (r : Int × ProcState H) :
    tally (st.count r) = tally st + 1 := by
  unfold LoadState.count tally
  split
  · dsimp only
    omega
  · split
    · dsimp only
      omega
    · dsimp only
      omega

private theorem tally_error (st : LoadState H) : tally st.error = tally st + 1 := rfl

/-- Every line is counted once, but for the comments. -/
private theorem tally_line (st : LoadState H) (l : Bytes) :
    tally (loadLine .root st (seen l)) = tally st + if Comment l then 0 else 1 := by
  by_cases hfits : l.length + 1 < LINE_SIZE
  · rw [seen, if_pos hfits, loadLine]
    by_cases hcomment : l = [] ∨ l.head? = some hash
    · rw [if_pos hcomment, if_pos ⟨hfits, hcomment⟩]
      rfl
    · rw [if_neg hcomment, if_neg fun h => hcomment h.2]
      repeat' split
      all_goals first | exact tally_error st | exact tally_count st _
  · rw [seen, if_neg hfits, if_neg fun h => hfits h.1]
    exact tally_error st

private theorem tally_foldl {α : Type} {f : LoadState H → α → LoadState H}
    (h : ∀ st a, tally (f st a) = tally st + 1) (l : List α) (st : LoadState H) :
    tally (l.foldl f st) = tally st + l.length := by
  induction l generalizing st with
  | nil => rfl
  | cons a l ih =>
    rw [List.foldl_cons, ih, h, List.length_cons]
    omega

private theorem tally_header (ls : List Bytes) (st : LoadState H) :
    tally (loadAll .root st (ls.map seen)) = tally st + ls.countP fun l => !decide (Comment l) := by
  induction ls generalizing st with
  | nil => rfl
  | cons l ls ih =>
    rw [List.map_cons, loadAll, List.foldl_cons]
    refine (ih _).trans ?_
    rw [tally_line, List.countP_cons]
    by_cases hcomment : Comment l
    · rw [if_pos hcomment, if_neg (by simp [hcomment])]
      rfl
    · rw [if_neg hcomment, if_pos (by simp [hcomment])]
      omega

/-- The entries of the three tables. -/
def entryCount (s : ProcState H) : Nat :=
  s.sig.sig_table.entries.length + s.trust.entries.length + s.protected_table.entries.length

private theorem tally_replay (s : ProcState H) (st : LoadState H) :
    tally (replay s st) = tally st + entryCount s + 1 := by
  have hsigs := tally_foldl fun (st : LoadState H) e => tally_count st (addSig st.kernel e)
  have htrusts := tally_foldl fun (st : LoadState H) x => tally_count st (addTrust st.kernel x)
  have hpaths := tally_foldl fun (st : LoadState H) p => tally_count st (addPath st.kernel p)
  unfold replay replaySig replayTrust replayPath
  dsimp only
  rw [tally_count, hpaths, htrusts, hsigs, entryCount]
  omega

end Counting

section Skipping

variable {s : ProcState H} {e : SigEntry} {p : Bytes}

private theorem addSig_present (hk : Kept s) (he : e ∈ s.sig.sig_table.entries) :
    addSig s e = (-EEXIST, s) := by
  have hkept := hk.sigs e he
  have hname : e.name.length < AV_SIG_NAME_LEN :=
    lt_of_le_of_lt hkept.name.length_le (by decide)
  have hfind := HashTable.mem_entries.mp he
  rcases hk.counted.add_cases hkept.length_eq hkept.digits hname with
    ⟨-, hnone, -⟩ | ⟨hret, -, hsame⟩ | ⟨-, hnone, -⟩
  · rw [hfind] at hnone
    cases hnone
  · show ((av_sigtable_add s.sig true e.algo.val e.hex e.name).1,
      { s with sig := (av_sigtable_add s.sig true e.algo.val e.hex e.name).2 }) = _
    rw [hret, hsame]
  · rw [hfind] at hnone
    cases hnone

private theorem addPath_present (hk : Kept s) (hp : p ∈ s.protected_table.entries)
    (hbare : bare p ∈ s.protected_table.entries) : addPath s p = (-EEXIST, s) := by
  have hfind := HashTable.mem_entries.mp hbare
  rcases protect_add_cases s.protected_table (bare p) with
    ⟨-, -, hnone, -⟩ | ⟨hret, -, hsame⟩ | ⟨-, hbad, -⟩
  · rw [hfind] at hnone
    cases hnone
  · show ((av_behavior_protect_add s.protected_table true (bare p)).1,
      { s with
        protected_table := (av_behavior_protect_add s.protected_table true (bare p)).2 }) = _
    rw [hret, hsame]
    rfl
  · exact absurd (bare_absolute (hk.paths p hp).absolute) hbad

/-- A command for what is there is skipped, and so are all of them. -/
private theorem foldl_skips {α : Type} {l : List α} {step : LoadState H → α → LoadState H}
    (h : ∀ a ∈ l, ∀ n, step ⟨s, 0, n, 0⟩ a = ⟨s, 0, n + 1, 0⟩) (n : Nat) :
    l.foldl step ⟨s, 0, n, 0⟩ = ⟨s, 0, n + l.length, 0⟩ := by
  induction l generalizing n with
  | nil => rfl
  | cons a l ih =>
    obtain ⟨ha, hl⟩ := List.forall_mem_cons.mp h
    rw [List.foldl_cons, ha, ih hl, List.length_cons]
    congr 1
    omega

private theorem count_exists (n : Nat) :
    (⟨s, 0, n, 0⟩ : LoadState H).count (-EEXIST, s) = ⟨s, 0, n + 1, 0⟩ := if_pos rfl

theorem replay_present (hk : Kept s) (htrust : s.trust.entries = [])
    (hbare : ∀ p ∈ s.protected_table.entries, bare p ∈ s.protected_table.entries) :
    replay s ⟨s, 0, 0, 0⟩ = ⟨s, 1, entryCount s, 0⟩ := by
  have hsigs : s.sig.sig_table.entries.foldl replaySig ⟨s, 0, 0, 0⟩ =
      ⟨s, 0, 0 + s.sig.sig_table.entries.length, 0⟩ := by
    refine foldl_skips (fun e he n => ?_) 0
    rw [replaySig, addSig_present hk he, count_exists]
  have hpaths : ∀ n, s.protected_table.entries.foldl replayPath ⟨s, 0, n, 0⟩ =
      ⟨s, 0, n + s.protected_table.entries.length, 0⟩ := by
    refine foldl_skips fun p hp n => ?_
    rw [replayPath, addPath_present hk hp (hbare p hp), count_exists]
  unfold replay
  rw [htrust, hsigs]
  dsimp only [List.foldl_nil]
  rw [hpaths, entryCount, htrust, List.length_nil]
  show (⟨s, 0, _, 0⟩ : LoadState H).count (0, s) = _
  rw [LoadState.count, if_neg (show (0 : Int) ≠ -EEXIST by decide), if_neg (not_not.mpr rfl)]
  simp only [Nat.zero_add, Nat.add_zero]

end Skipping

section Idempotence

variable {s : ProcState H} {env : SaveEnv} {F : Disk Bytes} {path : CString} {file p : Bytes}

/-- The load leaves the kernel as it is and counts no error; the entries are skipped, and only the
policy is set again. -/
structure NoOp (s : ProcState H) (r : Int × LoadState H) : Prop where
  same : SameState s r.2.kernel
  ret : r.1 = 0
  errors : r.2.errors = 0
  skipped : r.2.skipped = entryCount s
  loaded : r.2.loaded = 1

/-- Nothing is trusted, a path with a carriage return at its end is listed without it too, and the
name of the file adds no command to the header. -/
structure LoadsAgain (s : ProcState H) (path : CString) : Prop where
  untrusting : s.trust.entries = []
  bare : ∀ p ∈ s.protected_table.entries, bare p ∈ s.protected_table.entries
  header : ∀ l ∈ headerTexts path, Comment l

/-- A dump that has the listed paths as they are shows that none has a newline. -/
theorem oneLine_of_dump (h : dumpLines (wholeReads s) = commands fun _ => s) : OneLine s := by
  intro p hp
  have hmem : protectCommand p ∈ commands fun _ => s := by
    rw [commands]
    exact List.mem_append_right _ (List.mem_append_right _ (List.mem_append_left _
      (List.mem_map_of_mem hp)))
  rw [← h, dumpLines] at hmem
  simp only [wholeReads, Option.map_some, Option.getD_some, List.mem_append] at hmem
  have hhead : (protectCommand p).head? = some 112 := rfl
  have hnext : (protectCommand p).tail.head? = some 114 := rfl
  rcases hmem with hmem | hmem | hmem | hmem
  · obtain ⟨line, -, hsave⟩ := List.mem_filterMap.mp hmem
    unfold saveSig at hsave
    split at hsave
    · rw [← Option.some.inj hsave] at hhead
      cases hhead
    · cases hsave
  · obtain ⟨line, -, hsave⟩ := List.mem_filterMap.mp hmem
    unfold saveTrust at hsave
    split at hsave
    · rw [← Option.some.inj hsave] at hhead
      cases hhead
    · cases hsave
  · obtain ⟨line, hline, hsave⟩ := List.mem_filterMap.mp hmem
    unfold saveProtect at hsave
    dsimp only at hsave
    split at hsave
    · cases hsave
    · have htext : chomp (cstr line) = p := List.append_cancel_left (Option.some.inj hsave)
      rw [← htext]
      exact no_newline_of_mem_fgetsAll hline
  · obtain ⟨line, -, hsave⟩ := Option.bind_eq_some_iff.mp (Option.mem_toList.mp hmem)
    unfold savePolicy at hsave
    dsimp only at hsave
    split at hsave
    · cases hsave
    · rw [← Option.some.inj hsave] at hnext
      cases hnext

private theorem comments_of_noop
    (h : NoOp s (if (replay s (loadHeader s path)).errors = 0 then 0 else 1,
      replay s (loadHeader s path))) : ∀ l ∈ headerTexts path, Comment l := by
  have htally := tally_replay s (loadHeader s path)
  have hheader : tally (loadHeader s path) =
      0 + (headerTexts path).countP fun l => !decide (Comment l) := tally_header _ _
  have htotal : tally (replay s (loadHeader s path)) = 1 + entryCount s + 0 := by
    rw [tally, h.loaded, h.skipped, h.errors]
  have hzero : ((headerTexts path).countP fun l => !decide (Comment l)) = 0 := by omega
  intro l hl
  have hcomment := List.countP_eq_zero.mp hzero l hl
  simpa using hcomment

/-- The first trusted hash is there, and the kernel answers with another error than `EEXIST`. -/
private theorem errors_of_trusted (hk : Kept s) (hne : s.trust.entries ≠ []) :
    (replay s ⟨s, 0, 0, 0⟩).errors ≠ 0 := by
  obtain ⟨-, -, -, -, herrors⟩ :=
    replay_parts s ⟨s, 0, 0, 0⟩ fun p hp => (hk.paths p hp).absolute
  obtain ⟨x, l, hentries⟩ := List.exists_cons_of_ne_nil hne
  have hx : x ∈ s.trust.entries := hentries ▸ List.mem_cons_self
  rw [herrors, hentries, List.foldl_cons]
  obtain ⟨htrust, -⟩ := replaySigs_rest s.sig.sig_table.entries (⟨s, 0, 0, 0⟩ : LoadState H)
  set st := s.sig.sig_table.entries.foldl replaySig (⟨s, 0, 0, 0⟩ : LoadState H) with hst
  have hmono := foldl_mono (l := l) (f := replayTrust) (fun st a => count_mono st _)
    (replayTrust st x)
  have hcanonical : ListTables.AllCanonical st.kernel.trust := by
    rw [htrust]
    exact hk.canonical
  obtain ⟨hret, -⟩ := addTrust_offer hcanonical (hk.trusts x hx)
  have hfound : st.kernel.trust.find? x.sha256_hex = some x := by
    rw [htrust]
    exact HashTable.mem_entries.mp hx
  rw [hfound, Option.isSome_some, if_pos rfl] at hret
  have hcount : (replayTrust st x).errors = st.errors + 1 := by
    rw [replayTrust, count_errors, hret, if_pos (by decide)]
  omega

/-- The path that a load reads is listed after it. -/
private theorem bare_listed (hk : Kept s) (hp : p ∈ s.protected_table.entries) :
    bare p ∈ (replay s ⟨s, 0, 0, 0⟩).kernel.protected_table.entries := by
  obtain ⟨-, -, hfind, -, -⟩ :=
    replay_parts s ⟨s, 0, 0, 0⟩ fun p hp => (hk.paths p hp).absolute
  rw [HashTable.mem_entries, hfind, offers_apply]
  dsimp only
  cases hlisted : s.protected_table.find? (bare p) with
  | some q => rw [Option.some_or, HashTable.key_of_find? hlisted]
  | none =>
    rw [Option.none_or]
    have hmem : bare p ∈ s.protected_table.entries.map bare := List.mem_map_of_mem hp
    cases hoffer : (s.protected_table.entries.map bare).find? fun q => q = bare p with
    | none =>
      have hnone := List.find?_eq_none.mp hoffer _ hmem
      simp at hnone
    | some q =>
      have hq : q = bare p := by simpa using List.find?_some hoffer
      rw [hq]

/-- A saved state loads into itself as a no-op exactly when it has no trusted hash, every path is
listed as the load spells it, and the header is only a comment. -/
theorem load_twice_iff (hs : Reached s) (hsame : dumpLines (wholeReads s) = commands fun _ => s)
    (hsaved : SavedAs s env F path file) :
    NoOp s (do_load s .root (some file)) ↔ LoadsAgain s path := by
  have hk := hs.kept
  rw [saved_text hsaved, hsame, load_saved hk (oneLine_of_dump hsame)]
  constructor
  · intro h
    have hcomments := comments_of_noop h
    rw [loadHeader_comments hcomments] at h
    refine ⟨?_, fun p hp => ?_, hcomments⟩
    · by_contra hne
      exact errors_of_trusted hk hne h.errors
    · exact (h.same.paths _).mp (bare_listed hk hp)
  · intro h
    rw [loadHeader_comments h.header, replay_present hk h.untrusting h.bare]
    exact ⟨⟨fun _ => Iff.rfl, fun _ => Iff.rfl, fun _ => Iff.rfl, rfl⟩, rfl, rfl, rfl, rfl⟩

/-- The seed signature is skipped. -/
theorem fresh_state_loads_again :
    NoOp (av_init singleBucket true) (do_load (av_init singleBucket true) .root (some
      (savedText (SaveEnv.smooth (wholeReads (av_init singleBucket true))) stateFile))) := by
  refine (load_twice_iff (.load true) ?_ (smooth_saved _)).mpr ⟨entries_empty, ?_, by decide⟩
  · exact dump_whole (kept_init _ true) (init_one_line _)
  · intro p hp
    rw [show (av_init singleBucket true).protected_table.entries = [] from entries_empty] at hp
    exact absurd hp List.not_mem_nil

/-- A freshly loaded module after a hash is trusted. -/
def oneTrusted : ProcState singleBucket :=
  (procWrite (av_init singleBucket true)
    (RunEnv.root.call (lit "add " ++ List.replicate 64 97 ++ lit " t" ++ [nl])) .trusted).2

private theorem oneTrusted_line : OneLine oneTrusted := init_one_line singleBucket

private theorem oneTrusted_trusts : oneTrusted.trust.entries ≠ [] := by
  decide +kernel

/-- The trusted hash that is there is an error. -/
theorem trusted_state_rejected :
    ¬ ∀ (H : KernelHash) (s : ProcState H), Reached s →
        dumpLines (wholeReads s) = (commands fun _ => s) →
          ∀ (env : SaveEnv) (F : Disk Bytes) (path : CString) (file : Bytes),
            SavedAs s env F path file → NoOp s (do_load s .root (some file)) := by
  intro hall
  have hreached : Reached oneTrusted := .write (.load true) _ _
  have hdump := dump_whole hreached.kept oneTrusted_line
  have hsaved := smooth_saved oneTrusted
  have hnoop := hall singleBucket oneTrusted hreached hdump _ _ _ _ hsaved
  rw [saved_text hsaved, hdump, load_saved hreached.kept oneTrusted_line,
    loadHeader_comments (by decide)] at hnoop
  exact errors_of_trusted hreached.kept oneTrusted_trusts hnoop.errors

end Idempotence

end KernelAv.Userspace.LoadTwice
