/- digest: A saved state comes back from a reloaded module, but for the seed and odd paths. -/

import KernelAv.Userspace.StateReplay

set_option autoImplicit false
set_option relaxedAutoImplicit false

namespace KernelAv.Userspace.SaveReload

open KernelAv.Lib.CText
open KernelAv.Lib.Chains
open KernelAv.Lib.Files (Disk)
open KernelAv.Lib.Lines (nl unlines after after_eq_some)
open KernelAv.Lib.Replay
open KernelAv.Kernel
open KernelAv.Kernel.Paths (PATH_MAX)
open KernelAv.Kernel.BehaviorTable (KernelHash)
open KernelAv.Kernel.SigTable
open KernelAv.Kernel.SigTableRefinement (Counted add_counted)
open KernelAv.Kernel.TrustTable (TrustEntry)
open KernelAv.Kernel.ListTables (Canonical AllCanonical)
open KernelAv.Kernel.ProtectedWrites (Reading)
open KernelAv.Kernel.ProcWrite
open KernelAv.Userspace.Avctl
open KernelAv.Userspace.StateFile
open KernelAv.Userspace.StateInvariant
open KernelAv.Userspace.StateLines
open KernelAv.Userspace.SaveCommit
open KernelAv.Userspace.StateReplay

variable {H : KernelHash}

section Tables

variable {s : ProcState H} {st : LoadState H}

/-- The entries of one table are among those of another. -/
def Within (t u : SigTable.Table H) : Prop :=
  ∀ k e, t.sig_table.find? k = some e → u.sig_table.find? k = some e

/-- An entry that the one table has and the other lacks leaves room in the other. -/
private theorem room {t u : SigTable.Table H} {e : SigEntry} (hu : Counted u) (h : Within t u)
    (he : e ∈ u.sig_table.entries) (hnone : t.sig_table.find? e.key = none) :
    t.sig_table.entries.length < MAX_SIG_ENTRIES := by
  have hsub : e :: t.sig_table.entries ⊆ u.sig_table.entries := by
    rintro x hx
    rcases List.mem_cons.mp hx with rfl | hx
    · exact he
    · exact HashTable.mem_entries.mpr (h _ _ (HashTable.mem_entries.mp hx))
  have hnodup : (e :: t.sig_table.entries).Nodup := by
    rw [List.nodup_cons]
    refine ⟨fun hmem => ?_, t.sig_table.entries_nodup⟩
    rw [HashTable.mem_entries.mp hmem] at hnone
    cases hnone
  have hlen := (hnodup.subperm hsub).length_le
  rw [List.length_cons] at hlen
  exact lt_of_lt_of_le (Nat.lt_of_succ_le hlen) hu.length_entries.2

/-- Signatures of a table are offered, one after another, to one whose entries it has. -/
theorem replaySigs {l : List SigEntry} (hs : Kept s) (hl : ∀ e ∈ l, e ∈ s.sig.sig_table.entries)
    (hc : Counted st.kernel.sig) (hsub : Within st.kernel.sig s.sig) :
    (l.foldl replaySig st).errors = st.errors ∧
      (l.foldl replaySig st).kernel.sig.sig_table.find? =
        l.foldl (offer SigEntry.key) st.kernel.sig.sig_table.find? := by
  induction l generalizing st with
  | nil => exact ⟨rfl, rfl⟩
  | cons e l ih =>
    obtain ⟨he, hl⟩ := List.forall_mem_cons.mp hl
    obtain ⟨hret, hfind⟩ := addSig_offer hc (hs.sigs e he) fun hnone =>
      room hs.counted hsub he hnone
    have hkernel : (replaySig st e).kernel = (addSig st.kernel e).2 := count_kernel _ _
    have hcounted : Counted (replaySig st e).kernel.sig := by
      rw [hkernel]
      exact add_counted hc _ _ _ _
    have hwithin : Within (replaySig st e).kernel.sig s.sig := by
      intro k x hx
      rw [hkernel, hfind, offer_apply] at hx
      rcases Option.or_eq_some_iff.mp hx with hold | ⟨-, hnew⟩
      · exact hsub k x hold
      · split at hnew
        · rename_i hkey
          obtain rfl := Option.some.inj hnew
          rw [← hkey]
          exact HashTable.mem_entries.mp he
        · cases hnew
    obtain ⟨herrors, hrest⟩ := ih hl hcounted hwithin
    refine ⟨?_, ?_⟩
    · rw [List.foldl_cons, herrors]
      refine (count_errors _ _).trans ?_
      rw [if_neg fun h => hret.elim h.2 h.1]
      rfl
    · rw [List.foldl_cons, List.foldl_cons, hrest, hkernel, hfind]

/-- A signature that is there stays, whatever is added. -/
theorem replaySigs_keep {l : List SigEntry} {k : AvAlgo × Bytes} {x : SigEntry}
    (hl : ∀ e ∈ l, KeptSig e) (hc : Counted st.kernel.sig)
    (hx : st.kernel.sig.sig_table.find? k = some x) :
    (l.foldl replaySig st).kernel.sig.sig_table.find? k = some x := by
  have hkeeps : ∀ e ∈ l, ∀ u : LoadState H,
      Counted u.kernel.sig ∧ u.kernel.sig.sig_table.find? k = some x →
        Counted (replaySig u e).kernel.sig ∧
          (replaySig u e).kernel.sig.sig_table.find? k = some x := by
    rintro e he u ⟨hu, hfind⟩
    have hkept := hl e he
    have hname : e.name.length < AV_SIG_NAME_LEN :=
      lt_of_le_of_lt hkept.name.length_le (by decide)
    rw [replaySig, count_kernel]
    refine ⟨add_counted hu _ _ _ _, ?_⟩
    show (av_sigtable_add u.kernel.sig true e.algo.val e.hex e.name).2.sig_table.find? k = _
    rcases hu.add_cases hkept.length_eq hkept.digits hname with
      ⟨-, hnone, hadd⟩ | ⟨-, -, hsame⟩ | ⟨-, -, -, hsame⟩
    · rw [hadd]
      by_cases hk : k = e.key
      · rw [hk, hnone] at hfind
        cases hfind
      · rw [if_neg hk]
        exact hfind
    · rw [hsame]
      exact hfind
    · rw [hsame]
      exact hfind
  exact (foldl_keeps (P := fun u => Counted u.kernel.sig ∧
    u.kernel.sig.sig_table.find? k = some x) hkeeps ⟨hc, hx⟩).2

/-- Trusted hashes that are free are all taken. -/
theorem replayTrusts {l : List TrustEntry} (hl : ∀ x ∈ l, KeptTrust x)
    (hkeys : (l.map TrustEntry.sha256_hex).Nodup) (hs : AllCanonical st.kernel.trust)
    (hfree : ∀ x ∈ l, st.kernel.trust.find? x.sha256_hex = none) :
    (l.foldl replayTrust st).errors = st.errors ∧
      (l.foldl replayTrust st).kernel.trust.find? =
        l.foldl (offer TrustEntry.sha256_hex) st.kernel.trust.find? := by
  induction l generalizing st with
  | nil => exact ⟨rfl, rfl⟩
  | cons x l ih =>
    obtain ⟨hx, hl⟩ := List.forall_mem_cons.mp hl
    obtain ⟨hnone, hfree⟩ := List.forall_mem_cons.mp hfree
    rw [List.map_cons, List.nodup_cons] at hkeys
    obtain ⟨hnew, hkeys⟩ := hkeys
    obtain ⟨hret, hfind⟩ := addTrust_offer hs hx
    rw [hnone, Option.isSome_none, if_neg Bool.false_ne_true] at hret
    have hkernel : (replayTrust st x).kernel = (addTrust st.kernel x).2 := count_kernel _ _
    have hlookup : ∀ k, (replayTrust st x).kernel.trust.find? k =
        (st.kernel.trust.find? k).or (if x.sha256_hex = k then some x else none) := by
      intro k
      rw [hkernel, hfind, offer_apply]
    have hcanonical : AllCanonical (replayTrust st x).kernel.trust := by
      intro k e he
      rw [hlookup] at he
      rcases Option.or_eq_some_iff.mp he with hold | ⟨-, hnew⟩
      · exact hs k e hold
      · split at hnew
        · rename_i hkey
          rw [← hkey]
          exact hx.canonical
        · cases hnew
    have hrest : ∀ y ∈ l, (replayTrust st x).kernel.trust.find? y.sha256_hex = none := by
      intro y hy
      have hne : x.sha256_hex ≠ y.sha256_hex := by
        intro heq
        rw [heq] at hnew
        exact hnew (List.mem_map_of_mem hy)
      rw [hlookup, hfree y hy, if_neg hne, Option.or_none]
    obtain ⟨herrors, htable⟩ := ih hl hkeys hcanonical hrest
    refine ⟨?_, ?_⟩
    · rw [List.foldl_cons, herrors]
      refine (count_errors _ _).trans ?_
      rw [hret, if_neg fun h => h.2 rfl]
      rfl
    · rw [List.foldl_cons, List.foldl_cons, htable, hkernel, hfind]

end Tables

section Lines

variable {s : ProcState H}

/-- A write of a line puts no path with a newline on the list. -/
private theorem write_oneLine (hk : Kept s) (h : OneLine s) (w : WriteCall) (file : ProcFile)
    {cmd : Bytes} (hcmd : nl ∉ cmd) (hw : w.ubuf = cmd ++ [nl]) :
    OneLine (procWrite s w file).2 := by
  cases file with
  | signatures => exact h
  | trusted => exact h
  | daemon_policy => exact h
  | protected_paths =>
    intro p hp
    change p ∈ (protected_proc_write s.protected_table w).2.entries at hp
    rcases ProtectedWrites.protected_proc_write_result s.protected_table w with hret | ⟨-, hsame⟩
    · obtain ⟨r, hreads, -, -, hfind⟩ := ProtectedWrites.accepted hk.absolute
        (show 0 ≤ (protected_proc_write s.protected_table w).1 by
          rw [hret]; exact Int.natCast_nonneg _)
      have hpath : nl ∉ r.path := by
        intro hmem
        have hone : w.ubuf.count nl = 1 := by
          rw [hw, List.count_append, List.count_eq_zero_of_not_mem hcmd]
          rfl
        have hend : (ProtectedWrites.terminator r.crlf).count nl = 1 := by
          cases r.crlf <;> rfl
        have htwo : 1 ≤ r.path.count nl := List.one_le_count_iff.mpr hmem
        rw [hreads.text, Reading.text, Reading.line] at hone
        simp only [List.count_append] at hone
        omega
      cases hadds : r.adds with
      | true =>
        rw [hadds] at hfind
        rcases HashTable.mem_of_inserted hfind hp with rfl | hold
        · exact hpath
        · exact h p hold
      | false =>
        rw [hadds] at hfind
        exact h p (HashTable.mem_of_deleted (e := r.path) hfind hp)
    · rw [hsame] at hp
      exact h p hp

private theorem command_oneLine (hk : Kept s) (h : OneLine s) (env : RunEnv) (file : ProcFile)
    {cmd : Bytes} (hcmd : nl ∉ cmd) :
    Kept (write_command_to s env file cmd).2 ∧ OneLine (write_command_to s env file cmd).2 := by
  have hwrite := hk.write (env.call (cmd ++ [nl])) file
  have hline := write_oneLine hk h (env.call (cmd ++ [nl])) file hcmd rfl
  unfold write_command_to
  split
  · exact ⟨hk, h⟩
  · split
    · exact ⟨hk, h⟩
    · dsimp only
      split
      · exact ⟨hwrite, hline⟩
      · exact ⟨hwrite, hline⟩

/-- Whatever the line says. -/
private theorem line_oneLine {st : LoadState H} (env : RunEnv) (hk : Kept st.kernel)
    (h : OneLine st.kernel) {l : Bytes} (hl : nl ∉ l) :
    Kept (loadLine env st (some l)).kernel ∧ OneLine (loadLine env st (some l)).kernel := by
  have hwritten : ∀ (tag rest : Bytes) (file : ProcFile), after tag l = some rest →
      Kept (st.count (write_command_to st.kernel env file rest)).kernel ∧
        OneLine (st.count (write_command_to st.kernel env file rest)).kernel := by
    intro tag rest file hafter
    have hrest : nl ∉ rest := by
      intro hmem
      rw [after_eq_some.mp hafter] at hl
      exact hl (List.mem_append_right _ hmem)
    rw [count_kernel]
    exact command_oneLine hk h env file hrest
  rw [loadLine]
  repeat' split
  all_goals first | exact ⟨hk, h⟩ | (apply hwritten; assumption)

/-- A load of any text leaves no path with a newline on the list. -/
theorem load_oneLine (hk : Kept s) (h : OneLine s) (env : RunEnv) (file : Bytes) :
    OneLine (do_load s env (some file)).2.kernel := by
  have hall : ∀ (ls : List (Option Bytes)) (st : LoadState H), (∀ l, some l ∈ ls → nl ∉ l) →
      Kept st.kernel → OneLine st.kernel → OneLine (loadAll env st ls).kernel := by
    intro ls
    induction ls with
    | nil => exact fun st _ _ hline => hline
    | cons l ls ih =>
      intro st hls hkept hline
      have hrest : ∀ l', some l' ∈ ls → nl ∉ l' := fun l' hl' =>
        hls l' (List.mem_cons_of_mem _ hl')
      cases l with
      | none => exact ih _ hrest hkept hline
      | some l =>
        obtain ⟨hkept', hline'⟩ := line_oneLine env hkept hline (hls l List.mem_cons_self)
        exact ih _ hrest hkept' hline'
  exact hall _ ⟨s, 0, 0, 0⟩ (fun l hl => no_newline_of_mem_loadLines hl) hk h

end Lines

section Reloading

variable {s : ProcState H} {env : SaveEnv} {F : Disk Bytes} {path : CString} {file : Bytes}

/-- The load returns 0 and leaves the saved state. -/
structure Restored (s : ProcState H) (r : Int × LoadState H) : Prop where
  same : SameState s r.2.kernel
  ret : r.1 = 0

/-- The seed signature was not deleted, no path contains a newline or ends in a carriage return,
and the name of the file adds no command to the header. -/
structure ComesBack (s : ProcState H) (path : CString) : Prop where
  seeded : eicar ∈ s.sig.sig_table.entries
  lines : ∀ p ∈ s.protected_table.entries, nl ∉ p ∧ p.getLast? ≠ some cr
  header : ∀ l ∈ headerTexts path, Comment l

private theorem init_sig {k : AvAlgo × Bytes} {e : SigEntry}
    (h : (av_init H true).sig.sig_table.find? k = some e) : e = eicar ∧ k = eicar.key := by
  rw [init_find] at h
  split at h
  · rename_i hk
    exact ⟨(Option.some.inj h).symm, hk⟩
  · cases h

private theorem init_kept : Kept (av_init H true) := kept_init H true

private theorem enumerates {κ α : Type} [DecidableEq κ] {n : Nat} {key : α → κ}
    {bucket : κ → Fin n} (t : HashTable key bucket) : Enumerates key t.entries t.find? := by
  intro k e
  constructor
  · intro h
    obtain rfl := HashTable.key_of_find? h
    exact ⟨HashTable.mem_entries.mpr h, rfl⟩
  · rintro ⟨he, rfl⟩
    exact HashTable.mem_entries.mp he

/-- The replay of such a state into a fresh module. -/
private theorem replay_fresh (hk : Kept s) (h : ComesBack s path) :
    SameState s (replay s ⟨av_init H true, 0, 0, 0⟩).kernel ∧
      (replay s ⟨av_init H true, 0, 0, 0⟩).errors = 0 := by
  obtain ⟨hsig, htrust, hpaths, hpolicy, herrors⟩ :=
    replay_parts s ⟨av_init H true, 0, 0, 0⟩ fun p hp => (hk.paths p hp).absolute
  have hseed : ∀ k e, (av_init H true).sig.sig_table.find? k = some e →
      s.sig.sig_table.find? k = some e := by
    intro k e he
    obtain ⟨rfl, rfl⟩ := init_sig he
    exact HashTable.mem_entries.mp h.seeded
  obtain ⟨hsigErrors, hsigFind⟩ := replaySigs hk (fun e he => he)
    (show Counted (⟨av_init H true, 0, 0, 0⟩ : LoadState H).kernel.sig from init_kept.counted) hseed
  obtain ⟨hkeptTrust, -⟩ := replaySigs_rest s.sig.sig_table.entries
    (⟨av_init H true, 0, 0, 0⟩ : LoadState H)
  have hnothing : (av_init H true).trust = HashTable.empty := rfl
  dsimp only at hsigFind hsigErrors hkeptTrust
  rw [hnothing] at hkeptTrust
  set st := s.sig.sig_table.entries.foldl replaySig
    (⟨av_init H true, 0, 0, 0⟩ : LoadState H) with hst
  obtain ⟨htrustErrors, htrustFind⟩ := replayTrusts hk.trusts s.trust.keys_nodup
    (show AllCanonical st.kernel.trust by rw [hkeptTrust]; exact fun k e he => by cases he)
    fun x _ => by rw [hkeptTrust]; rfl
  have hbare : s.protected_table.entries.map bare = s.protected_table.entries := by
    refine (List.map_congr_left fun p hp => ?_).trans (List.map_id' _)
    exact if_neg (h.lines p hp).2
  refine ⟨⟨?_, ?_, ?_, hpolicy⟩, ?_⟩
  · intro e
    rw [HashTable.mem_entries, HashTable.mem_entries, hsig, hsigFind,
      (offers_restore_iff (enumerates s.sig.sig_table)).mpr hseed]
  · intro x
    have hfree : ∀ k y, st.kernel.trust.find? k = some y → s.trust.find? k = some y := by
      rw [hkeptTrust]
      intro k y hy
      cases hy
    rw [HashTable.mem_entries, HashTable.mem_entries, htrust, htrustFind,
      (offers_restore_iff (enumerates s.trust)).mpr hfree]
  · intro p
    have hfree : ∀ k q, (av_init H true).protected_table.find? k = some q →
        s.protected_table.find? k = some q := by
      intro k q hq
      cases hq
    rw [HashTable.mem_entries, HashTable.mem_entries, hpaths, hbare,
      (offers_restore_iff (enumerates s.protected_table)).mpr hfree]
  · rw [herrors, htrustErrors, hsigErrors]

/-- The seed signature is back after a reload, whether it was saved or not. -/
private theorem seed_back (hk : Kept s) :
    eicar ∈ (replay s ⟨av_init H true, 0, 0, 0⟩).kernel.sig.sig_table.entries := by
  obtain ⟨hsig, -⟩ :=
    replay_parts s ⟨av_init H true, 0, 0, 0⟩ fun p hp => (hk.paths p hp).absolute
  have hseed : (av_init H true).sig.sig_table.find? eicar.key = some eicar := by
    rw [init_find, if_pos rfl]
  rw [HashTable.mem_entries, hsig]
  have hcounted : Counted (⟨av_init H true, 0, 0, 0⟩ : LoadState H).kernel.sig := init_kept.counted
  exact replaySigs_keep hk.sigs hcounted hseed

private theorem bare_cr {q : Bytes} (h : (bare q).getLast? = some cr) :
    q.length = (bare q).length + 1 ∧ q.getLast? = some cr := by
  unfold bare at h ⊢
  by_cases hq : q.getLast? = some cr
  · rw [if_pos hq, List.length_dropLast]
    refine ⟨?_, hq⟩
    cases q with
    | nil => cases hq
    | cons b q => rfl
  · rw [if_neg hq] at h
    exact absurd h hq

/-- A path that ends in a carriage return can only come from a longer one. -/
private theorem no_cr (hk : Kept s)
    (hsame : SameState s (replay s ⟨av_init H true, 0, 0, 0⟩).kernel) :
    ∀ p ∈ s.protected_table.entries, p.getLast? ≠ some cr := by
  obtain ⟨-, -, hfind, -, -⟩ :=
    replay_parts s ⟨av_init H true, 0, 0, 0⟩ fun p hp => (hk.paths p hp).absolute
  have hall : ∀ k, ∀ p ∈ s.protected_table.entries, PATH_MAX ≤ p.length + k →
      p.getLast? ≠ some cr := by
    intro k
    induction k with
    | zero =>
      intro p hp hlong
      have hshort := (hk.paths p hp).absolute.2
      omega
    | succ k ih =>
      intro p hp hlong hcr
      have hlisted := HashTable.mem_entries.mp ((hsame.paths p).mpr hp)
      rw [hfind, offers_apply] at hlisted
      change (none : Option Bytes).or _ = some p at hlisted
      rw [Option.none_or] at hlisted
      obtain ⟨q, hq, hbare⟩ := List.mem_map.mp (List.mem_of_find?_eq_some hlisted)
      obtain ⟨hlen, hqcr⟩ := bare_cr (hbare ▸ hcr)
      rw [hbare] at hlen
      exact ih q hq (by omega) hqcr
  exact fun p hp => hall PATH_MAX p hp (Nat.le_add_left _ _)

/-- A line of the header that a load would carry out; only a newline in the file's name makes
one. -/
def Command (l : Bytes) : Prop := l.length + 1 < LINE_SIZE ∧ ¬ (l = [] ∨ l.head? = some hash)

private theorem line_mono (env : RunEnv) (st : LoadState H) (l : Option Bytes) :
    st.errors ≤ (loadLine env st l).errors := by
  have herror : st.errors ≤ st.error.errors := Nat.le_succ _
  cases l with
  | none => exact herror
  | some l =>
    rw [loadLine]
    repeat' split
    all_goals first | exact le_rfl | exact herror | exact count_mono st _

/-- A header that does not fit is an error. -/
private theorem long_header {l : Bytes} (hl : l ∈ headerTexts path)
    (hlong : ¬ l.length + 1 < LINE_SIZE) (t : ProcState H) : 0 < (loadHeader t path).errors := by
  obtain ⟨before, rest, hsplit⟩ := List.append_of_mem hl
  have hmono : ∀ (ls : List (Option Bytes)) (st : LoadState H),
      st.errors ≤ (loadAll .root st ls).errors := fun ls st =>
    foldl_mono (fun st l => line_mono .root st l) st
  unfold loadHeader
  rw [hsplit, List.map_append, List.map_cons]
  have happend : loadAll .root ⟨t, 0, 0, 0⟩ (before.map seen ++ seen l :: rest.map seen) =
      loadAll .root (loadLine .root (loadAll .root ⟨t, 0, 0, 0⟩ (before.map seen)) (seen l))
        (rest.map seen) := List.foldl_append
  rw [happend]
  refine lt_of_lt_of_le ?_ (hmono (rest.map seen) _)
  rw [seen, if_neg hlong]
  exact Nat.succ_pos _

private theorem replay_mono (s : ProcState H) (st : LoadState H) :
    st.errors ≤ (replay s st).errors := by
  unfold replay
  dsimp only
  refine (foldl_mono (fun st e => ?_) st).trans ((foldl_mono (fun st x => ?_) _).trans
    ((foldl_mono (fun st p => ?_) _).trans (count_mono _ _)))
  · exact count_mono st _
  · exact count_mono st _
  · exact count_mono st _

/-- What is saved comes back from a reloaded module if nothing speaks against it, and only then,
unless the name of the file brings commands of its own. -/
theorem save_reload_iff (hs : Reached s) (hsaved : SavedAs s env F path file) :
    (ComesBack s path → Restored s (do_load (av_init H true) .root (some file))) ∧
      (Restored s (do_load (av_init H true) .root (some file)) →
        ComesBack s path ∨ ∃ l ∈ headerTexts path, Command l) := by
  have hk := hs.kept
  have hload : OneLine s → do_load (av_init H true) .root (some file) =
      (if (replay s (loadHeader (av_init H true) path)).errors = 0 then 0 else 1,
        replay s (loadHeader (av_init H true) path)) := by
    intro hline
    rw [saved_text hsaved, dump_whole hk hline, load_saved hk hline]
  constructor
  · intro h
    obtain ⟨hsame, herrors⟩ := replay_fresh hk h
    rw [hload fun p hp => (h.lines p hp).1, loadHeader_comments h.header]
    exact ⟨hsame, if_pos herrors⟩
  · intro h
    have hline : OneLine s := by
      intro p hp
      exact load_oneLine (init_kept (H := H)) (init_one_line H) .root file p
        ((h.same.paths p).mpr hp)
    rw [hload hline] at h
    by_cases hcomments : ∀ l ∈ headerTexts path, Comment l
    · rw [loadHeader_comments hcomments] at h
      refine .inl ⟨?_, fun p hp => ⟨hline p hp, no_cr hk h.same p hp⟩, hcomments⟩
      exact (h.same.sigs eicar).mp (seed_back hk)
    · right
      by_contra hnone
      obtain ⟨l, hrest⟩ := not_forall.mp hcomments
      obtain ⟨hl, hbad⟩ := Classical.not_imp.mp hrest
      have hlong : ¬ l.length + 1 < LINE_SIZE := fun hfits =>
        hnone ⟨l, hl, hfits, fun hcomment => hbad ⟨hfits, hcomment⟩⟩
      have hpos := (long_header hl hlong (av_init H true)).trans_le (replay_mono s _)
      have hret := h.ret
      dsimp only at hret
      rw [if_neg hpos.ne'] at hret
      cases hret

/-- A freshly loaded module comes back. -/
theorem fresh_state_restored :
    Restored (av_init singleBucket true) (do_load (av_init singleBucket true) .root (some
      (savedText (SaveEnv.smooth (wholeReads (av_init singleBucket true))) stateFile))) := by
  refine (save_reload_iff (.load true) (smooth_saved _)).1 ⟨?_, fun p hp => ?_, by decide⟩
  · rw [HashTable.mem_entries, init_find, if_pos rfl]
  · rw [show (av_init singleBucket true).protected_table.entries = [] from entries_empty] at hp
    exact absurd hp List.not_mem_nil

/-- A path of two lines. -/
def twoLines : Bytes := lit "/a" ++ nl :: lit "b"

/-- The module after that path is protected. -/
def twoLineState : ProcState singleBucket :=
  (procWrite (av_init singleBucket true)
    (RunEnv.root.call (lit "add " ++ twoLines ++ [nl])) .protected_paths).2

private theorem twoLines_listed : twoLines ∈ twoLineState.protected_table.entries := by
  decide +kernel

/-- The path is not there after the reload. -/
theorem two_line_path_lost :
    ¬ ∀ (H : KernelHash) (s : ProcState H), Reached s →
        ∀ (env : SaveEnv) (F : Disk Bytes) (path : CString) (file : Bytes),
          SavedAs s env F path file → Restored s (do_load (av_init H true) .root (some file)) := by
  intro hall
  have hreached : Reached twoLineState := .write (.load true) _ _
  have hrestored := hall singleBucket twoLineState hreached _ _ _ _ (smooth_saved twoLineState)
  have hlisted := (hrestored.same.paths twoLines).mpr twoLines_listed
  have hline := load_oneLine (kept_init singleBucket true) (init_one_line singleBucket) .root
    (savedText (SaveEnv.smooth (wholeReads twoLineState)) stateFile) twoLines hlisted
  exact hline (by decide)

end Reloading

end KernelAv.Userspace.SaveReload
