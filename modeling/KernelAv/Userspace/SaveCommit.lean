/- digest: A save installs the whole text or leaves its destination alone, but for cut-off reads. -/

import KernelAv.Userspace.StateLines

set_option autoImplicit false
set_option relaxedAutoImplicit false

namespace KernelAv.Userspace.SaveCommit

open KernelAv.Lib.CText
open KernelAv.Lib.Files (Disk Inode)
open KernelAv.Lib.Files.Disk
open KernelAv.Lib.Lines (nl unlines fgetsAll fgetsAll_unlines_append prefix_unlines)
open KernelAv.Kernel
open KernelAv.Kernel.Paths (PATH_MAX)
open KernelAv.Kernel.BehaviorTable (KernelHash)
open KernelAv.Kernel.ProcWrite
open KernelAv.Userspace.Avctl
open KernelAv.Userspace.StateFile
open KernelAv.Userspace.StateInvariant
open KernelAv.Userspace.StateLines

section Outcomes

variable {env : SaveEnv} {F : Disk Bytes} {path : CString}

/-- Every call whose failure `do_save` looks at succeeds: the path fits, no temporary file is in
the way, and the destination is no directory. -/
structure Succeeds (env : SaveEnv) (F : Disk Bytes) (path : CString) : Prop where
  fits : pathFits path = true
  pinned : env.pinned = true
  openat_ok : env.openat_ok = true
  free : F.names (tmpbase path) = none
  fdopen_ok : env.fdopen_ok = true
  opened : env.opened = true
  header_ok : env.header_ok = true
  lines_ok : env.lines_ok = true
  fflush_ok : env.fflush_ok = true
  fsync_ok : env.fsync_ok = true
  unreplaced : env.unreplaced = true
  fstat_ok : env.fstat_ok = true
  fclose_ok : env.fclose_ok = true
  ours : env.ours = true
  renameat_ok : env.renameat_ok = true
  not_dir : ∀ j, F.names (base path) = some j → (F.inodes j).isDir = false

/-- The text that is written where nothing fails. -/
def savedText (env : SaveEnv) (path : CString) : Bytes :=
  unlines (headerLines path ++ dumpLines env.reads)

/-- The destination leads to a file with the text. -/
def Installed (G : Disk Bytes) (path : CString) (text : Bytes) : Prop :=
  ∃ i, G.names (base path) = some i ∧ (G.inodes i).data = text

/-- The destination leads to the file it led to, with the same content, or is still absent. -/
def Untouched (F G : Disk Bytes) (path : CString) : Prop :=
  G.names (base path) = F.names (base path) ∧
    ∀ i, F.names (base path) = some i → (G.inodes i).data = (F.inodes i).data

private theorem base_ne_tmp (path : CString) : base path ≠ tmpbase path := by
  intro heq
  have hlen := congrArg List.length heq
  rw [tmpbase, List.length_append] at hlen
  have hfour : (lit ".tmp").length = 4 := rfl
  omega

/-- What only touches the temporary name leaves the destination alone. -/
private theorem untouched_of_frame {G : Disk Bytes}
    (h : Disk.Frame (fun name => name = tmpbase path) F G) : Untouched F G path :=
  ⟨h.names _ (base_ne_tmp path), fun i hi => h.data i (F.names_lt _ _ hi)⟩

private theorem frame_unlinkat {G : Disk Bytes}
    (h : Disk.Frame (fun name => name = tmpbase path) F G) :
    Disk.Frame (fun name => name = tmpbase path) F (unlinkat G (tmpbase path)) := by
  unfold StateFile.unlinkat
  split
  · rename_i G' hok
    obtain ⟨-, rfl⟩ := unlink_ok hok
    exact h.remove rfl
  · exact h

/-- The temporary file may go or stay. -/
private theorem frame_aborted {G : Disk Bytes}
    (h : Disk.Frame (fun name => name = tmpbase path) F G) (b : Bool) :
    Disk.Frame (fun name => name = tmpbase path) F
      (if b then StateFile.unlinkat G (tmpbase path) else G) := by
  cases b with
  | true => exact frame_unlinkat h
  | false => exact h

/-- What a save to a file comes to. -/
def Outcome (env : SaveEnv) (F : Disk Bytes) (path : CString) (r : SaveResult) : Prop :=
  (r.ret = 0 ∧ Succeeds env F path ∧ Installed r.disk path (savedText env path)) ∨
    (r.ret = 1 ∧ ¬ Succeeds env F path ∧ Untouched F r.disk path)

private theorem fails {G : Disk Bytes} {out : Bytes}
    (hframe : Disk.Frame (fun name => name = tmpbase path) F G) (hnot : ¬ Succeeds env F path) :
    Outcome env F path ⟨1, G, out⟩ :=
  .inr ⟨rfl, hnot, untouched_of_frame hframe⟩

/-- The temporary file under its name, with the text that was written. -/
structure Written (env : SaveEnv) (F G : Disk Bytes) (path : CString) (i : Nat) : Prop where
  frame : Disk.Frame (fun name => name = tmpbase path) F G
  name : G.names (tmpbase path) = some i
  new : F.next ≤ i
  old : ∀ j < F.next, G.inodes j = F.inodes j
  data : env.header_ok = true → env.lines_ok = true → (G.inodes i).data = savedText env path

private theorem renamed {G : Disk Bytes} {i : Nat} (h : Written env F G path i)
    (hdir : ∀ j, F.names (base path) = some j → (F.inodes j).isDir = false) :
    G.rename (tmpbase path) (base path) (fun _ => env.dev) =
      .ok (G.move (tmpbase path) (base path)) := by
  have hbase : G.names (base path) = F.names (base path) := h.frame.names _ (base_ne_tmp path)
  unfold rename
  rw [h.name]
  dsimp only
  rw [if_neg (not_not.mpr rfl), hbase]
  cases hold : F.names (base path) with
  | none => rfl
  | some j =>
    have hlt : j < F.next := F.names_lt _ _ hold
    have hne : j ≠ i := (hlt.trans_le h.new).ne
    have hfile : ¬ (G.inodes j).isDir = true := by
      rw [h.old j hlt, hdir j hold]
      exact Bool.false_ne_true
    dsimp only
    rw [if_neg hne, if_neg hfile]

theorem commit_outcome {G : Disk Bytes} {i : Nat} (h : Written env F G path i)
    (hfits : pathFits path = true) (hpinned : env.pinned = true) (hopenat : env.openat_ok = true)
    (hfree : F.names (tmpbase path) = none) (hfdopen : env.fdopen_ok = true)
    (hopened : env.opened = true) : Outcome env F path (commit env G path) := by
  unfold commit
  dsimp only
  split
  · rename_i hbad
    refine fails (frame_aborted h.frame _) fun hs => ?_
    simp [hs.header_ok, hs.lines_ok, hs.fflush_ok, hs.fsync_ok, hs.unreplaced, hs.fclose_ok,
      hs.fstat_ok, hs.ours] at hbad
  · rename_i hgood
    simp only [Bool.or_eq_true, Bool.not_eq_true', not_or, Bool.not_eq_false,
      Bool.and_eq_true] at hgood
    obtain ⟨⟨⟨⟨⟨⟨hheader, hlines⟩, hfflush⟩, hfsync⟩, hsame⟩, hfclose⟩, hfstat, hours⟩ := hgood
    split
    · rename_i err hrename
      refine fails (frame_aborted h.frame _) fun hs => ?_
      rw [if_pos hs.renameat_ok, renamed h hs.not_dir] at hrename
      cases hrename
    · rename_i D hrename
      cases hrenameat : env.renameat_ok with
      | false =>
        rw [hrenameat] at hrename
        cases hrename
      | true =>
        rw [hrenameat, if_pos rfl] at hrename
        have hdir : ∀ j, F.names (base path) = some j → (F.inodes j).isDir = false := by
          intro j hj
          have hlt : j < F.next := F.names_lt _ _ hj
          have hbase : G.names (base path) = some j :=
            (h.frame.names _ (base_ne_tmp path)).trans hj
          have hne : j ≠ i := (hlt.trans_le h.new).ne
          unfold rename at hrename
          rw [h.name] at hrename
          dsimp only at hrename
          rw [if_neg (not_not.mpr rfl), hbase] at hrename
          dsimp only at hrename
          rw [if_neg hne, h.old j hlt] at hrename
          split at hrename
          · cases hrename
          · rename_i hfile
            simpa using hfile
        rw [renamed h hdir] at hrename
        obtain rfl := Except.ok.inj hrename
        refine .inl ⟨rfl, ?_, i, ?_, ?_⟩
        · exact ⟨hfits, hpinned, hopenat, hfree, hfdopen, hopened, hheader, hlines, hfflush,
            hfsync, hsame, hfstat, hfclose, hours, hrenameat, hdir⟩
        · rw [names_move_target (base_ne_tmp path)]
          exact h.name
        · rw [inodes_move]
          exact h.data hheader hlines

/-- A save to a file returns 0 exactly when everything it looks at goes well; it has then put the
text it read in place, and otherwise the destination is as it was. -/
theorem do_save_outcome (env : SaveEnv) (F : Disk Bytes) {path : CString}
    (hfile : to_stdout path = false) :
    Outcome env F path (do_save env F path) := by
  have hsame : Disk.Frame (fun name => name = tmpbase path) F F := Disk.Frame.refl _ F
  unfold do_save
  simp only [hfile, Bool.false_eq_true, if_false]
  split
  · rename_i hbad
    refine fails hsame fun hs => ?_
    simp [hs.fits, hs.pinned] at hbad
  rename_i hgood
  simp only [Bool.or_eq_true, Bool.not_eq_true', not_or, Bool.not_eq_false] at hgood
  obtain ⟨hfits, hpinned⟩ := hgood
  split
  · rename_i err hopen
    refine fails hsame fun hs => ?_
    rw [if_pos hs.openat_ok, openExcl, hs.free] at hopen
    cases hopen
  rename_i D i hopen
  cases hopenat : env.openat_ok with
  | false =>
    rw [hopenat] at hopen
    cases hopen
  | true =>
    rw [hopenat, if_pos rfl] at hopen
    obtain ⟨hfree, rfl, rfl⟩ := openExcl_ok hopen
    set node : Inode := ⟨env.dev, Lib.Files.S_IFREG ||| 0o600, Lib.Files.Owner.root,
      Lib.Files.Owner.root, []⟩ with hnode
    have hcreate : Disk.Frame (fun name => name = tmpbase path) F (F.create (tmpbase path) node) :=
      hsame.create rfl
    split
    · rename_i hbad
      refine fails (frame_unlinkat hcreate) fun hs => ?_
      rw [hs.fdopen_ok] at hbad
      cases hbad
    rename_i hfdopen
    have hwritten : ∀ text : Bytes, (env.header_ok = true → env.lines_ok = true →
        text = savedText env path) → Written env F
        ((F.create (tmpbase path) node).modify F.next (Inode.append text)) path F.next := by
      intro text htext
      refine ⟨hcreate.modify_new (le_refl _), ?_, le_refl _, ?_, ?_⟩
      · exact Function.update_self ..
      · intro j hj
        rw [inodes_modify_of_ne _ hj.ne, inodes_create_of_ne hj.ne]
      · intro hheader hlines
        rw [inodes_modify_self]
        show ((F.create (tmpbase path) node).inodes F.next).data ++ text = _
        have hempty : ((F.create (tmpbase path) node).inodes F.next).data = [] := by
          show (Function.update F.inodes F.next node F.next).data = []
          rw [Function.update_self]
        rw [hempty, List.nil_append, htext hheader hlines]
    have hfinal := hwritten (if env.header_ok && env.lines_ok then
      unlines (headerLines path ++ dumpLines env.reads) else env.torn) (by
        intro hheader hlines
        rw [hheader, hlines]
        rfl)
    split
    · rename_i hbad
      refine fails (frame_aborted hfinal.frame _) fun hs => ?_
      rw [hs.opened] at hbad
      cases hbad
    · rename_i hopened
      exact commit_outcome hfinal hfits hpinned hopenat hfree (by simpa using hfdopen)
        (by simpa using hopened)

end Outcomes

section Reads

variable {H : KernelHash} {now : ProcFile → ProcState H} {reads : ProcFile → Option ProcRead}

/-- What a read delivers is a beginning of the listing, and all of it unless it fails. -/
def Faithful (now : ProcFile → ProcState H) (reads : ProcFile → Option ProcRead) : Prop :=
  ∀ file r, reads file = some r → r.delivered <+: listing (now file) file ∧
    (r.failed = false → r.delivered = listing (now file) file)

def Delivered (now : ProcFile → ProcState H) (reads : ProcFile → Option ProcRead) : Prop :=
  ∀ file r, reads file = some r → r.delivered = listing (now file) file

theorem count_unlines {ls : List Bytes} (h : ∀ l ∈ ls, nl ∉ l) :
    (unlines ls).count nl = ls.length := by
  induction ls with
  | nil => rfl
  | cons l ls ih =>
    obtain ⟨hl, hls⟩ := List.forall_mem_cons.mp h
    rw [Lib.Lines.unlines_cons, List.count_append, List.count_cons_self, ih hls,
      List.count_eq_zero_of_not_mem hl, List.length_cons, Nat.zero_add]

/-- The loop sees whole rows, and all of them exactly when all was delivered. -/
private theorem lines_of_rows {ls : List Bytes} (hls : ∀ l ∈ ls, nl ∉ l ∧ l.length + 1 < LINE_SIZE)
    {r : ProcRead} (hpre : r.delivered <+: unlines ls)
    (hend : r.failed = false → r.delivered = unlines ls) :
    ∃ k ≤ ls.length, r.lines = (ls.take k).map (fun l => l ++ [nl]) ∧
      (k = ls.length ↔ r.delivered = unlines ls) := by
  obtain ⟨k, p, hread, hcase⟩ := prefix_unlines hpre
  have hk : k ≤ ls.length := by
    rcases hcase with ⟨hk, -⟩ | ⟨hk, -⟩
    · exact hk.le
    · exact hk.le
  have htake : ∀ l ∈ ls.take k, nl ∉ l ∧ l.length + 1 < LINE_SIZE := fun l hl =>
    hls l (List.mem_of_mem_take hl)
  have hp : nl ∉ p ∧ p.length < LINE_SIZE - 1 := by
    rcases hcase with ⟨-, l, hl, hpl⟩ | ⟨-, rfl⟩
    · have hlen := hpl.length_le
      have hfit := (hls l hl).2
      exact ⟨fun h => (hls l hl).1 (hpl.subset h), by omega⟩
    · exact ⟨List.not_mem_nil, by decide⟩
  have hbufs := fgetsAll_unlines_append LINE_SIZE (ls.take k) p htake hp.1 (by omega)
  rw [← hread] at hbufs
  have hall : ((ls.take k).map fun l => l ++ [nl]).filter (fun buf =>
      decide (buf.getLast? = some nl) || decide (buf.length = LINE_SIZE - 1)) =
        (ls.take k).map fun l => l ++ [nl] := by
    refine List.filter_eq_self.mpr fun buf hbuf => ?_
    obtain ⟨l, -, rfl⟩ := List.mem_map.mp hbuf
    simp
  refine ⟨k, hk, ?_, ?_⟩
  · unfold ProcRead.lines
    dsimp only
    rw [hbufs]
    by_cases hnil : p = []
    · rw [if_pos hnil, List.append_nil]
      split
      · exact hall
      · rfl
    · have hfailed : r.failed = true := by
        by_contra hno
        have hfull := hend (by simpa using hno)
        have hcount := congrArg (List.count nl) (hread.symm.trans hfull)
        rw [List.count_append, count_unlines fun l hl => (htake l hl).1,
          count_unlines fun l hl => (hls l hl).1, List.count_eq_zero_of_not_mem hp.1,
          List.length_take] at hcount
        rcases hcase with ⟨hlt, -⟩ | ⟨-, hempty⟩
        · omega
        · exact hnil hempty
      have hlast : p.getLast? ≠ some nl := fun h => hp.1 (List.mem_of_getLast? h)
      have hlen : p.length ≠ LINE_SIZE - 1 := hp.2.ne
      rw [if_pos hfailed, if_neg hnil, List.filter_append, hall,
        List.filter_cons_of_neg (by simp [hlast, hlen])]
      simp
  · constructor
    · rintro rfl
      rcases hcase with ⟨hlt, -⟩ | ⟨-, rfl⟩
      · exact absurd hlt (lt_irrefl _)
      · rw [hread, List.take_length, List.append_nil]
    · intro hfull
      have hcount := congrArg (List.count nl) (hread.symm.trans hfull)
      rw [List.count_append, count_unlines fun l hl => (htake l hl).1,
        count_unlines fun l hl => (hls l hl).1, List.count_eq_zero_of_not_mem hp.1,
        List.length_take] at hcount
      omega

private theorem filterMap_rows {α : Type} {l : List α} (row cmd : α → Bytes)
    (save : Bytes → Option Bytes) (h : ∀ a ∈ l, save (row a ++ [nl]) = some (cmd a)) :
    ((l.map row).map fun r => r ++ [nl]).filterMap save = l.map cmd := by
  rw [List.map_map, List.filterMap_map, ← List.filterMap_eq_map]
  exact List.filterMap_congr fun a ha => h a ha

private theorem read_rows (hk : ∀ file, Kept (now file)) (hline : ∀ file, OneLine (now file))
    (hreads : Faithful now reads) (hopened : ∀ file, (reads file).isSome = true)
    (file : ProcFile) : ∃ r k, reads file = some r ∧ k ≤ (rows (now file) file).length ∧
      r.lines = ((rows (now file) file).take k).map (fun row => row ++ [nl]) ∧
      (k = (rows (now file) file).length ↔ r.delivered = listing (now file) file) := by
  obtain ⟨r, hr⟩ := Option.isSome_iff_exists.mp (hopened file)
  obtain ⟨hpre, hend⟩ := hreads file r hr
  rw [listing_eq] at hpre hend
  obtain ⟨k, hle, hlines, hfull⟩ :=
    lines_of_rows (rows_fit (hk file) (hline file) file) hpre hend
  rw [← listing_eq] at hfull
  exact ⟨r, k, hr, hle, hlines, hfull⟩

/-- How many rows of each listing were read. -/
structure Counts where
  sigs : Nat
  trusts : Nat
  paths : Nat
  policy : Nat

/-- The commands for the first rows of each listing. -/
def firstCommands (now : ProcFile → ProcState H) (c : Counts) : List Bytes :=
  ((now .signatures).sig.sig_table.entries.take c.sigs).map sigCommand ++
    (((now .trusted).trust.entries.take c.trusts).map trustCommand ++
      (((now .protected_paths).protected_table.entries.take c.paths).map protectCommand ++
        [policyCommand (now .daemon_policy).av_daemon_fail_closed].take c.policy))

def Counts.Within (now : ProcFile → ProcState H) (c : Counts) : Prop :=
  c.sigs ≤ (now .signatures).sig.sig_table.entries.length ∧
    c.trusts ≤ (now .trusted).trust.entries.length ∧
    c.paths ≤ (now .protected_paths).protected_table.entries.length ∧ c.policy ≤ 1

def Counts.All (now : ProcFile → ProcState H) (c : Counts) : Prop :=
  c.sigs = (now .signatures).sig.sig_table.entries.length ∧
    c.trusts = (now .trusted).trust.entries.length ∧
    c.paths = (now .protected_paths).protected_table.entries.length ∧ c.policy = 1

theorem firstCommands_all {c : Counts} (h : c.All now) : firstCommands now c = commands now := by
  obtain ⟨hsigs, htrusts, hpaths, hpolicy⟩ := h
  rw [firstCommands, hsigs, htrusts, hpaths, hpolicy, List.take_length, List.take_length,
    List.take_length]
  rfl

/-- As many commands as all of them is all of them. -/
theorem all_of_length {c : Counts} (hc : c.Within now)
    (h : (firstCommands now c).length = (commands now).length) : c.All now := by
  obtain ⟨hsigs, htrusts, hpaths, hpolicy⟩ := hc
  simp only [firstCommands, commands, List.length_append, List.length_map, List.length_take,
    List.length_cons, List.length_nil] at h
  unfold Counts.All
  omega

/-- The dump has the commands of the first rows of each listing, and of all of them exactly when
the listings were delivered. -/
theorem dump_taken (hk : ∀ file, Kept (now file)) (hline : ∀ file, OneLine (now file))
    (hreads : Faithful now reads) (hopened : ∀ file, (reads file).isSome = true) :
    ∃ c : Counts, c.Within now ∧ dumpLines reads = firstCommands now c ∧
      (Delivered now reads ↔ c.All now) := by
  have hrows := read_rows hk hline hreads hopened
  obtain ⟨r₁, i, hr₁, hi, hlines₁, hfull₁⟩ := hrows .signatures
  obtain ⟨r₂, j, hr₂, hj, hlines₂, hfull₂⟩ := hrows .trusted
  obtain ⟨r₃, k, hr₃, hk₃, hlines₃, hfull₃⟩ := hrows .protected_paths
  obtain ⟨r₄, n, hr₄, hn, hlines₄, hfull₄⟩ := hrows .daemon_policy
  simp only [rows, List.length_map] at hi hj hk₃ hn hfull₁ hfull₂ hfull₃ hfull₄
  simp only [rows] at hlines₁ hlines₂ hlines₃ hlines₄
  refine ⟨⟨i, j, k, n⟩, ⟨hi, hj, hk₃, hn⟩, ?_, ?_⟩
  · have hsigs : r₁.lines.filterMap saveSig =
        ((now .signatures).sig.sig_table.entries.take i).map sigCommand := by
      rw [hlines₁, ← List.map_take]
      exact filterMap_rows sigRow sigCommand saveSig fun e he =>
        saveSig_row ((hk .signatures).sigs e (List.mem_of_mem_take he))
    have htrusts : r₂.lines.filterMap saveTrust =
        ((now .trusted).trust.entries.take j).map trustCommand := by
      rw [hlines₂, ← List.map_take]
      exact filterMap_rows trustRow trustCommand saveTrust fun x hx =>
        saveTrust_row ((hk .trusted).trusts x (List.mem_of_mem_take hx))
    have hpaths : r₃.lines.filterMap saveProtect =
        ((now .protected_paths).protected_table.entries.take k).map protectCommand := by
      have hread := filterMap_rows id protectCommand saveProtect
        fun p (hp : p ∈ (now .protected_paths).protected_table.entries.take k) =>
          saveProtect_row ((hk .protected_paths).paths p (List.mem_of_mem_take hp))
            (hline .protected_paths p (List.mem_of_mem_take hp))
      rw [List.map_id] at hread
      rw [hlines₃]
      exact hread
    have hpolicy : (r₄.lines.head?.bind savePolicy).toList =
        [policyCommand (now .daemon_policy).av_daemon_fail_closed].take n := by
      rw [hlines₄]
      cases n with
      | zero => rfl
      | succ n =>
        rw [List.take_succ_cons, List.take_nil, List.take_succ_cons, List.take_nil]
        show (savePolicy (policyRow _ ++ [nl])).toList = _
        rw [savePolicy_row]
        rfl
    simp only [dumpLines, hr₁, hr₂, hr₃, hr₄, Option.map_some, Option.getD_some]
    rw [hsigs, htrusts, hpaths, hpolicy]
    rfl
  · constructor
    · intro hall
      exact ⟨hfull₁.mpr (hall _ _ hr₁), hfull₂.mpr (hall _ _ hr₂), hfull₃.mpr (hall _ _ hr₃),
        hfull₄.mpr (hall _ _ hr₄)⟩
    · rintro ⟨hsigs, htrusts, hpaths, hpolicy⟩ file r hr
      cases file with
      | signatures =>
        obtain rfl := Option.some.inj (hr₁.symm.trans hr)
        exact hfull₁.mp hsigs
      | trusted =>
        obtain rfl := Option.some.inj (hr₂.symm.trans hr)
        exact hfull₂.mp htrusts
      | protected_paths =>
        obtain rfl := Option.some.inj (hr₃.symm.trans hr)
        exact hfull₃.mp hpaths
      | daemon_policy =>
        obtain rfl := Option.some.inj (hr₄.symm.trans hr)
        exact hfull₄.mp hpolicy

end Reads

section Sound

variable {H : KernelHash} {now : ProcFile → ProcState H} {env : SaveEnv} {F : Disk Bytes}
  {path : CString}

/-- A save that returns 0 has put a line for every entry, and for the policy, in place; one that
returns 1 has left the destination alone. -/
def SaveSound (now : ProcFile → ProcState H) (F : Disk Bytes) (path : CString) (r : SaveResult) :
    Prop :=
  (r.ret = 0 ∨ r.ret = 1) ∧
    (r.ret = 0 → Installed r.disk path (unlines (headerLines path ++ commands now))) ∧
    (r.ret = 1 → Untouched F r.disk path)

private theorem opened_iff : env.opened = true ↔ ∀ file, (env.reads file).isSome = true := by
  simp only [SaveEnv.opened, Bool.and_eq_true]
  constructor
  · rintro ⟨⟨⟨hsigs, htrusts⟩, hpaths⟩, hpolicy⟩ file
    cases file with
    | signatures => exact hsigs
    | trusted => exact htrusts
    | protected_paths => exact hpaths
    | daemon_policy => exact hpolicy
  · exact fun h => ⟨⟨⟨h _, h _⟩, h _⟩, h _⟩

theorem mem_of_firstCommands {c : Counts} {l : Bytes} (h : l ∈ firstCommands now c) :
    l ∈ commands now := by
  rw [firstCommands] at h
  rw [commands]
  simp only [List.mem_append, List.mem_map] at h ⊢
  rcases h with ⟨e, he, rfl⟩ | ⟨x, hx, rfl⟩ | ⟨p, hp, rfl⟩ | hl
  · exact .inl ⟨e, List.mem_of_mem_take he, rfl⟩
  · exact .inr (.inl ⟨x, List.mem_of_mem_take hx, rfl⟩)
  · exact .inr (.inr (.inl ⟨p, List.mem_of_mem_take hp, rfl⟩))
  · exact .inr (.inr (.inr (List.mem_of_mem_take hl)))

/-- A save to a file is sound exactly when a cut-off read comes with a failure it looks at. -/
theorem save_sound_iff (hnow : ∀ file, Reached (now file)) (hline : ∀ file, OneLine (now file))
    (hreads : Faithful now env.reads) (hfile : to_stdout path = false) :
    SaveSound now F path (do_save env F path) ↔
      (Succeeds env F path → Delivered now env.reads) := by
  have hkept : ∀ file, Kept (now file) := fun file => (hnow file).kept
  have hfit := commands_fit hkept hline
  rcases do_save_outcome env F hfile with ⟨hret, hs, i, hi, hdata⟩ | ⟨hret, hnot, hold⟩
  · obtain ⟨c, hwithin, hdump, hdelivered⟩ :=
      dump_taken hkept hline hreads (opened_iff.mp hs.opened)
    rw [savedText, hdump] at hdata
    constructor
    · rintro ⟨-, hzero, -⟩ -
      obtain ⟨j, hj, hfull⟩ := hzero hret
      obtain rfl := Option.some.inj (hi.symm.trans hj)
      have htext := hdata.symm.trans hfull
      rw [Lib.Lines.unlines_append, Lib.Lines.unlines_append] at htext
      have hcount := congrArg (List.count nl) (List.append_cancel_left htext)
      rw [count_unlines fun l hl => (hfit l (mem_of_firstCommands hl)).1.1,
        count_unlines fun l hl => (hfit l hl).1.1] at hcount
      exact hdelivered.mpr (all_of_length hwithin hcount)
    · intro hall
      refine ⟨.inl hret, fun _ => ⟨i, hi, ?_⟩, fun hone => ?_⟩
      · rw [hdata, firstCommands_all (hdelivered.mp (hall hs))]
      · rw [hret] at hone
        cases hone
  · refine iff_of_true ⟨.inr hret, fun hzero => ?_, fun _ => hold⟩ fun hs => absurd hs hnot
    rw [hret] at hzero
    cases hzero

/-- A directory without entries. -/
def emptyDir : Disk Bytes where
  names _ := none
  inodes _ := ⟨0, 0, Lib.Files.Owner.root, Lib.Files.Owner.root, []⟩
  links _ := 0
  next := 0
  names_lt _ _ h := by cases h

/-- A save during which only the reads may fail. -/
def SaveEnv.smooth (reads : ProcFile → Option ProcRead) : SaveEnv :=
  ⟨0, true, true, true, true, reads, true, true, true, true, true, true, true, true, [], true⟩

def stateFile : CString := ⟨lit "/s", by decide⟩

theorem smooth_succeeds (reads : ProcFile → Option ProcRead)
    (h : ∀ file, (reads file).isSome = true) :
    Succeeds (SaveEnv.smooth reads) emptyDir stateFile := by
  refine ⟨by decide, rfl, rfl, rfl, rfl, opened_iff.mpr h, rfl, rfl, rfl, rfl, rfl, rfl, rfl, rfl,
    rfl, ?_⟩
  intro j hj
  cases hj

theorem init_one_line (H : KernelHash) : OneLine (av_init H true) := by
  intro p hp
  rw [show (av_init H true).protected_table.entries = [] from entries_empty] at hp
  exact absurd hp List.not_mem_nil

theorem whole_faithful (s : ProcState H) : Faithful (fun _ => s) (wholeReads s) := by
  intro file r hr
  obtain rfl := Option.some.inj hr
  exact ⟨List.prefix_refl _, fun _ => rfl⟩

/-- The freshly loaded module is saved whole. -/
theorem fresh_state_saved :
    SaveSound (fun _ => av_init singleBucket true) emptyDir stateFile
      (do_save (SaveEnv.smooth (wholeReads (av_init singleBucket true))) emptyDir stateFile) ↔
      (Succeeds (SaveEnv.smooth (wholeReads (av_init singleBucket true))) emptyDir stateFile →
        Delivered (fun _ => av_init singleBucket true) (wholeReads (av_init singleBucket true))) :=
  save_sound_iff (fun _ => .load true) (fun _ => init_one_line singleBucket)
    (whole_faithful _) (by decide)

/-- The first read of each file fails. -/
def failingReads (_ : ProcFile) : Option ProcRead := some ⟨[], true⟩

/-- A save that read nothing returns 0. -/
theorem failed_reads_saved :
    ¬ ∀ (H : KernelHash) (now : ProcFile → ProcState H), (∀ file, Reached (now file)) →
        (∀ file, OneLine (now file)) → ∀ (env : SaveEnv) (F : Disk Bytes) (path : CString),
          Faithful now env.reads → to_stdout path = false →
            SaveSound now F path (do_save env F path) := by
  intro hall
  have hsound := hall singleBucket (fun _ => av_init singleBucket true) (fun _ => .load true)
    (fun _ => init_one_line singleBucket) (SaveEnv.smooth failingReads) emptyDir stateFile
    (fun file r hr => by
      obtain rfl := Option.some.inj hr
      exact ⟨List.nil_prefix, fun h => by cases h⟩) (by decide)
  have hs := smooth_succeeds failingReads fun _ => rfl
  have hfile : to_stdout stateFile = false := by decide
  rcases do_save_outcome (SaveEnv.smooth failingReads) emptyDir hfile with
    ⟨hret, -, i, hi, hdata⟩ | ⟨-, hnot, -⟩
  · obtain ⟨j, hj, hfull⟩ := hsound.2.1 hret
    obtain rfl := Option.some.inj (hi.symm.trans hj)
    have htext := hdata.symm.trans hfull
    rw [savedText, Lib.Lines.unlines_append, Lib.Lines.unlines_append] at htext
    have hrest := List.append_cancel_left htext
    have hempty : dumpLines (SaveEnv.smooth failingReads).reads = [] := rfl
    rw [hempty] at hrest
    have hlen := congrArg List.length hrest
    have hpolicy : policyCommand false ∈ commands fun _ => av_init singleBucket true := by
      rw [commands]
      exact List.mem_append_right _ (List.mem_append_right _ (List.mem_append_right _
        List.mem_cons_self))
    obtain ⟨front, back, hsplit⟩ := List.append_of_mem hpolicy
    rw [hsplit, Lib.Lines.unlines_append, Lib.Lines.unlines_cons] at hlen
    simp only [Lib.Lines.unlines_nil, List.length_nil, List.length_append,
      List.length_cons] at hlen
    omega
  · exact hnot hs

end Sound

end KernelAv.Userspace.SaveCommit
