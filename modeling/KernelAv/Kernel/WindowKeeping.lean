/- digest: When recorded execs and sweeps leave a process its counted writes and its record. -/

import KernelAv.Kernel.BehaviorSystem

set_option autoImplicit false
set_option relaxedAutoImplicit false

namespace KernelAv.Kernel.WindowKeeping

open KernelAv.Lib.CText
open KernelAv.Lib.Chains
open KernelAv.Lib.Run
open KernelAv.Kernel.Paths
open KernelAv.Kernel.SlidingWindow
open KernelAv.Kernel.BehaviorTable
open KernelAv.Kernel.BehaviorChecks
open KernelAv.Kernel.BehaviorSystem

/-- A hash and its time in jiffies, as the two arrays of a ring hold them. -/
abbrev Slot := UInt32 × UInt64

/-- What the work items of a process have brought since it was forked: the writes and renames
that they passed to the counters, and whether an exec of it was recorded. -/
structure Own where
  writes : List Slot
  renames : List Slot
  execed : Bool

def Own.blank : Own := ⟨[], [], false⟩

variable {M : Machine}

/-- A run keeps beside the state what the present holder of each pid has brought. -/
structure Traced (M : Machine) where
  state : State M
  own : Nat → Own

/-- An action, and the time in jiffies at which it is taken. -/
structure Tick where
  act : Action
  now : UInt64

def Traced.boot (M : Machine) : Traced M := ⟨State.boot M, fun _ => Own.blank⟩

def writeSlot (M : Machine) (path : Bytes) (io : WorkIo) : Slot :=
  (M.hash.full_name_hash (resolve_absolute_path io.resolve path PATH_MAX), io.jiffies)

def ownAfter (t : Traced M) : Action → Nat → Own
  | .spawn pid _ => Function.update t.own pid Own.blank
  | .workOpenat tgid path _ io =>
      Function.update t.own tgid
        { t.own tgid with writes := writeSlot M path io :: (t.own tgid).writes }
  | .workRename tgid oldpath _ io _ =>
      Function.update t.own tgid
        { t.own tgid with renames := writeSlot M oldpath io :: (t.own tgid).renames }
  | .recordExec hashed io =>
      if (get_or_create_entry t.state.behavior hashed.call.tgid io.jiffies io.kzalloc_ok).2.isSome
      then Function.update t.own hashed.call.tgid { t.own hashed.call.tgid with execed := true }
      else t.own
  | _ => t.own

def tracedStep (t : Traced M) (x : Tick) : Option (Traced M) :=
  (step t.state x.act).map fun s => ⟨s, ownAfter t x.act⟩

/-- The slots that count. -/
def valid {cap : Nat} (w : PathRing cap) : List Slot := w.slots.take w.filled

/-- The counted records of a ring that the process brought and that are in the window. -/
def inWindowRecords {cap : Nat} (M : Machine) (window_ms : Nat) (now : UInt64) (own : List Slot)
    (w : PathRing cap) : List Slot :=
  (valid w).filter fun x => own.contains x && jiffies_to_msecs M.ticks (now - x.2) ≤ window_ms

/-- No in-window record of the process is discarded between two states of its entry. -/
structure KeepsRecords (M : Machine) (now : UInt64) (own : Own) (e e' : Entry) : Prop where
  writes : ∀ x ∈ inWindowRecords M WRITE_OPEN_WINDOW_MS now own.writes e.recent_path,
    x ∈ valid e'.recent_path
  renames : ∀ x ∈ inWindowRecords M RENAME_WINDOW_MS now own.renames e.recent_rename,
    x ∈ valid e'.recent_rename

/-- A recorded exec or a sweep leaves each process that runs its in-window records, and a sweep
leaves it the path and the trusted flag of its own last recorded exec. -/
def KeepsOwn (t : Traced M) (x : Tick) : Prop :=
  match x.act with
  | .recordExec _ _ =>
      ∀ s, step t.state x.act = some s → ∀ pid p e, t.state.procs pid = some p →
        t.state.behavior.behavior_table.find? pid = some e →
          ∃ e', s.behavior.behavior_table.find? pid = some e' ∧
            KeepsRecords M x.now (t.own pid) e e'
  | .sweep =>
      ∀ s, step t.state x.act = some s → ∀ pid p e, t.state.procs pid = some p →
        t.state.behavior.behavior_table.find? pid = some e →
          ∃ e', s.behavior.behavior_table.find? pid = some e' ∧
            KeepsRecords M x.now (t.own pid) e e' ∧
            ((t.own pid).execed = true → e'.exec_path = e.exec_path ∧ e'.trusted = e.trusted)
  | _ => True

/-- No in-window record of the process is in its entry. -/
def nothingInWindow (M : Machine) (now : UInt64) (own : Own) (e : Entry) : Bool :=
  (inWindowRecords M WRITE_OPEN_WINDOW_MS now own.writes e.recent_path).isEmpty &&
    (inWindowRecords M RENAME_WINDOW_MS now own.renames e.recent_rename).isEmpty

/-- The table stays below its capacity. An exec that is recorded for a process that runs was
called by the thread that leads it; and where the entry does not carry the leader's start time
yet, when an exec is recorded, or carries another one, when a sweep comes, no record of the
process in it is in the window. -/
def LeaderExecs (t : Traced M) (x : Tick) : Prop :=
  t.state.behavior.behavior_table_count.toNat < MAX_BEHAVIOR_ENTRIES ∧
  match x.act with
  | .recordExec hashed _ =>
      ∀ p ∈ t.state.procs hashed.call.tgid, hashed.call.start_time = p.start_time ∧
        ∀ e ∈ t.state.behavior.behavior_table.find? hashed.call.tgid,
          e.start_time = p.start_time ∨
            nothingInWindow M x.now (t.own hashed.call.tgid) e = true
  | .sweep =>
      ∀ e ∈ t.state.behavior.behavior_table.entries, ∀ p ∈ t.state.procs e.pid,
        e.start_time = 0 ∨ e.start_time = p.start_time ∨
          nothingInWindow M x.now (t.own e.pid) e = true
  | _ => True

instance (t : Traced M) (x : Tick) : Decidable (LeaderExecs t x) := by
  unfold LeaderExecs
  cases x.act <;> infer_instance

/-- Once an exec of a process was recorded, its entry carries the leader's start time, or it was
made anew since. -/
def Matched (t : Traced M) : Prop :=
  ∀ pid p, t.state.procs pid = some p → (t.own pid).execed = true →
    (recordOf t.state.behavior pid).start_time = 0 ∨
      (recordOf t.state.behavior pid).start_time = p.start_time

theorem matched_boot (M : Machine) : Matched (Traced.boot M) := by
  intro pid p hp
  cases hp

section Steps

variable {t : Traced M} {x : Tick} {s : State M}

/-- A step that changes neither start times nor what was brought. -/
private theorem matched_of_same {t' : Traced M} (h : Matched t)
    (hprocs : ∀ pid p', t'.state.procs pid = some p' →
      ∃ p, t.state.procs pid = some p ∧ p.start_time = p'.start_time)
    (hown : ∀ pid, (t'.own pid).execed = (t.own pid).execed)
    (hrecord : ∀ pid, recordOf t'.state.behavior pid = ExecRecord.blank ∨
      recordOf t'.state.behavior pid = recordOf t.state.behavior pid) : Matched t' := by
  intro pid p' hp' hexeced
  obtain ⟨p, hp, hstart⟩ := hprocs pid p' hp'
  rw [hown] at hexeced
  rcases hrecord pid with hblank | hsame
  · rw [hblank]
    exact Or.inl rfl
  · rw [hsame, ← hstart]
    exact h pid p hp hexeced

private theorem same_procs {t' : Traced M} (hprocs : t'.state.procs = t.state.procs) (pid : Nat)
    (p' : Process) (h : t'.state.procs pid = some p') :
    ∃ p, t.state.procs pid = some p ∧ p.start_time = p'.start_time :=
  ⟨p', by rw [← hprocs, h], rfl⟩

private theorem spares_record {s : State M} {res : CheckResult M.hash}
    (hres : Spares s.behavior res) (pid : Nat) :
    recordOf (s.checked res).behavior pid = ExecRecord.blank ∨
      recordOf (s.checked res).behavior pid = recordOf s.behavior pid := by
  show recordOf res.table pid = _ ∨ recordOf res.table pid = _
  rw [hres pid]
  split
  · exact Or.inl rfl
  · exact Or.inr rfl

private theorem execed_update (own : Nat → Own) (tgid : Nat) (o : Own)
    (ho : o.execed = (own tgid).execed) (pid : Nat) :
    (Function.update own tgid o pid).execed = (own pid).execed := by
  by_cases hpid : pid = tgid
  · rw [hpid, Function.update_self, ho]
  · rw [Function.update_of_ne hpid]

/-- What a recorded exec does to the start times: only the process of the item gets its one. -/
private theorem matched_recordExec (h : Matched t) (hashed : HashedExec) (io : WorkIo)
    (now : UInt64) (hok : LeaderExecs t ⟨.recordExec hashed io, now⟩) :
    Matched ⟨({ t.state with queue := t.state.queue.erase (.record hashed) } : State M).recordExec
      hashed io, ownAfter t (.recordExec hashed io)⟩ := by
  intro pid p hp hexeced
  have hrecord : recordOf (({ t.state with queue := t.state.queue.erase (.record hashed) } :
      State M).recordExec hashed io).behavior pid = _ := recordOf_record_exec
  rw [hrecord]
  by_cases hfound : pid = hashed.call.tgid ∧
      (get_or_create_entry t.state.behavior hashed.call.tgid io.jiffies io.kzalloc_ok).2.isSome
  · rw [if_pos hfound]
    have hp' : t.state.procs hashed.call.tgid = some p := by
      rw [← hfound.1]
      exact hp
    exact Or.inr (hok.2 p hp').1
  · rw [if_neg hfound]
    have hown : (t.own pid).execed = true := by
      have hexeced : (ownAfter t (.recordExec hashed io) pid).execed = true := hexeced
      simp only [ownAfter] at hexeced
      split at hexeced
      · rename_i hsome
        rw [Function.update_of_ne (fun heq => hfound ⟨heq, hsome⟩)] at hexeced
        exact hexeced
      · exact hexeced
    split
    · exact Or.inl rfl
    · exact h pid p hp hown

private theorem matched_sweep (h : Matched t) (own : Nat → Own) (hown : own = t.own) :
    Matched ⟨({ t.state with
      behavior := behavior_gc_fn t.state.behavior
        (fun pid => (t.state.procs pid).map Process.start_time) } : State M).note
      [.swept fun pid => (t.state.procs pid).map Process.start_time], own⟩ := by
  subst hown
  intro pid p hp hexeced
  have hmatch := h pid p hp hexeced
  have hp' : t.state.procs pid = some p := hp
  have hrecord : recordOf (behavior_gc_fn t.state.behavior
      fun pid => (t.state.procs pid).map Process.start_time) pid =
        gcRecord (some p.start_time) (recordOf t.state.behavior pid) := by
    rw [recordOf_gc, hp', Option.map_some]
  show (recordOf (behavior_gc_fn t.state.behavior _) pid).start_time = 0 ∨
    (recordOf (behavior_gc_fn t.state.behavior _) pid).start_time = p.start_time
  rw [hrecord]
  unfold gcRecord
  dsimp only
  split
  · exact Or.inr rfl
  · exact hmatch

theorem step_matched {t' : Traced M} (h : Matched t) (hok : LeaderExecs t x)
    (hs : tracedStep t x = some t') : Matched t' := by
  obtain ⟨a, now⟩ := x
  obtain ⟨s, hstep, rfl⟩ := Option.map_eq_some_iff.mp hs
  clear hs
  have hs : step t.state a = some s := hstep
  clear hstep
  cases a with
  | spawn pid p =>
    simp only [step] at hs
    split at hs
    · obtain rfl := Option.some.inj hs
      intro q p' hp' hexeced
      by_cases hq : q = pid
      · subst hq
        have hexeced : (Function.update t.own q Own.blank q).execed = true := hexeced
        rw [Function.update_self] at hexeced
        cases hexeced
      · have hexeced : (Function.update t.own pid Own.blank q).execed = true := hexeced
        have hp' : Function.update t.state.procs pid (some p) q = some p' := hp'
        rw [Function.update_of_ne hq] at hexeced hp'
        exact h q p' hp' hexeced
    · cases hs
  | exit pid =>
    obtain rfl := Option.some.inj hs
    refine matched_of_same h ?_ (fun _ => rfl) (fun _ => Or.inr rfl)
    intro q p' hp'
    have hp' : Function.update t.state.procs pid none q = some p' := hp'
    by_cases hq : q = pid
    · rw [hq, Function.update_self] at hp'
      cases hp'
    · rw [Function.update_of_ne hq] at hp'
      exact ⟨p', hp', rfl⟩
  | trustAdd ok hex name =>
    obtain rfl := Option.some.inj hs
    exact matched_of_same h (same_procs rfl) (fun _ => rfl) (fun _ => Or.inr rfl)
  | trustDel hex =>
    obtain rfl := Option.some.inj hs
    exact matched_of_same h (same_procs rfl) (fun _ => rfl) (fun _ => Or.inr rfl)
  | execve call =>
    simp only [step] at hs
    split at hs
    · obtain rfl := Option.some.inj hs
      exact matched_of_same h (same_procs rfl) (fun _ => rfl) (fun _ => Or.inr rfl)
    · cases hs
  | execDone call file =>
    simp only [step] at hs
    split at hs
    · obtain ⟨p, hp, rfl⟩ := Option.map_eq_some_iff.mp hs
      refine matched_of_same h ?_ (fun _ => rfl) (fun _ => Or.inr rfl)
      intro q p' hp'
      have hp' : Function.update t.state.procs call.tgid
        (some { p with image := ⟨file, some call.target.form⟩ }) q = some p' := hp'
      by_cases hq : q = call.tgid
      · rw [hq, Function.update_self] at hp'
        obtain rfl := Option.some.inj hp'
        exact ⟨p, by rw [hq, hp], rfl⟩
      · rw [Function.update_of_ne hq] at hp'
        exact ⟨p', hp', rfl⟩
    · cases hs
  | execFail call =>
    obtain rfl := Option.some.inj hs
    exact matched_of_same h (same_procs rfl) (fun _ => rfl) (fun _ => Or.inr rfl)
  | openat tgid path flags =>
    obtain ⟨p, -, rfl⟩ := Option.map_eq_some_iff.mp hs
    exact matched_of_same h (same_procs rfl) (fun _ => rfl) (fun _ => Or.inr rfl)
  | unlink tgid target =>
    obtain ⟨p, -, rfl⟩ := Option.map_eq_some_iff.mp hs
    exact matched_of_same h (same_procs rfl) (fun _ => rfl) (fun _ => Or.inr rfl)
  | rename tgid oldpath newpath =>
    obtain ⟨p, -, rfl⟩ := Option.map_eq_some_iff.mp hs
    exact matched_of_same h (same_procs rfl) (fun _ => rfl) (fun _ => Or.inr rfl)
  | hashExec call io opened =>
    obtain ⟨-, rfl⟩ := take_eq hs
    have hsame : ∀ u : State M, (u.hashExec call io opened).procs = u.procs ∧
        (u.hashExec call io opened).behavior = u.behavior := by
      intro u
      unfold State.hashExec
      split
      · exact ⟨rfl, rfl⟩
      · split <;> exact ⟨rfl, rfl⟩
    refine matched_of_same h (same_procs (hsame _).1) (fun _ => rfl) fun pid => Or.inr ?_
    show recordOf (State.hashExec _ call io opened).behavior pid = _
    rw [(hsame _).2]
  | recordExec hashed io =>
    obtain ⟨-, rfl⟩ := take_eq hs
    exact matched_recordExec h hashed io now hok
  | workOpenat tgid path flags io =>
    obtain ⟨-, rfl⟩ := take_eq hs
    exact matched_of_same h (same_procs rfl) (execed_update t.own tgid _ rfl)
      (spares_record (openatWork_spares tgid path flags io))
  | workUnlink tgid target caller io =>
    obtain ⟨-, rfl⟩ := take_eq hs
    exact matched_of_same h (same_procs rfl) (fun _ => rfl)
      (spares_record (unlinkWork_spares tgid target.path io))
  | workRename tgid oldpath newpath io io' =>
    obtain ⟨-, rfl⟩ := take_eq hs
    exact matched_of_same h (same_procs rfl) (execed_update t.own tgid _ rfl)
      (spares_record (renameWork_spares tgid oldpath newpath io io'))
  | sweep =>
    obtain rfl := Option.some.inj hs
    exact matched_sweep h _ rfl

private theorem nothing_kept {now : UInt64} {own : Own} {e e' : Entry}
    (h : nothingInWindow M now own e = true) : KeepsRecords M now own e e' := by
  simp only [nothingInWindow, Bool.and_eq_true, List.isEmpty_iff] at h
  refine ⟨?_, ?_⟩
  · rw [h.1]
    simp
  · rw [h.2]
    simp

private theorem rings_kept {now : UInt64} {own : Own} {e e' : Entry}
    (hpath : e'.recent_path = e.recent_path) (hrename : e'.recent_rename = e.recent_rename) :
    KeepsRecords M now own e e' := by
  refine ⟨fun x hx => ?_, fun x hx => ?_⟩
  · rw [hpath]
    exact (List.mem_filter.mp hx).1
  · rw [hrename]
    exact (List.mem_filter.mp hx).1

private theorem recordExec_keeps {hashed : HashedExec} {io : WorkIo} {now : UInt64}
    (hok : LeaderExecs t ⟨.recordExec hashed io, now⟩) :
    KeepsOwn t ⟨.recordExec hashed io, now⟩ := by
  intro s hs pid p e hp he
  obtain ⟨-, rfl⟩ := take_eq hs
  obtain ⟨hcount, hleader⟩ := hok
  obtain ⟨e', he', hcase⟩ := find?_record_exec io.jiffies io.kzalloc_ok hashed.call.tgid
    hashed.abs_path hashed.trusted hashed.call.start_time hcount he
  refine ⟨e', he', ?_⟩
  rcases hcase with ⟨hpath, hrename⟩ | ⟨rfl, hstart⟩
  · exact rings_kept hpath hrename
  · obtain ⟨hsame, hentry⟩ := hleader p hp
    rcases hentry e he with hleads | hnothing
    · exact absurd (hleads.trans hsame.symm) hstart
    · exact nothing_kept hnothing

private theorem sweep_keeps {now : UInt64} (h : Matched t) (hok : LeaderExecs t ⟨.sweep, now⟩) :
    KeepsOwn t ⟨.sweep, now⟩ := by
  intro s hs pid p e hp he
  obtain rfl := Option.some.inj hs
  obtain ⟨-, hentries⟩ := hok
  have hkey : e.pid = pid := HashTable.key_of_find? he
  have hmem : e ∈ t.state.behavior.behavior_table.entries := by
    rw [HashTable.mem_entries, hkey]
    exact he
  have hswept : (behavior_gc_fn t.state.behavior fun pid =>
      (t.state.procs pid).map Process.start_time).behavior_table.find? pid =
        gcEntry (fun pid => (t.state.procs pid).map Process.start_time) e := by
    unfold behavior_gc_fn
    rw [HashTable.find?_sweep, he, Option.bind_some]
  have hcur : (t.state.procs e.pid).map Process.start_time = some p.start_time := by
    rw [hkey, hp, Option.map_some]
  by_cases hreset : e.start_time ≠ 0 ∧ e.start_time ≠ p.start_time
  · -- the entry of another process, so far as the sweep can tell
    have hgc : gcEntry (fun pid => (t.state.procs pid).map Process.start_time) e =
        some { e with start_time := p.start_time, exec_path := [], trusted := false }.resetWindows
        := by
      simp only [gcEntry, hcur]
      exact if_pos hreset
    refine ⟨_, hswept.trans hgc, ?_, ?_⟩
    · have hp' : p ∈ t.state.procs e.pid := by
        rw [hkey]
        exact hp
      rcases hentries e hmem p hp' with hzero | hsame | hnothing
      · exact absurd hzero hreset.1
      · exact absurd hsame hreset.2
      · rw [hkey] at hnothing
        exact nothing_kept hnothing
    · intro hexeced
      have hmatch := h pid p hp hexeced
      rw [recordOf_of_find? he] at hmatch
      exact absurd hmatch (not_or.mpr hreset)
  · have hgc : gcEntry (fun pid => (t.state.procs pid).map Process.start_time) e = some e := by
      simp only [gcEntry, hcur]
      exact if_neg hreset
    exact ⟨e, hswept.trans hgc, rings_kept rfl rfl, fun _ => ⟨rfl, rfl⟩⟩

theorem step_keeps (h : Matched t) (hok : LeaderExecs t x) : KeepsOwn t x := by
  obtain ⟨a, now⟩ := x
  cases a with
  | recordExec hashed io => exact recordExec_keeps hok
  | sweep => exact sweep_keeps h hok
  | _ => trivial

/-- In a run whose execs are recorded for their leaders, no process loses what it has brought. -/
theorem own_kept_of_leader_execs {ticks : List Tick}
    (hg : Guarded tracedStep LeaderExecs (Traced.boot M) ticks) :
    Guarded tracedStep KeepsOwn (Traced.boot M) ticks :=
  hg.imp_of_invariant Matched (fun _ _ _ h hok hs => step_matched h hok hs)
    (fun _ _ h hok => step_keeps h hok) (matched_boot M)

end Steps

private def writesThenExec : ExecCall := ⟨5, ⟨lit "/bin/sh", [slash]⟩, 1⟩

private def ownExec : HashedExec :=
  ⟨writesThenExec, lit "/bin/sh", by decide, List.replicate 64 49, false, 0⟩

/-- The leader of process 5 execs, and its exec is recorded. -/
private def execTicks : List Tick :=
  [⟨.execve writesThenExec, 0⟩, ⟨.execDone writesThenExec 1, 0⟩,
    ⟨.hashExec writesThenExec quietIo (some 1), 0⟩, ⟨.recordExec ownExec quietIo, 0⟩]

private def writeTicks : List Tick :=
  [⟨.openat 5 (lit "/home/a") O_WRONLY, 0⟩, ⟨.workOpenat 5 (lit "/home/a") O_WRONLY quietIo, 0⟩]

private def forkTick : Tick := ⟨.spawn 5 ⟨1, ⟨2, none⟩⟩, 0⟩

/-- A write between two execs, and a sweep after them. -/
theorem write_between_execs_kept :
    Guarded tracedStep KeepsOwn (Traced.boot digitMachine)
      (forkTick :: execTicks ++ writeTicks ++ execTicks ++ [⟨.sweep, 0⟩]) :=
  own_kept_of_leader_execs (by decide +kernel)

/-- The entry of process 5 after a run, with one slot of its own in the window and none left once
the last exec is recorded. -/
private def losesWrite (t : Traced digitMachine) (s : State digitMachine) : Bool :=
  (t.state.behavior.behavior_table.find? 5).any fun e =>
    (inWindowRecords digitMachine WRITE_OPEN_WINDOW_MS 0 (t.own 5).writes e.recent_path).any
      fun x => (s.behavior.behavior_table.find? 5).all fun e' =>
        !(valid e'.recent_path).contains x

/-- A write before the first exec is recorded is forgotten by it. -/
theorem first_exec_discards_write :
    ¬ ∀ (M : Machine) (ticks : List Tick),
        Guarded tracedStep (fun t _ =>
          t.state.behavior.behavior_table_count.toNat < MAX_BEHAVIOR_ENTRIES)
          (Traced.boot M) ticks →
        Guarded tracedStep KeepsOwn (Traced.boot M) ticks := by
  intro hall
  have hkept : Guarded tracedStep KeepsOwn (Traced.boot digitMachine)
      ((forkTick :: writeTicks ++ execTicks.take 3) ++ ⟨.recordExec ownExec quietIo, 0⟩ :: []) :=
    hall digitMachine (forkTick :: writeTicks ++ execTicks) (by decide +kernel)
  have hrun : (run tracedStep (Traced.boot digitMachine)
      (forkTick :: writeTicks ++ execTicks.take 3)).any (fun t =>
        (t.state.procs 5).isSome && (step t.state (.recordExec ownExec quietIo)).any
          fun s => losesWrite t s) = true := by decide +kernel
  obtain ⟨t, ht, hboth⟩ := (Option.any_eq_true _ _).mp hrun
  obtain ⟨hlives, hstep⟩ := Bool.and_eq_true_iff.mp hboth
  obtain ⟨s, hs, hloses⟩ := (Option.any_eq_true _ _).mp hstep
  obtain ⟨p, hp⟩ := Option.isSome_iff_exists.mp hlives
  obtain ⟨e, he, hslot⟩ := (Option.any_eq_true _ _).mp hloses
  obtain ⟨x, hx, hgone⟩ := List.any_eq_true.mp hslot
  have hlast := Guarded.at_state hkept ht
  obtain ⟨e', he', hkeeps⟩ := hlast s hs 5 p e hp he
  rw [he', Option.all_some] at hgone
  have hmem := hkeeps.writes x hx
  simp [hmem] at hgone

end KernelAv.Kernel.WindowKeeping
