/- digest: The kill paths: which events still reach their thread group, and which can reach init. -/

import KernelAv.Kernel.Tasks
import KernelAv.Lib.Run

set_option autoImplicit false
set_option relaxedAutoImplicit false

namespace KernelAv.Kernel.Kill

open KernelAv.Lib.CText (Bytes lit fmtInt)
open KernelAv.Lib.Run
open KernelAv.Kernel.Tasks

/-- `struct av_file_identity`. -/
structure FileIdentity where
  dev : Nat
  ino : Nat
  size : Nat
  deriving DecidableEq

/-- One `pr_alert` line of a kill path; `protected_exe` is printed on the second kind of
suppression only. -/
structure Alert where
  detected : Bool
  type : Bytes
  path : Bytes
  reason : Bytes
  pid : Nat
  protected_exe : Option Bytes
  ident : Option FileIdentity
  deriving DecidableEq

/-- Outcomes of the calls the protection check and its caller make. -/
structure KillIo where
  protected_path_ok : Bool
  mm_ok : Bool
  exe_file_ok : Bool
  buf_ok : Bool
  d_path_ok : Bool
  deriving DecidableEq

def path_is_on_protected_list (protected_table : List Bytes) (path : Bytes) : Bool :=
  protected_table.contains path

/-- The resolved path of the target's own executable when it is on the list. -/
def av_behavior_target_is_protected (T : TaskTable) (protected_table : List Bytes) (io : KillIo)
    (target_pid : StructPid) : Option Bytes :=
  match pid_task T target_pid with
  | none => none
  | some task =>
      if !io.mm_ok || !io.exe_file_ok || !io.buf_ok || !io.d_path_ok then none
      else if path_is_on_protected_list protected_table task.exe then some task.exe
      else none

/-- What a kill path logs, and the task it sends SIGKILL to. -/
structure KillResult where
  alert : Option Alert
  sent : Option Task
  deriving DecidableEq

/-- The common body of the two kill paths. -/
def guardedKill (T : TaskTable) (protected_table : List Bytes) (io : KillIo)
    (target_pid : StructPid) (path type reason : Bytes) (ident : Option FileIdentity) :
    KillResult :=
  let line (detected : Bool) (exe : Option Bytes) (ident : Option FileIdentity) : Alert :=
    ⟨detected, type, path, reason, pid_nr target_pid, exe, ident⟩
  if pid_nr target_pid = 1 then ⟨some (line false none none), none⟩
  else
    match av_behavior_target_is_protected T protected_table io target_pid with
    | some exe =>
        ⟨some (line false (some (if io.protected_path_ok then exe else lit "?")) none), none⟩
    | none =>
        match pid_task T target_pid with
        | some task => ⟨some (line true none ident), some task⟩
        | none => ⟨none, none⟩

def av_kill (T : TaskTable) (protected_table : List Bytes) (io : KillIo) (target_pid : StructPid)
    (path type reason : Bytes) (ident : Option FileIdentity) : KillResult :=
  guardedKill T protected_table io target_pid path type reason ident

def kill_with_reason (T : TaskTable) (protected_table : List Bytes) (io : KillIo)
    (target_pid : StructPid) (path reason : Bytes) : KillResult :=
  guardedKill T protected_table io target_pid path (lit "behavioral") reason none

/-- What a work item decided: the three convictions of an exec item, or a behavioural check. -/
inductive Detection where
  | signature (path sig_name : Bytes) (ident : FileIdentity)
  | daemon (path rule_name : Bytes) (ident : FileIdentity)
  | failClosed (path : Bytes) (nl_ret : Int) (ident : FileIdentity)
  | behavioral (path reason : Bytes)
  deriving DecidableEq

def Detection.kill (d : Detection) (T : TaskTable) (protected_table : List Bytes) (io : KillIo)
    (target_pid : StructPid) : KillResult :=
  match d with
  | .signature path sig_name ident =>
      av_kill T protected_table io target_pid path (lit "signature")
        (lit "signature:" ++ sig_name) (some ident)
  | .daemon path rule_name ident =>
      av_kill T protected_table io target_pid path (lit "daemon") (lit "daemon:" ++ rule_name)
        (some ident)
  | .failClosed path nl_ret ident =>
      av_kill T protected_table io target_pid path (lit "fail-closed")
        (lit "no-verdict:err=" ++ fmtInt nl_ret) (some ident)
  | .behavioral path reason => kill_with_reason T protected_table io target_pid path reason

section KillPaths

variable {T : TaskTable} {protected_table : List Bytes} {io : KillIo} {target_pid : StructPid}

/-- The target runs an executable found on the list. -/
def TargetProtected (T : TaskTable) (protected_table : List Bytes) (io : KillIo)
    (target_pid : StructPid) : Prop :=
  (av_behavior_target_is_protected T protected_table io target_pid).isSome

/-- Whatever was detected, SIGKILL goes to the task that the struct pid names now, unless its
number is 1 or the target is protected. -/
theorem kill_sent_iff (d : Detection) (t : Task) :
    (d.kill T protected_table io target_pid).sent = some t ↔
      pid_nr target_pid ≠ 1 ∧ ¬ TargetProtected T protected_table io target_pid ∧
        pid_task T target_pid = some t := by
  have hbody : ∀ path type reason ident,
      (guardedKill T protected_table io target_pid path type reason ident).sent = some t ↔
        pid_nr target_pid ≠ 1 ∧ ¬ TargetProtected T protected_table io target_pid ∧
          pid_task T target_pid = some t := by
    intro path type reason ident
    unfold guardedKill TargetProtected
    by_cases h1 : pid_nr target_pid = 1
    · simp [h1]
    · cases hp : av_behavior_target_is_protected T protected_table io target_pid with
      | some exe => simp [h1]
      | none => cases hT : pid_task T target_pid <;> simp [h1]
  cases d <;> exact hbody _ _ _ _

/-- A task that runs an unlisted executable is not protected, whatever the calls return. -/
theorem not_protected_of_exe (h : ∀ t, pid_task T target_pid = some t → t.exe ∉ protected_table) :
    ¬ TargetProtected T protected_table io target_pid := by
  unfold TargetProtected av_behavior_target_is_protected
  cases hT : pid_task T target_pid with
  | none => simp
  | some t =>
    have hexe : path_is_on_protected_list protected_table t.exe = false := by
      rw [path_is_on_protected_list, List.contains_eq_mem]
      exact decide_eq_false (h t hT)
    simp [hexe]

end KillPaths

inductive Hook where
  | execve
  | execveat
  | openat
  | unlink
  | rename
  deriving DecidableEq

/-- A queued work item: the struct pid captured from the calling thread, and (not in the code)
the thread group that raised the event. -/
structure WorkItem where
  hook : Hook
  target_pid : StructPid
  raised_in : StructPid
  deriving DecidableEq

/-- A decision to kill, with the tables as they were and the task that was sent SIGKILL. -/
structure Decision where
  item : WorkItem
  tasks : TaskTable
  protected_table : List Bytes
  io : KillIo
  sent : Option Task

structure State where
  tasks : TaskTable
  protected_table : List Bytes
  queue : List WorkItem
  decisions : List Decision

inductive Action where
  | fork (parent : Task) (nr : Nat)
  | clone (parent : Task) (nr : Nat)
  | exit (t : Task)
  | exec (t : Task) (exe : Bytes)
  | raise (t : Task) (hook : Hook)
  | work (item : WorkItem) (io : KillIo) (outcome : Option Detection)
  | protect (path : Bytes)
  | unprotect (path : Bytes)

def State.boot (exe : Bytes) : State := ⟨Tasks.boot exe, [], [], []⟩

/-- The hooks capture `get_task_pid(current, PIDTYPE_PID)`; the items run later in any order. -/
def step (s : State) : Action → Option State
  | .fork parent nr => (fork s.tasks parent nr).map fun T => { s with tasks := T }
  | .clone parent nr => (clone_thread s.tasks parent nr).map fun T => { s with tasks := T }
  | .exit t => (Tasks.exit s.tasks t).map fun T => { s with tasks := T }
  | .exec t exe => (Tasks.exec s.tasks t exe).map fun T => { s with tasks := T }
  | .raise t hook =>
      if t ∈ s.tasks.tasks then some { s with queue := ⟨hook, t.pid, t.group⟩ :: s.queue }
      else none
  | .work item io outcome =>
      if item ∈ s.queue then
        match outcome with
        | none => some { s with queue := s.queue.erase item }
        | some d =>
            let r := d.kill s.tasks s.protected_table io item.target_pid
            some { s with
              queue := s.queue.erase item
              decisions := ⟨item, s.tasks, s.protected_table, io, r.sent⟩ :: s.decisions }
      else none
  | .protect path => some { s with protected_table := path :: s.protected_table }
  | .unprotect path => some { s with protected_table := s.protected_table.erase path }

/-- The group still has a task, is not process 1 and runs no protected executable. -/
def Killable (T : TaskTable) (protected_table : List Bytes) (group : StructPid) : Prop :=
  pid_nr group ≠ 1 ∧ (∃ t ∈ T.tasks, t.group = group) ∧
    ∀ t ∈ T.tasks, t.group = group → t.exe ∉ protected_table

/-- A killable group is sent its SIGKILL. -/
def Decision.Reaches (d : Decision) : Prop :=
  Killable d.tasks d.protected_table d.item.raised_in →
    ∃ t, d.sent = some t ∧ t.group = d.item.raised_in

def Decision.SparesInit (d : Decision) : Prop := ∀ t, d.sent = some t → pid_nr t.group ≠ 1

/-- When an item is convicted whose group is killable, the thread that raised the event is still
there under the struct pid it had then. -/
def RaiserPresent (s : State) : Action → Prop
  | .work item _ (some _) =>
      item ∈ s.queue → Killable s.tasks s.protected_table item.raised_in →
        ∃ t ∈ s.tasks.tasks, t.pid = item.target_pid
  | _ => True

/-- No item is convicted that was raised by a thread of process 1 other than its leader, while
this thread is still there and not found protected. -/
def NoInitThread (s : State) : Action → Prop
  | .work item io (some _) =>
      ¬ (item ∈ s.queue ∧ pid_nr item.raised_in = 1 ∧ item.target_pid ≠ item.raised_in ∧
        (∃ t ∈ s.tasks.tasks, t.pid = item.target_pid) ∧
        ¬ TargetProtected s.tasks s.protected_table io item.target_pid)
  | _ => True

/-- The captured struct pids belong to the groups that raised the events. -/
structure Inv (s : State) : Prop where
  tasks : WellFormed s.tasks
  queue : ∀ item ∈ s.queue, Owned s.tasks item.target_pid item.raised_in

theorem inv_boot (exe : Bytes) : Inv (State.boot exe) :=
  ⟨boot_wellFormed exe, fun item hitem => by cases hitem⟩

section Steps

variable {s s' : State} {a : Action}

private theorem inv_tasks {T : TaskTable} (h : Inv s) (hw : WellFormed T)
    (he : Evolves s.tasks T) : Inv { s with tasks := T } :=
  ⟨hw, fun item hitem => (h.queue item hitem).evolves he⟩

theorem step_inv (h : Inv s) (hs : step s a = some s') : Inv s' := by
  cases a with
  | fork parent nr =>
    obtain ⟨T, hT, rfl⟩ := Option.map_eq_some_iff.mp hs
    exact inv_tasks h (fork_wellFormed h.tasks hT) (fork_evolves hT)
  | clone parent nr =>
    obtain ⟨T, hT, rfl⟩ := Option.map_eq_some_iff.mp hs
    exact inv_tasks h (clone_wellFormed h.tasks hT) (clone_evolves hT)
  | exit t =>
    obtain ⟨T, hT, rfl⟩ := Option.map_eq_some_iff.mp hs
    exact inv_tasks h (exit_wellFormed h.tasks hT) (exit_evolves hT)
  | exec t exe =>
    obtain ⟨T, hT, rfl⟩ := Option.map_eq_some_iff.mp hs
    exact inv_tasks h (exec_wellFormed h.tasks hT) (exec_evolves hT)
  | raise t hook =>
    simp only [step] at hs
    split at hs
    · rename_i ht
      obtain rfl := Option.some.inj hs
      refine ⟨h.tasks, fun item hitem => ?_⟩
      rcases List.mem_cons.mp hitem with rfl | hitem
      · exact (h.tasks t ht).1
      · exact h.queue item hitem
    · cases hs
  | work item io outcome =>
    have hrest : ∀ i ∈ s.queue.erase item, Owned s.tasks i.target_pid i.raised_in :=
      fun i hi => h.queue i (List.mem_of_mem_erase hi)
    simp only [step] at hs
    split at hs
    · cases outcome with
      | none =>
        obtain rfl := Option.some.inj hs
        exact ⟨h.tasks, hrest⟩
      | some d =>
        obtain rfl := Option.some.inj hs
        exact ⟨h.tasks, hrest⟩
    · cases hs
  | protect path =>
    obtain rfl := Option.some.inj hs
    exact ⟨h.tasks, h.queue⟩
  | unprotect path =>
    obtain rfl := Option.some.inj hs
    exact ⟨h.tasks, h.queue⟩

theorem inv_of_run {exe : Bytes} {as : List Action} (hr : run step (State.boot exe) as = some s) :
    Inv s :=
  run_invariant Inv (fun _ _ _ => step_inv) (inv_boot exe) hr

/-- The decision an action takes: only a convicted item decides to kill, and it decides once. -/
def decided (s : State) : Action → List Decision
  | .work item io (some d) =>
      [⟨item, s.tasks, s.protected_table, io,
        (d.kill s.tasks s.protected_table io item.target_pid).sent⟩]
  | _ => []

theorem step_decisions (hs : step s a = some s') :
    s'.decisions = decided s a ++ s.decisions := by
  cases a with
  | fork parent nr =>
    obtain ⟨T, hT, rfl⟩ := Option.map_eq_some_iff.mp hs
    rfl
  | clone parent nr =>
    obtain ⟨T, hT, rfl⟩ := Option.map_eq_some_iff.mp hs
    rfl
  | exit t =>
    obtain ⟨T, hT, rfl⟩ := Option.map_eq_some_iff.mp hs
    rfl
  | exec t exe =>
    obtain ⟨T, hT, rfl⟩ := Option.map_eq_some_iff.mp hs
    rfl
  | raise t hook =>
    simp only [step] at hs
    split at hs
    · obtain rfl := Option.some.inj hs
      rfl
    · cases hs
  | work item io outcome =>
    simp only [step] at hs
    split at hs
    · cases outcome with
      | none =>
        obtain rfl := Option.some.inj hs
        rfl
      | some d =>
        obtain rfl := Option.some.inj hs
        rfl
    · cases hs
  | protect path =>
    obtain rfl := Option.some.inj hs
    rfl
  | unprotect path =>
    obtain rfl := Option.some.inj hs
    rfl

theorem work_queued {item : WorkItem} {io : KillIo} {outcome : Option Detection}
    (hs : step s (.work item io outcome) = some s') : item ∈ s.queue := by
  simp only [step] at hs
  split at hs
  · assumption
  · cases hs

end Steps

section Decisions

variable {T : TaskTable} {protected_table : List Bytes} {io : KillIo} {p g : StructPid}
  (d : Detection)

/-- A killable group is reached exactly when the captured struct pid still names a task. -/
theorem reaches_iff (h : Owned T p g) (hk : Killable T protected_table g) :
    (∃ t, (d.kill T protected_table io p).sent = some t ∧ t.group = g) ↔
      ∃ t ∈ T.tasks, t.pid = p := by
  obtain ⟨hnr, -, hexe⟩ := hk
  constructor
  · rintro ⟨t, hsent, -⟩
    obtain ⟨-, -, hT⟩ := (kill_sent_iff d t).mp hsent
    exact ⟨t, pid_task_some hT⟩
  · intro hex
    obtain ⟨t, hT⟩ := Option.isSome_iff_exists.mp (pid_task_isSome.mpr hex)
    have hgroup : t.group = g := pid_task_group h hT
    refine ⟨t, (kill_sent_iff d t).mpr ⟨?_, ?_, hT⟩, hgroup⟩
    · intro h1
      rw [(h.init h1).2] at hnr
      exact hnr rfl
    · apply not_protected_of_exe
      intro u hu
      exact hexe u (pid_task_some hu).1 (pid_task_group h hu)

/-- Process 1 is sent a SIGKILL exactly through a struct pid of another of its threads. -/
theorem reaches_init_iff (h : Owned T p g) :
    (∃ t, (d.kill T protected_table io p).sent = some t ∧ pid_nr t.group = 1) ↔
      pid_nr g = 1 ∧ p ≠ g ∧ (∃ t ∈ T.tasks, t.pid = p) ∧
        ¬ TargetProtected T protected_table io p := by
  constructor
  · rintro ⟨t, hsent, h1⟩
    obtain ⟨hnr, hprot, hT⟩ := (kill_sent_iff d t).mp hsent
    rw [pid_task_group h hT] at h1
    refine ⟨h1, ?_, ⟨t, pid_task_some hT⟩, hprot⟩
    rintro rfl
    exact hnr h1
  · rintro ⟨h1, hne, hex, hprot⟩
    obtain ⟨t, hT⟩ := Option.isSome_iff_exists.mp (pid_task_isSome.mpr hex)
    refine ⟨t, (kill_sent_iff d t).mpr ⟨?_, hprot, hT⟩, ?_⟩
    · intro hp1
      obtain ⟨rfl, rfl⟩ := h.init hp1
      exact hne rfl
    · rw [pid_task_group h hT]
      exact h1

end Decisions

section Quiet

/-- While its event is queued, no thread exits before the rest of its group, and no group with
an event of another thread than the leader execs. -/
def Quiet (s : State) : Action → Prop
  | .exit t =>
      (∃ u ∈ s.tasks.tasks, u ≠ t ∧ u.group = t.group) →
        ∀ item ∈ s.queue, item.target_pid ≠ t.pid
  | .exec t _ => ∀ item ∈ s.queue, item.raised_in = t.group → item.target_pid = t.group
  | _ => True

/-- Every queued event of a live group names a task. -/
def Named (s : State) : Prop :=
  ∀ item ∈ s.queue, (∃ t ∈ s.tasks.tasks, t.group = item.raised_in) →
    ∃ t ∈ s.tasks.tasks, t.pid = item.target_pid

private theorem named_add {s : State} {T : TaskTable} {new : Task} (hn : Named s)
    (hT : T.tasks = new :: s.tasks.tasks)
    (hnew : ∀ item ∈ s.queue, new.group = item.raised_in →
      ∃ t ∈ s.tasks.tasks, t.group = item.raised_in) : Named { s with tasks := T } := by
  intro item hitem hex
  obtain ⟨t, ht, hgroup⟩ := hex
  have hlive : ∃ t ∈ s.tasks.tasks, t.group = item.raised_in := by
    change t ∈ T.tasks at ht
    rw [hT] at ht
    rcases List.mem_cons.mp ht with rfl | ht
    · exact hnew item hitem hgroup
    · exact ⟨t, ht, hgroup⟩
  obtain ⟨u, hu, hpid⟩ := hn item hitem hlive
  refine ⟨u, ?_, hpid⟩
  show u ∈ T.tasks
  rw [hT]
  exact List.mem_cons_of_mem _ hu

private theorem named_exit {s s' : State} {t : Task} (h : Inv s) (hn : Named s)
    (hq : Quiet s (.exit t)) (hs : step s (.exit t) = some s') : Named s' := by
  obtain ⟨T, hT, rfl⟩ := Option.map_eq_some_iff.mp hs
  unfold Tasks.exit at hT
  split at hT
  · obtain rfl := Option.some.inj hT
    rintro item hitem ⟨v, hv, hgroup⟩
    obtain ⟨hold, hvt⟩ := List.mem_filter.mp hv
    obtain ⟨u, hu, hpid⟩ := hn item hitem ⟨v, hold, hgroup⟩
    have hne : u ≠ t := by
      rintro rfl
      have hug : u.group = item.raised_in := (h.queue item hitem).task u hu hpid
      exact hq ⟨v, hold, by simpa using hvt, hgroup.trans hug.symm⟩ item hitem hpid.symm
    exact ⟨u, List.mem_filter.mpr ⟨hu, by simpa using hne⟩, hpid⟩
  · cases hT

private theorem named_exec {s s' : State} {t : Task} {exe : Bytes} (h : Inv s) (hn : Named s)
    (hq : Quiet s (.exec t exe)) (hs : step s (.exec t exe) = some s') : Named s' := by
  obtain ⟨T, hT, rfl⟩ := Option.map_eq_some_iff.mp hs
  unfold Tasks.exec at hT
  split at hT
  · obtain rfl := Option.some.inj hT
    rintro item hitem ⟨v, hv, hgroup⟩
    by_cases hg : item.raised_in = t.group
    · refine ⟨⟨t.group, t.group, exe⟩, List.mem_cons_self, ?_⟩
      exact (hq item hitem hg).symm
    · rcases List.mem_cons.mp hv with rfl | hv
      · exact absurd hgroup.symm hg
      · obtain ⟨u, hu, hpid⟩ := hn item hitem ⟨v, List.mem_of_mem_filter hv, hgroup⟩
        have hug : u.group = item.raised_in := (h.queue item hitem).task u hu hpid
        refine ⟨u, List.mem_cons_of_mem _ (List.mem_filter.mpr ⟨hu, ?_⟩), hpid⟩
        simpa [hug] using hg
  · cases hT

private theorem named_step {s s' : State} {a : Action} (h : Inv s ∧ Named s) (hq : Quiet s a)
    (hs : step s a = some s') : Inv s' ∧ Named s' := by
  refine ⟨step_inv h.1 hs, ?_⟩
  cases a with
  | fork parent nr =>
    obtain ⟨T, hT, rfl⟩ := Option.map_eq_some_iff.mp hs
    unfold fork at hT
    split at hT
    · obtain rfl := Option.some.inj hT
      refine named_add h.2 rfl fun item hitem hgroup => ?_
      have hold := (h.1.queue item hitem).groupOld
      rw [← hgroup] at hold
      exact absurd hold (lt_irrefl _)
    · cases hT
  | clone parent nr =>
    obtain ⟨T, hT, rfl⟩ := Option.map_eq_some_iff.mp hs
    unfold clone_thread at hT
    split at hT
    · rename_i hc
      obtain rfl := Option.some.inj hT
      exact named_add h.2 rfl fun item _ hgroup => ⟨parent, hc.1, hgroup⟩
    · cases hT
  | exit t => exact named_exit h.1 h.2 hq hs
  | exec t exe => exact named_exec h.1 h.2 hq hs
  | raise t hook =>
    simp only [step] at hs
    split at hs
    · rename_i ht
      obtain rfl := Option.some.inj hs
      intro item hitem hlive
      rcases List.mem_cons.mp hitem with rfl | hitem
      · exact ⟨t, ht, rfl⟩
      · exact h.2 item hitem hlive
    · cases hs
  | work item io outcome =>
    have hrest : ∀ i ∈ s.queue.erase item, (∃ t ∈ s.tasks.tasks, t.group = i.raised_in) →
        ∃ t ∈ s.tasks.tasks, t.pid = i.target_pid :=
      fun i hi => h.2 i (List.mem_of_mem_erase hi)
    simp only [step] at hs
    split at hs
    · cases outcome with
      | none =>
        obtain rfl := Option.some.inj hs
        exact hrest
      | some d =>
        obtain rfl := Option.some.inj hs
        exact hrest
    · cases hs
  | protect path =>
    obtain rfl := Option.some.inj hs
    exact h.2
  | unprotect path =>
    obtain rfl := Option.some.inj hs
    exact h.2

/-- In a quiet run the thread that raised an event is there when its item is convicted. -/
theorem raiser_present_of_quiet {exe : Bytes} {as : List Action}
    (h : Guarded step Quiet (State.boot exe) as) :
    Guarded step RaiserPresent (State.boot exe) as := by
  refine h.imp_of_invariant (fun s => Inv s ∧ Named s) ?_ ?_
    ⟨inv_boot exe, fun item hitem => by cases hitem⟩
  · intro s a s' hi hq hs
    exact named_step hi hq hs
  · intro s a hi _
    cases a with
    | work item io outcome =>
      cases outcome with
      | none => trivial
      | some d => exact fun hitem hk => hi.2 item hitem hk.2.1
    | _ => trivial

end Quiet

private theorem decisions_iff {good : Decision → Prop} {s s' : State} {a : Action}
    (hs : step s a = some s') :
    (∀ d ∈ s'.decisions, good d) ↔ (∀ d ∈ s.decisions, good d) ∧ ∀ d ∈ decided s a, good d := by
  rw [step_decisions hs, List.forall_mem_append, and_comm]

private theorem decisions_grow {s s' : State} {a : Action} (hs : step s a = some s') :
    ∀ d ∈ s.decisions, d ∈ s'.decisions := by
  intro d hd
  rw [step_decisions hs]
  exact List.mem_append_right _ hd

private theorem decided_reaches {s s' : State} {a : Action} (h : Inv s)
    (hs : step s a = some s') : (∀ d ∈ decided s a, d.Reaches) ↔ RaiserPresent s a := by
  cases a with
  | work item io outcome =>
    cases outcome with
    | none => simp [decided, RaiserPresent]
    | some d =>
      have hitem := work_queued hs
      simp only [decided, List.forall_mem_singleton, Decision.Reaches, RaiserPresent, hitem,
        forall_const]
      exact forall_congr' fun hk => reaches_iff d (h.queue item hitem) hk
  | _ => simp [decided, RaiserPresent]

private theorem decided_spares {s s' : State} {a : Action} (h : Inv s)
    (hs : step s a = some s') : (∀ d ∈ decided s a, d.SparesInit) ↔ NoInitThread s a := by
  cases a with
  | work item io outcome =>
    cases outcome with
    | none => simp [decided, NoInitThread]
    | some d =>
      have hitem := work_queued hs
      simp only [decided, List.forall_mem_singleton, Decision.SparesInit, NoInitThread, hitem,
        true_and, ← reaches_init_iff d (h.queue item hitem)]
      simp
  | _ => simp [decided, NoInitThread]

/-- In a run from boot every decision to kill reaches its killable group exactly when at each of
them the thread that raised the event is still there. -/
theorem kills_reach_iff {exe : Bytes} {as : List Action} {s : State}
    (hr : run step (State.boot exe) as = some s) :
    (∀ d ∈ s.decisions, d.Reaches) ↔ Guarded step RaiserPresent (State.boot exe) as := by
  have h := recorded_iff_guarded State.decisions Decision.Reaches Inv
    (fun _ _ _ hi _ hs => step_inv hi hs) (fun _ _ _ => decisions_grow)
    (fun _ _ _ hi hs => by rw [decisions_iff hs, decided_reaches hi hs]) (inv_boot exe) hr
  simpa [State.boot] using h

/-- In a run from boot no SIGKILL goes to process 1 exactly when no item of one of its threads
other than the leader is convicted while that thread is there and not protected. -/
theorem init_spared_iff {exe : Bytes} {as : List Action} {s : State}
    (hr : run step (State.boot exe) as = some s) :
    (∀ d ∈ s.decisions, d.SparesInit) ↔ Guarded step NoInitThread (State.boot exe) as := by
  have h := recorded_iff_guarded State.decisions Decision.SparesInit Inv
    (fun _ _ _ hi _ hs => step_inv hi hs) (fun _ _ _ => decisions_grow)
    (fun _ _ _ hi hs => by rw [decisions_iff hs, decided_spares hi hs]) (inv_boot exe) hr
  simpa [State.boot] using h

/-- The process 100, its second thread 101, and the struct pids they have. -/
private def leader : StructPid := ⟨1, 100⟩
private def second : StructPid := ⟨2, 101⟩
private def sh : Bytes := lit "/bin/sh"
private def ioOk : KillIo := ⟨true, true, true, true, true⟩
private def rapid : Detection := .behavioral (lit "/home/a") (lit "rapid file modification")

/-- A single-threaded process is convicted and sent its SIGKILL. -/
private def convicted : List Action :=
  [.fork ⟨initPid, initPid, sh⟩ 100, .raise ⟨leader, leader, sh⟩ .openat,
    .work ⟨.openat, leader, leader⟩ ioOk (some rapid)]

theorem convicted_process_reached :
    ∃ s, run step (State.boot sh) convicted = some s ∧ s.decisions.length = 1 ∧
      ∀ d ∈ s.decisions, d.Reaches := by
  refine ⟨_, rfl, rfl, (kills_reach_iff
    (show run step (State.boot sh) convicted = _ from rfl)).mpr ?_⟩
  refine Guarded.cons_of trivial rfl (Guarded.cons_of trivial rfl (Guarded.cons_of ?_ rfl trivial))
  intro _ _
  exact ⟨⟨leader, leader, sh⟩, by decide, rfl⟩

theorem convicted_process_spares_init :
    ∃ s, run step (State.boot sh) convicted = some s ∧ s.decisions.length = 1 ∧
      ∀ d ∈ s.decisions, d.SparesInit := by
  refine ⟨_, rfl, rfl, (init_spared_iff
    (show run step (State.boot sh) convicted = _ from rfl)).mpr ?_⟩
  refine Guarded.cons_of trivial rfl (Guarded.cons_of trivial rfl (Guarded.cons_of ?_ rfl trivial))
  rintro ⟨-, h1, -⟩
  exact absurd h1 (by decide)

/-- The second thread opens files for writing and then execs: it lives on as the leader, and the
struct pid captured from it names no task any more. -/
private def threadExec : List Action :=
  [.fork ⟨initPid, initPid, sh⟩ 100, .clone ⟨leader, leader, sh⟩ 101,
    .raise ⟨second, leader, sh⟩ .openat, .exec ⟨second, leader, sh⟩ (lit "/tmp/x"),
    .work ⟨.openat, second, leader⟩ ioOk (some rapid)]

theorem thread_exec_escapes_kill :
    ¬ ∀ (exe : Bytes) (as : List Action) (s : State), run step (State.boot exe) as = some s →
        ∀ d ∈ s.decisions, d.Reaches := by
  intro hall
  have hreach := hall sh threadExec _ rfl _ List.mem_cons_self
  obtain ⟨t, hsent, -⟩ := hreach ⟨by decide, ⟨⟨leader, leader, lit "/tmp/x"⟩, by decide, rfl⟩,
    fun t _ _ => List.not_mem_nil⟩
  have hnone : none = some t := hsent
  cases hnone

/-- A second thread of process 1 trips a heuristic. -/
private def initThread : List Action :=
  [.clone ⟨initPid, initPid, sh⟩ 100, .raise ⟨leader, initPid, sh⟩ .openat,
    .work ⟨.openat, leader, initPid⟩ ioOk (some rapid)]

theorem init_thread_sent_sigkill :
    ¬ ∀ (exe : Bytes) (as : List Action) (s : State), run step (State.boot exe) as = some s →
        ∀ d ∈ s.decisions, d.SparesInit := by
  intro hall
  have hspared := hall sh initThread _ rfl _ List.mem_cons_self
  exact hspared ⟨leader, initPid, sh⟩ (by decide) rfl

end KernelAv.Kernel.Kill
