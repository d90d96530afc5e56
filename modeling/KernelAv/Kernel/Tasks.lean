/- digest: Tasks, their struct pids and their thread groups, under fork, clone, exit and exec. -/

import KernelAv.Lib.CText

set_option autoImplicit false
set_option relaxedAutoImplicit false

namespace KernelAv.Kernel.Tasks

open KernelAv.Lib.CText (Bytes)

/-- A `struct pid`: the object, and the number it carries. -/
structure StructPid where
  obj : Nat
  nr : Nat
  deriving DecidableEq

def pid_nr (p : StructPid) : Nat := p.nr

/-- A live thread: the struct pid it is attached to, the struct pid of its thread group (which is
the leader's), and the resolved path of the file its process runs. -/
structure Task where
  pid : StructPid
  group : StructPid
  exe : Bytes
  deriving DecidableEq

structure TaskTable where
  tasks : List Task
  nextObj : Nat
  deriving DecidableEq

/-- `pid_task(p, PIDTYPE_PID)`: an exited thread leaves its struct pid without a task. -/
def pid_task (T : TaskTable) (p : StructPid) : Option Task := T.tasks.find? (·.pid = p)

/-- `alloc_pid` hands out 1 only at boot, and never a number in use. -/
def NumberFree (T : TaskTable) (nr : Nat) : Prop :=
  1 < nr ∧ ∀ t ∈ T.tasks, t.pid.nr ≠ nr ∧ t.group.nr ≠ nr

instance (T : TaskTable) (nr : Nat) : Decidable (NumberFree T nr) :=
  inferInstanceAs (Decidable (_ ∧ _))

def TaskTable.newPid (T : TaskTable) (nr : Nat) : StructPid := ⟨T.nextObj, nr⟩

def initPid : StructPid := ⟨0, 1⟩

def boot (exe : Bytes) : TaskTable := ⟨[⟨initPid, initPid, exe⟩], 1⟩

def fork (T : TaskTable) (parent : Task) (nr : Nat) : Option TaskTable :=
  if parent ∈ T.tasks ∧ NumberFree T nr then
    some ⟨⟨T.newPid nr, T.newPid nr, parent.exe⟩ :: T.tasks, T.nextObj + 1⟩
  else none

def clone_thread (T : TaskTable) (parent : Task) (nr : Nat) : Option TaskTable :=
  if parent ∈ T.tasks ∧ NumberFree T nr then
    some ⟨⟨T.newPid nr, parent.group, parent.exe⟩ :: T.tasks, T.nextObj + 1⟩
  else none

def exit (T : TaskTable) (t : Task) : Option TaskTable :=
  if t ∈ T.tasks then some { T with tasks := T.tasks.filter (· ≠ t) } else none

/-- A successful exec ends the other threads of the group and leaves the survivor with the
leader's struct pid. -/
def exec (T : TaskTable) (t : Task) (exe : Bytes) : Option TaskTable :=
  if t ∈ T.tasks then
    some { T with tasks := ⟨t.group, t.group, exe⟩ :: T.tasks.filter (·.group ≠ t.group) }
  else none

/-- The struct pid `p` belongs to the thread group `g`: whatever task it names is in `g`. -/
structure Owned (T : TaskTable) (p g : StructPid) : Prop where
  old : p.obj < T.nextObj
  groupOld : g.obj < T.nextObj
  task : ∀ t ∈ T.tasks, t.pid = p → t.group = g
  leader : ∀ t ∈ T.tasks, t.group = p → g = p
  init : pid_nr p = 1 → p = initPid ∧ g = initPid
  initGroup : pid_nr g = 1 → g = initPid

/-- Every thread's own struct pid and its leader's belong to its group. -/
def WellFormed (T : TaskTable) : Prop :=
  ∀ t ∈ T.tasks, Owned T t.pid t.group ∧ Owned T t.group t.group

theorem pid_task_some {T : TaskTable} {p : StructPid} {t : Task} (h : pid_task T p = some t) :
    t ∈ T.tasks ∧ t.pid = p :=
  ⟨List.mem_of_find?_eq_some h, by simpa using List.find?_some h⟩

theorem pid_task_isSome {T : TaskTable} {p : StructPid} :
    (pid_task T p).isSome ↔ ∃ t ∈ T.tasks, t.pid = p := by
  simp [pid_task, List.find?_isSome]

theorem pid_task_group {T : TaskTable} {p g : StructPid} {t : Task} (h : Owned T p g)
    (ht : pid_task T p = some t) : t.group = g :=
  h.task t (pid_task_some ht).1 (pid_task_some ht).2

theorem boot_wellFormed (exe : Bytes) : WellFormed (boot exe) := by
  intro t ht
  obtain rfl := List.mem_singleton.mp ht
  have hown : Owned (boot exe) initPid initPid := by
    refine ⟨Nat.zero_lt_one, Nat.zero_lt_one, ?_, fun _ _ _ => rfl, fun _ => ⟨rfl, rfl⟩,
      fun _ => rfl⟩
    intro u hu _
    rw [List.mem_singleton.mp hu]
  exact ⟨hown, hown⟩

/-- What the four transitions have in common: no task appears in the table but with a struct pid
that is new, or that is the one of its own, older group; no older group is taken for a new one. -/
structure Evolves (T T' : TaskTable) : Prop where
  mono : T.nextObj ≤ T'.nextObj
  task : ∀ t ∈ T'.tasks, t ∈ T.tasks ∨ t.pid.obj = T.nextObj ∨
    t.pid = t.group ∧ ∃ u ∈ T.tasks, u.group = t.group
  group : ∀ t ∈ T'.tasks, t.group.obj = T.nextObj ∨ ∃ u ∈ T.tasks, u.group = t.group

theorem Owned.evolves {T T' : TaskTable} {p g : StructPid} (h : Owned T p g)
    (he : Evolves T T') : Owned T' p g := by
  refine ⟨h.old.trans_le he.mono, h.groupOld.trans_le he.mono, ?_, ?_, h.init, h.initGroup⟩
  · intro t ht hp
    rcases he.task t ht with hold | hnew | ⟨hself, u, hu, hgroup⟩
    · exact h.task t hold hp
    · have hlt := h.old
      rw [← hp, hnew] at hlt
      exact absurd hlt (lt_irrefl _)
    · have hg := h.leader u hu (by rw [hgroup, ← hself, hp])
      rw [← hself, hp, hg]
  · intro t ht hp
    rcases he.group t ht with hnew | ⟨u, hu, hgroup⟩
    · have hlt := h.old
      rw [← hp, hnew] at hlt
      exact absurd hlt (lt_irrefl _)
    · exact h.leader u hu (hgroup.trans hp)

section Transitions

variable {T T' : TaskTable} {t : Task} {nr : Nat} {exe : Bytes}

private theorem newPid_ne_init (hnr : NumberFree T nr) : pid_nr (T.newPid nr) ≠ 1 := by
  intro h1
  have hgt := hnr.1
  rw [show nr = 1 from h1] at hgt
  exact absurd hgt (lt_irrefl _)

/-- A new struct pid belongs to the group in which the new task is put. -/
private theorem newPid_owned {u : Task} (h : WellFormed T) (hnr : NumberFree T nr)
    (hu : u.pid = T.newPid nr) (hg : pid_nr u.group = 1 → u.group = initPid)
    (hold : u.group.obj < T.nextObj + 1) :
    Owned ⟨u :: T.tasks, T.nextObj + 1⟩ (T.newPid nr) u.group := by
  refine ⟨Nat.lt_succ_self _, hold, ?_, ?_, ?_, hg⟩
  · intro v hv hp
    rcases List.mem_cons.mp hv with rfl | hv
    · rfl
    · have hlt := (h v hv).1.old
      rw [hp] at hlt
      exact absurd hlt (lt_irrefl _)
  · intro v hv hp
    rcases List.mem_cons.mp hv with rfl | hv
    · exact hp
    · have hlt := (h v hv).2.old
      rw [hp] at hlt
      exact absurd hlt (lt_irrefl _)
  · intro h1
    exact absurd h1 (newPid_ne_init hnr)

theorem fork_evolves (hs : fork T t nr = some T') : Evolves T T' := by
  unfold fork at hs
  split at hs
  · obtain rfl := Option.some.inj hs
    refine ⟨Nat.le_succ _, ?_, ?_⟩
    · intro u hu
      rcases List.mem_cons.mp hu with rfl | hu
      · exact Or.inr (Or.inl rfl)
      · exact Or.inl hu
    · intro u hu
      rcases List.mem_cons.mp hu with rfl | hu
      · exact Or.inl rfl
      · exact Or.inr ⟨u, hu, rfl⟩
  · cases hs

theorem clone_evolves (hs : clone_thread T t nr = some T') : Evolves T T' := by
  unfold clone_thread at hs
  split at hs
  · rename_i hc
    obtain rfl := Option.some.inj hs
    refine ⟨Nat.le_succ _, ?_, ?_⟩
    · intro u hu
      rcases List.mem_cons.mp hu with rfl | hu
      · exact Or.inr (Or.inl rfl)
      · exact Or.inl hu
    · intro u hu
      rcases List.mem_cons.mp hu with rfl | hu
      · exact Or.inr ⟨t, hc.1, rfl⟩
      · exact Or.inr ⟨u, hu, rfl⟩
  · cases hs

theorem exit_evolves (hs : exit T t = some T') : Evolves T T' := by
  unfold exit at hs
  split at hs
  · obtain rfl := Option.some.inj hs
    have hsub : ∀ u ∈ T.tasks.filter (· ≠ t), u ∈ T.tasks := fun u hu => List.mem_of_mem_filter hu
    exact ⟨le_rfl, fun u hu => Or.inl (hsub u hu), fun u hu => Or.inr ⟨u, hsub u hu, rfl⟩⟩
  · cases hs

theorem exec_evolves (hs : exec T t exe = some T') : Evolves T T' := by
  unfold exec at hs
  split at hs
  · rename_i hmem
    obtain rfl := Option.some.inj hs
    refine ⟨le_rfl, ?_, ?_⟩
    · intro u hu
      rcases List.mem_cons.mp hu with rfl | hu
      · exact Or.inr (Or.inr ⟨rfl, t, hmem, rfl⟩)
      · exact Or.inl (List.mem_of_mem_filter hu)
    · intro u hu
      rcases List.mem_cons.mp hu with rfl | hu
      · exact Or.inr ⟨t, hmem, rfl⟩
      · exact Or.inr ⟨u, List.mem_of_mem_filter hu, rfl⟩
  · cases hs

theorem fork_wellFormed (h : WellFormed T) (hs : fork T t nr = some T') : WellFormed T' := by
  have he := fork_evolves hs
  unfold fork at hs
  split at hs
  · rename_i hc
    obtain rfl := Option.some.inj hs
    intro u hu
    rcases List.mem_cons.mp hu with rfl | hu
    · have hnew := newPid_owned (u := ⟨T.newPid nr, T.newPid nr, t.exe⟩) h hc.2 rfl
        (fun h1 => absurd h1 (newPid_ne_init hc.2)) (Nat.lt_succ_self _)
      exact ⟨hnew, hnew⟩
    · exact ⟨(h u hu).1.evolves he, (h u hu).2.evolves he⟩
  · cases hs

theorem clone_wellFormed (h : WellFormed T) (hs : clone_thread T t nr = some T') :
    WellFormed T' := by
  have he := clone_evolves hs
  unfold clone_thread at hs
  split at hs
  · rename_i hc
    obtain rfl := Option.some.inj hs
    intro u hu
    rcases List.mem_cons.mp hu with rfl | hu
    · have hnew := newPid_owned (u := ⟨T.newPid nr, t.group, t.exe⟩) h hc.2 rfl
        (h t hc.1).1.initGroup (Nat.lt_succ_of_lt (h t hc.1).1.groupOld)
      exact ⟨hnew, (h t hc.1).2.evolves he⟩
    · exact ⟨(h u hu).1.evolves he, (h u hu).2.evolves he⟩
  · cases hs

theorem exit_wellFormed (h : WellFormed T) (hs : exit T t = some T') : WellFormed T' := by
  have he := exit_evolves hs
  unfold exit at hs
  split at hs
  · obtain rfl := Option.some.inj hs
    intro u hu
    have hold := h u (List.mem_of_mem_filter hu)
    exact ⟨hold.1.evolves he, hold.2.evolves he⟩
  · cases hs

theorem exec_wellFormed (h : WellFormed T) (hs : exec T t exe = some T') : WellFormed T' := by
  have he := exec_evolves hs
  unfold exec at hs
  split at hs
  · rename_i hmem
    obtain rfl := Option.some.inj hs
    intro u hu
    rcases List.mem_cons.mp hu with rfl | hu
    · have hgroup := (h t hmem).2.evolves he
      exact ⟨hgroup, hgroup⟩
    · have hold := h u (List.mem_of_mem_filter hu)
      exact ⟨hold.1.evolves he, hold.2.evolves he⟩
  · cases hs

end Transitions

end KernelAv.Kernel.Tasks
