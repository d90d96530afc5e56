/- digest: The hooks and work functions against the in-flight budget and its exec reservation. -/

import KernelAv.Lib.Admission

set_option autoImplicit false
set_option relaxedAutoImplicit false

namespace KernelAv.Kernel.InflightWork

open KernelAv.Lib.Run
open KernelAv.Lib.Admission

def AV_MAX_INFLIGHT_WORK : Nat := 4096
def AV_EXEC_RESERVED_WORK : Nat := 512

/-- What an event captures or allocates. `base` is the one captured directory of an execve,
execveat, openat or unlink event (`pwd` in `struct av_work`). -/
inductive Resource where
  | base
  | old_base
  | new_base
  | target_pid
  | work
  | abs_path
  | abs_old
  | abs_new
  deriving DecidableEq

instance : Fintype Resource :=
  Fintype.ofList [.base, .old_base, .new_base, .target_pid, .work, .abs_path, .abs_old, .abs_new]
    fun r => by cases r <;> decide

inductive Hook where
  | execve
  | execveat
  | openat
  | unlink
  | unlinkat
  | rename
  | renameat
  | renameat2
  deriving DecidableEq

/-- The hooks that call `av_work_admit` instead of `av_work_admit_nonexec`. -/
def Hook.exec : Hook → Bool
  | .execve => true
  | .execveat => true
  | _ => false

def av_work_cap (hook : Hook) : Int :=
  if hook.exec then AV_MAX_INFLIGHT_WORK else AV_MAX_INFLIGHT_WORK - AV_EXEC_RESERVED_WORK

abbrev Steps : Type := Code Resource

namespace Work

/-- `put_pid`, `kfree` of the work struct, `av_work_release`. -/
def finish : Steps := .put .target_pid (.put .work (.release .done))

/-- The label `out` of `av_work_fn`. -/
def out : Steps := .put .abs_path (.put .base finish)

/-- The daemon's verdict: malicious, clean, none with the policy fail-closed, none without. -/
def daemon : Steps :=
  .act (.check (.check (.check (.act out) (.act out)) (.act out)) (.act out))

def av_work_fn : Steps :=
  .tryTake .abs_path (.put .base finish)
    (.act (.check out (.act (.check daemon (.act out)))))

/-- `av_openat_work_fn` and `av_unlink_work_fn`: resolve the path and check it. -/
def one_path_work_fn : Steps :=
  .tryTake .abs_path (.put .base finish) (.act (.act (.put .abs_path (.put .base finish))))

def av_openat_work_fn : Steps := one_path_work_fn

def av_unlink_work_fn : Steps := one_path_work_fn

def put_bases (k : Steps) : Steps := .put .old_base (.put .new_base k)

def av_rename_work_fn : Steps :=
  .tryTake .abs_old (put_bases finish)
    (.tryTake .abs_new (.put .abs_old (put_bases finish))
      (.act (.act (.act (.put .abs_new (.put .abs_old (put_bases finish)))))))

end Work

open Work

/-- execve: the registers, the name pointer, admission, the work struct, the copy of the name, then
pid and cwd, and the work item on its queue. -/
def handler_pre : Steps :=
  .check .done (.check .done
    (.attempt (.undo .done)
      (.tryTake .work (.release .done)
        (.check (.put .work (.release .done))
          (.take .target_pid (.take .base (.act av_work_fn)))))))

def handler_pre_execveat : Steps :=
  .check .done (.check .done
    (.tryTake .base .done
      (.attempt (.undo (.put .base .done))
        (.tryTake .work (.put .base (.release .done))
          (.check (.put .base (.put .work (.release .done)))
            (.take .target_pid (.act av_work_fn)))))))

/-- What `handler_pre_openat` and `schedule_unlink_work` do from `resolve_dfd_path` on. -/
def schedule_one_path (work_fn : Steps) : Steps :=
  .tryTake .base .done
    (.attempt (.undo (.put .base .done))
      (.tryTake .work (.put .base (.release .done))
        (.check (.put .base (.put .work (.release .done)))
          (.take .target_pid (.act work_fn)))))

/-- openat tests its flags, beside the registers and the name pointer. -/
def handler_pre_openat : Steps :=
  .check .done (.check .done (.check .done (schedule_one_path av_openat_work_fn)))

def schedule_unlink_work : Steps :=
  .check .done (schedule_one_path av_unlink_work_fn)

def handler_pre_unlink : Steps := .check .done schedule_unlink_work

def handler_pre_unlinkat : Steps := .check .done schedule_unlink_work

def schedule_rename_work : Steps :=
  .check .done
    (.tryTake .old_base .done
      (.tryTake .new_base (.put .old_base .done)
        (.attempt (.undo (put_bases .done))
          (.tryTake .work (put_bases (.release .done))
            (.check (put_bases (.put .work (.release .done)))
              (.check (put_bases (.put .work (.release .done)))
                (.take .target_pid (.act av_rename_work_fn))))))))

def handler_pre_rename : Steps := .check .done schedule_rename_work

def handler_pre_renameat : Steps := .check .done schedule_rename_work

def handler_pre_renameat2 : Steps := .check .done schedule_rename_work

/-- What an event of the hook runs, in the hook and then on the workqueue. -/
def program : Hook → Steps
  | .execve => handler_pre
  | .execveat => handler_pre_execveat
  | .openat => handler_pre_openat
  | .unlink => handler_pre_unlink
  | .unlinkat => handler_pre_unlinkat
  | .rename => handler_pre_rename
  | .renameat => handler_pre_renameat
  | .renameat2 => handler_pre_renameat2

abbrev Events : Type := State Hook Resource

/-- Any number of events, each atomic step in any order. -/
abbrev inflight (s : Events) (a : Action Hook) : Option Events := step program av_work_cap s a

/-- The work struct is allocated after admission and freed before the release. -/
def inside : Resource → Bool
  | .work => true
  | _ => false

theorem program_balanced (hook : Hook) : balanced inside Ledger.start (program hook) = true := by
  cases hook <;> decide

def execAdmitted (s : Events) : Nat := s.events.countP fun e => e.kind.exec && e.live

def admitted (s : Events) : Nat := s.events.countP Event.live

/-- Refused attempts between their increment and their decrement. -/
def trials (s : Events) : Nat := s.events.countP Event.trial

/-- What holds of the accounting in one state. -/
structure Accounted (s : Events) : Prop where
  released_once : ∀ e ∈ s.events,
    e.trace.count .released ≤ e.trace.count .admitted ∧ e.trace.count .admitted ≤ 1
  put_once : ∀ e ∈ s.events, ∀ r,
    e.trace.count (.put r) ≤ e.trace.count (.took r) ∧ e.trace.count (.took r) ≤ 1
  finished : ∀ e ∈ s.events, e.code = .done →
    e.trace.count .released = e.trace.count .admitted ∧
      ∀ r, e.trace.count (.put r) = e.trace.count (.took r)
  goes_on : ∀ i e, s.events[i]? = some e → e.code ≠ .done → ∀ ok,
    ∃ s', inflight s (.advance i ok) = some s'
  ends : ∀ i e, s.events[i]? = some e → ∀ as s', run inflight s as = some s' →
    as.countP (Action.ofParty i) ≤ e.code.height
  works : s.events.countP (Event.holds .work) ≤ AV_MAX_INFLIGHT_WORK
  nonexec_works : s.events.countP (fun e => !e.kind.exec && e.holds .work) ≤
    AV_MAX_INFLIGHT_WORK - AV_EXEC_RESERVED_WORK

/-- The step refuses the event at `i`. -/
def Refuses (s s' : Events) (i : Nat) : Prop :=
  ∃ e e', s.events[i]? = some e ∧ s'.events[i]? = some e' ∧ e'.trace = .refused :: e.trace

/-- A step that refuses an exec event finds the reservation used up by exec events. -/
def Reserved (s : Events) : Action Hook → Prop
  | .enter _ => True
  | .advance i ok => ∀ e s', s.events[i]? = some e → e.kind.exec = true →
      inflight s (.advance i ok) = some s' → Refuses s s' i → AV_EXEC_RESERVED_WORK ≤ execAdmitted s

/-- At an exec attempt that the reservation covers, refused attempts that did not undo their
increment yet leave a free slot. -/
def Headroom (s : Events) : Action Hook → Prop
  | .enter _ => True
  | .advance i _ => ∀ e, s.events[i]? = some e → e.kind.exec = true →
      (∃ fail k, e.code = .attempt fail k) → execAdmitted s < AV_EXEC_RESERVED_WORK →
        trials s < AV_MAX_INFLIGHT_WORK - admitted s

section Runs

variable {s s' : Events} {as : List (Action Hook)}

private theorem inv_of_run (h : run inflight State.boot as = some s) : Inv inside s :=
  run_inv program_balanced h

private theorem live_of_work (h : Inv inside s) :
    s.events.countP (Event.holds .work) ≤ s.events.countP Event.live :=
  List.countP_mono_left fun e he hwork => (h.tidy e he).matched.inside .work rfl hwork

private theorem live_of_nonexec_work (h : Inv inside s) :
    s.events.countP (fun e => !e.kind.exec && e.holds .work) ≤
      s.events.countP fun e => !e.kind.exec && e.live := by
  refine List.countP_mono_left fun e he hwork => ?_
  obtain ⟨hkind, hheld⟩ := Bool.and_eq_true_iff.mp hwork
  exact Bool.and_eq_true_iff.mpr ⟨hkind, (h.tidy e he).matched.inside .work rfl hheld⟩

private theorem admitted_le_max (h : run inflight State.boot as = some s) :
    s.events.countP Event.live ≤ AV_MAX_INFLIGHT_WORK := by
  have hle : (s.events.countP (fun e => true && e.live) : Int) ≤ AV_MAX_INFLIGHT_WORK :=
    admitted_le program_balanced (fun _ => true) (Int.natCast_nonneg _)
      (fun kind _ => by cases kind <;> decide) h
  simpa using hle

private theorem nonexec_le_max (h : run inflight State.boot as = some s) :
    s.events.countP (fun e => !e.kind.exec && e.live) ≤
      AV_MAX_INFLIGHT_WORK - AV_EXEC_RESERVED_WORK := by
  have hle : (s.events.countP (fun e => !e.kind.exec && e.live) : Int) ≤
      (AV_MAX_INFLIGHT_WORK - AV_EXEC_RESERVED_WORK : Nat) :=
    admitted_le program_balanced (fun hook => !hook.exec) (Int.natCast_nonneg _)
      (fun kind hkind => by cases kind <;> revert hkind <;> decide) h
  exact Int.ofNat_le.mp hle

theorem accounted (h : run inflight State.boot as = some s) : Accounted s := by
  have hinv := inv_of_run h
  refine ⟨fun e he => ?_, fun e he r => ?_, fun e he hdone => ?_, fun i e he hcode ok => ?_,
    fun i e he as s' hr => ?_, ?_, ?_⟩
  · have hm := (hinv.tidy e he).matched
    exact ⟨hm.released, hm.admitted⟩
  · have hm := (hinv.tidy e he).matched
    exact ⟨hm.put r, hm.took r⟩
  · have hfin := (hinv.tidy e he).matched.finished hdone
    exact ⟨hfin.1, hfin.2.2⟩
  · obtain ⟨s', -, hs', -⟩ := progress he hcode ok
    exact ⟨s', hs'⟩
  · obtain ⟨e', -, hle⟩ := steps_le he hr
    omega
  · exact (live_of_work hinv).trans (admitted_le_max h)
  · exact (live_of_nonexec_work hinv).trans (nonexec_le_max h)

private theorem admitted_eq (s : Events) :
    admitted s = execAdmitted s + s.events.countP fun e => !e.kind.exec && e.live := by
  rw [admitted, execAdmitted]
  induction s.events with
  | nil => rfl
  | cons e es ih =>
    rw [List.countP_cons, List.countP_cons, List.countP_cons, ih]
    cases e.kind.exec <;> cases e.live <;> simp <;> omega

/-- At one attempt of an exec event, whether the reservation holds is a matter of the free slots. -/
private theorem reserved_iff_headroom (h : Inv inside s) (a : Action Hook) :
    Reserved s a ↔ Headroom s a := by
  cases a with
  | enter hook => exact Iff.rfl
  | advance i ok =>
    constructor
    · intro hres e he hexec ⟨fail, k, hcode⟩ hfew
      obtain ⟨s', -, hs', -⟩ : ∃ s' e', inflight s (.advance i ok) = some s' ∧
          s'.events[i]? = some e' ∧ e'.code.height < e.code.height ∧
            ∀ j, j ≠ i → s'.events[j]? = s.events[j]? :=
        progress he (by rw [hcode]; exact nofun) ok
      have hcap : av_work_cap e.kind = AV_MAX_INFLIGHT_WORK := if_pos hexec
      have href := refused_iff h he hcode hs'
      by_contra hfull
      obtain ⟨e', he', htrace⟩ := href.mpr (by
        rw [hcap]
        rw [trials, admitted] at hfull
        omega)
      have := hres e s' he hexec hs' ⟨e, e', he, he', htrace⟩
      omega
    · rintro hroom e s' he hexec hs' ⟨e₀, e', he₀, he', htrace⟩
      obtain rfl := Option.some.inj (he.symm.trans he₀)
      obtain ⟨fail, k, hcode⟩ := admit_of_refused he hs' he' htrace
      have hcap : av_work_cap e.kind = AV_MAX_INFLIGHT_WORK := if_pos hexec
      have hfull := (refused_iff h he hcode hs').mp ⟨e', he', htrace⟩
      rw [hcap] at hfull
      by_contra hfew
      have hfree := hroom e he hexec ⟨fail, k, hcode⟩ (Nat.lt_of_not_le hfew)
      rw [trials, admitted] at hfree
      omega

/-- Without a refused attempt on its way the reservation is there. -/
theorem headroom_of_no_trials (h : run inflight State.boot as = some s) (htrials : trials s = 0)
    (a : Action Hook) : Headroom s a := by
  cases a with
  | enter hook => trivial
  | advance i ok =>
    intro e _ _ _ hfew
    have hle := nonexec_le_max h
    have heq := admitted_eq s
    have hmax : AV_EXEC_RESERVED_WORK ≤ AV_MAX_INFLIGHT_WORK := by decide
    omega

/-- In every run the accounting holds, and the reservation holds at each step of the run exactly
when each step of it finds headroom. -/
theorem inflight_accounted (h : run inflight State.boot as = some s) :
    Accounted s ∧
      (Guarded inflight Reserved State.boot as ↔ Guarded inflight Headroom State.boot as) := by
  have hstep : ∀ (t : Events) (a : Action Hook) (t' : Events), Inv inside t →
      inflight t a = some t' → Inv inside t' :=
    fun t a t' hinv hs => step_inv program_balanced hinv hs
  refine ⟨accounted h, fun hg => ?_, fun hg => ?_⟩
  · exact hg.imp_of_invariant (Inv inside) (fun t a t' hinv _ hs => hstep t a t' hinv hs)
      (fun t a hinv hres => (reserved_iff_headroom hinv a).mp hres) boot_inv
  · exact hg.imp_of_invariant (Inv inside) (fun t a t' hinv _ hs => hstep t a t' hinv hs)
      (fun t a hinv hroom => (reserved_iff_headroom hinv a).mpr hroom) boot_inv

/-- An execve event without a failure, from its hook to the end of its work item. -/
theorem inflight_accounted_execve :
    let as : List (Action Hook) := .enter .execve :: List.replicate 19 (.advance 0 true)
    let s : Events := ⟨0, [⟨.execve, .done, [.released, .put .work, .put .target_pid, .put .base,
      .put .abs_path, .took .abs_path, .took .base, .took .target_pid, .took .work, .admitted]⟩]⟩
    run inflight State.boot as = some s ∧ Accounted s ∧
      (Guarded inflight Reserved State.boot as ↔ Guarded inflight Headroom State.boot as) :=
  ⟨rfl, inflight_accounted rfl⟩

/-- A step of the last of the events present. -/
private theorem step_last {c d : Int} {es : List (Event Hook Resource)} {hook : Hook}
    {code k : Steps} {trace : List (Mark Resource)} {ok : Bool} {m : Option (Mark Resource)}
    (hn : code.next ok (decide (c + 1 ≤ av_work_cap hook)) = some (m, k)) (hd : c + delta m = d) :
    inflight ⟨c, es ++ [⟨hook, code, trace⟩]⟩ (.advance es.length ok) =
      some ⟨d, es ++ [⟨hook, k, m.toList ++ trace⟩]⟩ := by
  have hat : (es ++ [(⟨hook, code, trace⟩ : Event Hook Resource)])[es.length]? =
      some ⟨hook, code, trace⟩ := by
    rw [List.getElem?_append_right (Nat.le_refl _), Nat.sub_self]
    rfl
  have hset : ∀ e x : Event Hook Resource, (es ++ [e]).set es.length x = es ++ [x] := by
    intro e x
    rw [List.set_append_right _ _ (Nat.le_refl _), Nat.sub_self]
    rfl
  simp only [inflight, step, hat, hn, hset, hd]

private theorem run_append {s t u : Events} {as bs : List (Action Hook)}
    (h : run inflight s as = some t) (h' : run inflight t bs = some u) :
    run inflight s (as ++ bs) = some u := by
  induction as generalizing s with
  | nil =>
    obtain rfl := Option.some.inj h
    exact h'
  | cons a as ih =>
    obtain ⟨v, hv, hrun⟩ := run_cons.mp h
    exact run_cons.mpr ⟨v, hv, ih hrun⟩

section Reach

variable (c : Int) (es : List (Event Hook Resource))

private theorem openat_attempt : ∃ as fail k trace, run inflight ⟨c, es⟩ as =
    some ⟨c, es ++ [⟨.openat, .attempt fail k, trace⟩]⟩ :=
  have hstart : inflight ⟨c, es⟩ (.enter .openat) =
      some ⟨c, es ++ [⟨.openat, program .openat, []⟩]⟩ := rfl
  ⟨.enter .openat :: List.replicate 4 (.advance es.length true), _, _, _,
    run_cons.mpr ⟨_, hstart, run_cons.mpr ⟨_, step_last rfl (Int.add_zero c),
      run_cons.mpr ⟨_, step_last rfl (Int.add_zero c),
        run_cons.mpr ⟨_, step_last rfl (Int.add_zero c),
          run_cons.mpr ⟨_, step_last rfl (Int.add_zero c), rfl⟩⟩⟩⟩⟩⟩

private theorem execve_attempt : ∃ as fail k, run inflight ⟨c, es⟩ as =
    some ⟨c, es ++ [⟨.execve, .attempt fail k, []⟩]⟩ :=
  have hstart : inflight ⟨c, es⟩ (.enter .execve) =
      some ⟨c, es ++ [⟨.execve, program .execve, []⟩]⟩ := rfl
  ⟨.enter .execve :: List.replicate 2 (.advance es.length true), _, _,
    run_cons.mpr ⟨_, hstart, run_cons.mpr ⟨_, step_last rfl (Int.add_zero c),
      run_cons.mpr ⟨_, step_last rfl (Int.add_zero c), rfl⟩⟩⟩⟩

/-- An openat attempt raises the counter, admitted or not. -/
private theorem openat_counted : ∃ as e, run inflight ⟨c, es⟩ as = some ⟨c + 1, es ++ [e]⟩ ∧
    e.kind = .openat := by
  obtain ⟨as, fail, k, trace, hrun⟩ := openat_attempt c es
  have hattempt : ∃ m k', (Code.attempt fail k).next true
      (decide (c + 1 ≤ av_work_cap .openat)) = some (m, k') ∧ delta m = 1 := by
    cases decide (c + 1 ≤ av_work_cap .openat)
    · exact ⟨_, _, rfl, rfl⟩
    · exact ⟨_, _, rfl, rfl⟩
  obtain ⟨m, k', hn, hdelta⟩ := hattempt
  have hstep : inflight ⟨c, es ++ [⟨.openat, .attempt fail k, trace⟩]⟩ (.advance es.length true) =
      some ⟨c + 1, es ++ [⟨.openat, k', m.toList ++ trace⟩]⟩ :=
    step_last hn (congrArg (c + ·) hdelta)
  exact ⟨as ++ [.advance es.length true], ⟨.openat, k', m.toList ++ trace⟩,
    run_append hrun (run_cons.mpr ⟨_, hstep, rfl⟩), rfl⟩

/-- An execve attempt that finds room is admitted. -/
private theorem execve_admitted (hroom : c + 1 ≤ AV_MAX_INFLIGHT_WORK) : ∃ as e,
    run inflight ⟨c, es⟩ as = some ⟨c + 1, es ++ [e]⟩ ∧ (e.kind.exec && e.live) = true := by
  obtain ⟨as, fail, k, hrun⟩ := execve_attempt c es
  have hn : (Code.attempt fail k).next true (decide (c + 1 ≤ av_work_cap .execve)) =
      some (some .admitted, k) := if_pos (decide_eq_true hroom)
  exact ⟨as ++ [.advance es.length true], ⟨.execve, k, [.admitted]⟩,
    run_append hrun (run_cons.mpr ⟨_, step_last hn rfl, rfl⟩), rfl⟩

end Reach

private theorem reaches_openat (n : Nat) : ∃ as s, run inflight State.boot as = some s ∧
    s.counter = n ∧ execAdmitted s = 0 := by
  induction n with
  | zero => exact ⟨[], _, rfl, rfl, rfl⟩
  | succ n ih =>
    obtain ⟨as, s, hrun, hcounter, hexec⟩ := ih
    obtain ⟨bs, e, hrun', hkind⟩ := openat_counted s.counter s.events
    refine ⟨as ++ bs, _, run_append hrun hrun', by rw [hcounter]; rfl, ?_⟩
    rw [execAdmitted, List.countP_append, ← execAdmitted, hexec]
    simp [hkind, Hook.exec]

private theorem reaches_execve {n m : Nat} (hle : n + m ≤ AV_MAX_INFLIGHT_WORK) :
    ∃ as s, run inflight State.boot as = some s ∧ s.counter = (n + m : Nat) ∧
      execAdmitted s = m := by
  induction m with
  | zero => exact reaches_openat n
  | succ m ih =>
    obtain ⟨as, s, hrun, hcounter, hexec⟩ := ih (by omega)
    obtain ⟨bs, e, hrun', he⟩ := execve_admitted s.counter s.events (by rw [hcounter]; omega)
    refine ⟨as ++ bs, _, run_append hrun hrun', by rw [hcounter]; rfl, ?_⟩
    rw [execAdmitted, List.countP_append, ← execAdmitted, hexec, List.countP_singleton, if_pos he]

/-- With every slot of the other hooks taken and 511 exec events admitted, one openat attempt that
did not undo its increment yet is enough to refuse an execve. -/
theorem execve_refused_below_reserve : ∃ as s i e s',
    run inflight State.boot as = some s ∧ s.events[i]? = some e ∧ e.kind = .execve ∧
      inflight s (.advance i true) = some s' ∧ Refuses s s' i ∧ execAdmitted s = 511 := by
  obtain ⟨as, s, hrun, hcounter, hexec⟩ :=
    reaches_execve (n := 3584) (m := 511) (by decide)
  obtain ⟨bs, e, hrun', hkind⟩ := openat_counted s.counter s.events
  obtain ⟨cs, fail, k, hrun''⟩ := execve_attempt (s.counter + 1) (s.events ++ [e])
  have hn : (Code.attempt fail k).next true
      (decide (s.counter + 1 + 1 ≤ av_work_cap .execve)) = some (some .refused, fail) := by
    rw [hcounter]
    rfl
  have hlast : ∀ x : Event Hook Resource,
      (s.events ++ [e] ++ [x])[(s.events ++ [e]).length]? = some x := by
    intro x
    rw [List.getElem?_append_right (Nat.le_refl _), Nat.sub_self]
    rfl
  refine ⟨_, _, _, _, _, run_append hrun (run_append hrun' hrun''), hlast _, rfl,
    step_last hn rfl, ⟨_, _, hlast _, hlast _, rfl⟩, ?_⟩
  rw [execAdmitted, List.countP_append, List.countP_append, ← execAdmitted, hexec]
  simp [hkind, Hook.exec, Event.live]

end Runs

end KernelAv.Kernel.InflightWork
