/- digest: A process that unlinks its own file is convicted when its exec was recorded last. -/

import KernelAv.Kernel.BehaviorSystem

set_option autoImplicit false
set_option relaxedAutoImplicit false

namespace KernelAv.Kernel.SelfDelete

open KernelAv.Lib.CText
open KernelAv.Lib.Run
open KernelAv.Kernel.Paths
open KernelAv.Kernel.BehaviorTable
open KernelAv.Kernel.BehaviorChecks
open KernelAv.Kernel.BehaviorSystem
open KernelAv.Kernel.Kill (Detection)

variable {M : Machine}

/-- The process execed a file that can be hashed by a path of the same absolute form. -/
def SelfDeletes (M : Machine) (target : PathArg) (caller : Image) : Prop :=
  caller.exec_form = some target.form ∧ M.hashable caller.file = true

instance (target : PathArg) (caller : Image) : Decidable (SelfDeletes M target caller) :=
  inferInstanceAs (Decidable (_ ∧ _))

/-- The item of an unlink by which a process deletes its own executable decides to kill for it. -/
def DetectsSelfDelete (s : State M) : Action → Prop
  | .workUnlink tgid target caller io =>
      SelfDeletes M target caller → (s.unlinkWork tgid target.path io).detection =
        some (.behavioral (resolve_absolute_path io.resolve target.path PATH_MAX) selfDelete)
  | _ => True

/-- Such an item gets its buffer, resolves the path to an absolute one outside the pseudo file
systems, and finds that the last exec item recorded for the process had resolved to it. -/
def RecordedLast (s : State M) : Action → Prop
  | .workUnlink tgid target caller io =>
      SelfDeletes M target caller →
        let path := resolve_absolute_path io.resolve target.path PATH_MAX
        io.abs_path_ok = true ∧ path_is_pseudo_fs path = false ∧ path.head? = some slash ∧
          ∃ h ∈ lastRecorded tgid s.log, h.abs_path = path
  | _ => True

instance (s : State M) (a : Action) : Decidable (DetectsSelfDelete s a) :=
  match a with
  | .workUnlink .. => inferInstanceAs (Decidable (_ → _))
  | .spawn .. | .exit .. | .trustAdd .. | .trustDel .. | .execve .. | .execDone ..
  | .execFail .. | .openat .. | .unlink .. | .rename .. | .hashExec .. | .recordExec ..
  | .workOpenat .. | .workRename .. | .sweep => isTrue trivial

instance (s : State M) (a : Action) : Decidable (RecordedLast s a) :=
  match a with
  | .workUnlink .. => inferInstanceAs (Decidable (_ → _ ∧ _))
  | .spawn .. | .exit .. | .trustAdd .. | .trustDel .. | .execve .. | .execDone ..
  | .execFail .. | .openat .. | .unlink .. | .rename .. | .hashExec .. | .recordExec ..
  | .workOpenat .. | .workRename .. | .sweep => isTrue trivial

/-- What the item finds in the table is what the history says. -/
private theorem recorded_iff {s : State M} (h : Consistent s) {tgid : Nat} {path : Bytes}
    (hslash : path.head? = some slash) :
    (recordOf s.behavior tgid).exec_path = path ↔
      ∃ r ∈ lastRecorded tgid s.log, r.abs_path = path := by
  have hmatch := h tgid
  cases hlast : lastRecorded tgid s.log with
  | none =>
    rw [hlast] at hmatch
    rw [hmatch.1]
    constructor
    · rintro rfl
      cases hslash
    · rintro ⟨r, hr, -⟩
      cases hr
  | some r =>
    rw [hlast] at hmatch
    rw [show recordOf s.behavior tgid = ⟨r.abs_path, r.trusted, r.call.start_time⟩ from hmatch]
    constructor
    · intro hpath
      exact ⟨r, rfl, hpath⟩
    · rintro ⟨x, hx, hpath⟩
      obtain rfl := Option.some.inj hx
      exact hpath

/-- One item: it convicts exactly when its exec was recorded last. -/
theorem detects_iff {s : State M} (h : Consistent s) (a : Action) :
    DetectsSelfDelete s a ↔ RecordedLast s a := by
  cases a with
  | workUnlink tgid target caller io =>
    unfold DetectsSelfDelete RecordedLast
    refine forall_congr' fun _ => ?_
    unfold State.unlinkWork
    cases hbuf : io.abs_path_ok with
    | false => simp [CheckResult.early]
    | true =>
      simp only [Bool.not_true, Bool.false_eq_true, if_false, true_and]
      rw [check_unlink_selfDelete_iff]
      refine and_congr_right fun _ => and_congr_right fun hslash => ?_
      exact recorded_iff h hslash
  | _ => exact Iff.rfl

/-- In a run every self-deletion is decided on exactly when each of their items finds the exec of
the same path recorded last. -/
theorem self_delete_detected_iff {as : List Action} :
    Guarded step DetectsSelfDelete (State.boot M) as ↔
      Guarded step RecordedLast (State.boot M) as := by
  have hinv : ∀ ok : State M → Action → Prop, ∀ s a s', Consistent s → ok s a →
      step s a = some s' → Consistent s' := fun _ _ _ _ hi _ hs => step_consistent hi hs
  constructor
  · exact Guarded.imp_of_invariant Consistent (hinv _) (fun s a hi => (detects_iff hi a).mp)
      (consistent_boot M)
  · exact Guarded.imp_of_invariant Consistent (hinv _) (fun s a hi => (detects_iff hi a).mpr)
      (consistent_boot M)

private def payload : PathArg := ⟨lit "/tmp/x", [slash]⟩

private def execPayload : ExecCall := ⟨5, payload, 1⟩

private def dropper : List Action :=
  [.spawn 5 ⟨1, ⟨0, none⟩⟩, .execve execPayload, .execDone execPayload 2]

/-- The exec item runs first. -/
private def inOrder : List Action :=
  dropper ++ [.hashExec execPayload quietIo (some 2),
    .recordExec ⟨execPayload, lit "/tmp/x", by decide, List.replicate 64 50, false, 0⟩ quietIo,
    .unlink 5 payload, .workUnlink 5 payload ⟨2, some (lit "/tmp/x")⟩ quietIo]

theorem exec_item_first_detected :
    ∃ s, run step (State.boot digitMachine) inOrder = some s ∧
      Guarded step DetectsSelfDelete (State.boot digitMachine) inOrder := by
  have hsome : (run step (State.boot digitMachine) inOrder).isSome = true := by decide +kernel
  obtain ⟨s, hr⟩ := Option.isSome_iff_exists.mp hsome
  exact ⟨s, hr, self_delete_detected_iff.mpr (by decide +kernel)⟩

/-- The unlink item runs while the exec item is still hashing. -/
private def unlinkFirst : List Action :=
  dropper ++ [.unlink 5 payload, .workUnlink 5 payload ⟨2, some (lit "/tmp/x")⟩ quietIo]

theorem unlink_item_first_undetected :
    ¬ ∀ (M : Machine) (as : List Action) (s : State M), run step (State.boot M) as = some s →
        Guarded step DetectsSelfDelete (State.boot M) as := by
  intro hall
  have hsome : (run step (State.boot digitMachine) unlinkFirst).isSome = true := by decide +kernel
  obtain ⟨s, hr⟩ := Option.isSome_iff_exists.mp hsome
  have hmissed : ¬ Guarded step DetectsSelfDelete (State.boot digitMachine) unlinkFirst := by
    decide +kernel
  exact hmissed (hall digitMachine unlinkFirst s hr)

end KernelAv.Kernel.SelfDelete
