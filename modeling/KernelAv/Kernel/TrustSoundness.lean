/- digest: The counters are skipped for trusted executables, as long as the record is current. -/

import KernelAv.Kernel.BehaviorSystem

set_option autoImplicit false
set_option relaxedAutoImplicit false

namespace KernelAv.Kernel.TrustSoundness

open KernelAv.Lib.CText
open KernelAv.Lib.Run
open KernelAv.Kernel.Paths
open KernelAv.Kernel.BehaviorTable
open KernelAv.Kernel.BehaviorChecks
open KernelAv.Kernel.BehaviorSystem
open KernelAv.Kernel.TrustTable (hash_is_trusted av_behavior_trust_add av_behavior_trust_del
  SHA256_HEX_LEN trusted_after_add trusted_after_del del_failed)

variable {M : Machine}

/-- The executable the process runs, if it lives, is on the trust list. -/
def ImageTrusted (s : State M) (tgid : Nat) : Prop :=
  ∀ p ∈ s.procs tgid, hash_is_trusted s.trust (M.sha256 p.image.file) = true

/-- A check that skips the volume counter on the word of the entry skips it for a process that
runs a trusted executable. -/
def ExemptsTrusted (s : State M) : Action → Prop
  | .workOpenat tgid path flags io =>
      (s.openatWork tgid path flags io).exempt = true → ImageTrusted s tgid
  | .workRename tgid oldpath newpath io io' =>
      (s.renameWork tgid oldpath newpath io io').exempt = true → ImageTrusted s tgid
  | _ => True

/-- Some trust del since the `n`-th event of the run took the hash off the list. -/
def deletedSince (log : List Event) (n : Nat) (sha256 : Bytes) : Bool :=
  (log.take (log.length - n)).any fun
    | .untrusted hex => strncaseeq SHA256_HEX_LEN hex sha256
    | _ => false

/-- If the last item recorded for a live process found its hash trusted, then this is the hash of
the file that the process runs, and no trust del has named it since it was looked up. -/
def RecordCurrent (s : State M) (tgid : Nat) : Prop :=
  ∀ p ∈ s.procs tgid, ∀ h ∈ lastRecorded tgid s.log, h.trusted = true →
    h.sha256 = M.sha256 p.image.file ∧ deletedSince s.log h.at_event h.sha256 = false

def ChecksCurrent (s : State M) : Action → Prop
  | .workOpenat tgid _ _ _ => RecordCurrent s tgid
  | .workRename tgid _ _ _ _ => RecordCurrent s tgid
  | _ => True

instance (s : State M) (tgid : Nat) : Decidable (ImageTrusted s tgid) :=
  inferInstanceAs (Decidable (∀ p ∈ s.procs tgid, _))

instance (s : State M) (tgid : Nat) : Decidable (RecordCurrent s tgid) :=
  inferInstanceAs (Decidable (∀ p ∈ s.procs tgid, _))

instance (s : State M) (a : Action) : Decidable (ExemptsTrusted s a) :=
  match a with
  | .workOpenat .. | .workRename .. => inferInstanceAs (Decidable (_ → _))
  | .spawn .. | .exit .. | .trustAdd .. | .trustDel .. | .execve .. | .execDone ..
  | .execFail .. | .openat .. | .unlink .. | .rename .. | .hashExec .. | .recordExec ..
  | .workUnlink .. | .sweep => isTrue trivial

instance (s : State M) (a : Action) : Decidable (ChecksCurrent s a) :=
  match a with
  | .workOpenat tgid .. | .workRename tgid .. => inferInstanceAs (Decidable (RecordCurrent s tgid))
  | .spawn .. | .exit .. | .trustAdd .. | .trustDel .. | .execve .. | .execDone ..
  | .execFail .. | .openat .. | .unlink .. | .rename .. | .hashExec .. | .recordExec ..
  | .workUnlink .. | .sweep => isTrue trivial

/-- A hash that an item found trusted is still trusted unless it was deleted since. -/
def Backed (s : State M) (h : HashedExec) : Prop :=
  h.trusted = true → h.at_event ≤ s.log.length ∧
    (deletedSince s.log h.at_event h.sha256 = false → hash_is_trusted s.trust h.sha256 = true)

/-- Every item that looked its hash up, run or not, is backed. -/
structure TrustClock (s : State M) : Prop where
  queued : ∀ h, Item.record h ∈ s.queue → Backed s h
  recorded : ∀ h, Event.recorded h ∈ s.log → Backed s h

section Steps

variable {s s' : State M} {a : Action}

private theorem deletedSince_append {ev log : List Event} {n : Nat} {sha256 : Bytes}
    (hn : n ≤ log.length) (h : deletedSince (ev ++ log) n sha256 = false) :
    (∀ hex, Event.untrusted hex ∈ ev → strncaseeq SHA256_HEX_LEN hex sha256 = false) ∧
      deletedSince log n sha256 = false := by
  have htake : (ev ++ log).take ((ev ++ log).length - n) = ev ++ log.take (log.length - n) := by
    rw [List.length_append, Nat.add_sub_assoc hn, List.take_length_add_append]
  unfold deletedSince at h ⊢
  rw [htake, List.any_append, Bool.or_eq_false_iff] at h
  refine ⟨?_, h.2⟩
  intro hex hmem
  exact Bool.eq_false_iff.mpr (List.any_eq_false.mp h.1 _ hmem)

/-- What a step adds to the log, and keeps of the trust list. -/
private theorem backed_step {h : HashedExec} {ev : List Event} (hb : Backed s h)
    (hlog : s'.log = ev ++ s.log)
    (htrust : ∀ sha, (∀ hex, Event.untrusted hex ∈ ev → strncaseeq SHA256_HEX_LEN hex sha = false) →
      hash_is_trusted s.trust sha = true → hash_is_trusted s'.trust sha = true) :
    Backed s' h := by
  intro ht
  obtain ⟨hle, hkept⟩ := hb ht
  refine ⟨?_, ?_⟩
  · rw [hlog, List.length_append]
    omega
  · intro hdel
    rw [hlog] at hdel
    obtain ⟨hnew, hold⟩ := deletedSince_append hle hdel
    exact htrust _ hnew (hkept hold)

/-- A step that looks up no hash. -/
private theorem clock_step {ev : List Event} (h : TrustClock s) (hlog : s'.log = ev ++ s.log)
    (htrust : ∀ sha, (∀ hex, Event.untrusted hex ∈ ev → strncaseeq SHA256_HEX_LEN hex sha = false) →
      hash_is_trusted s.trust sha = true → hash_is_trusted s'.trust sha = true)
    (hqueue : ∀ r, Item.record r ∈ s'.queue → Item.record r ∈ s.queue)
    (hev : ∀ r, Event.recorded r ∈ ev → Item.record r ∈ s.queue) : TrustClock s' := by
  refine ⟨?_, ?_⟩
  · intro r hr
    exact backed_step (h.queued r (hqueue r hr)) hlog htrust
  · intro r hr
    rw [hlog] at hr
    rcases List.mem_append.mp hr with hr | hr
    · exact backed_step (h.queued r (hev r hr)) hlog htrust
    · exact backed_step (h.recorded r hr) hlog htrust

/-- A step that concerns neither the trust list nor the log. -/
private theorem clock_quiet (h : TrustClock s) (hlog : s'.log = s.log) (htrust : s'.trust = s.trust)
    (hqueue : ∀ r, Item.record r ∈ s'.queue → Item.record r ∈ s.queue) : TrustClock s' :=
  clock_step h (show s'.log = [] ++ s.log from hlog) (fun _ _ ht => by rw [htrust]; exact ht) hqueue
    (fun _ hr => absurd hr List.not_mem_nil)

private theorem mem_push {item : Item} {r : HashedExec} (hne : ∀ h, item ≠ .record h)
    (hr : Item.record r ∈ (s.push item).queue) : Item.record r ∈ s.queue := by
  rcases List.mem_cons.mp hr with heq | hr
  · exact absurd heq.symm (hne r)
  · exact hr

private theorem clock_push {item : Item} (h : TrustClock s) (hne : ∀ r, item ≠ .record r) :
    TrustClock (s.push item) :=
  clock_quiet h rfl rfl fun _ hr => mem_push hne hr

private theorem clock_taken (h : TrustClock s) (item : Item) :
    TrustClock { s with queue := s.queue.erase item } :=
  clock_quiet h rfl rfl fun _ hr => List.mem_of_mem_erase hr

private theorem clock_checked (h : TrustClock s) (res : CheckResult M.hash) :
    TrustClock (s.checked res) := by
  refine clock_step h rfl (fun _ _ ht => ht) (fun _ hr => hr) ?_
  intro r hr
  cases hev : res.evicted with
  | none =>
    rw [hev] at hr
    cases hr
  | some p =>
    rw [hev] at hr
    cases List.mem_singleton.mp hr

private theorem clock_hashExec (h : TrustClock s) (call : ExecCall) (io : WorkIo)
    (opened : Option Nat) : TrustClock (s.hashExec call io opened) := by
  unfold State.hashExec
  split
  · exact h
  split
  · exact h
  refine ⟨?_, h.recorded⟩
  intro r hr
  rcases List.mem_cons.mp hr with heq | hr
  · obtain rfl := Item.record.inj heq
    intro ht
    exact ⟨le_rfl, fun _ => ht⟩
  · exact h.queued r hr

theorem step_clock (h : TrustClock s) (hs : step s a = some s') : TrustClock s' := by
  cases a with
  | spawn pid p =>
    simp only [step] at hs
    split at hs
    · obtain rfl := Option.some.inj hs
      exact clock_quiet h rfl rfl fun _ hr => hr
    · cases hs
  | exit pid =>
    obtain rfl := Option.some.inj hs
    exact clock_quiet h rfl rfl fun _ hr => hr
  | trustAdd ok hex name =>
    obtain rfl := Option.some.inj hs
    exact clock_step h (List.nil_append _).symm (fun _ _ ht => trusted_after_add ok ht)
      (fun _ hr => hr)
      (fun _ hr => absurd hr List.not_mem_nil)
  | trustDel hex =>
    obtain rfl := Option.some.inj hs
    refine clock_step h (show _ = (if (av_behavior_trust_del s.trust hex).1 = 0 then
      [Event.untrusted hex] else []) ++ s.log from rfl) ?_ (fun _ hr => hr) ?_
    · intro sha hnew ht
      by_cases hret : (av_behavior_trust_del s.trust hex).1 = 0
      · exact trusted_after_del (hnew hex (by rw [if_pos hret]; exact List.mem_singleton_self _)) ht
      · show hash_is_trusted (av_behavior_trust_del s.trust hex).2 sha = true
        rw [del_failed hret]
        exact ht
    · intro r hr
      split at hr
      · cases List.mem_singleton.mp hr
      · cases hr
  | execve call =>
    simp only [step] at hs
    split at hs
    · obtain rfl := Option.some.inj hs
      exact clock_quiet h rfl rfl fun _ hr => mem_push (by simp) hr
    · cases hs
  | execDone call file =>
    simp only [step] at hs
    split at hs
    · obtain ⟨p, -, rfl⟩ := Option.map_eq_some_iff.mp hs
      exact clock_quiet h rfl rfl fun _ hr => hr
    · cases hs
  | execFail call =>
    obtain rfl := Option.some.inj hs
    exact clock_quiet h rfl rfl fun _ hr => hr
  | openat tgid path flags =>
    obtain ⟨p, -, rfl⟩ := Option.map_eq_some_iff.mp hs
    exact clock_push h (by simp)
  | unlink tgid target =>
    obtain ⟨p, -, rfl⟩ := Option.map_eq_some_iff.mp hs
    exact clock_push h (by simp)
  | rename tgid oldpath newpath =>
    obtain ⟨p, -, rfl⟩ := Option.map_eq_some_iff.mp hs
    exact clock_push h (by simp)
  | hashExec call io opened =>
    obtain ⟨-, rfl⟩ := take_eq hs
    exact clock_hashExec (clock_taken h _) call io opened
  | recordExec hashed io =>
    obtain ⟨hmem, rfl⟩ := take_eq hs
    refine clock_step h rfl (fun _ _ ht => ht) (fun _ hr => List.mem_of_mem_erase hr) ?_
    intro r hr
    rcases List.mem_append.mp hr with hr | hr
    · split at hr
      · obtain rfl := Event.recorded.inj (List.mem_singleton.mp hr)
        exact hmem
      · cases hr
    · obtain ⟨p, -, hp⟩ := Option.map_eq_some_iff.mp (Option.mem_toList.mp hr)
      cases hp
  | workOpenat tgid path flags io =>
    obtain ⟨-, rfl⟩ := take_eq hs
    exact clock_checked (clock_taken h _) _
  | workUnlink tgid target caller io =>
    obtain ⟨-, rfl⟩ := take_eq hs
    exact clock_checked (clock_taken h _) _
  | workRename tgid oldpath newpath io io' =>
    obtain ⟨-, rfl⟩ := take_eq hs
    exact clock_checked (clock_taken h _) _
  | sweep =>
    obtain rfl := Option.some.inj hs
    refine clock_step h rfl (fun _ _ ht => ht) (fun _ hr => hr) ?_
    intro r hr
    cases List.mem_singleton.mp hr

end Steps

private theorem clock_boot (M : Machine) : TrustClock (State.boot M) :=
  ⟨fun _ hr => absurd hr List.not_mem_nil, fun _ hr => absurd hr List.not_mem_nil⟩

private theorem recorded_of_last {pid : Nat} {h : HashedExec} {log : List Event}
    (hlast : lastRecorded pid log = some h) : Event.recorded h ∈ log := by
  induction log with
  | nil => cases hlast
  | cons e log ih =>
    apply List.mem_cons.mpr
    cases e with
    | recorded x =>
      rw [lastRecorded] at hlast
      split at hlast
      · obtain rfl := Option.some.inj hlast
        exact Or.inl rfl
      · exact Or.inr (ih hlast)
    | evicted p =>
      rw [lastRecorded] at hlast
      split at hlast
      · cases hlast
      · exact Or.inr (ih hlast)
    | swept cur_start =>
      rw [lastRecorded] at hlast
      exact Or.inr (ih (Option.filter_eq_some_iff.mp hlast).1)
    | untrusted hex => exact Or.inr (ih hlast)

/-- An entry marked trusted, with a current record, stands for a trusted executable. -/
private theorem image_trusted {s : State M} {tgid : Nat} (h : Consistent s) (hc : TrustClock s)
    (hcur : RecordCurrent s tgid) (ht : (recordOf s.behavior tgid).trusted = true) :
    ImageTrusted s tgid := by
  intro p hp
  have hmatch := h tgid
  cases hlast : lastRecorded tgid s.log with
  | none =>
    rw [hlast] at hmatch
    rw [hmatch.2] at ht
    cases ht
  | some r =>
    rw [hlast] at hmatch
    have hr : recordOf s.behavior tgid = ⟨r.abs_path, r.trusted, r.call.start_time⟩ := hmatch
    rw [hr] at ht
    obtain ⟨hsha, hdel⟩ := hcur p hp r hlast ht
    rw [← hsha]
    exact ((hc.recorded r (recorded_of_last hlast)) ht).2 hdel

private theorem exempts_of_current {s : State M} {a : Action}
    (h : Consistent s ∧ TrustClock s) (hcur : ChecksCurrent s a) : ExemptsTrusted s a := by
  cases a with
  | workOpenat tgid path flags io =>
    intro hexempt
    refine image_trusted h.1 h.2 hcur ?_
    unfold State.openatWork at hexempt
    split at hexempt
    · cases hexempt
    · exact openat_exempt_trusted hexempt
  | workRename tgid oldpath newpath io io' =>
    intro hexempt
    refine image_trusted h.1 h.2 hcur ?_
    unfold State.renameWork at hexempt
    split at hexempt
    · cases hexempt
    · exact rename_exempt_trusted hexempt
  | _ => trivial

/-- In a run in which every check finds a current record, the counters are skipped only for
processes that run trusted executables. -/
theorem exemption_sound_of_current {as : List Action}
    (hg : Guarded step ChecksCurrent (State.boot M) as) :
    Guarded step ExemptsTrusted (State.boot M) as := by
  refine hg.imp_of_invariant (fun s => Consistent s ∧ TrustClock s) ?_
    (fun _ _ h hcur => exempts_of_current h hcur) ⟨consistent_boot M, clock_boot M⟩
  intro s a s' h _ hs
  exact ⟨step_consistent h.1 hs, step_clock h.2 hs⟩

/-- The process 5 runs the file 2, and the file 1 is on the trust list. -/
private def untrustedProcess : List Action :=
  [.trustAdd true (List.replicate 64 49) (lit "app"), .spawn 5 ⟨1, ⟨2, none⟩⟩]

private def execApp : ExecCall := ⟨5, ⟨lit "/usr/bin/app", [slash]⟩, 1⟩

private def recordApp : List Action :=
  [.hashExec execApp quietIo (some 1),
    .recordExec ⟨execApp, lit "/usr/bin/app", by decide, List.replicate 64 49, true, 0⟩ quietIo,
    .openat 5 (lit "/home/a") O_WRONLY, .workOpenat 5 (lit "/home/a") O_WRONLY quietIo]

private def execSucceeds : List Action :=
  untrustedProcess ++ [.execve execApp, .execDone execApp 1] ++ recordApp

theorem exec_succeeds_sound :
    ∃ s, run step (State.boot digitMachine) execSucceeds = some s ∧
      Guarded step ExemptsTrusted (State.boot digitMachine) execSucceeds := by
  have hsome : (run step (State.boot digitMachine) execSucceeds).isSome = true := by
    decide +kernel
  obtain ⟨s, hr⟩ := Option.isSome_iff_exists.mp hsome
  exact ⟨s, hr, exemption_sound_of_current (by decide +kernel)⟩

/-- The exec of the trusted file fails in the kernel, after its item was queued. -/
private def execFails : List Action :=
  untrustedProcess ++ [.execve execApp, .execFail execApp] ++ recordApp

theorem exec_fails_exempts_untrusted :
    ¬ ∀ (M : Machine) (as : List Action) (s : State M), run step (State.boot M) as = some s →
        Guarded step ExemptsTrusted (State.boot M) as := by
  intro hall
  have hsome : (run step (State.boot digitMachine) execFails).isSome = true := by decide +kernel
  obtain ⟨s, hr⟩ := Option.isSome_iff_exists.mp hsome
  have hunsound : ¬ Guarded step ExemptsTrusted (State.boot digitMachine) execFails := by
    decide +kernel
  exact hunsound (hall digitMachine execFails s hr)

end KernelAv.Kernel.TrustSoundness
