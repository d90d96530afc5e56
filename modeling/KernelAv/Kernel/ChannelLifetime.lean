/- digest: Pending scan records are freed once and never used after, unless an unlink misses. -/

import KernelAv.Kernel.ChannelInvariant
import KernelAv.Kernel.ChannelLog

set_option autoImplicit false
set_option relaxedAutoImplicit false

namespace KernelAv.Kernel.ChannelLifetime

open KernelAv.Lib.Run
open KernelAv.Kernel.Channel
open KernelAv.Kernel.ChannelInvariant
open KernelAv.Kernel.ChannelLog

def isFault : Event → Bool
  | .fault _ _ => true
  | _ => false

/-- No faulty access, every record freed at most once and exactly once when its call has
returned, and no returned call's record on the list. -/
structure LifetimeSafe (s : State) : Prop where
  no_fault : ∀ e ∈ s.log, isFault e = false
  freed_once : ∀ c, s.log.count (.freed c) ≤ 1
  returned_freed : ∀ c r res, Event.returned c (some r) res ∈ s.log →
    s.log.count (.freed c) = 1
  returned_unlisted : ∀ c reqid res, Event.returned c reqid res ∈ s.log → c ∉ s.pending_list

/-- A call that failed to send finds its record still on the list, and a call that timed out
does not find its record swept off by the teardown. -/
def UnlinkFinds (s : State) : Action → Prop
  | .remove c => (s.record c).link = .linked
  | .recheck c => (s.record c).link ≠ .poison
  | _ => True

section Steps

variable {s s' : State} {a : Action}

private theorem unlinkOk_of_finds (h : Inv s) (hok : UnlinkFinds s a) : UnlinkOk s a := by
  cases a with
  | remove c =>
    intro hh
    have hlink := ((h.call c).held hh).2.1
    rw [show (s.record c).link = .linked from hok] at hlink
    cases hlink
  | _ => trivial

private theorem useFaults_nil {cs : List Nat} (h : ∀ c ∈ cs, (s.record c).live) :
    useFaults s cs = [] := by
  have hnone : cs.filter (fun c => !(s.record c).live) = [] := by
    rw [List.filter_eq_nil_iff]
    intro c hc
    simp [h c hc]
  rw [useFaults, hnone]
  rfl

private theorem neighbours_mem {l : List Nat} {c d : Nat} (h : d ∈ State.neighbours l c) :
    d ∈ l := by
  induction l with
  | nil => cases h
  | cons a l ih =>
    cases l with
    | nil => cases h
    | cons b l =>
      unfold State.neighbours at h
      split at h
      · simp only [List.mem_singleton] at h
        simp [h]
      · split at h
        · rcases List.mem_cons.mp h with rfl | h
          · exact List.mem_cons_self
          · have hmem : d ∈ l := List.mem_of_mem_head? (Option.mem_toList.mp h)
            simp [hmem]
        · exact List.mem_cons_of_mem _ (ih h)

private theorem unlinkFaults_eq (h : Inv s) {c : Nat} (hlive : (s.record c).live) :
    unlinkFaults s c = if (s.record c).link = .linked then [] else [.fault .badUnlink c] := by
  have huse : useFaults s (c :: State.neighbours s.pending_list c) = [] := by
    apply useFaults_nil
    intro d hd
    rcases List.mem_cons.mp hd with rfl | hd
    · exact hlive
    · exact h.listed_live (neighbours_mem hd)
  rw [unlinkFaults, huse, List.append_nil]

private theorem freeEvents_live {c : Nat} (hlive : (s.record c).live) :
    freeEvents s c = [.freed c] := by
  rw [freeEvents, if_pos hlive]

/-- An enabled action of a call that uses its record finds it allocated. -/
private theorem owns_of_step {c : Nat} (hs : step s a = some s')
    (ha : a = .enqueue c ∨ (∃ res, a = .build c res) ∨ a = .wake c ∨ a = .timeout c ∨
      a = .recheck c ∨ a = .wakeAgain c ∨ a = .expire c ∨ a = .copy c ∨ a = .release c ∨
      a = .remove c ∨ a = .fail c) : ownsRecord (s.phase c) := by
  rcases ha with rfl | ⟨res, rfl⟩ | rfl | rfl | rfl | rfl | rfl | rfl | rfl | rfl | rfl
  all_goals
    simp only [step, stepEnqueue, stepBuild, stepWake, stepTimeout, stepRecheck, stepWakeAgain,
      stepExpire, stepCopy, stepRelease, stepRemove, stepFail] at hs
    split at hs
    · rename_i hph
      rw [hph]
      rfl
    · cases hs

/-- Under the ownership invariant the only faults are unlinks that miss. -/
theorem emitted_faults (h : Inv s) (hs : step s a = some s') :
    (∀ e ∈ emitted s a, isFault e = false) ↔ UnlinkFinds s a := by
  have htouch : ∀ c, (s.record c).live → useFaults s [c] = [] := by
    intro c hc
    apply useFaults_nil
    intro d hd
    rw [List.mem_singleton.mp hd]
    exact hc
  have hlisted : ∀ cs : List Nat, (∀ d ∈ cs, d ∈ s.pending_list) → useFaults s cs = [] :=
    fun cs hcs => useFaults_nil fun d hd => h.listed_live (hcs d hd)
  have hreturn : ∀ c res, (s.record c).live → ∀ e ∈ returnEvents s c res, isFault e = false := by
    intro c res hlive e he
    rw [returnEvents, freeEvents_live hlive] at he
    simp only [List.mem_cons, List.not_mem_nil, or_false] at he
    rcases he with rfl | rfl <;> rfl
  have howns : ∀ {c}, ownsRecord (s.phase c) → (s.record c).live := fun ho => (h.call _).live ho
  cases a with
  | call c args =>
    simp only [emitted, UnlinkFinds, iff_true]
    intro e he
    split at he
    · cases he
    · rw [List.mem_singleton.mp he]
      rfl
  | alloc c ok =>
    simp only [emitted, UnlinkFinds, iff_true]
    intro e he
    split at he
    · cases he
    · rw [List.mem_singleton.mp he]
      rfl
  | enqueue c =>
    have hlive := howns (owns_of_step hs (c := c) (by simp))
    have huse : useFaults s (c :: s.pending_list.head?.toList) = [] := by
      apply useFaults_nil
      intro d hd
      rcases List.mem_cons.mp hd with rfl | hd
      · exact hlive
      · exact h.listed_live (List.mem_of_mem_head? (Option.mem_toList.mp hd))
    simp [emitted, UnlinkFinds, huse]
  | build c res =>
    have hlive := howns (owns_of_step hs (c := c) (by simp))
    simp [emitted, UnlinkFinds, htouch c hlive]
  | unicast c ret =>
    simp only [emitted, UnlinkFinds, iff_true]
    intro e he
    split at he
    · split at he
      · rw [List.mem_singleton.mp he]
        rfl
      · cases he
    · cases he
  | wake c =>
    have hlive := howns (owns_of_step hs (c := c) (by simp))
    simp [emitted, UnlinkFinds, htouch c hlive]
  | timeout c =>
    have hlive := howns (owns_of_step hs (c := c) (by simp))
    simp [emitted, UnlinkFinds, htouch c hlive]
  | recheck c =>
    have ho := owns_of_step hs (c := c) (by simp)
    have hlive := howns ho
    have hph : isOpen (s.phase c) := by
      simp only [step, stepRecheck] at hs
      split at hs
      · rename_i hph
        rw [hph]
        rfl
      · cases hs
    have hcall := h.call c
    by_cases hself : (s.record c).link = .self
    · simp [emitted, UnlinkFinds, hself, htouch c hlive]
    · simp only [emitted, UnlinkFinds, ne_eq, hself, not_false_eq_true, if_true,
        unlinkFaults_eq h hlive]
      by_cases hlist : c ∈ s.pending_list
      · simp [(hcall.listed hlist).2.1]
      · have hheld : c ∉ heldRecords s := fun hh => hself (hcall.held hh).2.1
        have hpoison := ((hcall.settled (Or.inl hph) hlist hheld).2).resolve_left hself
        simp [hpoison, isFault]
  | wakeAgain c =>
    have hlive := howns (owns_of_step hs (c := c) (by simp))
    simp [emitted, UnlinkFinds, htouch c hlive]
  | expire c =>
    have hlive := howns (owns_of_step hs (c := c) (by simp))
    simp only [emitted, UnlinkFinds, iff_true]
    exact hreturn c _ hlive
  | copy c =>
    have hlive := howns (owns_of_step hs (c := c) (by simp))
    simp [emitted, UnlinkFinds, htouch c hlive]
  | release c =>
    have hlive := howns (owns_of_step hs (c := c) (by simp))
    simp only [emitted, UnlinkFinds, iff_true]
    split
    · exact hreturn c _ hlive
    · simp
  | remove c =>
    have hlive := howns (owns_of_step hs (c := c) (by simp))
    simp only [emitted, UnlinkFinds, unlinkFaults_eq h hlive]
    by_cases hlink : (s.record c).link = .linked
    · simp [hlink]
    · simp [hlink, isFault]
  | fail c =>
    have hlive := howns (owns_of_step hs (c := c) (by simp))
    simp only [emitted, UnlinkFinds, iff_true]
    split
    · exact hreturn c _ hlive
    · simp
  | receive cap portid reqid verdict rule_name =>
    simp only [emitted, UnlinkFinds, iff_true]
    intro e he
    split at he
    · cases he
    · rw [List.mem_singleton.mp he]
      rfl
  | dequeue hd =>
    have hsearch : useFaults s (searched s hd.msg) = [] :=
      hlisted _ fun d hmem => List.mem_of_mem_take hmem
    simp only [emitted, UnlinkFinds, iff_true, hsearch, List.append_nil]
    split
    · simp
    · rename_i c hfind
      have hmem := (findPending_mem hfind).1
      rw [unlinkFaults_eq h (h.listed_live hmem), if_pos ((h.call c).listed hmem).2.1]
      simp
  | fill hd =>
    simp only [emitted, UnlinkFinds, iff_true]
    split
    · rename_i c hph
      have hmem : hd ∈ s.handlers := by
        simp only [step, stepFill, hph] at hs
        split at hs
        · assumption
        · cases hs
      have hheld : c ∈ heldRecords s := mem_heldRecords.mpr ⟨hd, hmem, by rw [heldBy, hph]⟩
      simp [htouch c (h.held_live hheld)]
    · simp
  | complete hd =>
    simp only [emitted, UnlinkFinds, iff_true]
    split
    · rename_i c hph
      have hmem : hd ∈ s.handlers := by
        simp only [step, stepComplete, hph] at hs
        split at hs
        · assumption
        · cases hs
      have hheld : c ∈ heldRecords s := mem_heldRecords.mpr ⟨hd, hmem, by rw [heldBy, hph]⟩
      simp [htouch c (h.held_live hheld), isFault]
    · simp
  | sweepOne =>
    simp only [emitted, UnlinkFinds, iff_true]
    split
    · rename_i c rest hlist
      have hmem : c ∈ s.pending_list := by rw [hlist]; exact List.mem_cons_self
      have hlive := h.listed_live hmem
      simp [htouch c hlive, unlinkFaults_eq h hlive, ((h.call c).listed hmem).2.1, isFault]
    · simp
  | _ => simp [emitted, UnlinkFinds]

def isReturnEvent : Event → Bool
  | .freed _ | .returned _ _ _ => true
  | _ => false

private theorem useFaults_quiet {cs : List Nat} :
    ∀ e ∈ useFaults s cs, isReturnEvent e = false := by
  intro e he
  obtain ⟨f, d, rfl⟩ := fault_of_useFaults he
  rfl

private theorem unlinkFaults_quiet {c : Nat} :
    ∀ e ∈ unlinkFaults s c, isReturnEvent e = false := by
  intro e he
  obtain ⟨f, d, rfl⟩ := fault_of_unlinkFaults he
  rfl

/-- A call returns once: a step either returns one call that had not returned, and logs just
that and the free of its record, or it logs neither returns nor frees. -/
theorem step_returns (hs : step s a = some s') :
    ((∀ e ∈ emitted s a, isReturnEvent e = false) ∧
      ∀ d, s.phase d = .returned → s'.phase d = .returned) ∨
    ∃ c res, s.phase c ≠ .returned ∧ s'.phase = Function.update s.phase c .returned ∧
      (emitted s a = [.returned c none res] ∨
        ownsRecord (s.phase c) ∧ emitted s a = returnEvents s c res) := by
  have hmove : ∀ {c ph}, s.phase c ≠ .returned → s'.phase = Function.update s.phase c ph →
      ∀ d, s.phase d = .returned → s'.phase d = .returned := by
    intro c ph hne hphase d hd
    have hdc : d ≠ c := by
      rintro rfl
      exact hne hd
    rw [hphase, Function.update_of_ne hdc, hd]
  have hstay : s'.phase = s.phase → ∀ d, s.phase d = .returned → s'.phase d = .returned := by
    intro hphase d hd
    rw [hphase, hd]
  cases a with
  | call c args =>
    simp only [step, stepCall] at hs
    split at hs
    · rename_i hph
      split at hs <;> rename_i hreg
      · obtain rfl := Option.some.inj hs
        exact Or.inl ⟨by simp [emitted, show s.daemon_registered = true from hreg],
          hmove (c := c) (by simp [hph]) rfl⟩
      · obtain rfl := Option.some.inj hs
        refine Or.inr ⟨c, .error (-ENOTCONN), by simp [hph], rfl, Or.inl ?_⟩
        simp only [emitted]
        exact if_neg hreg
    · cases hs
  | alloc c ok =>
    simp only [step, stepAlloc] at hs
    split at hs
    · rename_i hph
      split at hs <;> rename_i hok
      · obtain rfl := Option.some.inj hs
        exact Or.inl ⟨by simp [emitted, hok], hmove (c := c) (by simp [hph]) rfl⟩
      · obtain rfl := Option.some.inj hs
        refine Or.inr ⟨c, .error (-ENOMEM), by simp [hph], rfl, Or.inl ?_⟩
        simp only [emitted]
        exact if_neg hok
    · cases hs
  | enqueue c =>
    simp only [step, stepEnqueue] at hs
    split at hs
    · rename_i hph
      split at hs
      · obtain rfl := Option.some.inj hs
        exact Or.inl ⟨useFaults_quiet, hmove (c := c) (by simp [hph]) rfl⟩
      · cases hs
    · cases hs
  | build c res =>
    simp only [step, stepBuild] at hs
    have hquiet : ∀ e ∈ emitted s (.build c res), isReturnEvent e = false := by
      intro e he
      simp only [emitted] at he
      split at he
      · cases he
      · exact useFaults_quiet e he
    split at hs
    · rename_i hph
      cases res <;> (obtain rfl := Option.some.inj hs
                     exact Or.inl ⟨hquiet, hmove (c := c) (by simp [hph]) rfl⟩)
    · cases hs
  | unicast c ret =>
    simp only [step, stepUnicast] at hs
    split at hs
    · rename_i portid hph
      split at hs <;> rename_i hret
      · obtain rfl := Option.some.inj hs
        refine Or.inl ⟨?_, hmove (c := c) (by simp [hph]) rfl⟩
        simp [emitted, hph, hret, isReturnEvent]
      · obtain rfl := Option.some.inj hs
        refine Or.inl ⟨?_, hmove (c := c) (by simp [hph]) rfl⟩
        simp [emitted, hph, hret]
    · cases hs
  | wake c =>
    simp only [step, stepWake, consume] at hs
    split at hs
    · rename_i hph
      split at hs
      · obtain rfl := Option.some.inj hs
        exact Or.inl ⟨useFaults_quiet, hmove (c := c) (by simp [hph]) rfl⟩
      · cases hs
    · cases hs
  | timeout c =>
    simp only [step, stepTimeout] at hs
    split at hs
    · rename_i hph
      split at hs
      · obtain rfl := Option.some.inj hs
        exact Or.inl ⟨useFaults_quiet, hmove (c := c) (by simp [hph]) rfl⟩
      · cases hs
    · cases hs
  | recheck c =>
    have hquiet : ∀ e ∈ emitted s (.recheck c), isReturnEvent e = false := by
      intro e he
      simp only [emitted] at he
      split at he
      · exact unlinkFaults_quiet e he
      · exact useFaults_quiet e he
    simp only [step, stepRecheck] at hs
    split at hs
    · rename_i hph
      split at hs
      · split at hs
        · obtain rfl := Option.some.inj hs
          exact Or.inl ⟨hquiet, hmove (c := c) (by simp [hph]) (by simp; rfl)⟩
        · obtain rfl := Option.some.inj hs
          exact Or.inl ⟨hquiet, hmove (c := c) (by simp [hph]) rfl⟩
      · cases hs
    · cases hs
  | wakeAgain c =>
    simp only [step, stepWakeAgain, consume] at hs
    split at hs
    · rename_i hph
      split at hs
      · obtain rfl := Option.some.inj hs
        exact Or.inl ⟨useFaults_quiet, hmove (c := c) (by simp [hph]) rfl⟩
      · cases hs
    · cases hs
  | expire c =>
    simp only [step, stepExpire] at hs
    split at hs
    · rename_i hph
      obtain rfl := Option.some.inj hs
      exact Or.inr ⟨c, .error (-ETIMEDOUT), by simp [hph], by simp, Or.inr ⟨by rw [hph]; rfl, rfl⟩⟩
    · cases hs
  | copy c =>
    simp only [step, stepCopy] at hs
    split at hs
    · rename_i hph
      obtain rfl := Option.some.inj hs
      exact Or.inl ⟨useFaults_quiet, hmove (c := c) (by simp [hph]) rfl⟩
    · cases hs
  | release c =>
    simp only [step, stepRelease] at hs
    split at hs
    · rename_i v rule_name hph
      obtain rfl := Option.some.inj hs
      exact Or.inr ⟨c, .verdict v rule_name, by simp [hph], by simp,
        Or.inr ⟨by rw [hph]; rfl, by simp only [emitted, hph]⟩⟩
    · cases hs
  | remove c =>
    simp only [step, stepRemove] at hs
    split at hs
    · rename_i ret hph
      split at hs
      · obtain rfl := Option.some.inj hs
        exact Or.inl ⟨unlinkFaults_quiet, @hmove c (.unlinked ret) (by simp [hph]) (by simp)⟩
      · cases hs
    · cases hs
  | fail c =>
    simp only [step, stepFail] at hs
    split at hs
    · rename_i ret hph
      obtain rfl := Option.some.inj hs
      exact Or.inr ⟨c, .error ret, by simp [hph], by simp,
        Or.inr ⟨by rw [hph]; rfl, by simp only [emitted, hph]⟩⟩
    · cases hs
  | register cap portid =>
    simp only [step, stepRegister] at hs
    split at hs
    · split at hs <;> (obtain rfl := Option.some.inj hs
                       exact Or.inl ⟨by simp [emitted], hstay rfl⟩)
    · cases hs
  | urelease portid =>
    simp only [step, stepUrelease] at hs
    split at hs
    · split at hs <;> (obtain rfl := Option.some.inj hs
                       exact Or.inl ⟨by simp [emitted], hstay rfl⟩)
    · cases hs
  | receive cap portid reqid verdict rule_name =>
    refine Or.inl ⟨?_, ?_⟩
    · intro e he
      simp only [emitted] at he
      split at he
      · cases he
      · rw [List.mem_singleton.mp he]
        rfl
    · simp only [step, stepReceive] at hs
      split at hs
      · split at hs <;> (obtain rfl := Option.some.inj hs; exact hstay rfl)
      · cases hs
  | dequeue hd =>
    refine Or.inl ⟨?_, ?_⟩
    · intro e he
      simp only [emitted] at he
      split at he
      · exact useFaults_quiet e he
      · rcases List.mem_append.mp he with he | he
        · exact unlinkFaults_quiet e he
        · exact useFaults_quiet e he
    · simp only [step, stepDequeue] at hs
      split at hs
      · split at hs
        · obtain rfl := Option.some.inj hs
          exact hstay rfl
        · obtain rfl := Option.some.inj hs
          exact hstay (unlink_phase _ _ _)
      · cases hs
  | fill hd =>
    refine Or.inl ⟨?_, ?_⟩
    · intro e he
      simp only [emitted] at he
      split at he
      · exact useFaults_quiet e he
      · cases he
    · simp only [step, stepFill] at hs
      split at hs
      · split at hs
        · obtain rfl := Option.some.inj hs
          exact hstay rfl
        · cases hs
      · cases hs
  | complete hd =>
    refine Or.inl ⟨?_, ?_⟩
    · intro e he
      simp only [emitted] at he
      split at he
      · rcases List.mem_cons.mp he with rfl | he
        · rfl
        · exact useFaults_quiet e he
      · cases he
    · simp only [step, stepComplete] at hs
      split at hs
      · split at hs
        · obtain rfl := Option.some.inj hs
          exact hstay rfl
        · cases hs
      · cases hs
  | unregisterFamily =>
    simp only [step, stepUnregisterFamily] at hs
    split at hs
    · obtain rfl := Option.some.inj hs
      exact Or.inl ⟨by simp [emitted], hstay rfl⟩
    · cases hs
  | unregisterNotifier =>
    simp only [step, stepTeardown] at hs
    split at hs
    · obtain rfl := Option.some.inj hs
      exact Or.inl ⟨by simp [emitted], hstay rfl⟩
    · cases hs
  | sweepStart =>
    simp only [step, stepTeardown] at hs
    split at hs
    · obtain rfl := Option.some.inj hs
      exact Or.inl ⟨by simp [emitted], hstay rfl⟩
    · cases hs
  | sweepOne =>
    refine Or.inl ⟨?_, ?_⟩
    · intro e he
      simp only [emitted] at he
      split at he
      · rcases List.mem_cons.mp he with rfl | he
        · rfl
        · rcases List.mem_append.mp he with he | he
          · exact useFaults_quiet e he
          · exact unlinkFaults_quiet e he
      · cases he
    · simp only [step, stepSweepOne] at hs
      split at hs
      · obtain rfl := Option.some.inj hs
        exact hstay (by simp)
      · cases hs
  | sweepEnd =>
    simp only [step, stepSweepEnd, stepTeardown] at hs
    split at hs
    · split at hs
      · obtain rfl := Option.some.inj hs
        exact Or.inl ⟨by simp [emitted], hstay rfl⟩
      · cases hs
    · cases hs

/-- The frees and returns logged for one call. -/
structure Accounted (s : State) (c : Nat) : Prop where
  before : s.phase c ≠ .returned →
    s.log.count (.freed c) = 0 ∧ ∀ reqid res, Event.returned c reqid res ∉ s.log
  once : s.log.count (.freed c) ≤ 1
  after : ∀ r res, Event.returned c (some r) res ∈ s.log → s.log.count (.freed c) = 1

private theorem accounted_quiet {c : Nat} (hacc : Accounted s c)
    (hlog : s'.log = emitted s a ++ s.log)
    (hquiet : ∀ e ∈ emitted s a, isReturnEvent e = false)
    (hphase : s.phase c = .returned → s'.phase c = .returned) : Accounted s' c := by
  have hcount : s'.log.count (.freed c) = s.log.count (.freed c) := by
    have hzero : (emitted s a).count (.freed c) = 0 := by
      rw [List.count_eq_zero]
      intro hmem
      cases hquiet _ hmem
    rw [hlog, List.count_append, hzero, Nat.zero_add]
  have hreturned : ∀ reqid res, Event.returned c reqid res ∈ s'.log →
      Event.returned c reqid res ∈ s.log := by
    intro reqid res hmem
    rw [hlog] at hmem
    rcases List.mem_append.mp hmem with hmem | hmem
    · cases hquiet _ hmem
    · exact hmem
  refine ⟨?_, ?_, ?_⟩
  · intro hne
    obtain ⟨hz, hnone⟩ := hacc.before fun hr => hne (hphase hr)
    refine ⟨by rw [hcount, hz], ?_⟩
    intro reqid res hmem
    exact hnone reqid res (hreturned reqid res hmem)
  · rw [hcount]
    exact hacc.once
  · intro r res hmem
    rw [hcount]
    exact hacc.after r res (hreturned _ res hmem)

private theorem accounted_return {c d : Nat} {reqid : Option Nat} {res : Outcome}
    {frees : List Event} (hacc : Accounted s d) (hne : s.phase c ≠ .returned)
    (hphase : s'.phase = Function.update s.phase c .returned)
    (hlog : s'.log = .returned c reqid res :: frees ++ s.log)
    (hfrees : frees = [] ∧ reqid = none ∨ frees = [.freed c]) : Accounted s' d := by
  by_cases hd : d = c
  · subst hd
    obtain ⟨hz, hnone⟩ := hacc.before hne
    have hnew : ∀ r res', Event.returned d (some r) res' ∈ s'.log →
        frees = [.freed d] := by
      intro r res' hmem
      rcases hfrees with ⟨rfl, rfl⟩ | hf
      · rw [hlog] at hmem
        rcases List.mem_cons.mp hmem with he | hmem
        · cases he
        · exact absurd hmem (hnone _ _)
      · exact hf
    refine ⟨?_, ?_, ?_⟩
    · intro hr
      rw [hphase, Function.update_self] at hr
      exact absurd rfl hr
    · rw [hlog]
      rcases hfrees with ⟨rfl, -⟩ | rfl <;> simp [hz]
    · intro r res' hmem
      rw [hlog, hnew r res' hmem]
      simp [hz]
  · have hcount : s'.log.count (.freed d) = s.log.count (.freed d) := by
      rw [hlog]
      rcases hfrees with ⟨rfl, -⟩ | rfl <;> simp [Ne.symm hd]
    have hreturned : ∀ reqid' res', Event.returned d reqid' res' ∈ s'.log →
        Event.returned d reqid' res' ∈ s.log := by
      intro reqid' res' hmem
      rw [hlog] at hmem
      rcases hfrees with ⟨rfl, -⟩ | rfl <;> simpa [hd] using hmem
    refine ⟨?_, by rw [hcount]; exact hacc.once, ?_⟩
    · intro hr
      rw [hphase, Function.update_of_ne hd] at hr
      obtain ⟨hz, hnone⟩ := hacc.before hr
      exact ⟨by rw [hcount, hz], fun reqid' res' hmem => hnone _ _ (hreturned _ _ hmem)⟩
    · intro r res' hmem
      rw [hcount]
      exact hacc.after r res' (hreturned _ _ hmem)

theorem step_accounted (h : Inv s) (hacc : ∀ c, Accounted s c)
    (hs : step s a = some s') : ∀ c, Accounted s' c := by
  intro d
  have hlog := step_log hs
  rcases step_returns hs with ⟨hquiet, hphase⟩ | ⟨c, res, hne, hphase, hem | ⟨howns, hem⟩⟩
  · exact accounted_quiet (hacc d) hlog hquiet (hphase d)
  · rw [hem] at hlog
    exact accounted_return (hacc d) hne hphase hlog (Or.inl ⟨rfl, rfl⟩)
  · rw [hem, returnEvents, freeEvents_live ((h.call c).live howns)] at hlog
    exact accounted_return (hacc d) hne hphase hlog (Or.inr rfl)

end Steps

section Runs

variable {s : State} {as : List Action}

theorem accounted_loaded (c : Nat) : Accounted State.loaded c :=
  ⟨fun _ => ⟨rfl, fun _ _ hmem => by cases hmem⟩, Nat.zero_le _, fun _ _ hmem => by cases hmem⟩

private theorem inv_of_guarded (hg : Guarded step UnlinkFinds State.loaded as)
    (hr : run step State.loaded as = some s) : Inv s ∧ ∀ c, Accounted s c := by
  refine guarded_invariant (fun s => Inv s ∧ ∀ c, Accounted s c) ?_
    ⟨inv_loaded, accounted_loaded⟩ hg hr
  intro s a s' ⟨hi, hacc⟩ hok hs
  exact ⟨step_inv hi (unlinkOk_of_finds hi hok) hs, step_accounted hi hacc hs⟩

private theorem no_fault_iff (hr : run step State.loaded as = some s) :
    (∀ e ∈ s.log, isFault e = false) ↔ Guarded step UnlinkFinds State.loaded as := by
  have h := recorded_iff_guarded State.log (fun e => isFault e = false) Inv
    (fun _ _ _ hi hok hs => step_inv hi (unlinkOk_of_finds hi hok) hs)
    (fun _ _ _ hs e he => by rw [step_log hs]; exact List.mem_append_right _ he)
    (fun _ _ _ hi hs => by
      rw [step_log hs, List.forall_mem_append, emitted_faults hi hs, and_comm]) inv_loaded hr
  simpa [State.loaded] using h

end Runs

/-- A run of the channel is safe for its records exactly when every failed call finds its record
on the list and no timed-out call finds its record swept away. -/
theorem lifetime_safe_iff {as : List Action} {s : State}
    (hr : run step State.loaded as = some s) :
    LifetimeSafe s ↔ Guarded step UnlinkFinds State.loaded as := by
  constructor
  · intro hsafe
    exact (no_fault_iff hr).mp hsafe.no_fault
  · intro hg
    obtain ⟨hi, hacc⟩ := inv_of_guarded hg hr
    refine ⟨(no_fault_iff hr).mpr hg, fun c => (hacc c).once, fun c => (hacc c).after, ?_⟩
    intro c reqid res hmem
    apply hi.not_listed
    by_contra hopen
    have hne : s.phase c ≠ .returned := by
      intro hph
      rw [hph] at hopen
      exact hopen rfl
    exact ((hacc c).before hne).2 reqid res hmem

/-- A call is sent to the registered daemon, answered and returned. -/
def answered : List Action :=
  let m : Message := ⟨0, 7, some 1, some 1, none⟩
  [.register true 7, .call 0 ⟨[], [], 0, 64⟩, .alloc 0 true, .enqueue 0, .build 0 .ok,
    .unicast 0 0, .receive true 7 (some 1) (some 1) none, .dequeue ⟨m, .accepted⟩,
    .fill ⟨m, .holding 0⟩, .complete ⟨m, .filled 0⟩, .wake 0, .copy 0, .release 0]

theorem answered_lifetime_safe :
    ∃ s, run step State.loaded answered = some s ∧ LifetimeSafe s ∧
      Event.freed 0 ∈ s.log := by
  refine ⟨_, rfl, (lifetime_safe_iff (show run step .loaded answered = _ from rfl)).mpr ?_,
    by decide⟩
  refine guarded_of_forall fun a ha s => ?_
  simp only [answered, List.mem_cons, List.not_mem_nil, or_false] at ha
  rcases ha with rfl | rfl | rfl | rfl | rfl | rfl | rfl | rfl | rfl | rfl | rfl | rfl | rfl
  all_goals trivial

/-- The daemon answers the next request id before the unicast has finished, and the unicast
fails: the failed call unlinks a record that is not on the list and frees it, and the handler
then writes the verdict into it. -/
private def answeredEarly : List Action :=
  let m : Message := ⟨0, 7, some 1, some 0, none⟩
  [.register true 7, .call 0 ⟨[], [], 0, 64⟩, .alloc 0 true, .enqueue 0, .build 0 .ok,
    .receive true 7 (some 1) (some 0) none, .dequeue ⟨m, .accepted⟩, .unicast 0 (-111),
    .remove 0, .fail 0, .fill ⟨m, .holding 0⟩]

theorem answered_early_uses_freed_record :
    ¬ ∀ (as : List Action) (s : State), run step State.loaded as = some s → LifetimeSafe s := by
  intro hall
  have hrun : ∃ s, run step State.loaded answeredEarly = some s ∧
      Event.fault .badUnlink 0 ∈ s.log ∧ Event.fault .useAfterFree 0 ∈ s.log :=
    ⟨_, rfl, by decide, by decide⟩
  obtain ⟨s, hr, -, hfault⟩ := hrun
  cases (hall answeredEarly s hr).no_fault _ hfault

end KernelAv.Kernel.ChannelLifetime
