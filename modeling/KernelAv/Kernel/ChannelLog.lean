/- digest: What each step of the netlink channel adds to the log, faults included. -/

import KernelAv.Kernel.Channel

set_option autoImplicit false
set_option relaxedAutoImplicit false

namespace KernelAv.Kernel.ChannelLog

open KernelAv.Kernel.Channel

variable {s s' : State} {c : Nat}

def useFaults (s : State) (cs : List Nat) : List Event :=
  (cs.filter fun c => !(s.record c).live).map (Event.fault .useAfterFree)

def unlinkFaults (s : State) (c : Nat) : List Event :=
  (if (s.record c).link = .linked then [] else [.fault .badUnlink c]) ++
    useFaults s (c :: State.neighbours s.pending_list c)

def freeEvents (s : State) (c : Nat) : List Event :=
  if (s.record c).live then [.freed c] else [.fault .doubleFree c]

def returnEvents (s : State) (c : Nat) (res : Outcome) : List Event :=
  .returned c (some (s.record c).reqid) res :: freeEvents s c

/-- The events of an action that is enabled, the last one first. -/
def emitted (s : State) : Action → List Event
  | .call c _ => if s.daemon_registered then [] else [.returned c none (.error (-ENOTCONN))]
  | .alloc c ok => if ok then [] else [.returned c none (.error (-ENOMEM))]
  | .enqueue c => useFaults s (c :: s.pending_list.head?.toList)
  | .build c res => if res = .noSkb then [] else useFaults s [c]
  | .unicast c ret =>
      match s.phase c with
      | .built portid =>
          if ret = 0 then
            [.sent c portid
              ⟨(s.record c).reqid, (s.args c).pid, (s.args c).path, (s.args c).sha256_hex⟩]
          else []
      | _ => []
  | .wake c | .timeout c | .wakeAgain c | .copy c => useFaults s [c]
  | .recheck c => if (s.record c).link ≠ .self then unlinkFaults s c else useFaults s [c]
  | .expire c => returnEvents s c (.error (-ETIMEDOUT))
  | .release c =>
      match s.phase c with
      | .copied v rule_name => returnEvents s c (.verdict v rule_name)
      | _ => []
  | .remove c => unlinkFaults s c
  | .fail c =>
      match s.phase c with
      | .unlinked ret => returnEvents s c (.error ret)
      | _ => []
  | .receive cap portid reqid verdict rule_name =>
      let m : Message := ⟨s.nextMsg, portid, reqid, verdict, rule_name⟩
      match verdictChecks s cap m with
      | .error _ => []
      | .ok () => [.checked m s.daemon_registered s.daemon_portid]
  | .dequeue h =>
      match findPending s h.msg with
      | none => useFaults s (searched s h.msg)
      | some c => unlinkFaults s c ++ useFaults s (searched s h.msg)
  | .fill h =>
      match h.phase with
      | .holding c => useFaults s [c]
      | _ => []
  | .complete h =>
      match h.phase with
      | .filled c => .completed c (some h.msg.id) :: useFaults s [c]
      | _ => []
  | .sweepOne =>
      match s.pending_list with
      | c :: _ => .completed c none :: (useFaults s [c] ++ unlinkFaults s c)
      | [] => []
  | _ => []

section Emits

variable {a : Action} {e : Event} {cs : List Nat}

theorem fault_of_useFaults (he : e ∈ useFaults s cs) : ∃ f d, e = .fault f d := by
  obtain ⟨d, -, rfl⟩ := List.mem_map.mp he
  exact ⟨_, d, rfl⟩

theorem fault_of_unlinkFaults (he : e ∈ unlinkFaults s c) : ∃ f d, e = .fault f d := by
  rcases List.mem_append.mp he with he | he
  · split at he
    · cases he
    · exact ⟨_, c, List.mem_singleton.mp he⟩
  · exact fault_of_useFaults he

/-- What an event tells about the step that adds it: only handlers and the sweep complete anything,
and only the call that copied a verdict returns it. -/
def Emits (s : State) (a : Action) : Event → Prop
  | .completed _ _ => a = .sweepOne ∨ ∃ h, a = .complete h
  | .returned c reqid res => ∀ v rule_name, res = .verdict v rule_name →
      s.phase c = .copied v rule_name ∧ reqid = some (s.record c).reqid
  | _ => True

private theorem emits_useFaults (he : e ∈ useFaults s cs) : Emits s a e := by
  obtain ⟨f, d, rfl⟩ := fault_of_useFaults he
  trivial

private theorem emits_unlinkFaults (he : e ∈ unlinkFaults s c) : Emits s a e := by
  obtain ⟨f, d, rfl⟩ := fault_of_unlinkFaults he
  trivial

private theorem emits_return {res : Outcome} (he : e ∈ returnEvents s c res)
    (hres : ∀ v rule_name, res = .verdict v rule_name → s.phase c = .copied v rule_name) :
    Emits s a e := by
  rcases List.mem_cons.mp he with rfl | he
  · exact fun v rule_name h => ⟨hres v rule_name h, rfl⟩
  · unfold freeEvents at he
    split at he <;> (rw [List.mem_singleton.mp he]; trivial)

theorem emitted_spec (he : e ∈ emitted s a) : Emits s a e := by
  cases a with
  | enqueue d | wake d | timeout d | wakeAgain d | copy d => exact emits_useFaults he
  | remove d => exact emits_unlinkFaults he
  | expire d => exact emits_return he nofun
  | release d =>
    simp only [emitted] at he
    split at he
    · rename_i hph
      refine emits_return he fun v rule_name h => ?_
      cases h
      exact hph
    · cases he
  | fail d =>
    simp only [emitted] at he
    split at he
    · exact emits_return he nofun
    · cases he
  | recheck d =>
    simp only [emitted] at he
    split at he
    · exact emits_unlinkFaults he
    · exact emits_useFaults he
  | build d res =>
    simp only [emitted] at he
    split at he
    · cases he
    · exact emits_useFaults he
  | fill h =>
    simp only [emitted] at he
    split at he
    · exact emits_useFaults he
    · cases he
  | dequeue h =>
    simp only [emitted] at he
    split at he
    · exact emits_useFaults he
    · rcases List.mem_append.mp he with he | he
      · exact emits_unlinkFaults he
      · exact emits_useFaults he
  | complete h =>
    simp only [emitted] at he
    split at he
    · rcases List.mem_cons.mp he with rfl | he
      · exact Or.inr ⟨h, rfl⟩
      · exact emits_useFaults he
    · cases he
  | sweepOne =>
    simp only [emitted] at he
    split at he
    · rcases List.mem_cons.mp he with rfl | he
      · exact Or.inl rfl
      · rcases List.mem_append.mp he with he | he
        · exact emits_useFaults he
        · exact emits_unlinkFaults he
    · cases he
  | unicast d ret =>
    simp only [emitted] at he
    split at he
    · split at he
      · rw [List.mem_singleton.mp he]
        trivial
      · cases he
    · cases he
  | call d args =>
    simp only [emitted] at he
    split at he
    · cases he
    · rw [List.mem_singleton.mp he]
      exact nofun
  | alloc d ok =>
    simp only [emitted] at he
    split at he
    · cases he
    · rw [List.mem_singleton.mp he]
      exact nofun
  | receive cap portid reqid verdict rule_name =>
    simp only [emitted] at he
    split at he
    · cases he
    · rw [List.mem_singleton.mp he]
      trivial
  | _ => cases he

end Emits

theorem touch_log (s : State) (cs : List Nat) : (s.touch cs).log = useFaults s cs ++ s.log := rfl

theorem unlink_log (s : State) (c : Nat) (l : Link) :
    (s.unlink c l).log = unlinkFaults s c ++ s.log := by
  unfold State.unlink unlinkFaults
  split <;> rfl

theorem kfree_log (s : State) (c : Nat) : (s.kfree c).log = freeEvents s c ++ s.log := by
  unfold State.kfree freeEvents
  split <;> rfl

private theorem unlink_live (s : State) (c d : Nat) (l : Link) :
    ((s.unlink c l).record d).live = (s.record d).live := by
  have hrecord : (s.unlink c l).record =
      Function.update s.record c { s.record c with link := l } := by
    unfold State.unlink
    split <;> rfl
  rw [hrecord]
  by_cases hd : d = c
  · subst hd
    rw [Function.update_self]
  · rw [Function.update_of_ne hd]

private theorem useFaults_unlink (s : State) (c : Nat) (l : Link) (cs : List Nat) :
    useFaults (s.unlink c l) cs = useFaults s cs := by
  unfold useFaults
  congr 1
  exact List.filter_congr fun d _ => by rw [unlink_live]

private theorem log_return (s : State) (c : Nat) (res : Outcome) :
    ((s.kfree c).finish c (some (s.record c).reqid) res).log = returnEvents s c res ++ s.log := by
  show _ :: (s.kfree c).log = _
  rw [kfree_log]
  rfl

private theorem consume_log (hs : consume s c = some s') :
    s'.log = useFaults s [c] ++ s.log := by
  unfold consume at hs
  split at hs
  · obtain rfl := Option.some.inj hs
    rfl
  · cases hs

private theorem teardown_log {before after : Teardown}
    (hs : stepTeardown s before after = some s') : s'.log = s.log := by
  unfold stepTeardown at hs
  split at hs
  · obtain rfl := Option.some.inj hs
    rfl
  · cases hs

private theorem call_log {a : Action} (hs : step s a = some s') :
    match a with
    | .call .. | .alloc .. | .enqueue _ | .build .. | .unicast .. | .wake _ | .timeout _
    | .recheck _ | .wakeAgain _ | .expire _ | .copy _ | .release _ | .remove _ | .fail _ =>
        s'.log = emitted s a ++ s.log
    | _ => True := by
  cases a with
  | call c args =>
    simp only [step, stepCall] at hs
    split at hs
    · split at hs <;> rename_i hreg
      · obtain rfl := Option.some.inj hs
        simp only [emitted, hreg]
        rfl
      · obtain rfl := Option.some.inj hs
        simp only [emitted, hreg]
        rfl
    · cases hs
  | alloc c ok =>
    simp only [step, stepAlloc] at hs
    split at hs
    · split at hs <;> rename_i hok
      · obtain rfl := Option.some.inj hs
        simp only [emitted, hok]
        rfl
      · obtain rfl := Option.some.inj hs
        simp only [emitted, hok]
        rfl
    · cases hs
  | enqueue c =>
    simp only [step, stepEnqueue] at hs
    split at hs
    · split at hs
      · obtain rfl := Option.some.inj hs
        rfl
      · cases hs
    · cases hs
  | build c res =>
    simp only [step, stepBuild] at hs
    split at hs
    · cases res <;> (obtain rfl := Option.some.inj hs; rfl)
    · cases hs
  | unicast c ret =>
    simp only [step, stepUnicast] at hs
    split at hs
    · rename_i portid hph
      split at hs <;> rename_i hret
      · obtain rfl := Option.some.inj hs
        simp only [emitted, hph, hret, if_true]
        rfl
      · obtain rfl := Option.some.inj hs
        simp only [emitted, hph, hret, if_false]
        rfl
    · cases hs
  | wake c =>
    simp only [step, stepWake] at hs
    split at hs
    · exact consume_log hs
    · cases hs
  | timeout c =>
    simp only [step, stepTimeout] at hs
    split at hs
    · split at hs
      · obtain rfl := Option.some.inj hs
        rfl
      · cases hs
    · cases hs
  | recheck c =>
    simp only [step, stepRecheck] at hs
    split at hs
    · split at hs
      · split at hs <;> rename_i hlink
        · obtain rfl := Option.some.inj hs
          have hlink' : (s.record c).link ≠ .self := by simpa using hlink
          simp only [emitted, hlink', ne_eq, not_false_eq_true, if_true]
          exact unlink_log s c .self
        · obtain rfl := Option.some.inj hs
          have hlink' : (s.record c).link = .self := by simpa using hlink
          simp only [emitted, hlink', ne_eq, not_true_eq_false, if_false]
          rfl
      · cases hs
    · cases hs
  | wakeAgain c =>
    simp only [step, stepWakeAgain] at hs
    split at hs
    · exact consume_log hs
    · cases hs
  | expire c =>
    simp only [step, stepExpire] at hs
    split at hs
    · obtain rfl := Option.some.inj hs
      exact log_return s c _
    · cases hs
  | copy c =>
    simp only [step, stepCopy] at hs
    split at hs
    · obtain rfl := Option.some.inj hs
      rfl
    · cases hs
  | release c =>
    simp only [step, stepRelease] at hs
    split at hs
    · rename_i hph
      obtain rfl := Option.some.inj hs
      simp only [emitted, hph]
      exact log_return s c _
    · cases hs
  | remove c =>
    simp only [step, stepRemove] at hs
    split at hs
    · split at hs
      · obtain rfl := Option.some.inj hs
        exact unlink_log s c .poison
      · cases hs
    · cases hs
  | fail c =>
    simp only [step, stepFail] at hs
    split at hs
    · rename_i hph
      obtain rfl := Option.some.inj hs
      simp only [emitted, hph]
      exact log_return s c _
    · cases hs
  | _ => trivial

private theorem handler_log {a : Action} (hs : step s a = some s') :
    match a with
    | .register .. | .urelease _ | .receive .. | .dequeue _ | .fill _ | .complete _
    | .unregisterFamily | .unregisterNotifier | .sweepStart | .sweepOne | .sweepEnd =>
        s'.log = emitted s a ++ s.log
    | _ => True := by
  cases a with
  | register cap portid =>
    simp only [step, stepRegister] at hs
    split at hs
    · split at hs <;> (obtain rfl := Option.some.inj hs; rfl)
    · cases hs
  | urelease portid =>
    simp only [step, stepUrelease] at hs
    split at hs
    · split at hs <;> (obtain rfl := Option.some.inj hs; rfl)
    · cases hs
  | receive cap portid reqid verdict rule_name =>
    simp only [step, stepReceive] at hs
    have hsame : ∀ m, verdictChecks { s with nextMsg := s.nextMsg + 1 } cap m =
        verdictChecks s cap m := fun _ => rfl
    split at hs
    · rw [hsame] at hs
      split at hs <;> rename_i hchecks
      · obtain rfl := Option.some.inj hs
        simp only [emitted, hchecks]
        rfl
      · obtain rfl := Option.some.inj hs
        simp only [emitted, hchecks]
        rfl
    · cases hs
  | dequeue h =>
    simp only [step, stepDequeue] at hs
    split at hs
    · split at hs <;> rename_i hfind
      · obtain rfl := Option.some.inj hs
        simp only [emitted, hfind]
        rfl
      · rename_i c
        obtain rfl := Option.some.inj hs
        simp only [emitted, hfind]
        show ((s.touch (searched s h.msg)).unlink c .self).log = _
        rw [unlink_log, touch_log, List.append_assoc]
        rfl
    · cases hs
  | fill h =>
    simp only [step, stepFill] at hs
    split at hs
    · rename_i hph
      split at hs
      · obtain rfl := Option.some.inj hs
        simp only [emitted, hph]
        rfl
      · cases hs
    · cases hs
  | complete h =>
    simp only [step, stepComplete] at hs
    split at hs
    · rename_i hph
      split at hs
      · obtain rfl := Option.some.inj hs
        simp only [emitted, hph]
        rfl
      · cases hs
    · cases hs
  | unregisterFamily =>
    simp only [step, stepUnregisterFamily] at hs
    split at hs
    · obtain rfl := Option.some.inj hs
      rfl
    · cases hs
  | unregisterNotifier => exact teardown_log hs
  | sweepStart => exact teardown_log hs
  | sweepOne =>
    simp only [step, stepSweepOne] at hs
    split at hs
    · rename_i c rest _ hlist
      obtain rfl := Option.some.inj hs
      simp only [emitted, hlist]
      show _ :: (useFaults (s.unlink c .poison) [c] ++ (s.unlink c .poison).log) = _
      rw [useFaults_unlink, unlink_log]
      simp only [List.cons_append, List.append_assoc]
    · cases hs
  | sweepEnd =>
    simp only [step, stepSweepEnd] at hs
    split at hs
    · exact teardown_log hs
    · cases hs
  | _ => trivial

/-- The log only grows, by exactly the events of the action. -/
theorem step_log {a : Action} (hs : step s a = some s') : s'.log = emitted s a ++ s.log := by
  have hcall := call_log hs
  have hhandler := handler_log hs
  cases a <;> assumption

end KernelAv.Kernel.ChannelLog
