/- digest: Who owns a pending scan record: the list, one verdict handler, or the waiting call. -/

import KernelAv.Kernel.Channel
import KernelAv.Lib.Run

set_option autoImplicit false
set_option relaxedAutoImplicit false

namespace KernelAv.Kernel.ChannelInvariant

open KernelAv.Kernel.Channel

section Fields

variable (s : State) (c : Nat) (cs : List Nat) (ph : Phase) (r : PendingScan) (e : Event)
  (l : Link) (m : Option Nat) (reqid : Option Nat) (res : Outcome)

@[simp] theorem setPhase_phase : (s.setPhase c ph).phase = Function.update s.phase c ph := rfl
@[simp] theorem setPhase_record : (s.setPhase c ph).record = s.record := rfl
@[simp] theorem setPhase_list : (s.setPhase c ph).pending_list = s.pending_list := rfl
@[simp] theorem setPhase_handlers : (s.setPhase c ph).handlers = s.handlers := rfl
@[simp] theorem setRecord_phase : (s.setRecord c r).phase = s.phase := rfl
@[simp] theorem setRecord_record : (s.setRecord c r).record = Function.update s.record c r := rfl
@[simp] theorem setRecord_list : (s.setRecord c r).pending_list = s.pending_list := rfl
@[simp] theorem setRecord_handlers : (s.setRecord c r).handlers = s.handlers := rfl
@[simp] theorem note_phase : (s.note e).phase = s.phase := rfl
@[simp] theorem note_record : (s.note e).record = s.record := rfl
@[simp] theorem note_list : (s.note e).pending_list = s.pending_list := rfl
@[simp] theorem note_handlers : (s.note e).handlers = s.handlers := rfl
@[simp] theorem touch_phase : (s.touch cs).phase = s.phase := rfl
@[simp] theorem touch_record : (s.touch cs).record = s.record := rfl
@[simp] theorem touch_list : (s.touch cs).pending_list = s.pending_list := rfl
@[simp] theorem touch_handlers : (s.touch cs).handlers = s.handlers := rfl

@[simp] theorem unlink_phase : (s.unlink c l).phase = s.phase := by
  unfold State.unlink
  split <;> rfl

@[simp] theorem unlink_handlers : (s.unlink c l).handlers = s.handlers := by
  unfold State.unlink
  split <;> rfl

@[simp] theorem unlink_record :
    (s.unlink c l).record = Function.update s.record c { s.record c with link := l } := by
  unfold State.unlink
  split <;> rfl

@[simp] theorem finish_phase :
    (s.finish c reqid res).phase = Function.update s.phase c .returned := rfl
@[simp] theorem finish_record : (s.finish c reqid res).record = s.record := rfl
@[simp] theorem finish_list : (s.finish c reqid res).pending_list = s.pending_list := rfl
@[simp] theorem finish_handlers : (s.finish c reqid res).handlers = s.handlers := rfl

@[simp] theorem complete_phase : (s.complete c m).phase = s.phase := rfl
@[simp] theorem complete_record : (s.complete c m).record =
    Function.update s.record c { s.record c with done := (s.record c).done + 1 } := rfl
@[simp] theorem complete_list : (s.complete c m).pending_list = s.pending_list := rfl
@[simp] theorem complete_handlers : (s.complete c m).handlers = s.handlers := rfl

@[simp] theorem kfree_phase : (s.kfree c).phase = s.phase := by
  unfold State.kfree
  split <;> rfl

@[simp] theorem kfree_list : (s.kfree c).pending_list = s.pending_list := by
  unfold State.kfree
  split <;> rfl

@[simp] theorem kfree_handlers : (s.kfree c).handlers = s.handlers := by
  unfold State.kfree
  split <;> rfl

@[simp] theorem kfree_record :
    (s.kfree c).record = Function.update s.record c { s.record c with live := false } := by
  unfold State.kfree
  split
  · rfl
  · rename_i h
    have hlive : (s.record c).live = false := by simpa using h
    have hsame : { s.record c with live := false } = s.record c := by rw [← hlive]
    rw [hsame, Function.update_eq_self]
    rfl

end Fields

/-- The phases in which the call's record may be on the list. -/
def isOpen : Phase → Bool
  | .enqueued _ | .built _ | .waiting | .timedOut | .sendFailed _ => true
  | _ => false

/-- The phases in which the call has a record and has not freed it. -/
def ownsRecord : Phase → Bool
  | .idle | .snapshot _ | .returned => false
  | _ => true

/-- The record is not on the list yet. -/
def isFresh : Phase → Bool
  | .allocated _ => true
  | _ => false

/-- The record a handler has taken off the list and not yet completed. -/
def heldBy (h : Handler) : Option Nat :=
  match h.phase with
  | .accepted => none
  | .holding c => some c
  | .filled c => some c

def heldRecords (s : State) : List Nat := s.handlers.filterMap heldBy

/-- The state of one call's record: on the list, held by a handler, or completed once. -/
structure CallOk (ph : Phase) (r : PendingScan) (onList inHand : Prop) : Prop where
  listed : onList → isOpen ph ∧ r.link = .linked ∧ r.done = 0 ∧ ¬ inHand
  held : inHand → (isOpen ph ∨ ph = .waitAgain) ∧ r.link = .self ∧ r.done = 0
  settled : (isOpen ph ∨ ph = .waitAgain) → ¬ onList → ¬ inHand →
    r.done = 1 ∧ (r.link = .self ∨ r.link = .poison)
  again : ph = .waitAgain → r.link = .self
  fresh : isFresh ph → r.done = 0
  live : ownsRecord ph → r.live

structure Inv (s : State) : Prop where
  list_nodup : s.pending_list.Nodup
  held_nodup : (heldRecords s).Nodup
  call : ∀ c, CallOk (s.phase c) (s.record c) (c ∈ s.pending_list) (c ∈ heldRecords s)

/-- The unlink of a failed call finds no handler with its record in hand. -/
def UnlinkOk (s : State) : Action → Prop
  | .remove c => c ∉ heldRecords s
  | _ => True

theorem inv_loaded : Inv State.loaded := by
  refine ⟨List.nodup_nil, List.nodup_nil, fun c => ⟨?_, ?_, ?_, ?_, ?_, ?_⟩⟩
  all_goals intro h
  · cases h
  · cases h
  · simp [State.loaded, isOpen] at h
  · cases h
  · cases h
  · cases h

section Local

variable {s s' : State}

/-- A step that concerns one call keeps the invariant when it keeps it for this call. -/
theorem inv_local (c : Nat) (h : Inv s)
    (hphase : ∀ d, d ≠ c → s'.phase d = s.phase d)
    (hrecord : ∀ d, d ≠ c → s'.record d = s.record d)
    (hlist : ∀ d, d ≠ c → (d ∈ s'.pending_list ↔ d ∈ s.pending_list))
    (hheld : ∀ d, d ≠ c → (d ∈ heldRecords s' ↔ d ∈ heldRecords s))
    (hlnd : s'.pending_list.Nodup) (hhnd : (heldRecords s').Nodup)
    (hc : CallOk (s'.phase c) (s'.record c) (c ∈ s'.pending_list) (c ∈ heldRecords s')) :
    Inv s' := by
  refine ⟨hlnd, hhnd, fun d => ?_⟩
  by_cases hd : d = c
  · rw [hd]
    exact hc
  · rw [hphase d hd, hrecord d hd, propext (hlist d hd), propext (hheld d hd)]
    exact h.call d

/-- The same for a step that changes neither the list nor what the handlers hold. -/
theorem inv_call (c : Nat) (h : Inv s) {p : Phase} {r : PendingScan}
    (hphase : s'.phase = Function.update s.phase c p)
    (hrecord : s'.record = Function.update s.record c r)
    (hlist : s'.pending_list = s.pending_list) (hhandlers : s'.handlers = s.handlers)
    (hc : CallOk p r (c ∈ s.pending_list) (c ∈ heldRecords s)) : Inv s' := by
  have hheld : heldRecords s' = heldRecords s := by rw [heldRecords, hhandlers, heldRecords]
  refine inv_local c h ?_ ?_ ?_ ?_ ?_ ?_ ?_
  · intro d hd
    rw [hphase, Function.update_of_ne hd]
  · intro d hd
    rw [hrecord, Function.update_of_ne hd]
  · intro d _
    rw [hlist]
  · intro d _
    rw [hheld]
  · rw [hlist]
    exact h.list_nodup
  · rw [hheld]
    exact h.held_nodup
  · rw [hphase, hrecord, hlist, hheld, Function.update_self, Function.update_self]
    exact hc

/-- A step of the call that stays in the open phases, or stays out of them, with its record. -/
theorem inv_phase (c : Nat) (h : Inv s) {ph : Phase}
    (hphase : s'.phase = Function.update s.phase c ph) (hrecord : s'.record = s.record)
    (hlist : s'.pending_list = s.pending_list) (hhandlers : s'.handlers = s.handlers)
    (hopen : isOpen ph = isOpen (s.phase c)) (hagain : ph ≠ .waitAgain)
    (hwas : s.phase c ≠ .waitAgain) (hfresh : isFresh ph = false)
    (howns : ownsRecord ph → ownsRecord (s.phase c)) : Inv s' := by
  have hcall := h.call c
  refine inv_call c h hphase (r := s.record c) (by rw [hrecord, Function.update_eq_self]) hlist
    hhandlers ⟨?_, ?_, ?_, ?_, ?_, ?_⟩
  · intro hl
    rw [hopen]
    exact hcall.listed hl
  · intro hh
    obtain ⟨hph, hrest⟩ := hcall.held hh
    refine ⟨Or.inl ?_, hrest⟩
    rw [hopen]
    exact hph.resolve_right hwas
  · intro hph
    rw [hopen] at hph
    exact hcall.settled (Or.inl (hph.resolve_right hagain))
  · intro ha
    exact absurd ha hagain
  · intro hf
    rw [hfresh] at hf
    cases hf
  · intro ho
    exact hcall.live (howns ho)

theorem Inv.not_listed {c : Nat} (h : Inv s) (hph : isOpen (s.phase c) = false) :
    c ∉ s.pending_list := by
  intro hl
  have hopen := ((h.call c).listed hl).1
  rw [hph] at hopen
  cases hopen

theorem Inv.not_held {c : Nat} (h : Inv s) (hph : isOpen (s.phase c) = false)
    (hag : s.phase c ≠ .waitAgain) : c ∉ heldRecords s := by
  intro hh
  rcases ((h.call c).held hh).1 with hopen | hagain
  · rw [hph] at hopen
    cases hopen
  · exact hag hagain

/-- A completion that the waiter finds was made after its record left the list and the hands of
the handlers. -/
theorem Inv.done_settled {c : Nat} (h : Inv s) (hd : 0 < (s.record c).done) :
    c ∉ s.pending_list ∧ c ∉ heldRecords s := by
  constructor
  · intro hl
    have := ((h.call c).listed hl).2.2.1
    omega
  · intro hh
    have := ((h.call c).held hh).2.2
    omega

theorem Inv.listed_live {c : Nat} (h : Inv s) (hl : c ∈ s.pending_list) : (s.record c).live := by
  have hopen := ((h.call c).listed hl).1
  apply (h.call c).live
  cases hph : s.phase c <;> simp_all [isOpen, ownsRecord]

theorem Inv.held_live {c : Nat} (h : Inv s) (hh : c ∈ heldRecords s) : (s.record c).live := by
  have hopen := ((h.call c).held hh).1
  apply (h.call c).live
  cases hph : s.phase c <;> simp_all [isOpen, ownsRecord]

theorem mem_heldRecords {c : Nat} : c ∈ heldRecords s ↔ ∃ h ∈ s.handlers, heldBy h = some c :=
  List.mem_filterMap

theorem unlink_list_of_linked {c : Nat} (hlink : (s.record c).link = .linked) (l : Link) :
    (s.unlink c l).pending_list = s.pending_list.erase c := by
  unfold State.unlink
  rw [if_pos hlink]

/-- The list a call's record is taken from, as the unlink leaves it. -/
theorem unlink_list (h : Inv s) (c : Nat) (l : Link) :
    (s.unlink c l).pending_list = s.pending_list.erase c := by
  unfold State.unlink
  split
  · rfl
  · rename_i hlink
    have hnot : c ∉ s.pending_list := fun hl => hlink ((h.call c).listed hl).2.1
    exact (List.erase_of_not_mem hnot).symm

end Local

section CallSteps

variable {s s' : State} {c : Nat}

/-- Outside the open phases nothing is said about the record but that it is allocated. -/
private theorem callOk_closed {ph : Phase} {r : PendingScan} {onList inHand : Prop}
    (hopen : isOpen ph = false) (hagain : ph ≠ .waitAgain) (hlist : ¬ onList)
    (hhand : ¬ inHand) (hfresh : isFresh ph → r.done = 0) (hlive : ownsRecord ph → r.live) :
    CallOk ph r onList inHand := by
  refine ⟨fun hl => absurd hl hlist, fun hh => absurd hh hhand, ?_, fun ha => absurd ha hagain,
    hfresh, hlive⟩
  rintro (ho | ha)
  · rw [hopen] at ho
    cases ho
  · exact absurd ha hagain

private theorem inv_stepCall {args : ScanArgs} (h : Inv s) (hs : stepCall s c args = some s') :
    Inv s' := by
  unfold stepCall at hs
  split at hs
  · rename_i hph
    dsimp only at hs
    split at hs
    · obtain rfl := Option.some.inj hs
      exact inv_phase c h rfl rfl rfl rfl (by rw [hph]; rfl) (by simp) (by simp [hph]) rfl
        (by simp [ownsRecord])
    · obtain rfl := Option.some.inj hs
      exact inv_phase c h rfl rfl rfl rfl (by rw [hph]; rfl) (by simp) (by simp [hph]) rfl
        (by simp [ownsRecord])
  · cases hs

private theorem inv_stepAlloc {ok : Bool} (h : Inv s) (hs : stepAlloc s c ok = some s') :
    Inv s' := by
  unfold stepAlloc at hs
  split at hs
  · rename_i hph
    split at hs
    · obtain rfl := Option.some.inj hs
      have hopen : isOpen (s.phase c) = false := by rw [hph]; rfl
      refine inv_call c h rfl rfl rfl rfl (callOk_closed rfl (by simp) (h.not_listed hopen)
        (h.not_held hopen (by simp [hph])) (fun _ => rfl) (fun _ => rfl))
    · obtain rfl := Option.some.inj hs
      exact inv_phase c h rfl rfl rfl rfl (by rw [hph]; rfl) (by simp) (by simp [hph]) rfl
        (by simp [ownsRecord])
  · cases hs

private theorem inv_stepEnqueue (h : Inv s) (hs : stepEnqueue s c = some s') : Inv s' := by
  unfold stepEnqueue at hs
  split at hs
  · rename_i portid hph
    split at hs
    · obtain rfl := Option.some.inj hs
      have hopen : isOpen (s.phase c) = false := by rw [hph]; rfl
      have hlist := h.not_listed hopen
      have hheld := h.not_held hopen (by simp [hph])
      have hdone : (s.record c).done = 0 := (h.call c).fresh (by rw [hph]; rfl)
      have hlive : (s.record c).live := (h.call c).live (by rw [hph]; rfl)
      refine inv_local c h ?_ ?_ ?_ ?_ ?_ h.held_nodup ?_
      · intro d hd
        simp [hd]
      · intro d hd
        simp [hd]
      · intro d hd
        simp [hd]
      · intro d _
        rfl
      · exact List.nodup_cons.mpr ⟨hlist, h.list_nodup⟩
      · simp only [setPhase_phase, setPhase_record, setPhase_list, setRecord_phase,
          setRecord_record, touch_phase, touch_record, Function.update_self]
        refine ⟨fun _ => ⟨rfl, rfl, hdone, hheld⟩, fun hh => absurd hh hheld, ?_, by simp,
          by simp [isFresh], fun _ => hlive⟩
        intro _ hnot
        exact absurd List.mem_cons_self hnot
    · cases hs
  · cases hs

private theorem inv_stepBuild {res : BuildResult} (h : Inv s) (hs : stepBuild s c res = some s') :
    Inv s' := by
  unfold stepBuild at hs
  split at hs
  · rename_i portid hph
    have hphase : ∀ ph, isOpen ph = true → ph ≠ .waitAgain → isFresh ph = false →
        ∀ t : State, t.phase = Function.update s.phase c ph → t.record = s.record →
          t.pending_list = s.pending_list → t.handlers = s.handlers → Inv t := by
      intro ph ho ha hf t h1 h2 h3 h4
      exact inv_phase c h h1 h2 h3 h4 (by rw [ho, hph]; rfl) ha (by simp [hph]) hf
        (fun _ => by rw [hph]; rfl)
    cases res with
    | ok =>
      obtain rfl := Option.some.inj hs
      exact hphase (.built portid) rfl (by simp) rfl _ rfl rfl rfl rfl
    | noSkb =>
      obtain rfl := Option.some.inj hs
      exact hphase (.sendFailed (-ENOMEM)) rfl (by simp) rfl _ rfl rfl rfl rfl
    | noRoom =>
      obtain rfl := Option.some.inj hs
      exact hphase (.sendFailed (-EMSGSIZE)) rfl (by simp) rfl _ rfl rfl rfl rfl
  · cases hs

private theorem inv_stepUnicast {ret : Int} (h : Inv s) (hs : stepUnicast s c ret = some s') :
    Inv s' := by
  unfold stepUnicast at hs
  split at hs
  · rename_i portid hph
    split at hs
    · obtain rfl := Option.some.inj hs
      exact inv_phase c h rfl rfl rfl rfl (by rw [hph]; rfl) (by simp) (by simp [hph]) rfl
        (fun _ => by rw [hph]; rfl)
    · obtain rfl := Option.some.inj hs
      exact inv_phase c h rfl rfl rfl rfl (by rw [hph]; rfl) (by simp) (by simp [hph]) rfl
        (fun _ => by rw [hph]; rfl)
  · cases hs

private theorem inv_consume (h : Inv s) (howns : ownsRecord (s.phase c))
    (hs : consume s c = some s') : Inv s' := by
  unfold consume at hs
  split at hs
  · rename_i hd
    obtain rfl := Option.some.inj hs
    obtain ⟨hlist, hheld⟩ := h.done_settled hd
    exact inv_call c h rfl rfl rfl rfl (callOk_closed rfl (by simp) hlist hheld
      (by simp [isFresh]) (fun _ => (h.call c).live howns))
  · cases hs

private theorem inv_stepTimeout (h : Inv s) (hs : stepTimeout s c = some s') : Inv s' := by
  unfold stepTimeout at hs
  split at hs
  · rename_i hph
    split at hs
    · obtain rfl := Option.some.inj hs
      exact inv_phase c h rfl rfl rfl rfl (by rw [hph]; rfl) (by simp) (by simp [hph]) rfl
        (fun _ => by rw [hph]; rfl)
    · cases hs
  · cases hs

/-- An unlink by the call itself, which leaves the open phases with it. -/
private theorem inv_unlink {ph : Phase} {l : Link} (h : Inv s) (howns : ownsRecord (s.phase c))
    (hheld : c ∉ heldRecords s) (hopen : isOpen ph = false) (hagain : ph ≠ .waitAgain)
    (hfresh : isFresh ph = false) : Inv ((s.unlink c l).setPhase c ph) := by
  have hlist := unlink_list h c l
  have hnot : c ∉ s.pending_list.erase c := fun hmem =>
    (List.Nodup.mem_erase_iff h.list_nodup).mp hmem |>.1 rfl
  have hsame : heldRecords ((s.unlink c l).setPhase c ph) = heldRecords s := by
    simp [heldRecords]
  refine inv_local c h ?_ ?_ ?_ ?_ ?_ ?_ ?_
  · intro d hd
    simp [hd]
  · intro d hd
    simp [hd]
  · intro d hd
    rw [setPhase_list, hlist]
    exact List.mem_erase_of_ne hd
  · intro d _
    rw [hsame]
  · rw [setPhase_list, hlist]
    exact h.list_nodup.erase c
  · rw [hsame]
    exact h.held_nodup
  · rw [hsame, setPhase_list, hlist, setPhase_phase, setPhase_record, unlink_phase, unlink_record,
      Function.update_self, Function.update_self]
    exact callOk_closed hopen hagain hnot hheld (by simp [hfresh])
      (fun _ => (h.call c).live howns)

private theorem inv_stepRecheck (h : Inv s) (hs : stepRecheck s c = some s') : Inv s' := by
  unfold stepRecheck at hs
  split at hs
  · rename_i hph
    have howns : ownsRecord (s.phase c) := by rw [hph]; rfl
    split at hs
    · dsimp only at hs
      split at hs
      · rename_i hpending
        obtain rfl := Option.some.inj hs
        have hlink : (s.record c).link ≠ .self := by simpa using hpending
        exact inv_unlink h howns (fun hh => hlink ((h.call c).held hh).2.1) rfl (by simp) rfl
      · rename_i hself
        obtain rfl := Option.some.inj hs
        have hlink : (s.record c).link = .self := by simpa using hself
        have hcall := h.call c
        refine inv_call c h rfl (r := s.record c) (by simp) rfl rfl ⟨?_, ?_, ?_, fun _ => hlink,
          by simp [isFresh], fun _ => hcall.live howns⟩
        · intro hl
          rw [(hcall.listed hl).2.1] at hlink
          cases hlink
        · intro hh
          exact ⟨Or.inr rfl, (hcall.held hh).2⟩
        · intro _
          exact hcall.settled (Or.inl (by rw [hph]; rfl))
    · cases hs
  · cases hs

/-- A free by the call itself, which returns with it. -/
private theorem inv_free (h : Inv s) (hopen : isOpen (s.phase c) = false)
    (hagain : s.phase c ≠ .waitAgain) (reqid : Option Nat) (res : Outcome) :
    Inv ((s.kfree c).finish c reqid res) := by
  refine inv_call c h (p := .returned) (r := { s.record c with live := false }) (by simp)
    (by simp) (by simp) (by simp)
    (callOk_closed rfl (by simp) (h.not_listed hopen) (h.not_held hopen hagain) ?_ ?_)
  · intro hf
    cases hf
  · intro ho
    cases ho

private theorem inv_stepExpire (h : Inv s) (hs : stepExpire s c = some s') : Inv s' := by
  unfold stepExpire at hs
  split at hs
  · rename_i hph
    obtain rfl := Option.some.inj hs
    exact inv_free h (by rw [hph]; rfl) (by simp [hph]) _ _
  · cases hs

private theorem inv_stepCopy (h : Inv s) (hs : stepCopy s c = some s') : Inv s' := by
  unfold stepCopy at hs
  split at hs
  · rename_i hph
    obtain rfl := Option.some.inj hs
    exact inv_phase c h rfl rfl rfl rfl (by rw [hph]; rfl) (by simp) (by simp [hph]) rfl
      (fun _ => by rw [hph]; rfl)
  · cases hs

private theorem inv_stepRelease (h : Inv s) (hs : stepRelease s c = some s') : Inv s' := by
  unfold stepRelease at hs
  split at hs
  · rename_i hph
    obtain rfl := Option.some.inj hs
    exact inv_free h (by rw [hph]; rfl) (by simp [hph]) _ _
  · cases hs

private theorem inv_stepRemove (h : Inv s) (hok : c ∉ heldRecords s)
    (hs : stepRemove s c = some s') : Inv s' := by
  unfold stepRemove at hs
  split at hs
  · rename_i hph
    split at hs
    · obtain rfl := Option.some.inj hs
      exact inv_unlink h (by rw [hph]; rfl) hok rfl (by simp) rfl
    · cases hs
  · cases hs

private theorem inv_stepFail (h : Inv s) (hs : stepFail s c = some s') : Inv s' := by
  unfold stepFail at hs
  split at hs
  · rename_i hph
    obtain rfl := Option.some.inj hs
    exact inv_free h (by rw [hph]; rfl) (by simp [hph]) _ _
  · cases hs

end CallSteps

section HandlerSteps

variable {s s' : State} {h : Handler}

/-- What one handler holds, and what the others hold. -/
theorem heldRecords_perm {o : Option Nat} (hmem : h ∈ s.handlers) (hheld : heldBy h = o) :
    (heldRecords s).Perm (o.toList ++ (s.handlers.erase h).filterMap heldBy) := by
  have hperm := (List.perm_cons_erase hmem).filterMap heldBy
  cases o with
  | none => rwa [List.filterMap_cons_none hheld] at hperm
  | some c => rwa [List.filterMap_cons_some hheld] at hperm

/-- A step that leaves calls, list and records alone, and the handlers' holdings up to order. -/
private theorem inv_frame (hi : Inv s) (hphase : s'.phase = s.phase)
    (hrecord : ∀ c, (s'.record c).link = (s.record c).link ∧
      (s'.record c).done = (s.record c).done ∧ (s'.record c).live = (s.record c).live)
    (hlist : s'.pending_list = s.pending_list)
    (hheld : (heldRecords s').Perm (heldRecords s)) : Inv s' := by
  refine ⟨by rw [hlist]; exact hi.list_nodup, hheld.nodup_iff.mpr hi.held_nodup, fun c => ?_⟩
  obtain ⟨hlink, hdone, hlive⟩ := hrecord c
  have hcall := hi.call c
  rw [hphase, hlist, propext hheld.mem_iff]
  refine ⟨?_, ?_, ?_, ?_, ?_, ?_⟩
  · rw [hlink, hdone]
    exact hcall.listed
  · rw [hlink, hdone]
    exact hcall.held
  · rw [hlink, hdone]
    exact hcall.settled
  · rw [hlink]
    exact hcall.again
  · rw [hdone]
    exact hcall.fresh
  · rw [hlive]
    exact hcall.live

private theorem inv_same (hi : Inv s) (hphase : s'.phase = s.phase) (hrecord : s'.record = s.record)
    (hlist : s'.pending_list = s.pending_list)
    (hheld : (heldRecords s').Perm (heldRecords s)) : Inv s' :=
  inv_frame hi hphase (fun c => by rw [hrecord]; exact ⟨rfl, rfl, rfl⟩) hlist hheld

private theorem inv_stepRegister {cap : Bool} {portid : Nat} (hi : Inv s)
    (hs : stepRegister s cap portid = some s') : Inv s' := by
  unfold stepRegister at hs
  split at hs
  · split at hs
    · obtain rfl := Option.some.inj hs
      exact inv_same hi rfl rfl rfl (List.Perm.refl _)
    · obtain rfl := Option.some.inj hs
      exact hi
  · cases hs

private theorem inv_stepUrelease {portid : Nat} (hi : Inv s)
    (hs : stepUrelease s portid = some s') : Inv s' := by
  unfold stepUrelease at hs
  split at hs
  · split at hs
    · obtain rfl := Option.some.inj hs
      exact inv_same hi rfl rfl rfl (List.Perm.refl _)
    · obtain rfl := Option.some.inj hs
      exact hi
  · cases hs

private theorem inv_stepReceive {cap : Bool} {portid : Nat} {reqid verdict : Option Nat}
    {rule_name : Option KernelAv.Lib.CText.Bytes} (hi : Inv s)
    (hs : stepReceive s cap portid reqid verdict rule_name = some s') : Inv s' := by
  unfold stepReceive at hs
  split at hs
  · dsimp only at hs
    split at hs
    · obtain rfl := Option.some.inj hs
      exact inv_same hi rfl rfl rfl (List.Perm.refl _)
    · obtain rfl := Option.some.inj hs
      exact inv_same hi rfl rfl rfl (List.Perm.refl _)
  · cases hs

theorem findPending_mem {m : Message} {c : Nat} (hf : findPending s m = some c) :
    c ∈ s.pending_list ∧ some (s.record c).reqid = m.reqid :=
  ⟨List.mem_of_find?_eq_some hf, by simpa using List.find?_some hf⟩

private theorem inv_stepDequeue (hi : Inv s) (hs : stepDequeue s h = some s') : Inv s' := by
  unfold stepDequeue at hs
  split at hs
  · rename_i hguard
    obtain ⟨hmem, hph, -⟩ := hguard
    have hnone : heldBy h = none := by rw [heldBy, hph]
    have hperm : (heldRecords s).Perm ((s.handlers.erase h).filterMap heldBy) :=
      heldRecords_perm hmem hnone
    dsimp only at hs
    split at hs
    · obtain rfl := Option.some.inj hs
      exact inv_same hi rfl rfl rfl hperm.symm
    · rename_i c hfind
      obtain rfl := Option.some.inj hs
      obtain ⟨hlisted, -⟩ := findPending_mem hfind
      have hcall := hi.call c
      obtain ⟨hopen, hlink, hdone, hnot⟩ := hcall.listed hlisted
      have hlist := unlink_list_of_linked (s := s.touch (searched s h.msg)) hlink .self
      rw [touch_list] at hlist
      have hheld : heldRecords { (s.touch (searched s h.msg)).unlink c .self with
          handlers := ⟨h.msg, .holding c⟩ :: s.handlers.erase h } =
          c :: (s.handlers.erase h).filterMap heldBy := rfl
      refine inv_local c hi ?_ ?_ ?_ ?_ ?_ ?_ ?_
      · intro d _
        simp
      · intro d hd
        simp [hd]
      · intro d hd
        show d ∈ ((s.touch (searched s h.msg)).unlink c .self).pending_list ↔ _
        rw [hlist]
        exact List.mem_erase_of_ne hd
      · intro d hd
        rw [hheld, List.mem_cons, hperm.mem_iff]
        simp [hd]
      · show ((s.touch (searched s h.msg)).unlink c .self).pending_list.Nodup
        rw [hlist]
        exact hi.list_nodup.erase c
      · rw [hheld]
        exact List.nodup_cons.mpr ⟨fun hc => hnot (hperm.mem_iff.mpr hc),
          hperm.nodup_iff.mp hi.held_nodup⟩
      · have hgone : c ∉ s.pending_list.erase c := fun hc =>
          ((List.Nodup.mem_erase_iff hi.list_nodup).mp hc).1 rfl
        rw [hheld]
        show CallOk (((s.touch (searched s h.msg)).unlink c .self).phase c)
          (((s.touch (searched s h.msg)).unlink c .self).record c)
          (c ∈ ((s.touch (searched s h.msg)).unlink c .self).pending_list) _
        rw [hlist, unlink_phase, unlink_record, touch_phase, touch_record, Function.update_self]
        refine ⟨fun hc => absurd hc hgone, fun _ => ⟨Or.inl hopen, rfl, hdone⟩, ?_, fun _ => rfl,
          hcall.fresh, hcall.live⟩
        intro _ _ hout
        exact absurd List.mem_cons_self hout
  · cases hs

private theorem inv_stepFill (hi : Inv s) (hs : stepFill s h = some s') : Inv s' := by
  unfold stepFill at hs
  split at hs
  · rename_i c hph
    split at hs
    · rename_i hmem
      obtain rfl := Option.some.inj hs
      have hheld : heldBy h = some c := by rw [heldBy, hph]
      have hperm := heldRecords_perm hmem hheld
      refine inv_frame hi rfl ?_ rfl hperm.symm
      intro d
      by_cases hd : d = c
      · subst hd
        simp
      · simp [hd]
    · cases hs
  · cases hs

/-- A completion of a record that is neither on the list nor in another handler's hands. -/
private theorem callOk_complete {ph : Phase} {r : PendingScan} {onList inHand : Prop}
    (hopen : isOpen ph ∨ ph = .waitAgain) (hlink : r.link = .self ∨ r.link = .poison)
    (hagain : ph = .waitAgain → r.link = .self) (hdone : r.done = 0) (hlist : ¬ onList)
    (hhand : ¬ inHand) (hlive : ownsRecord ph → r.live) :
    CallOk ph { r with done := r.done + 1 } onList inHand := by
  refine ⟨fun hl => absurd hl hlist, fun hh => absurd hh hhand, ?_, hagain, ?_, hlive⟩
  · intro _ _ _
    exact ⟨by rw [hdone], hlink⟩
  · intro hf
    cases ph <;> simp [isFresh, isOpen] at hf hopen

private theorem inv_stepComplete (hi : Inv s) (hs : stepComplete s h = some s') : Inv s' := by
  unfold stepComplete at hs
  split at hs
  · rename_i c hph
    split at hs
    · rename_i hmem
      obtain rfl := Option.some.inj hs
      have hheld : heldBy h = some c := by rw [heldBy, hph]
      have hperm := heldRecords_perm hmem hheld
      have hnodup := hperm.nodup_iff.mp hi.held_nodup
      obtain ⟨hnot, hrest⟩ := List.nodup_cons.mp hnodup
      have hcall := hi.call c
      obtain ⟨hopen, hlink, hdone⟩ := hcall.held (hperm.mem_iff.mpr List.mem_cons_self)
      have hnotlist : c ∉ s.pending_list := by
        intro hl
        rw [(hcall.listed hl).2.1] at hlink
        cases hlink
      refine inv_local c hi ?_ ?_ ?_ ?_ hi.list_nodup hrest ?_
      · intro d _
        rfl
      · intro d hd
        simp [hd]
      · intro d _
        rfl
      · intro d hd
        rw [hperm.mem_iff]
        simp [heldRecords, hd]
      · show CallOk (s.phase c) ((s.complete c (some h.msg.id)).record c) _ _
        rw [complete_record, Function.update_self]
        exact callOk_complete hopen (Or.inl hlink) hcall.again hdone hnotlist hnot hcall.live
    · cases hs
  · cases hs

private theorem inv_stepSweepOne (hi : Inv s) (hs : stepSweepOne s = some s') : Inv s' := by
  unfold stepSweepOne at hs
  split at hs
  · rename_i c rest hdown hlist
    obtain rfl := Option.some.inj hs
    have hmem : c ∈ s.pending_list := by rw [hlist]; exact List.mem_cons_self
    have hcall := hi.call c
    obtain ⟨hopen, hlink, hdone, hnot⟩ := hcall.listed hmem
    have hagain : s.phase c ≠ .waitAgain := by
      intro ha
      rw [ha] at hopen
      cases hopen
    have hrest : (s.unlink c .poison).pending_list = s.pending_list.erase c := unlink_list hi c _
    have hgone : c ∉ s.pending_list.erase c := fun hc =>
      ((List.Nodup.mem_erase_iff hi.list_nodup).mp hc).1 rfl
    have hsame : heldRecords ((s.unlink c .poison).complete c none) = heldRecords s := by
      simp [heldRecords]
    refine inv_local c hi ?_ ?_ ?_ ?_ ?_ ?_ ?_
    · intro d _
      simp
    · intro d hd
      simp [hd]
    · intro d hd
      rw [complete_list, hrest]
      exact List.mem_erase_of_ne hd
    · intro d _
      rw [hsame]
    · rw [complete_list, hrest]
      exact hi.list_nodup.erase c
    · rw [hsame]
      exact hi.held_nodup
    · rw [hsame, complete_list, hrest, complete_phase, complete_record, unlink_phase,
        unlink_record, Function.update_self, Function.update_self]
      exact callOk_complete (Or.inl hopen) (Or.inr rfl) (fun ha => absurd ha hagain) hdone hgone
        hnot hcall.live
  · cases hs

private theorem inv_teardown (hi : Inv s) (t : Teardown) : Inv { s with teardown := t } :=
  inv_same hi rfl rfl rfl (List.Perm.refl _)

private theorem inv_stepTeardown {before after : Teardown} (hi : Inv s)
    (hs : stepTeardown s before after = some s') : Inv s' := by
  unfold stepTeardown at hs
  split at hs
  · obtain rfl := Option.some.inj hs
    exact inv_teardown hi after
  · cases hs

end HandlerSteps

/-- Ownership is kept by every step but an unlink under a handler's hands. -/
theorem step_inv {s s' : State} {a : Action} (h : Inv s) (hok : UnlinkOk s a)
    (hs : step s a = some s') : Inv s' := by
  cases a with
  | call c args => exact inv_stepCall h hs
  | alloc c ok => exact inv_stepAlloc h hs
  | enqueue c => exact inv_stepEnqueue h hs
  | build c res => exact inv_stepBuild h hs
  | unicast c ret => exact inv_stepUnicast h hs
  | wake c =>
    simp only [step, stepWake] at hs
    split at hs
    · rename_i hph
      exact inv_consume h (by rw [hph]; rfl) hs
    · cases hs
  | timeout c => exact inv_stepTimeout h hs
  | recheck c => exact inv_stepRecheck h hs
  | wakeAgain c =>
    simp only [step, stepWakeAgain] at hs
    split at hs
    · rename_i hph
      exact inv_consume h (by rw [hph]; rfl) hs
    · cases hs
  | expire c => exact inv_stepExpire h hs
  | copy c => exact inv_stepCopy h hs
  | release c => exact inv_stepRelease h hs
  | remove c => exact inv_stepRemove h hok hs
  | fail c => exact inv_stepFail h hs
  | register cap portid => exact inv_stepRegister h hs
  | urelease portid => exact inv_stepUrelease h hs
  | receive cap portid reqid verdict rule_name => exact inv_stepReceive h hs
  | dequeue hd => exact inv_stepDequeue h hs
  | fill hd => exact inv_stepFill h hs
  | complete hd => exact inv_stepComplete h hs
  | unregisterFamily =>
    simp only [step, stepUnregisterFamily] at hs
    split at hs
    · obtain rfl := Option.some.inj hs
      exact inv_teardown h .familyGone
    · cases hs
  | unregisterNotifier => exact inv_stepTeardown h hs
  | sweepStart => exact inv_stepTeardown h hs
  | sweepOne => exact inv_stepSweepOne h hs
  | sweepEnd =>
    simp only [step, stepSweepEnd] at hs
    split at hs
    · exact inv_stepTeardown h hs
    · cases hs

end KernelAv.Kernel.ChannelInvariant
