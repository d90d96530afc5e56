/- digest: A verdict that a scan request returns was sent for it by the registered daemon. -/

import KernelAv.Kernel.ChannelLifetime

set_option autoImplicit false
set_option relaxedAutoImplicit false

namespace KernelAv.Kernel.ChannelIntegrity

open KernelAv.Lib.Run
open KernelAv.Kernel.Channel
open KernelAv.Kernel.ChannelInvariant
open KernelAv.Kernel.ChannelLog
open KernelAv.Kernel.ChannelLifetime

def completes (c : Nat) : Event → Bool
  | .completed d _ => d = c
  | _ => false

def completedBy (id : Nat) : Event → Bool
  | .completed _ (some i) => i = id
  | _ => false

def isCompletion : Event → Bool
  | .completed _ _ => true
  | _ => false

/-- A message with this request id and this defined verdict passed the handler's checks, while
its sender was the registered daemon. -/
def Backed (log : List Event) (reqid : Nat) (verdict : Int) : Prop :=
  ∃ m n, Event.checked m true m.snd_portid ∈ log ∧ m.reqid = some reqid ∧
    m.verdict = some n ∧ verdict = n ∧ (n = AV_VERDICT_CLEAN ∨ n = AV_VERDICT_MALICIOUS)

/-- Verdicts are backed by messages, no message and no request has two completions, and none
comes after the request has returned an error. -/
structure VerdictIntegrity (log : List Event) : Prop where
  backed : ∀ c reqid v rule_name, Event.returned c reqid (.verdict v rule_name) ∈ log →
    ∃ r, reqid = some r ∧ Backed log r v
  message_once : ∀ id, log.countP (completedBy id) ≤ 1
  request_once : ∀ c, log.countP (completes c) ≤ 1
  no_late : ∀ later earlier c reqid ret,
    log = later ++ Event.returned c reqid (.error ret) :: earlier →
      ∀ e ∈ later, completes c e = false

/-- The teardown finds no record to sweep, and no call fails to send while a handler has its
record in hand. -/
def NoStrayWake (s : State) : Action → Prop
  | .sweepOne => s.pending_list = []
  | .remove c => c ∉ heldRecords s
  | _ => True

/-- The record has not been put on the list yet. -/
def isEarly : Phase → Bool
  | .idle | .snapshot _ | .allocated _ => true
  | _ => false

/-- One call, with the log. -/
structure CallSound (s : State) (c : Nat) : Prop where
  link : (isOpen (s.phase c) ∨ s.phase c = .waitAgain) → (s.record c).link ≠ .poison
  answered : (isOpen (s.phase c) ∨ s.phase c = .waitAgain) → c ∉ s.pending_list →
    c ∉ heldRecords s → Backed s.log (s.record c).reqid (s.record c).verdict
  finishing : s.phase c = .finishing → Backed s.log (s.record c).reqid (s.record c).verdict
  copied : ∀ v rule_name, s.phase c = .copied v rule_name → Backed s.log (s.record c).reqid v
  once : s.log.countP (completes c) ≤ 1
  none : c ∈ s.pending_list ∨ c ∈ heldRecords s ∨ isEarly (s.phase c) →
    s.log.countP (completes c) = 0

/-- One running handler: its message passed the checks, has the id of the record in hand, and
has not completed anything. -/
structure HandlerSound (s : State) (h : Handler) : Prop where
  checked : ∃ n, Event.checked h.msg true h.msg.snd_portid ∈ s.log ∧ h.msg.verdict = some n ∧
    (n = AV_VERDICT_CLEAN ∨ n = AV_VERDICT_MALICIOUS)
  reqid : ∀ c, heldBy h = some c → h.msg.reqid = some (s.record c).reqid
  verdict : ∀ c, h.phase = .filled c → (s.record c).verdict = (h.msg.verdict.getD 0 : Nat)
  recent : h.msg.id < s.nextMsg
  unspent : s.log.countP (completedBy h.msg.id) = 0

structure Sound (s : State) : Prop where
  inv : Inv s
  accounted : ∀ c, Accounted s c
  call : ∀ c, CallSound s c
  handler : ∀ h ∈ s.handlers, HandlerSound s h
  ids : (s.handlers.map fun h => h.msg.id).Nodup
  past : ∀ id, s.nextMsg ≤ id → s.log.countP (completedBy id) = 0
  integrity : VerdictIntegrity s.log

section Logs

variable {log ev : List Event}

private theorem Backed.mono {r : Nat} {v : Int} (h : Backed log r v) (ev : List Event) :
    Backed (ev ++ log) r v := by
  obtain ⟨m, n, hm, hrest⟩ := h
  exact ⟨m, n, List.mem_append_right _ hm, hrest⟩

private theorem countP_quiet (log : List Event) {p : Event → Bool}
    (hp : ∀ e, p e = true → isCompletion e = true)
    (hev : ∀ e ∈ ev, isCompletion e = false) :
    (ev ++ log).countP p = log.countP p := by
  have hzero : ev.countP p = 0 := by
    rw [List.countP_eq_zero]
    intro e he hpe
    have hcomp := hp e hpe
    rw [hev e he] at hcomp
    cases hcomp
  rw [List.countP_append, hzero, Nat.zero_add]

private theorem completes_isCompletion (c : Nat) (e : Event) (h : completes c e = true) :
    isCompletion e = true := by
  cases e <;> simp_all [completes, isCompletion]

private theorem completedBy_isCompletion (id : Nat) (e : Event) (h : completedBy id e = true) :
    isCompletion e = true := by
  cases e <;> simp_all [completedBy, isCompletion]

private theorem completes_quiet (hev : ∀ e ∈ ev, isCompletion e = false) (c : Nat) :
    ∀ e ∈ ev, completes c e = false := by
  intro e he
  by_contra hc
  have hcomp := completes_isCompletion c e (by simpa using hc)
  rw [hev e he] at hcomp
  cases hcomp

/-- Events that complete nothing, and whose verdicts are backed, keep the log in order. -/
private theorem integrity_quiet (h : VerdictIntegrity log)
    (hev : ∀ e ∈ ev, isCompletion e = false)
    (hverdict : ∀ c reqid v rule_name, Event.returned c reqid (.verdict v rule_name) ∈ ev →
      ∃ r, reqid = some r ∧ Backed log r v) : VerdictIntegrity (ev ++ log) := by
  refine ⟨?_, ?_, ?_, ?_⟩
  · intro c reqid v rule_name hmem
    rcases List.mem_append.mp hmem with hmem | hmem
    · obtain ⟨r, hr, hb⟩ := hverdict c reqid v rule_name hmem
      exact ⟨r, hr, hb.mono ev⟩
    · obtain ⟨r, hr, hb⟩ := h.backed c reqid v rule_name hmem
      exact ⟨r, hr, hb.mono ev⟩
  · intro id
    rw [countP_quiet _ (completedBy_isCompletion id) hev]
    exact h.message_once id
  · intro c
    rw [countP_quiet _ (completes_isCompletion c) hev]
    exact h.request_once c
  · intro later earlier c reqid ret hlog e he
    have hnot := completes_quiet hev c
    rcases List.append_eq_append_iff.mp hlog.symm with ⟨as, hev', -⟩ | ⟨bs, hlater, hlog'⟩
    · exact hnot e (by rw [hev']; exact List.mem_append_left _ he)
    · rw [hlater] at he
      rcases List.mem_append.mp he with he | he
      · exact hnot e he
      · exact h.no_late bs earlier c reqid ret hlog' e he

end Logs

section Local

variable {s s' : State} {ev : List Event}

/-- What a call that a step does not concern keeps. -/
private theorem callSound_other {d : Nat} (h : CallSound s d) (hlog : s'.log = ev ++ s.log)
    (hev : ∀ e ∈ ev, completes d e = false) (hphase : s'.phase d = s.phase d)
    (hrecord : s'.record d = s.record d) (hlist : d ∈ s'.pending_list ↔ d ∈ s.pending_list)
    (hheld : d ∈ heldRecords s' ↔ d ∈ heldRecords s) : CallSound s' d := by
  have hcount : s'.log.countP (completes d) = s.log.countP (completes d) := by
    have hzero : ev.countP (completes d) = 0 := by
      rw [List.countP_eq_zero]
      intro e he hc
      rw [hev e he] at hc
      cases hc
    rw [hlog, List.countP_append, hzero, Nat.zero_add]
  refine ⟨?_, ?_, ?_, ?_, ?_, ?_⟩
  · rw [hphase, hrecord]
    exact h.link
  · rw [hphase, hrecord, hlist, hheld, hlog]
    intro hph hl hh
    exact (h.answered hph hl hh).mono ev
  · rw [hphase, hrecord, hlog]
    intro hph
    exact (h.finishing hph).mono ev
  · rw [hphase, hrecord, hlog]
    intro v rule_name hph
    exact (h.copied v rule_name hph).mono ev
  · rw [hcount]
    exact h.once
  · rw [hcount, hphase, hlist, hheld]
    exact h.none

/-- The steps of a call itself complete nothing and leave the handlers alone. -/
private theorem sound_of_call (c : Nat) (h : Sound s) (hinv : Inv s')
    (hacc : ∀ d, Accounted s' d) (hlog : s'.log = ev ++ s.log)
    (hev : ∀ e ∈ ev, isCompletion e = false)
    (hverdict : ∀ d reqid v rule_name, Event.returned d reqid (.verdict v rule_name) ∈ ev →
      ∃ r, reqid = some r ∧ Backed s.log r v)
    (hphase : ∀ d, d ≠ c → s'.phase d = s.phase d)
    (hrecord : ∀ d, d ≠ c → s'.record d = s.record d)
    (hlist : ∀ d, d ≠ c → (d ∈ s'.pending_list ↔ d ∈ s.pending_list))
    (hhandlers : s'.handlers = s.handlers) (hnext : s'.nextMsg = s.nextMsg)
    (hinhand : c ∈ heldRecords s → (s'.record c).reqid = (s.record c).reqid ∧
      (s'.record c).verdict = (s.record c).verdict)
    (hcall : CallSound s' c) : Sound s' := by
  have hheld : heldRecords s' = heldRecords s := by rw [heldRecords, hhandlers, heldRecords]
  have hsame : ∀ d, d ∈ heldRecords s → (s'.record d).reqid = (s.record d).reqid ∧
      (s'.record d).verdict = (s.record d).verdict := by
    intro d hd
    by_cases hdc : d = c
    · subst hdc
      exact hinhand hd
    · rw [hrecord d hdc]
      exact ⟨rfl, rfl⟩
  have hcount : ∀ id, s'.log.countP (completedBy id) = s.log.countP (completedBy id) := by
    intro id
    rw [hlog]
    exact countP_quiet _ (completedBy_isCompletion id) hev
  refine ⟨hinv, hacc, ?_, ?_, ?_, ?_, ?_⟩
  · intro d
    by_cases hd : d = c
    · subst hd
      exact hcall
    · exact callSound_other (h.call d) hlog (completes_quiet hev d) (hphase d hd) (hrecord d hd)
        (hlist d hd) (by rw [hheld])
  · intro hd hmem
    rw [hhandlers] at hmem
    obtain ⟨⟨n, hm, hn⟩, hreqid, hfilled, hrecent, hunspent⟩ := h.handler hd hmem
    refine ⟨⟨n, by rw [hlog]; exact List.mem_append_right _ hm, hn⟩, ?_, ?_, ?_, ?_⟩
    · intro d hb
      rw [(hsame d (mem_heldRecords.mpr ⟨hd, hmem, hb⟩)).1]
      exact hreqid d hb
    · intro d hph
      rw [(hsame d (mem_heldRecords.mpr ⟨hd, hmem, by rw [heldBy, hph]⟩)).2]
      exact hfilled d hph
    · rw [hnext]
      exact hrecent
    · rw [hcount]
      exact hunspent
  · rw [hhandlers]
    exact h.ids
  · intro id hid
    rw [hcount]
    rw [hnext] at hid
    exact h.past id hid
  · rw [hlog]
    exact integrity_quiet h.integrity hev hverdict

/-- A call outside the open phases that holds no verdict yet. -/
private theorem callSound_closed {c : Nat} (h : Sound s) (hinv : Inv s')
    (hlog : s'.log = ev ++ s.log) (hev : ∀ e ∈ ev, isCompletion e = false)
    (hopen : isOpen (s'.phase c) = false) (hagain : s'.phase c ≠ .waitAgain)
    (hfinish : s'.phase c ≠ .finishing) (hcopied : ∀ v r, s'.phase c ≠ .copied v r)
    (hearly : isEarly (s'.phase c) → isEarly (s.phase c)) : CallSound s' c := by
  have hcount : s'.log.countP (completes c) = s.log.countP (completes c) := by
    rw [hlog]
    exact countP_quiet _ (completes_isCompletion c) hev
  have hnot : ∀ {p : Prop}, (isOpen (s'.phase c) ∨ s'.phase c = .waitAgain) → p := by
    rintro p (ho | ha)
    · rw [hopen] at ho
      cases ho
    · exact absurd ha hagain
  refine ⟨fun hph => hnot hph, fun hph => hnot hph, fun hph => absurd hph hfinish,
    fun v r hph => absurd hph (hcopied v r), by rw [hcount]; exact (h.call c).once, ?_⟩
  rw [hcount]
  rintro (hl | hh | he)
  · exact absurd hl (hinv.not_listed hopen)
  · exact absurd hh (hinv.not_held hopen hagain)
  · exact (h.call c).none (Or.inr (Or.inr (hearly he)))

/-- A call that stays open, with its record as it is. -/
private theorem callSound_open {c : Nat} (h : Sound s) (hlog : s'.log = ev ++ s.log)
    (hev : ∀ e ∈ ev, isCompletion e = false) (hheld : heldRecords s' = heldRecords s)
    (hlist : s'.pending_list = s.pending_list) (hrecord : s'.record c = s.record c)
    (hopen : isOpen (s.phase c)) (hopen' : isOpen (s'.phase c) ∨ s'.phase c = .waitAgain)
    (hearly : isEarly (s'.phase c) = false) : CallSound s' c := by
  have hcount : s'.log.countP (completes c) = s.log.countP (completes c) := by
    rw [hlog]
    exact countP_quiet _ (completes_isCompletion c) hev
  have hcall := h.call c
  have hnot : ∀ {ph}, isOpen ph = false → ph ≠ .waitAgain → s'.phase c ≠ ph := by
    rintro ph ho ha rfl
    rcases hopen' with hph | hph
    · rw [ho] at hph
      cases hph
    · exact ha hph
  refine ⟨?_, ?_, fun hph => absurd hph (hnot rfl (by simp)),
    fun v r hph => absurd hph (hnot rfl (by simp)), by rw [hcount]; exact hcall.once, ?_⟩
  · rw [hrecord]
    exact fun _ => hcall.link (Or.inl hopen)
  · rw [hrecord, hlist, hheld, hlog]
    intro _ hl hh
    exact (hcall.answered (Or.inl hopen) hl hh).mono ev
  · rw [hcount, hlist, hheld]
    rintro (hl | hh | he)
    · exact hcall.none (Or.inl hl)
    · exact hcall.none (Or.inr (Or.inl hh))
    · rw [hearly] at he
      cases he

end Local

section Emitted

variable {s : State} {a : Action}

private theorem useFaults_completion {cs : List Nat} :
    ∀ e ∈ useFaults s cs, isCompletion e = false := by
  intro e he
  obtain ⟨f, d, rfl⟩ := fault_of_useFaults he
  rfl

/-- Only handlers and the sweep complete anything. -/
private theorem emitted_completion (hh : ∀ h, a ≠ .complete h) (hw : a ≠ .sweepOne) :
    ∀ e ∈ emitted s a, isCompletion e = false := by
  intro e he
  have hemits := emitted_spec he
  cases e with
  | completed c m =>
    rcases hemits with rfl | ⟨h, rfl⟩
    · exact absurd rfl hw
    · exact absurd rfl (hh h)
  | _ => rfl

/-- A verdict is returned only by the call that copied it. -/
private theorem emitted_verdict {c : Nat} {reqid : Option Nat} {v : Int}
    {rule_name : KernelAv.Lib.CText.Bytes}
    (he : Event.returned c reqid (.verdict v rule_name) ∈ emitted s a) :
    s.phase c = .copied v rule_name ∧ reqid = some (s.record c).reqid :=
  emitted_spec he v rule_name rfl

end Emitted

section CallSteps

variable {s s' : State} {a : Action}

/-- What every step but a completion brings: ownership, accounts and a quiet log. -/
private theorem unlinkOk_of_noStray (hok : NoStrayWake s a) : UnlinkOk s a := by
  cases a with
  | remove c => exact hok
  | _ => trivial

/-- A step of call `c` that keeps everything but its phase, its record and its place on the
list. -/
private theorem sound_call_step (c : Nat) (h : Sound s) (hs : step s a = some s')
    (hok : NoStrayWake s a) (hh : ∀ hd, a ≠ .complete hd) (hw : a ≠ .sweepOne)
    {p : Phase} {r : PendingScan} (hphase : s'.phase = Function.update s.phase c p)
    (hrecord : s'.record = Function.update s.record c r)
    (hlist : ∀ d, d ≠ c → (d ∈ s'.pending_list ↔ d ∈ s.pending_list))
    (hhandlers : s'.handlers = s.handlers) (hnext : s'.nextMsg = s.nextMsg)
    (hinhand : c ∈ heldRecords s → r.reqid = (s.record c).reqid ∧
      r.verdict = (s.record c).verdict)
    (hcall : Inv s' → s'.log = emitted s a ++ s.log →
      (∀ e ∈ emitted s a, isCompletion e = false) → CallSound s' c) : Sound s' := by
  have hinv := step_inv h.inv (unlinkOk_of_noStray hok) hs
  have hev := emitted_completion (s := s) hh hw
  refine sound_of_call c h hinv (step_accounted h.inv h.accounted hs) (step_log hs) hev ?_ ?_ ?_
    hlist hhandlers hnext ?_ (hcall hinv (step_log hs) hev)
  · intro d reqid v rule_name hmem
    obtain ⟨hph, hr⟩ := emitted_verdict hmem
    exact ⟨_, hr, (h.call d).copied v rule_name hph⟩
  · intro d hd
    rw [hphase, Function.update_of_ne hd]
  · intro d hd
    rw [hrecord, Function.update_of_ne hd]
  · rw [hrecord, Function.update_self]
    exact hinhand

/-- Such a step to a phase in which the call holds no verdict. -/
private theorem sound_close (c : Nat) (h : Sound s) (hs : step s a = some s')
    (hok : NoStrayWake s a) (hh : ∀ hd, a ≠ .complete hd) (hw : a ≠ .sweepOne)
    {p : Phase} {r : PendingScan} (hphase : s'.phase = Function.update s.phase c p)
    (hrecord : s'.record = Function.update s.record c r)
    (hlist : ∀ d, d ≠ c → (d ∈ s'.pending_list ↔ d ∈ s.pending_list))
    (hhandlers : s'.handlers = s.handlers) (hnext : s'.nextMsg = s.nextMsg)
    (hinhand : c ∉ heldRecords s) (hopen : isOpen p = false) (hagain : p ≠ .waitAgain)
    (hfinish : p ≠ .finishing) (hcopied : ∀ v r, p ≠ .copied v r)
    (hearly : isEarly p → isEarly (s.phase c)) : Sound s' := by
  have hself : s'.phase c = p := by rw [hphase, Function.update_self]
  refine sound_call_step c h hs hok hh hw hphase hrecord hlist hhandlers hnext
    (fun hc => absurd hc hinhand) ?_
  intro hinv hlog hev
  refine callSound_closed h hinv hlog hev ?_ ?_ ?_ ?_ ?_
  all_goals rw [hself]
  · exact hopen
  · exact hagain
  · exact hfinish
  · exact hcopied
  · exact hearly

/-- Such a step within the open phases. -/
private theorem sound_open (c : Nat) (h : Sound s) (hs : step s a = some s')
    (hok : NoStrayWake s a) (hh : ∀ hd, a ≠ .complete hd) (hw : a ≠ .sweepOne)
    {ph : Phase} (hphase : s'.phase = Function.update s.phase c ph)
    (hrecord : s'.record = s.record) (hlist : s'.pending_list = s.pending_list)
    (hhandlers : s'.handlers = s.handlers) (hnext : s'.nextMsg = s.nextMsg)
    (hopen : isOpen (s.phase c)) (hopen' : isOpen ph ∨ ph = .waitAgain)
    (hearly : isEarly ph = false) : Sound s' := by
  have hself : s'.phase c = ph := by rw [hphase, Function.update_self]
  refine sound_call_step c h hs hok hh hw hphase (r := s.record c)
    (by rw [hrecord, Function.update_eq_self]) (fun d _ => by rw [hlist]) hhandlers hnext
    (fun _ => ⟨rfl, rfl⟩) ?_
  intro _ hlog hev
  refine callSound_open h hlog hev ?_ hlist (by rw [hrecord]) hopen ?_ ?_
  · rw [heldRecords, hhandlers, heldRecords]
  · rw [hself]
    exact hopen'
  · rw [hself]
    exact hearly

private theorem unlink_nextMsg (s : State) (c : Nat) (l : Link) :
    (s.unlink c l).nextMsg = s.nextMsg := by
  unfold State.unlink
  split <;> rfl

private theorem kfree_nextMsg (s : State) (c : Nat) : (s.kfree c).nextMsg = s.nextMsg := by
  unfold State.kfree
  split <;> rfl

private theorem sound_stepCall {c : Nat} {args : ScanArgs} (h : Sound s)
    (hs : step s (.call c args) = some s') : Sound s' := by
  have hcall := hs
  simp only [step, stepCall] at hcall
  split at hcall
  · rename_i hph
    have hheld : c ∉ heldRecords s := h.inv.not_held (by rw [hph]; rfl) (by simp [hph])
    have hsame : s.record = Function.update s.record c (s.record c) :=
      (Function.update_eq_self c s.record).symm
    split at hcall
    · obtain rfl := Option.some.inj hcall
      exact sound_close c h hs trivial (by simp) (by simp) rfl hsame (fun _ _ => Iff.rfl) rfl rfl
        hheld rfl (by simp) (by simp) (by simp) (fun _ => by rw [hph]; rfl)
    · obtain rfl := Option.some.inj hcall
      exact sound_close c h hs trivial (by simp) (by simp) rfl hsame (fun _ _ => Iff.rfl) rfl rfl
        hheld rfl (by simp) (by simp) (by simp) (fun _ => by rw [hph]; rfl)
  · cases hcall

private theorem sound_stepAlloc {c : Nat} {ok : Bool} (h : Sound s)
    (hs : step s (.alloc c ok) = some s') : Sound s' := by
  have hcall := hs
  simp only [step, stepAlloc] at hcall
  split at hcall
  · rename_i hph
    have hheld : c ∉ heldRecords s := h.inv.not_held (by rw [hph]; rfl) (by simp [hph])
    split at hcall
    · obtain rfl := Option.some.inj hcall
      exact sound_close c h hs trivial (by simp) (by simp) rfl rfl (fun _ _ => Iff.rfl) rfl rfl
        hheld rfl (by simp) (by simp) (by simp) (fun _ => by rw [hph]; rfl)
    · obtain rfl := Option.some.inj hcall
      exact sound_close c h hs trivial (by simp) (by simp) rfl
        (Function.update_eq_self c s.record).symm (fun _ _ => Iff.rfl) rfl rfl
        hheld rfl (by simp) (by simp) (by simp) (fun _ => by rw [hph]; rfl)
  · cases hcall

private theorem sound_stepEnqueue {c : Nat} (h : Sound s)
    (hs : step s (.enqueue c) = some s') : Sound s' := by
  have hcall := hs
  simp only [step, stepEnqueue] at hcall
  split at hcall
  · rename_i portid hph
    have hheld : c ∉ heldRecords s := h.inv.not_held (by rw [hph]; rfl) (by simp [hph])
    split at hcall
    · obtain rfl := Option.some.inj hcall
      refine sound_call_step c h hs trivial (by simp) (by simp) (p := .enqueued portid)
        (r := { s.record c with link := .linked }) rfl rfl (fun d hd => by simp [hd]) rfl rfl
        (fun _ => ⟨rfl, rfl⟩) ?_
      intro _ hlog hev
      have hcount := countP_quiet s.log (completes_isCompletion c) hev
      rw [← hlog] at hcount
      have hzero := (h.call c).none (Or.inr (Or.inr (by rw [hph]; rfl)))
      refine ⟨?_, ?_, ?_, ?_, by rw [hcount, hzero]; exact Nat.zero_le 1,
        fun _ => by rw [hcount, hzero]⟩
      · intro _
        simp
      · intro _ hlist
        exact absurd List.mem_cons_self hlist
      · intro hfin
        simp at hfin
      · intro v rule_name hcop
        simp at hcop
    · cases hcall
  · cases hcall

private theorem sound_stepBuild {c : Nat} {res : BuildResult} (h : Sound s)
    (hs : step s (.build c res) = some s') : Sound s' := by
  have hcall := hs
  simp only [step, stepBuild] at hcall
  split at hcall
  · rename_i hph
    have hopen : isOpen (s.phase c) := by rw [hph]; rfl
    cases res with
    | ok =>
      obtain rfl := Option.some.inj hcall
      exact sound_open c h hs trivial (by simp) (by simp) rfl rfl rfl rfl rfl hopen (Or.inl rfl) rfl
    | noSkb =>
      obtain rfl := Option.some.inj hcall
      exact sound_open c h hs trivial (by simp) (by simp) rfl rfl rfl rfl rfl hopen (Or.inl rfl) rfl
    | noRoom =>
      obtain rfl := Option.some.inj hcall
      exact sound_open c h hs trivial (by simp) (by simp) rfl rfl rfl rfl rfl hopen (Or.inl rfl) rfl
  · cases hcall

private theorem sound_stepUnicast {c : Nat} {ret : Int} (h : Sound s)
    (hs : step s (.unicast c ret) = some s') : Sound s' := by
  have hcall := hs
  simp only [step, stepUnicast] at hcall
  split at hcall
  · rename_i hph
    have hopen : isOpen (s.phase c) := by rw [hph]; rfl
    split at hcall
    · obtain rfl := Option.some.inj hcall
      exact sound_open c h hs trivial (by simp) (by simp) rfl rfl rfl rfl rfl hopen (Or.inl rfl) rfl
    · obtain rfl := Option.some.inj hcall
      exact sound_open c h hs trivial (by simp) (by simp) rfl rfl rfl rfl rfl hopen (Or.inl rfl) rfl
  · cases hcall

private theorem sound_stepTimeout {c : Nat} (h : Sound s)
    (hs : step s (.timeout c) = some s') : Sound s' := by
  have hcall := hs
  simp only [step, stepTimeout] at hcall
  split at hcall
  · rename_i hph
    split at hcall
    · obtain rfl := Option.some.inj hcall
      exact sound_open c h hs trivial (by simp) (by simp) rfl rfl rfl rfl rfl (by rw [hph]; rfl)
        (Or.inl rfl) rfl
    · cases hcall
  · cases hcall

private theorem sound_stepRecheck {c : Nat} (h : Sound s)
    (hs : step s (.recheck c) = some s') : Sound s' := by
  have hcall := hs
  simp only [step, stepRecheck] at hcall
  split at hcall
  · rename_i hph
    split at hcall
    · split at hcall
      · rename_i hpending
        obtain rfl := Option.some.inj hcall
        have hlink : (s.record c).link ≠ .self := by simpa using hpending
        refine sound_close c h hs trivial (by simp) (by simp) (by simp; rfl) (by simp; rfl) ?_
          (by simp) (unlink_nextMsg s c .self) ?_ rfl (by simp) (by simp) (by simp) ?_
        · intro d hd
          rw [setPhase_list, unlink_list h.inv]
          exact List.mem_erase_of_ne hd
        · exact fun hh => hlink ((h.inv.call c).held hh).2.1
        · intro he
          cases he
      · obtain rfl := Option.some.inj hcall
        exact sound_open c h hs trivial (by simp) (by simp) rfl rfl rfl rfl rfl (by rw [hph]; rfl)
          (Or.inr rfl) rfl
    · cases hcall
  · cases hcall

/-- A completion is consumed only after its record was filled from a checked message. -/
private theorem sound_consume {c : Nat} (h : Sound s) (hs : step s a = some s')
    (hh : ∀ hd, a ≠ .complete hd) (hw : a ≠ .sweepOne) (hok : NoStrayWake s a)
    (hph : isOpen (s.phase c) ∨ s.phase c = .waitAgain)
    (hcons : consume s c = some s') : Sound s' := by
  unfold consume at hcons
  split at hcons
  · rename_i hdone
    obtain rfl := Option.some.inj hcons
    obtain ⟨hlist, hheld⟩ := h.inv.done_settled hdone
    refine sound_call_step c h hs hok hh hw rfl rfl (fun _ _ => Iff.rfl) rfl rfl
      (fun hc => absurd hc hheld) ?_
    intro _ hlog hev
    have hcount := countP_quiet s.log (completes_isCompletion c) hev
    rw [← hlog] at hcount
    refine ⟨?_, ?_, ?_, ?_, by rw [hcount]; exact (h.call c).once, ?_⟩
    · intro hp
      simp [isOpen] at hp
    · intro hp
      simp [isOpen] at hp
    · intro _
      rw [hlog]
      simpa using ((h.call c).answered hph hlist hheld).mono _
    · intro v rule_name hcop
      simp at hcop
    · rintro (hl | hh | he)
      · exact absurd hl hlist
      · exact absurd hh hheld
      · simp [isEarly] at he
  · cases hcons

private theorem sound_stepCopy {c : Nat} (h : Sound s)
    (hs : step s (.copy c) = some s') : Sound s' := by
  have hcall := hs
  simp only [step, stepCopy] at hcall
  split at hcall
  · rename_i hph
    obtain rfl := Option.some.inj hcall
    have hopen : isOpen (s.phase c) = false := by rw [hph]; rfl
    have hlist := h.inv.not_listed hopen
    have hheld := h.inv.not_held hopen (by simp [hph])
    refine sound_call_step c h hs trivial (by simp) (by simp) rfl
      (Function.update_eq_self c s.record).symm (fun _ _ => Iff.rfl) rfl rfl
      (fun _ => ⟨rfl, rfl⟩) ?_
    intro _ hlog hev
    have hcount := countP_quiet s.log (completes_isCompletion c) hev
    rw [← hlog] at hcount
    refine ⟨?_, ?_, ?_, ?_, by rw [hcount]; exact (h.call c).once, ?_⟩
    · intro hp
      simp [isOpen] at hp
    · intro hp
      simp [isOpen] at hp
    · intro hfin
      simp at hfin
    · intro v rule_name hcop
      simp only [setPhase_phase, Function.update_self, Phase.copied.injEq] at hcop
      rw [← hcop.1, hlog]
      exact ((h.call c).finishing hph).mono _
    · rintro (hl | hh | he)
      · exact absurd hl hlist
      · exact absurd hh hheld
      · simp [isEarly] at he
  · cases hcall

/-- The return of a call that has a record. -/
private theorem sound_free {c : Nat} {reqid : Option Nat} {res : Outcome} (h : Sound s)
    (hok : NoStrayWake s a) (hs : step s a = some ((s.kfree c).finish c reqid res))
    (hh : ∀ hd, a ≠ .complete hd) (hw : a ≠ .sweepOne) (hopen : isOpen (s.phase c) = false)
    (hagain : s.phase c ≠ .waitAgain) : Sound ((s.kfree c).finish c reqid res) := by
  refine sound_close c h hs hok hh hw (p := .returned)
    (r := { s.record c with live := false }) (by simp) (by simp) (fun _ _ => by simp) (by simp)
    (kfree_nextMsg s c) (h.inv.not_held hopen hagain) rfl (by simp) (by simp) (by simp) ?_
  intro he
  cases he

private theorem sound_stepReturn {c : Nat} (h : Sound s) (hok : NoStrayWake s a)
    (ha : a = .expire c ∨ a = .release c ∨ a = .fail c) (hs : step s a = some s') : Sound s' := by
  have hcall := hs
  rcases ha with rfl | rfl | rfl
  all_goals
    simp only [step, stepExpire, stepRelease, stepFail] at hcall
    split at hcall
    · rename_i hph
      obtain rfl := Option.some.inj hcall
      exact sound_free h hok hs (by simp) (by simp) (by rw [hph]; rfl) (by simp [hph])
    · cases hcall

private theorem sound_stepRemove {c : Nat} (h : Sound s) (hok : c ∉ heldRecords s)
    (hs : step s (.remove c) = some s') : Sound s' := by
  have hcall := hs
  simp only [step, stepRemove] at hcall
  split at hcall
  · split at hcall
    · obtain rfl := Option.some.inj hcall
      refine sound_close c h hs hok (by simp) (by simp) (by simp; rfl) (by simp; rfl) ?_
        (by simp) (unlink_nextMsg s c .poison) hok rfl (by simp) (by simp) (by simp) ?_
      · intro d hd
        rw [setPhase_list, unlink_list h.inv]
        exact List.mem_erase_of_ne hd
      · intro he
        cases he
    · cases hcall
  · cases hcall

end CallSteps

section HandlerSteps

variable {s s' : State} {a : Action} {hd : Handler}

/-- What a running handler keeps in a step that does not complete its message. -/
private theorem handlerSound_kept (h : HandlerSound s hd) (hlog : s'.log = emitted s a ++ s.log)
    (hquiet : (emitted s a).countP (completedBy hd.msg.id) = 0)
    (hreqid : ∀ c, (s'.record c).reqid = (s.record c).reqid)
    (hverdict : ∀ c, hd.phase = .filled c → (s'.record c).verdict = (s.record c).verdict)
    (hnext : s.nextMsg ≤ s'.nextMsg) : HandlerSound s' hd := by
  obtain ⟨⟨n, hm, hn⟩, hid, hfilled, hrecent, hunspent⟩ := h
  refine ⟨⟨n, by rw [hlog]; exact List.mem_append_right _ hm, hn⟩, ?_, ?_, by omega, ?_⟩
  · intro c hb
    rw [hreqid]
    exact hid c hb
  · intro c hph
    rw [hverdict c hph]
    exact hfilled c hph
  · rw [hlog, List.countP_append, hquiet, hunspent]

/-- A step that completes nothing is sound when every call and every handler is. -/
private theorem sound_of_quiet (h : Sound s) (hs : step s a = some s') (hok : NoStrayWake s a)
    (hh : ∀ hd, a ≠ .complete hd) (hw : a ≠ .sweepOne) (hnext : s.nextMsg ≤ s'.nextMsg)
    (hcall : ∀ c, CallSound s' c) (hhandler : ∀ hd ∈ s'.handlers, HandlerSound s' hd)
    (hids : (s'.handlers.map fun h => h.msg.id).Nodup) : Sound s' := by
  have hev := emitted_completion (s := s) hh hw
  refine ⟨step_inv h.inv (unlinkOk_of_noStray hok) hs, step_accounted h.inv h.accounted hs, hcall,
    hhandler, hids, ?_, ?_⟩
  · intro id hid
    rw [step_log hs, countP_quiet _ (completedBy_isCompletion id) hev]
    exact h.past id (by omega)
  · rw [step_log hs]
    refine integrity_quiet h.integrity hev ?_
    intro d reqid v rule_name hmem
    obtain ⟨hph, hr⟩ := emitted_verdict hmem
    exact ⟨_, hr, (h.call d).copied v rule_name hph⟩

private theorem completedBy_quiet (hev : ∀ e ∈ emitted s a, isCompletion e = false) (id : Nat) :
    (emitted s a).countP (completedBy id) = 0 := by
  have hcount := countP_quiet [] (completedBy_isCompletion id) hev
  simpa using hcount

/-- A step that changes neither calls nor records nor the running handlers. -/
private theorem sound_frame (h : Sound s) (hs : step s a = some s') (hok : NoStrayWake s a)
    (hh : ∀ hd, a ≠ .complete hd) (hw : a ≠ .sweepOne) (hphase : s'.phase = s.phase)
    (hrecord : s'.record = s.record) (hlist : s'.pending_list = s.pending_list)
    (hhandlers : s'.handlers = s.handlers) (hnext : s.nextMsg ≤ s'.nextMsg) : Sound s' := by
  have hev := emitted_completion (s := s) hh hw
  refine sound_of_quiet h hs hok hh hw hnext ?_ ?_ (by rw [hhandlers]; exact h.ids)
  · intro c
    exact callSound_other (h.call c) (step_log hs) (completes_quiet hev c) (by rw [hphase])
      (by rw [hrecord]) (by rw [hlist]) (by rw [heldRecords, hhandlers, heldRecords])
  · intro hd hmem
    rw [hhandlers] at hmem
    exact handlerSound_kept (h.handler hd hmem) (step_log hs) (completedBy_quiet hev _)
      (fun c => by rw [hrecord]) (fun c _ => by rw [hrecord]) hnext

private theorem sound_stepRegister {cap : Bool} {portid : Nat} (h : Sound s)
    (hs : step s (.register cap portid) = some s') : Sound s' := by
  have hcall := hs
  simp only [step, stepRegister] at hcall
  split at hcall
  · split at hcall
    · obtain rfl := Option.some.inj hcall
      exact sound_frame h hs trivial (by simp) (by simp) rfl rfl rfl rfl le_rfl
    · obtain rfl := Option.some.inj hcall
      exact h
  · cases hcall

private theorem sound_stepUrelease {portid : Nat} (h : Sound s)
    (hs : step s (.urelease portid) = some s') : Sound s' := by
  have hcall := hs
  simp only [step, stepUrelease] at hcall
  split at hcall
  · split at hcall
    · obtain rfl := Option.some.inj hcall
      exact sound_frame h hs trivial (by simp) (by simp) rfl rfl rfl rfl le_rfl
    · obtain rfl := Option.some.inj hcall
      exact h
  · cases hcall

/-- A message that passes the checks comes from the registered daemon, with a defined verdict. -/
private theorem verdictChecks_ok {cap : Bool} {m : Message}
    (hc : verdictChecks s cap m = .ok ()) : s.daemon_registered = true ∧
      m.snd_portid = s.daemon_portid ∧ (∃ r, m.reqid = some r) ∧
      ∃ n, m.verdict = some n ∧ (n = AV_VERDICT_CLEAN ∨ n = AV_VERDICT_MALICIOUS) := by
  unfold verdictChecks at hc
  split at hc
  · cases hc
  split at hc
  · cases hc
  split at hc
  · cases hc
  rename_i hattrs
  split at hc
  · cases hc
  rename_i hsender
  split at hc
  · cases hc
  rename_i hvalue
  simp only [not_or] at hattrs
  obtain ⟨r, hr⟩ := Option.ne_none_iff_exists'.mp hattrs.1
  obtain ⟨n, hn⟩ := Option.ne_none_iff_exists'.mp hattrs.2
  simp only [Bool.or_eq_true, Bool.not_eq_true', decide_eq_true_eq, not_or, Bool.not_eq_false,
    ne_eq, not_not] at hsender
  refine ⟨hsender.1, hsender.2, ⟨r, hr⟩, n, hn, ?_⟩
  rw [hn] at hvalue
  by_contra hne
  apply hvalue
  simpa [not_or] using hne

private theorem sound_stepReceive {cap : Bool} {portid : Nat} {reqid verdict : Option Nat}
    {rule_name : Option KernelAv.Lib.CText.Bytes} (h : Sound s)
    (hs : step s (.receive cap portid reqid verdict rule_name) = some s') : Sound s' := by
  have hcall := hs
  simp only [step, stepReceive] at hcall
  split at hcall
  · split at hcall <;> rename_i hchecks
    · obtain rfl := Option.some.inj hcall
      exact sound_frame h hs trivial (by simp) (by simp) rfl rfl rfl rfl (Nat.le_succ _)
    · obtain ⟨hreg, hport, -, n, hn⟩ := verdictChecks_ok hchecks
      have hchecked : Event.checked ⟨s.nextMsg, portid, reqid, verdict, rule_name⟩
          s.daemon_registered s.daemon_portid =
          .checked ⟨s.nextMsg, portid, reqid, verdict, rule_name⟩ true portid := by
        rw [show s.daemon_registered = true from hreg,
          show s.daemon_portid = portid from hport.symm]
      obtain rfl := Option.some.inj hcall
      have hev := emitted_completion (s := s)
        (a := .receive cap portid reqid verdict rule_name) (by simp) (by simp)
      have hlog := step_log hs
      refine sound_of_quiet h hs trivial (by simp) (by simp) (Nat.le_succ _) ?_ ?_ ?_
      · intro c
        exact callSound_other (h.call c) hlog (completes_quiet hev c) rfl rfl Iff.rfl Iff.rfl
      · intro hd hmem
        rcases List.mem_cons.mp hmem with rfl | hmem
        · refine ⟨⟨n, ?_, hn⟩, ?_, ?_, Nat.lt_succ_self _, ?_⟩
          · show Event.checked _ true portid ∈ _ :: s.log
            rw [← hchecked]
            exact List.mem_cons_self
          · intro c hb
            cases hb
          · intro c hph
            cases hph
          · rw [hlog, countP_quiet _ (completedBy_isCompletion _) hev]
            exact h.past s.nextMsg le_rfl
        · exact handlerSound_kept (h.handler hd hmem) hlog (completedBy_quiet hev _)
            (fun _ => rfl) (fun _ _ => rfl) (Nat.le_succ _)
      · refine List.nodup_cons.mpr ⟨?_, h.ids⟩
        intro hmem
        obtain ⟨hd, hin, hid⟩ := List.mem_map.mp hmem
        have hrecent := (h.handler hd hin).recent
        rw [hid] at hrecent
        exact absurd hrecent (lt_irrefl _)
  · cases hcall

private theorem ids_perm (hmem : hd ∈ s.handlers) :
    (s.handlers.map fun h => h.msg.id).Perm
      (hd.msg.id :: (s.handlers.erase hd).map fun h => h.msg.id) :=
  (List.perm_cons_erase hmem).map _

private theorem sound_stepDequeue (h : Sound s) (hs : step s (.dequeue hd) = some s') :
    Sound s' := by
  have hcall := hs
  have hev := emitted_completion (s := s) (a := .dequeue hd) (by simp) (by simp)
  have hlog := step_log hs
  simp only [step, stepDequeue] at hcall
  split at hcall
  · rename_i hguard
    obtain ⟨hmem, hph, -⟩ := hguard
    have hnone : heldBy hd = none := by rw [heldBy, hph]
    have hperm := heldRecords_perm hmem hnone
    have hids := (ids_perm hmem).nodup_iff.mp h.ids
    split at hcall
    · obtain rfl := Option.some.inj hcall
      refine sound_of_quiet h hs trivial (by simp) (by simp) le_rfl ?_ ?_
        (List.nodup_cons.mp hids).2
      · intro c
        exact callSound_other (h.call c) hlog (completes_quiet hev c) rfl rfl Iff.rfl
          hperm.mem_iff.symm
      · intro hd' hmem'
        exact handlerSound_kept (h.handler hd' (List.mem_of_mem_erase hmem')) hlog
          (completedBy_quiet hev _) (fun _ => rfl) (fun _ _ => rfl) le_rfl
    · rename_i c hfind
      obtain rfl := Option.some.inj hcall
      obtain ⟨hlisted, hreqid⟩ := findPending_mem hfind
      have hlink := ((h.inv.call c).listed hlisted).2.1
      have hlist := unlink_list_of_linked (s := s.touch (searched s hd.msg)) hlink .self
      rw [touch_list] at hlist
      have hrecord : ∀ d, (((s.touch (searched s hd.msg)).unlink c .self).record d).reqid =
          (s.record d).reqid ∧ (((s.touch (searched s hd.msg)).unlink c .self).record d).verdict =
          (s.record d).verdict := by
        intro d
        by_cases hdc : d = c
        · subst hdc
          simp
        · simp [hdc]
      have hnext := (unlink_nextMsg (s.touch (searched s hd.msg)) c .self).symm.le
      refine sound_of_quiet h hs trivial (by simp) (by simp) hnext ?_ ?_ hids
      · intro d
        by_cases hdc : d = c
        · subst hdc
          have hcount := countP_quiet s.log (completes_isCompletion d) hev
          rw [← hlog] at hcount
          have hold := h.call d
          refine ⟨?_, ?_, ?_, ?_, by rw [hcount]; exact hold.once, ?_⟩
          · intro _
            simp
          · intro _ _ hout
            exact absurd List.mem_cons_self hout
          · intro hfin
            rw [hlog, (hrecord d).1, (hrecord d).2]
            exact (hold.finishing (by simpa using hfin)).mono _
          · intro v rule_name hcop
            rw [hlog, (hrecord d).1]
            exact (hold.copied v rule_name (by simpa using hcop)).mono _
          · intro _
            rw [hcount]
            exact hold.none (Or.inl hlisted)
        · refine callSound_other (h.call d) hlog (completes_quiet hev d) (by simp) (by simp [hdc])
            ?_ ?_
          · show d ∈ ((s.touch (searched s hd.msg)).unlink c .self).pending_list ↔ _
            rw [hlist]
            exact List.mem_erase_of_ne hdc
          · rw [hperm.mem_iff]
            show d ∈ c :: (s.handlers.erase hd).filterMap heldBy ↔ _
            simp [hdc]
      · intro hd' hmem'
        rcases List.mem_cons.mp hmem' with rfl | hmem'
        · obtain ⟨⟨n, hm, hn⟩, -, -, hrecent, hunspent⟩ := h.handler hd hmem
          refine ⟨⟨n, by rw [hlog]; exact List.mem_append_right _ hm, hn⟩, ?_, ?_, ?_, ?_⟩
          · intro d hb
            obtain rfl := Option.some.inj (show some c = some d from hb)
            rw [(hrecord c).1]
            exact hreqid.symm
          · intro d hfilled
            cases hfilled
          · exact hrecent.trans_le hnext
          · rw [hlog, List.countP_append, completedBy_quiet hev, hunspent]
        · exact handlerSound_kept (h.handler hd' (List.mem_of_mem_erase hmem')) hlog
            (completedBy_quiet hev _) (fun d => (hrecord d).1) (fun d _ => (hrecord d).2) hnext
  · cases hcall

private theorem sound_stepFill (h : Sound s) (hs : step s (.fill hd) = some s') : Sound s' := by
  have hcall := hs
  have hev := emitted_completion (s := s) (a := .fill hd) (by simp) (by simp)
  have hlog := step_log hs
  simp only [step, stepFill] at hcall
  split at hcall
  · rename_i c hph
    split at hcall
    · rename_i hmem
      obtain rfl := Option.some.inj hcall
      have hheld : heldBy hd = some c := by rw [heldBy, hph]
      have hperm := heldRecords_perm hmem hheld
      have hin : c ∈ heldRecords s := hperm.mem_iff.mpr List.mem_cons_self
      have hrest := (List.nodup_cons.mp (hperm.nodup_iff.mp h.inv.held_nodup)).1
      refine sound_of_quiet h hs trivial (by simp) (by simp) le_rfl ?_ ?_
        ((ids_perm hmem).nodup_iff.mp h.ids)
      · intro d
        by_cases hdc : d = c
        · subst hdc
          have hcount := countP_quiet s.log (completes_isCompletion d) hev
          rw [← hlog] at hcount
          have hold := h.call d
          have hopen := ((h.inv.call d).held hin).1
          refine ⟨?_, ?_, ?_, ?_, by rw [hcount]; exact hold.once, ?_⟩
          · intro _
            simpa using hold.link hopen
          · intro _ _ hout
            exact absurd List.mem_cons_self hout
          · intro hfin
            rw [show s.phase d = .finishing from hfin] at hopen
            simp [isOpen] at hopen
          · intro v rule_name hcop
            rw [show s.phase d = .copied v rule_name from hcop] at hopen
            simp [isOpen] at hopen
          · intro _
            rw [hcount]
            exact hold.none (Or.inr (Or.inl hin))
        · refine callSound_other (h.call d) hlog (completes_quiet hev d) rfl (by simp [hdc])
            Iff.rfl ?_
          rw [hperm.mem_iff]
          rfl
      · intro hd' hmem'
        rcases List.mem_cons.mp hmem' with rfl | hmem'
        · obtain ⟨⟨n, hm, hn⟩, hreqid, -, hrecent, hunspent⟩ := h.handler hd hmem
          refine ⟨⟨n, by rw [hlog]; exact List.mem_append_right _ hm, hn⟩, ?_, ?_, hrecent, ?_⟩
          · intro d hb
            obtain rfl := Option.some.inj (show some c = some d from hb)
            simpa using hreqid c hheld
          · intro d hfilled
            obtain rfl :=
              HandlerPhase.filled.inj (show HandlerPhase.filled c = .filled d from hfilled)
            simp
          · rw [hlog, List.countP_append, completedBy_quiet hev, hunspent]
        · refine handlerSound_kept (h.handler hd' (List.mem_of_mem_erase hmem')) hlog
            (completedBy_quiet hev _) ?_ ?_ le_rfl
          · intro d
            by_cases hdc : d = c
            · subst hdc
              simp
            · simp [hdc]
          · intro d hfilled
            have hdc : d ≠ c := by
              intro heq
              exact hrest (List.mem_filterMap.mpr ⟨hd', hmem', by rw [heldBy, hfilled, heq]⟩)
            simp [hdc]
    · cases hcall
  · cases hcall

/-- The completion of a request that was still pending, by a message that had completed nothing,
with no event of its return before. -/
private theorem integrity_complete {log ev : List Event} {c id : Nat} (h : VerdictIntegrity log)
    (hev : ∀ e ∈ ev, isCompletion e = false ∧ ∀ c reqid res, e ≠ .returned c reqid res)
    (hmessage : log.countP (completedBy id) = 0) (hrequest : log.countP (completes c) = 0)
    (hpending : ∀ reqid res, Event.returned c reqid res ∉ log) :
    VerdictIntegrity (.completed c (some id) :: ev ++ log) := by
  have hquiet := integrity_quiet h (fun e he => (hev e he).1)
    (fun c reqid v rule_name he => absurd rfl ((hev _ he).2 c reqid (.verdict v rule_name)))
  have hcompletion : ∀ e ∈ ev, isCompletion e = false := fun e he => (hev e he).1
  refine ⟨?_, ?_, ?_, ?_⟩
  · intro d reqid v rule_name hmem
    have hmem' : Event.returned d reqid (.verdict v rule_name) ∈ ev ++ log := by
      rcases List.mem_cons.mp hmem with he | hmem
      · cases he
      · exact hmem
    obtain ⟨r, hr, hb⟩ := hquiet.backed d reqid v rule_name hmem'
    exact ⟨r, hr, hb.mono [.completed c (some id)]⟩
  · intro id'
    rw [List.cons_append, List.countP_cons]
    by_cases hid : id = id'
    · rw [← hid, countP_quiet _ (completedBy_isCompletion id) hcompletion, hmessage]
      simp [completedBy]
    · simpa [completedBy, hid] using hquiet.message_once id'
  · intro d
    rw [List.cons_append, List.countP_cons]
    by_cases hd : c = d
    · rw [← hd, countP_quiet _ (completes_isCompletion c) hcompletion, hrequest]
      simp [completes]
    · simpa [completes, hd] using hquiet.request_once d
  · intro later earlier d reqid ret hlog e he
    rcases List.cons_eq_append_iff.mp hlog with ⟨rfl, -⟩ | ⟨later', rfl, hlog'⟩
    · cases he
    · rcases List.mem_cons.mp he with rfl | he
      · have hmem : Event.returned d reqid (.error ret) ∈ ev ++ log := by
          rw [show ev ++ log = _ from hlog']
          exact List.mem_append_right _ List.mem_cons_self
        have hlogged := (List.mem_append.mp hmem).resolve_left
          fun hin => (hev _ hin).2 d reqid (.error ret) rfl
        simp only [completes, decide_eq_false_iff_not]
        rintro rfl
        exact hpending _ _ hlogged
      · exact hquiet.no_late later' earlier d reqid ret hlog' e he

private theorem sound_stepComplete (h : Sound s) (hs : step s (.complete hd) = some s') :
    Sound s' := by
  have hcall := hs
  have hlog := step_log hs
  have hinv := step_inv h.inv (a := .complete hd) trivial hs
  have hacc := step_accounted h.inv h.accounted hs
  simp only [step, stepComplete] at hcall
  split at hcall
  · rename_i c hph
    have hemitted :
        emitted s (.complete hd) = .completed c (some hd.msg.id) :: useFaults s [c] := by
      simp only [emitted, hph]
    rw [hemitted] at hlog
    split at hcall
    · rename_i hmem
      obtain rfl := Option.some.inj hcall
      have hheld : heldBy hd = some c := by rw [heldBy, hph]
      have hperm := heldRecords_perm hmem hheld
      have hin : c ∈ heldRecords s := hperm.mem_iff.mpr List.mem_cons_self
      have hrest := (List.nodup_cons.mp (hperm.nodup_iff.mp h.inv.held_nodup)).1
      obtain ⟨hopen, hself, -⟩ := (h.inv.call c).held hin
      have hnotlist : c ∉ s.pending_list := by
        intro hl
        rw [((h.inv.call c).listed hl).2.1] at hself
        cases hself
      have hnone := (h.call c).none (Or.inr (Or.inl hin))
      obtain ⟨⟨n, hm, hn, hdefined⟩, hreqid, hfilled, hrecent, hunspent⟩ := h.handler hd hmem
      have hids := List.nodup_cons.mp ((ids_perm hmem).nodup_iff.mp h.ids)
      have hfaults : ∀ e ∈ useFaults s [c], isCompletion e = false := useFaults_completion
      have hcount : ∀ p : Event → Bool, (∀ e, p e = true → isCompletion e = true) →
          p (.completed c (some hd.msg.id)) = false →
          (s.complete c (some hd.msg.id)).log.countP p = s.log.countP p := by
        intro p hp hne
        rw [show (s.complete c (some hd.msg.id)).log =
          .completed c (some hd.msg.id) :: (useFaults s [c] ++ s.log) from hlog, List.countP_cons,
          countP_quiet _ hp hfaults, hne]
        simp
      refine ⟨hinv, hacc, ?_, ?_, hids.2, ?_, ?_⟩
      · intro d
        by_cases hdc : d = c
        · subst hdc
          refine ⟨?_, ?_, ?_, ?_, ?_, ?_⟩
          · intro _
            simp [hself]
          · intro _ _ _
            refine ⟨hd.msg, n, ?_, ?_, hn, ?_, hdefined⟩
            · rw [hlog]
              exact List.mem_append_right _ hm
            · simpa using hreqid d hheld
            · simpa [hn] using hfilled d hph
          · intro hfin
            rw [show s.phase d = .finishing from hfin] at hopen
            simp [isOpen] at hopen
          · intro v rule_name hcop
            rw [show s.phase d = .copied v rule_name from hcop] at hopen
            simp [isOpen] at hopen
          · rw [hlog, List.cons_append, List.countP_cons,
              countP_quiet _ (completes_isCompletion d) hfaults, hnone]
            simp [completes]
          · rintro (hl | hh | he)
            · exact absurd hl hnotlist
            · exact absurd hh hrest
            · rcases hopen with ho | ha
              · rw [complete_phase] at he
                cases hphase : s.phase d <;> simp [hphase, isOpen, isEarly] at ho he
              · rw [complete_phase, ha] at he
                cases he
        · refine callSound_other (h.call d) hlog ?_ rfl (by simp [hdc]) Iff.rfl ?_
          · intro e he
            rcases List.mem_cons.mp he with rfl | he
            · simpa [completes] using Ne.symm hdc
            · exact completes_quiet hfaults d e he
          · rw [hperm.mem_iff]
            show d ∈ (s.handlers.erase hd).filterMap heldBy ↔ _
            simp [hdc]
      · intro hd' hmem'
        have hne : hd'.msg.id ≠ hd.msg.id := by
          intro heq
          exact hids.1 (heq ▸ List.mem_map.mpr ⟨hd', hmem', rfl⟩)
        refine handlerSound_kept (a := .complete hd) (h.handler hd' (List.mem_of_mem_erase hmem'))
          (by rw [hemitted]; exact hlog) ?_ ?_ ?_ le_rfl
        · rw [hemitted, List.countP_cons]
          have hzero := countP_quiet [] (completedBy_isCompletion hd'.msg.id) hfaults
          rw [List.append_nil] at hzero
          rw [hzero]
          simpa [completedBy] using Ne.symm hne
        · intro d
          by_cases hdc : d = c
          · subst hdc
            simp
          · simp [hdc]
        · intro d _
          by_cases hdc : d = c
          · subst hdc
            simp
          · simp [hdc]
      · intro id hid
        rw [hcount _ (completedBy_isCompletion id)
          (by simpa [completedBy] using (Nat.lt_of_lt_of_le hrecent hid).ne)]
        exact h.past id hid
      · rw [show (s.complete c (some hd.msg.id)).log =
          .completed c (some hd.msg.id) :: useFaults s [c] ++ s.log from hlog]
        refine integrity_complete h.integrity ?_ hunspent hnone ?_
        · intro e he
          refine ⟨hfaults e he, ?_⟩
          rintro d reqid res rfl
          obtain ⟨f, d', hfault⟩ := fault_of_useFaults he
          cases hfault
        · refine ((h.accounted c).before ?_).2
          intro hret
          rw [hret] at hopen
          simp [isOpen] at hopen
    · cases hcall
  · cases hcall

end HandlerSteps

private theorem sound_loaded : Sound State.loaded := by
  refine ⟨inv_loaded, accounted_loaded, fun c => ⟨?_, ?_, ?_, ?_, Nat.zero_le 1, fun _ => rfl⟩,
    fun _ hmem => absurd hmem List.not_mem_nil, List.nodup_nil, fun _ _ => rfl, ⟨?_, ?_, ?_, ?_⟩⟩
  · intro hopen
    simp [State.loaded, isOpen] at hopen
  · intro hopen
    simp [State.loaded, isOpen] at hopen
  · intro hfin
    cases hfin
  · intro v rule_name hcop
    cases hcop
  · intro c reqid v rule_name hmem
    cases hmem
  · exact fun _ => Nat.zero_le 1
  · exact fun _ => Nat.zero_le 1
  · intro later earlier c reqid ret hlog
    simp [State.loaded] at hlog

/-- Soundness is kept by every step that wakes no request without a verdict. -/
theorem step_sound {s s' : State} {a : Action} (h : Sound s) (hok : NoStrayWake s a)
    (hs : step s a = some s') : Sound s' := by
  cases a with
  | call c args => exact sound_stepCall h hs
  | alloc c ok => exact sound_stepAlloc h hs
  | enqueue c => exact sound_stepEnqueue h hs
  | build c res => exact sound_stepBuild h hs
  | unicast c ret => exact sound_stepUnicast h hs
  | wake c =>
    have hcall := hs
    simp only [step, stepWake] at hcall
    split at hcall
    · rename_i hph
      exact sound_consume h hs (by simp) (by simp) hok (Or.inl (by rw [hph]; rfl)) hcall
    · cases hcall
  | timeout c => exact sound_stepTimeout h hs
  | recheck c => exact sound_stepRecheck h hs
  | wakeAgain c =>
    have hcall := hs
    simp only [step, stepWakeAgain] at hcall
    split at hcall
    · rename_i hph
      exact sound_consume h hs (by simp) (by simp) hok (Or.inr hph) hcall
    · cases hcall
  | expire c => exact sound_stepReturn h hok (Or.inl rfl) hs
  | copy c => exact sound_stepCopy h hs
  | release c => exact sound_stepReturn h hok (Or.inr (Or.inl rfl)) hs
  | remove c => exact sound_stepRemove h hok hs
  | fail c => exact sound_stepReturn h hok (Or.inr (Or.inr rfl)) hs
  | register cap portid => exact sound_stepRegister h hs
  | urelease portid => exact sound_stepUrelease h hs
  | receive cap portid reqid verdict rule_name => exact sound_stepReceive h hs
  | dequeue hd => exact sound_stepDequeue h hs
  | fill hd => exact sound_stepFill h hs
  | complete hd => exact sound_stepComplete h hs
  | sweepOne =>
    have hcall := hs
    simp only [step, stepSweepOne] at hcall
    split at hcall
    · rename_i hlist
      rw [show s.pending_list = [] from hok] at hlist
      cases hlist
    · cases hcall
  | _ =>
    have hcall := hs
    simp only [step, stepUnregisterFamily, stepTeardown, stepSweepEnd] at hcall
    split at hcall
    · first
        | (obtain rfl := Option.some.inj hcall
           exact sound_frame h hs trivial (by simp) (by simp) rfl rfl rfl rfl le_rfl)
        | (split at hcall
           · obtain rfl := Option.some.inj hcall
             exact sound_frame h hs trivial (by simp) (by simp) rfl rfl rfl rfl le_rfl
           · cases hcall)
    · cases hcall

/-- `av_exit` destroys the workqueue before `av_netlink_exit`: with no call under way the sweep
has nothing to wake. -/
theorem pending_nil_of_drained {s : State} (h : Inv s)
    (hdrained : ∀ c, s.phase c = .idle ∨ s.phase c = .returned) : s.pending_list = [] := by
  rw [List.eq_nil_iff_forall_not_mem]
  intro c
  apply h.not_listed
  rcases hdrained c with hph | hph
  · rw [hph]
    rfl
  · rw [hph]
    rfl

theorem sound_of_run {as : List Action} {s : State} (hr : run step State.loaded as = some s)
    (hg : Guarded step NoStrayWake State.loaded as) : Sound s :=
  guarded_invariant Sound (fun _ _ _ h hok hs => step_sound h hok hs) sound_loaded hg hr

/-- Verdicts are authentic in every run in which the teardown finds no pending request and no
call fails to send while its record is in a handler's hands. -/
theorem verdict_integrity_of_guarded {as : List Action} {s : State}
    (hr : run step State.loaded as = some s) (hg : Guarded step NoStrayWake State.loaded as) :
    VerdictIntegrity s.log :=
  (sound_of_run hr hg).integrity

theorem answered_verdict_integrity :
    ∃ s, run step State.loaded answered = some s ∧ VerdictIntegrity s.log ∧
      Event.returned 0 (some 1) (.verdict 1 []) ∈ s.log := by
  refine ⟨_, rfl, verdict_integrity_of_guarded (show run step .loaded answered = _ from rfl) ?_,
    by decide⟩
  refine guarded_of_forall fun a ha s => ?_
  simp only [answered, List.mem_cons, List.not_mem_nil, or_false] at ha
  rcases ha with rfl | rfl | rfl | rfl | rfl | rfl | rfl | rfl | rfl | rfl | rfl | rfl | rfl
  all_goals trivial

/-- The init-failure path tears the channel down before the workqueue: the sweep wakes a request
that no message answered, and it returns 0 with the verdict its record was allocated with. -/
private def sweptWaiting : List Action :=
  [.register true 7, .call 0 ⟨[], [], 0, 64⟩, .alloc 0 true, .enqueue 0, .build 0 .ok,
    .unicast 0 0, .unregisterFamily, .unregisterNotifier, .sweepStart, .sweepOne, .sweepEnd,
    .wake 0, .copy 0, .release 0]

theorem swept_request_returns_without_message :
    ¬ ∀ (as : List Action) (s : State),
      run step State.loaded as = some s → VerdictIntegrity s.log := by
  intro hall
  have hrun : ∃ s, run step State.loaded sweptWaiting = some s ∧
      Event.returned 0 (some 1) (.verdict (-1) []) ∈ s.log := ⟨_, rfl, by decide⟩
  obtain ⟨s, hr, hmem⟩ := hrun
  obtain ⟨r, -, m, n, -, -, -, hv, -⟩ := (hall sweptWaiting s hr).backed _ _ _ _ hmem
  omega

end KernelAv.Kernel.ChannelIntegrity
