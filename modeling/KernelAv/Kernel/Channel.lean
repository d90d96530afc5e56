/- digest: The netlink channel as a machine: scan requests, verdict messages, timeouts, teardown. -/

import KernelAv.Lib.CText
import Mathlib.Logic.Function.Basic

set_option autoImplicit false
set_option relaxedAutoImplicit false

namespace KernelAv.Kernel.Channel

open KernelAv.Lib.CText (Bytes snprintf_s)

def AV_VERDICT_CLEAN : Nat := 0
def AV_VERDICT_MALICIOUS : Nat := 1
def AV_RULE_NAME_MAXLEN : Nat := 63

def EPERM : Int := 1
def ENOMEM : Int := 12
def EINVAL : Int := 22
def EMSGSIZE : Int := 90
def ENOTCONN : Int := 107
def ETIMEDOUT : Int := 110

/-- An AV_C_VERDICT message, with the attributes it carries; `id` tells messages apart. -/
structure Message where
  id : Nat
  snd_portid : Nat
  reqid : Option Nat
  verdict : Option Nat
  rule_name : Option Bytes
  deriving DecidableEq

/-- The attributes of an AV_C_SCAN_REQUEST message. -/
structure ScanRequest where
  reqid : Nat
  pid : Nat
  path : Bytes
  sha256 : Bytes
  deriving DecidableEq

/-- What a list node's pointers say: zeroed, on the list, pointing at itself, or poisoned. -/
inductive Link where
  | zero
  | linked
  | self
  | poison
  deriving DecidableEq

/-- `struct av_pending_scan`; `live` says whether its memory is allocated. -/
structure PendingScan where
  live : Bool
  link : Link
  reqid : Nat
  done : Nat
  verdict : Int
  rule_name : Bytes
  deriving DecidableEq

structure ScanArgs where
  path : Bytes
  sha256_hex : Bytes
  pid : Nat
  rule_out_len : Nat
  deriving DecidableEq

/-- Where a call of `av_netlink_scan_request` stands. -/
inductive Phase where
  | idle
  | snapshot (portid : Nat)
  | allocated (portid : Nat)
  | enqueued (portid : Nat)
  | built (portid : Nat)
  | waiting
  | timedOut
  | waitAgain
  | expired
  | finishing
  | copied (verdict : Int) (rule_name : Bytes)
  | sendFailed (ret : Int)
  | unlinked (ret : Int)
  | returned
  deriving DecidableEq

/-- Where a running `av_nl_verdict_doit` stands: past its checks, holding a dequeued record, or
holding it with the verdict filled in. -/
inductive HandlerPhase where
  | accepted
  | holding (c : Nat)
  | filled (c : Nat)
  deriving DecidableEq

structure Handler where
  msg : Message
  phase : HandlerPhase
  deriving DecidableEq

inductive Teardown where
  | up
  | familyGone
  | notifierGone
  | sweeping
  | swept
  deriving DecidableEq

inductive Fault where
  | useAfterFree
  | badUnlink
  | doubleFree
  deriving DecidableEq

/-- How a call ended: with a verdict, or with a negative errno. -/
inductive Outcome where
  | verdict (v : Int) (rule_name : Bytes)
  | error (ret : Int)
  deriving DecidableEq

/-- What is observed of a run; the code keeps no such log. -/
inductive Event where
  | sent (c : Nat) (portid : Nat) (req : ScanRequest)
  | checked (m : Message) (registered : Bool) (daemon_portid : Nat)
  | completed (c : Nat) (message : Option Nat)
  | freed (c : Nat)
  | returned (c : Nat) (reqid : Option Nat) (res : Outcome)
  | fault (f : Fault) (c : Nat)
  deriving DecidableEq

/-- The module's state. A call and the record it allocates share their number. -/
structure State where
  daemon_registered : Bool
  daemon_portid : Nat
  pending_list : List Nat
  reqid_counter : Nat
  phase : Nat → Phase
  args : Nat → ScanArgs
  record : Nat → PendingScan
  handlers : List Handler
  nextMsg : Nat
  teardown : Teardown
  log : List Event

def State.loaded : State where
  daemon_registered := false
  daemon_portid := 0
  pending_list := []
  reqid_counter := 0
  phase := fun _ => .idle
  args := fun _ => ⟨[], [], 0, 0⟩
  record := fun _ => ⟨false, .zero, 0, 0, 0, []⟩
  handlers := []
  nextMsg := 0
  teardown := .up
  log := []

inductive BuildResult where
  | ok
  | noSkb
  | noRoom
  deriving DecidableEq

inductive Action where
  | call (c : Nat) (args : ScanArgs)
  | alloc (c : Nat) (ok : Bool)
  | enqueue (c : Nat)
  | build (c : Nat) (res : BuildResult)
  | unicast (c : Nat) (ret : Int)
  | wake (c : Nat)
  | timeout (c : Nat)
  | recheck (c : Nat)
  | wakeAgain (c : Nat)
  | expire (c : Nat)
  | copy (c : Nat)
  | release (c : Nat)
  | remove (c : Nat)
  | fail (c : Nat)
  | register (cap_net_admin : Bool) (portid : Nat)
  | urelease (portid : Nat)
  | receive (cap_net_admin : Bool) (portid : Nat) (reqid verdict : Option Nat)
      (rule_name : Option Bytes)
  | dequeue (h : Handler)
  | fill (h : Handler)
  | complete (h : Handler)
  | unregisterFamily
  | unregisterNotifier
  | sweepStart
  | sweepOne
  | sweepEnd
  deriving DecidableEq

namespace State

variable (s : State)

def setPhase (c : Nat) (ph : Phase) : State := { s with phase := Function.update s.phase c ph }

def setRecord (c : Nat) (r : PendingScan) : State :=
  { s with record := Function.update s.record c r }

def note (e : Event) : State := { s with log := e :: s.log }

/-- A read or write of the listed records; one that was freed is a fault. -/
def touch (cs : List Nat) : State :=
  { s with
    log := ((cs.filter fun c => !(s.record c).live).map (Event.fault .useAfterFree)) ++ s.log }

/-- The nodes whose pointers a list operation on `c` changes besides its own. -/
def neighbours : List Nat → Nat → List Nat
  | a :: b :: l, c =>
      if a = c then [b] else if b = c then a :: l.head?.toList else neighbours (b :: l) c
  | _, _ => []

/-- `list_del` and `list_del_init`: they differ in the pointers they leave in the node. -/
def unlink (c : Nat) (link : Link) : State :=
  let t := s.touch (c :: neighbours s.pending_list c)
  let r := { s.record c with link := link }
  if (s.record c).link = .linked then
    { t.setRecord c r with pending_list := s.pending_list.erase c }
  else (t.setRecord c r).note (.fault .badUnlink c)

def kfree (c : Nat) : State :=
  if (s.record c).live then
    (s.setRecord c { s.record c with live := false }).note (.freed c)
  else s.note (.fault .doubleFree c)

def finish (c : Nat) (reqid : Option Nat) (res : Outcome) : State :=
  (s.setPhase c .returned).note (.returned c reqid res)

def complete (c : Nat) (message : Option Nat) : State :=
  ((s.touch [c]).setRecord c { s.record c with done := (s.record c).done + 1 }).note
    (.completed c message)

/-- The sweep holds `pending_lock` from its first record to its last. -/
def pendingLockFree : Bool := s.teardown ≠ .sweeping

end State

/-- The policy of the family and the checks of `av_nl_verdict_doit` before it takes
`pending_lock`. -/
def verdictChecks (s : State) (cap_net_admin : Bool) (m : Message) : Except Int Unit :=
  if !cap_net_admin then .error (-EPERM)
  else if (m.rule_name.getD []).length > AV_RULE_NAME_MAXLEN then .error (-EINVAL)
  else if m.reqid = none ∨ m.verdict = none then .error (-EINVAL)
  else if !s.daemon_registered || m.snd_portid ≠ s.daemon_portid then .error (-EPERM)
  else if m.verdict ≠ some AV_VERDICT_CLEAN ∧ m.verdict ≠ some AV_VERDICT_MALICIOUS then
    .error (-EINVAL)
  else .ok ()

/-- `list_for_each_entry` up to the first record with the message's id. -/
def findPending (s : State) (m : Message) : Option Nat :=
  s.pending_list.find? fun c => some (s.record c).reqid = m.reqid

/-- The records whose id the search reads. -/
def searched (s : State) (m : Message) : List Nat :=
  s.pending_list.take (s.pending_list.findIdx (fun c => some (s.record c).reqid = m.reqid) + 1)

def stepCall (s : State) (c : Nat) (args : ScanArgs) : Option State :=
  match s.phase c with
  | .idle =>
      let s := { s with args := Function.update s.args c args }
      if s.daemon_registered then some (s.setPhase c (.snapshot s.daemon_portid))
      else some (s.finish c none (.error (-ENOTCONN)))
  | _ => none

def stepAlloc (s : State) (c : Nat) (ok : Bool) : Option State :=
  match s.phase c with
  | .snapshot portid =>
      if ok then
        let reqid := (s.reqid_counter + 1) % 2 ^ 64
        some (({ s with reqid_counter := reqid }.setRecord c
          ⟨true, .zero, reqid, 0, -1, []⟩).setPhase c (.allocated portid))
      else some (s.finish c none (.error (-ENOMEM)))
  | _ => none

def stepEnqueue (s : State) (c : Nat) : Option State :=
  match s.phase c with
  | .allocated portid =>
      if s.pendingLockFree then
        let t := s.touch (c :: s.pending_list.head?.toList)
        some ({ t.setRecord c { s.record c with link := .linked } with
          pending_list := c :: s.pending_list }.setPhase c (.enqueued portid))
      else none
  | _ => none

def stepBuild (s : State) (c : Nat) (res : BuildResult) : Option State :=
  match s.phase c with
  | .enqueued portid =>
      match res with
      | .ok => some ((s.touch [c]).setPhase c (.built portid))
      | .noSkb => some (s.setPhase c (.sendFailed (-ENOMEM)))
      | .noRoom => some ((s.touch [c]).setPhase c (.sendFailed (-EMSGSIZE)))
  | _ => none

def stepUnicast (s : State) (c : Nat) (ret : Int) : Option State :=
  match s.phase c with
  | .built portid =>
      if ret = 0 then
        some ((s.setPhase c .waiting).note (.sent c portid
          ⟨(s.record c).reqid, (s.args c).pid, (s.args c).path, (s.args c).sha256_hex⟩))
      else some (s.setPhase c (.sendFailed ret))
  | _ => none

/-- `wait_for_completion_timeout` returns non-zero, `wait_for_completion` returns. -/
def consume (s : State) (c : Nat) : Option State :=
  if 0 < (s.record c).done then
    some (((s.touch [c]).setRecord c { s.record c with done := (s.record c).done - 1 }).setPhase c
      .finishing)
  else none

def stepWake (s : State) (c : Nat) : Option State :=
  match s.phase c with
  | .waiting => consume s c
  | _ => none

def stepTimeout (s : State) (c : Nat) : Option State :=
  match s.phase c with
  | .waiting =>
      if (s.record c).done = 0 then some ((s.touch [c]).setPhase c .timedOut) else none
  | _ => none

def stepRecheck (s : State) (c : Nat) : Option State :=
  match s.phase c with
  | .timedOut =>
      if s.pendingLockFree then
        let still_pending := (s.record c).link ≠ .self
        if still_pending then some ((s.unlink c .self).setPhase c .expired)
        else some ((s.touch [c]).setPhase c .waitAgain)
      else none
  | _ => none

def stepWakeAgain (s : State) (c : Nat) : Option State :=
  match s.phase c with
  | .waitAgain => consume s c
  | _ => none

def stepExpire (s : State) (c : Nat) : Option State :=
  match s.phase c with
  | .expired =>
      some ((s.kfree c).finish c (some (s.record c).reqid) (.error (-ETIMEDOUT)))
  | _ => none

def stepCopy (s : State) (c : Nat) : Option State :=
  match s.phase c with
  | .finishing =>
      some ((s.touch [c]).setPhase c (.copied (s.record c).verdict
        (snprintf_s (s.args c).rule_out_len (s.record c).rule_name)))
  | _ => none

def stepRelease (s : State) (c : Nat) : Option State :=
  match s.phase c with
  | .copied v rule_name =>
      some ((s.kfree c).finish c (some (s.record c).reqid) (.verdict v rule_name))
  | _ => none

def stepRemove (s : State) (c : Nat) : Option State :=
  match s.phase c with
  | .sendFailed ret =>
      if s.pendingLockFree then some ((s.unlink c .poison).setPhase c (.unlinked ret)) else none
  | _ => none

def stepFail (s : State) (c : Nat) : Option State :=
  match s.phase c with
  | .unlinked ret => some ((s.kfree c).finish c (some (s.record c).reqid) (.error ret))
  | _ => none

/-- `av_nl_register_doit`. -/
def stepRegister (s : State) (cap_net_admin : Bool) (portid : Nat) : Option State :=
  if s.teardown = .up then
    if cap_net_admin then some { s with daemon_portid := portid, daemon_registered := true }
    else some s
  else none

/-- `av_netlink_notify` on the release of a generic netlink socket. -/
def stepUrelease (s : State) (portid : Nat) : Option State :=
  if s.teardown = .up ∨ s.teardown = .familyGone then
    if s.daemon_registered ∧ portid = s.daemon_portid then
      some { s with daemon_registered := false }
    else some s
  else none

def stepReceive (s : State) (cap_net_admin : Bool) (portid : Nat) (reqid verdict : Option Nat)
    (rule_name : Option Bytes) : Option State :=
  if s.teardown = .up then
    let m : Message := ⟨s.nextMsg, portid, reqid, verdict, rule_name⟩
    let s := { s with nextMsg := s.nextMsg + 1 }
    match verdictChecks s cap_net_admin m with
    | .error _ => some s
    | .ok () =>
        some ({ s with handlers := ⟨m, .accepted⟩ :: s.handlers }.note
          (.checked m s.daemon_registered s.daemon_portid))
  else none

def stepDequeue (s : State) (h : Handler) : Option State :=
  if h ∈ s.handlers ∧ h.phase = .accepted ∧ s.pendingLockFree then
    let t := s.touch (searched s h.msg)
    match findPending s h.msg with
    | none => some { t with handlers := s.handlers.erase h }
    | some c =>
        some { t.unlink c .self with handlers := ⟨h.msg, .holding c⟩ :: s.handlers.erase h }
  else none

def stepFill (s : State) (h : Handler) : Option State :=
  match h.phase with
  | .holding c =>
      if h ∈ s.handlers then
        let r := { s.record c with
          verdict := (h.msg.verdict.getD 0 : Nat)
          rule_name := snprintf_s (AV_RULE_NAME_MAXLEN + 1) (h.msg.rule_name.getD []) }
        some { (s.touch [c]).setRecord c r with
          handlers := ⟨h.msg, .filled c⟩ :: s.handlers.erase h }
      else none
  | _ => none

def stepComplete (s : State) (h : Handler) : Option State :=
  match h.phase with
  | .filled c =>
      if h ∈ s.handlers then
        some { s.complete c (some h.msg.id) with handlers := s.handlers.erase h }
      else none
  | _ => none

/-- `genl_unregister_family` waits for the callbacks that are running. -/
def stepUnregisterFamily (s : State) : Option State :=
  if s.teardown = .up ∧ s.handlers = [] then some { s with teardown := .familyGone } else none

def stepTeardown (s : State) (before after : Teardown) : Option State :=
  if s.teardown = before then some { s with teardown := after } else none

def stepSweepOne (s : State) : Option State :=
  match s.teardown, s.pending_list with
  | .sweeping, c :: _ => some ((s.unlink c .poison).complete c none)
  | _, _ => none

def stepSweepEnd (s : State) : Option State :=
  if s.pending_list = [] then stepTeardown s .sweeping .swept else none

def step (s : State) : Action → Option State
  | .call c args => stepCall s c args
  | .alloc c ok => stepAlloc s c ok
  | .enqueue c => stepEnqueue s c
  | .build c res => stepBuild s c res
  | .unicast c ret => stepUnicast s c ret
  | .wake c => stepWake s c
  | .timeout c => stepTimeout s c
  | .recheck c => stepRecheck s c
  | .wakeAgain c => stepWakeAgain s c
  | .expire c => stepExpire s c
  | .copy c => stepCopy s c
  | .release c => stepRelease s c
  | .remove c => stepRemove s c
  | .fail c => stepFail s c
  | .register cap portid => stepRegister s cap portid
  | .urelease portid => stepUrelease s portid
  | .receive cap portid reqid verdict rule_name =>
      stepReceive s cap portid reqid verdict rule_name
  | .dequeue h => stepDequeue s h
  | .fill h => stepFill s h
  | .complete h => stepComplete s h
  | .unregisterFamily => stepUnregisterFamily s
  | .unregisterNotifier => stepTeardown s .familyGone .notifierGone
  | .sweepStart => stepTeardown s .notifierGone .sweeping
  | .sweepOne => stepSweepOne s
  | .sweepEnd => stepSweepEnd s

end KernelAv.Kernel.Channel
