/- digest: The exec work item from its file to its kill, and when fail-closed fails closed. -/

import KernelAv.Daemon.Scan
import KernelAv.Kernel.ChannelIntegrity
import KernelAv.Kernel.ExecHash
import KernelAv.Kernel.Paths

set_option autoImplicit false
set_option relaxedAutoImplicit false

namespace KernelAv.Kernel.ExecWork

open KernelAv.Lib.CText
open KernelAv.Lib.Run
open KernelAv.Daemon.Scan
open KernelAv.Kernel.BehaviorTable (KernelHash)
open KernelAv.Kernel.Channel (AV_VERDICT_CLEAN AV_VERDICT_MALICIOUS AV_RULE_NAME_MAXLEN ETIMEDOUT
  ScanArgs ScanRequest Outcome)
open KernelAv.Kernel.ExecHash hiding readLoop
open KernelAv.Kernel.Kill
open KernelAv.Kernel.Paths (ResolveIo resolve_absolute_path)
open KernelAv.Kernel.SigTable
open KernelAv.Kernel.Tasks

/-- What a work item works with besides its own outcomes: the signatures, the digests, and the
daemon that has registered. -/
structure Installation (H : KernelHash) where
  sigs : SigTable.Table H
  digest : Shash
  library : HashLibrary
  daemon : Avd

/-- `struct av_work`, but for the base directory, which `ResolveIo` reads. -/
structure ExecItem where
  target_pid : StructPid
  tgid : Nat
  start_time : UInt64
  path : Bytes
  deriving DecidableEq

/-- How one call of `av_netlink_scan_request` goes: it returns an error (no daemon, no memory, a
failed send, no verdict in time), the teardown of the channel wakes it, or the daemon takes the
request, scans, and its message, if sent, arrives in time. -/
inductive Exchange where
  | failed (ret : Int)
  | woken
  | answered (reqid : Nat) (io : ScanIo)

structure WorkIo where
  abs_path_ok : Bool
  resolve : ResolveIo
  hash : HashIo
  exchange : Exchange

/-- The arguments of `av_behavior_record_exec`. -/
structure Recorded where
  tgid : Nat
  path : Bytes
  sha256 : Bytes
  start_time : UInt64
  deriving DecidableEq

/-- What an item did: the exec it recorded, the request it made, and what it killed for. -/
structure WorkResult where
  recorded : Option Recorded
  request : Option ScanArgs
  detection : Option Detection

section Work

variable {H : KernelHash} (W : Installation H)

/-- What the call returns: a woken request still has the verdict it was allocated with. -/
def av_netlink_scan_request (args : ScanArgs) : Exchange → Outcome
  | .failed ret => .error ret
  | .woken => .verdict (-1) []
  | .answered reqid io =>
      match handle_scan_request W.library W.daemon io
          (scanTask ⟨reqid, args.pid, args.path, args.sha256_hex⟩) with
      | none => .error (-ETIMEDOUT)
      | some a =>
          .verdict a.verdict (snprintf_s args.rule_out_len
            (snprintf_s (AV_RULE_NAME_MAXLEN + 1) (a.rule_name.getD [])))

def av_work_fn (fail_closed : Bool) (aw : ExecItem) (io : WorkIo) : WorkResult :=
  if !io.abs_path_ok then ⟨none, none, none⟩
  else
    let abs_path := resolve_absolute_path io.resolve aw.path Paths.PATH_MAX
    match hash_file_multi W.sigs W.digest io.hash with
    | .error _ => ⟨none, none, none⟩
    | .ok (digest, ident) =>
        let recorded := some ⟨aw.tgid, abs_path, digest.sha256, aw.start_time⟩
        match av_sigtable_match W.sigs digest AV_SIG_NAME_LEN with
        | some sig_name => ⟨recorded, none, some (.signature abs_path sig_name ident)⟩
        | none =>
            let args : ScanArgs :=
              ⟨abs_path, digest.sha256, pid_nr aw.target_pid, AV_RULE_NAME_MAXLEN + 1⟩
            match av_netlink_scan_request W args io.exchange with
            | .verdict verdict rule_name =>
                if verdict = AV_VERDICT_MALICIOUS then
                  ⟨recorded, some args, some (.daemon abs_path rule_name ident)⟩
                else ⟨recorded, some args, none⟩
            | .error nl_ret =>
                if fail_closed then
                  ⟨recorded, some args, some (.failClosed abs_path nl_ret ident)⟩
                else ⟨recorded, some args, none⟩

/-- The file's digests match a signature. -/
def Matches (content : Bytes) : Prop :=
  (av_sigtable_match W.sigs (digestOf W.sigs W.digest content) AV_SIG_NAME_LEN).isSome = true

/-- The exchange gives no verdict, or one backed by evidence. -/
def Exchange.Convicts : Exchange → Prop
  | .failed _ => True
  | .woken => False
  | .answered _ io =>
      io.sent = false ∨ YaraCompletes W.daemon io ∧ Evident W.library W.daemon io

/-- Nothing is left open by the exchange: it fails as a whole, or the daemon reaches evidence, or
it analyses the hashed file to the end. -/
def Exchange.Conclusive (f : OpenFile) : Exchange → Prop
  | .failed _ => True
  | .woken => False
  | .answered _ io =>
      io.sent = false ∨ YaraCompletes W.daemon io ∧
        (Evident W.library W.daemon io ∨ io.opened = some (f.ident.dev, f.ident.ino) ∧
          check_fuzzy_corpus W.library W.daemon io.fuzzy ≠ .failed ∧
          check_tlsh_corpus W.library W.daemon io.tlsh ≠ .failed)

/-- The item convicts: the file is hashed, and a signature or the exchange speaks against it. -/
def Convicted (io : WorkIo) : Prop :=
  io.abs_path_ok = true ∧ ∃ f, Hashable W.sigs io.hash f ∧
    (Matches W f.content ∨ io.exchange.Convicts W)

/-- No outcome on the way to the decision is inconclusive. -/
def Conclusive (io : WorkIo) : Prop :=
  io.abs_path_ok = true ∧ ∃ f, Hashable W.sigs io.hash f ∧
    (Matches W f.content ∨ io.exchange.Conclusive W f)

/-- The daemon analyses the hashed file without any error, and answers the item's request with
CLEAN. -/
def AnsweredClean (aw : ExecItem) (io : WorkIo) : Prop :=
  ∃ args f reqid dio a, (av_work_fn W true aw io).request = some args ∧
    io.hash.opened = .ok f ∧ io.exchange = .answered reqid dio ∧
    dio.opened = some (f.ident.dev, f.ident.ino) ∧ Completes W.library W.daemon dio ∧
    handle_scan_request W.library W.daemon dio
      (scanTask ⟨reqid, args.pid, args.path, args.sha256_hex⟩) = some a ∧
    a.verdict = AV_VERDICT_CLEAN

end Work

section Decisions

variable {H : KernelHash} {W : Installation H} {aw : ExecItem} {io : WorkIo}

private def condemns : Outcome → Prop
  | .verdict v _ => v = AV_VERDICT_MALICIOUS
  | .error _ => True

/-- What the item reads off the return value is what the outcomes of the exchange say. -/
private theorem condemns_iff (args : ScanArgs) {x : Exchange} :
    condemns (av_netlink_scan_request W args x) ↔ x.Convicts W := by
  cases x with
  | failed ret => exact Iff.rfl
  | woken =>
    have hne : (-1 : Int) ≠ AV_VERDICT_MALICIOUS := by decide
    exact ⟨fun h => absurd h hne, fun h => h.elim⟩
  | answered reqid dio =>
    simp only [av_netlink_scan_request, Exchange.Convicts]
    cases ha : handle_scan_request W.library W.daemon dio
        (scanTask ⟨reqid, args.pid, args.path, args.sha256_hex⟩) with
    | none => exact ⟨fun _ => Or.inl (handle_scan_request_none_iff.mp ha), fun _ => trivial⟩
    | some a =>
      have hsent : dio.sent ≠ false := by
        intro hs
        rw [handle_scan_request_none_iff.mpr hs] at ha
        cases ha
      rw [or_iff_right hsent]
      rcases handle_scan_request_verdict ha with ⟨hy, he, hv⟩ | ⟨hnot, hv⟩
      · refine ⟨fun _ => ⟨hy, he⟩, fun _ => ?_⟩
        simp only [condemns, hv]
      · refine ⟨fun h => ?_, fun h => absurd h hnot⟩
        simp only [condemns, hv] at h
        exact absurd h (by decide)

/-- With the policy set, what the item decides and asks, by what its file and the exchange give. -/
private theorem av_work_fn_spec (W : Installation H) (aw : ExecItem) (io : WorkIo) :
    ((av_work_fn W true aw io).detection.isSome = true ↔ Convicted W io) ∧
      ((av_work_fn W true aw io).request.isSome = true ↔
        io.abs_path_ok = true ∧ ∃ f, Hashable W.sigs io.hash f ∧ ¬ Matches W f.content) := by
  unfold av_work_fn Convicted
  cases hbuf : io.abs_path_ok with
  | false => simp
  | true =>
    cases hh : hash_file_multi W.sigs W.digest io.hash with
    | error e =>
      have hno : ∀ f, ¬ Hashable W.sigs io.hash f := by
        intro f hf
        rw [hash_file_multi_ok_iff.mpr ⟨f, hf, rfl, rfl⟩] at hh
        cases hh
      simp [hno]
    | ok r =>
      obtain ⟨d, ident⟩ := r
      obtain ⟨f, hf, rfl, rfl⟩ := hash_file_multi_ok_iff.mp hh
      have huniq : ∀ p : OpenFile → Prop, (∃ g, Hashable W.sigs io.hash g ∧ p g) ↔ p f := by
        intro p
        constructor
        · rintro ⟨g, hg, hp⟩
          obtain rfl := Except.ok.inj (hg.opened.symm.trans hf.opened)
          exact hp
        · exact fun hp => ⟨f, hf, hp⟩
      rw [huniq, huniq]
      unfold Matches
      dsimp only
      cases hm : av_sigtable_match W.sigs (digestOf W.sigs W.digest f.content)
          AV_SIG_NAME_LEN with
      | some name => simp
      | none =>
        dsimp only
        simp only [Option.isSome_none, Bool.not_true, if_false, Bool.false_eq_true, false_or,
          true_and, not_false_eq_true, iff_true]
        rw [← condemns_iff ⟨resolve_absolute_path io.resolve aw.path Paths.PATH_MAX,
          (digestOf W.sigs W.digest f.content).sha256, pid_nr aw.target_pid,
          AV_RULE_NAME_MAXLEN + 1⟩]
        cases av_netlink_scan_request W _ io.exchange with
        | error ret => simp [condemns]
        | verdict v name =>
          by_cases hv : v = AV_VERDICT_MALICIOUS
          · simp [condemns, hv]
          · simp [condemns, hv]

private theorem detection_iff (aw : ExecItem) :
    (av_work_fn W true aw io).detection.isSome = true ↔ Convicted W io :=
  (av_work_fn_spec W aw io).1

private theorem answeredClean_iff :
    AnsweredClean W aw io ↔ io.abs_path_ok = true ∧ ∃ f, Hashable W.sigs io.hash f ∧
      ¬ Matches W f.content ∧ ∃ reqid dio, io.exchange = .answered reqid dio ∧
        dio.sent = true ∧ dio.opened = some (f.ident.dev, f.ident.ino) ∧
        Completes W.library W.daemon dio ∧ ¬ Evident W.library W.daemon dio := by
  constructor
  · rintro ⟨args, f, reqid, dio, a, hreq, hopen, hx, hfile, hc, ha, hv⟩
    obtain ⟨hbuf, g, hg, hno⟩ :=
      (av_work_fn_spec W aw io).2.mp (by rw [hreq]; rfl)
    obtain rfl := Except.ok.inj (hopen.symm.trans hg.opened)
    have hsent : dio.sent = true := by
      by_contra hs
      rw [Bool.not_eq_true] at hs
      rw [handle_scan_request_none_iff.mpr hs] at ha
      cases ha
    refine ⟨hbuf, f, hg, hno, reqid, dio, hx, hsent, hfile, hc, fun he => ?_⟩
    rcases handle_scan_request_verdict ha with ⟨-, -, hmal⟩ | ⟨hnot, -⟩
    · rw [hv] at hmal
      exact absurd hmal (by decide)
    · exact hnot ⟨hc.yara, he⟩
  · rintro ⟨hbuf, f, hf, hno, reqid, dio, hx, hsent, hfile, hc, he⟩
    obtain ⟨args, hreq⟩ := Option.isSome_iff_exists.mp
      ((av_work_fn_spec W aw io).2.mpr ⟨hbuf, f, hf, hno⟩)
    cases ha : handle_scan_request W.library W.daemon dio
        (scanTask ⟨reqid, args.pid, args.path, args.sha256_hex⟩) with
    | none =>
      rw [handle_scan_request_none_iff.mp ha] at hsent
      cases hsent
    | some a =>
      refine ⟨args, f, reqid, dio, a, hreq, hf.opened, hx, hfile, hc, ha, ?_⟩
      rcases handle_scan_request_verdict ha with ⟨-, he', -⟩ | ⟨-, hv⟩
      · exact absurd he' he
      · exact hv

/-- An item convicts or has a clean answer exactly when nothing was inconclusive. -/
private theorem conclusive_iff (aw : ExecItem) :
    Conclusive W io ↔ Convicted W io ∨ AnsweredClean W aw io := by
  rw [answeredClean_iff, Conclusive, Convicted, ← and_or_left]
  refine and_congr_right fun _ => ?_
  rw [← exists_or]
  refine exists_congr fun f => ?_
  rw [← and_or_left]
  refine and_congr_right fun _ => ?_
  by_cases hm : Matches W f.content
  · simp [hm]
  rw [or_iff_right hm, or_iff_right hm, and_iff_right hm]
  cases hx : io.exchange with
  | failed ret => exact ⟨fun _ => Or.inl trivial, fun _ => trivial⟩
  | woken =>
    refine ⟨fun h => h.elim, ?_⟩
    rintro (h | ⟨_, _, h, -⟩)
    · exact h
    · cases h
  | answered reqid dio =>
    simp only [Exchange.Conclusive, Exchange.Convicts]
    constructor
    · rintro (hs | ⟨hy, he | ⟨hfile, hfuzzy, htlsh⟩⟩)
      · exact Or.inl (Or.inl hs)
      · exact Or.inl (Or.inr ⟨hy, he⟩)
      · by_cases he : Evident W.library W.daemon dio
        · exact Or.inl (Or.inr ⟨hy, he⟩)
        · cases hs : dio.sent with
          | false => exact Or.inl (Or.inl rfl)
          | true => exact Or.inr ⟨reqid, dio, rfl, hs, hfile, ⟨hy, hfuzzy, htlsh⟩, he⟩
    · rintro ((hs | ⟨hy, he⟩) | ⟨_, _, hx', -, hfile, hc, -⟩)
      · exact Or.inl hs
      · exact Or.inr ⟨hy, Or.inl he⟩
      · obtain ⟨rfl, rfl⟩ := Exchange.answered.inj hx'
        exact Or.inr ⟨hc.yara, Or.inr ⟨hfile, hc.fuzzy, hc.tlsh⟩⟩

private theorem not_both (hc : Convicted W io) : ¬ AnsweredClean W aw io := by
  rw [answeredClean_iff]
  obtain ⟨-, f, hf, hev⟩ := hc
  rintro ⟨-, g, hg, hno, reqid, dio, hx, hsent, -, -, he⟩
  obtain rfl := Except.ok.inj (hf.opened.symm.trans hg.opened)
  rcases hev with hm | hconv
  · exact hno hm
  · rw [hx] at hconv
    rcases hconv with hs | ⟨-, he'⟩
    · rw [hs] at hsent
      cases hsent
    · exact he he'

/-- While the policy is fail-closed, a killable process lives on only if the daemon analysed its
file to the end and called it clean. -/
def FailsClosed (W : Installation H) (s : State) (group : StructPid) (kio : KillIo)
    (aw : ExecItem) (io : WorkIo) : Prop :=
  Killable s.tasks s.protected_table group →
    (∃ d t, (av_work_fn W true aw io).detection = some d ∧
      (d.kill s.tasks s.protected_table kio aw.target_pid).sent = some t ∧ t.group = group) ∨
    AnsweredClean W aw io

/-- Processing an exec item fails closed exactly when no outcome on the way was inconclusive and
a convicted item still finds a task under the struct pid its hook captured. -/
theorem fails_closed_iff {exe : Bytes} {as : List Action} {s : State} {hook : Hook}
    {group : StructPid} {kio : KillIo} (hr : run step (State.boot exe) as = some s)
    (hq : ⟨hook, aw.target_pid, group⟩ ∈ s.queue) :
    FailsClosed W s group kio aw io ↔
      (Killable s.tasks s.protected_table group →
        Conclusive W io ∧
          (Convicted W io → ∃ t ∈ s.tasks.tasks, t.pid = aw.target_pid)) := by
  have howned := (inv_of_run hr).queue _ hq
  refine imp_congr_right fun hk => ?_
  rw [conclusive_iff aw]
  constructor
  · rintro (⟨d, t, hd, hsent, hgroup⟩ | hclean)
    · have hconv : Convicted W io := (detection_iff aw).mp (by rw [hd]; rfl)
      exact ⟨Or.inl hconv, fun _ => (reaches_iff d howned hk).mp ⟨t, hsent, hgroup⟩⟩
    · exact ⟨Or.inr hclean, fun hconv => absurd hclean (not_both hconv)⟩
  · rintro ⟨hconv | hclean, hpresent⟩
    · obtain ⟨d, hd⟩ := Option.isSome_iff_exists.mp
        ((detection_iff aw).mpr hconv)
      obtain ⟨t, hsent, hgroup⟩ := (reaches_iff d howned hk).mpr (hpresent hconv)
      exact Or.inl ⟨d, t, hd, hsent, hgroup⟩
    · exact Or.inr hclean

end Decisions

section ChannelRuns

open KernelAv.Kernel.Channel (Event)
open KernelAv.Kernel.ChannelIntegrity (NoStrayWake sound_of_run)

variable {H : KernelHash} {W : Installation H}

/-- Two return values that the item treats alike. -/
def SameDecision : Outcome → Outcome → Prop
  | .verdict v _, .verdict w _ => v = w
  | .error ret, .error ret' => ret = ret'
  | _, _ => False

/-- The messages the kernel lets through are what the daemon's scans sent. -/
def AnswersScans (W : Installation H) (log : List Event) : Prop :=
  ∀ m registered portid, Event.checked m registered portid ∈ log →
    ∃ dio task a, handle_scan_request W.library W.daemon dio task = some a ∧
      m.verdict = some a.verdict

private theorem verdict_of_scan {dio : ScanIo} {task : ScanTask} {a : VerdictMessage}
    (task' : ScanTask)
    (ha : handle_scan_request W.library W.daemon dio task = some a) :
    ∃ b, handle_scan_request W.library W.daemon dio task' = some b ∧ b.verdict = a.verdict := by
  cases hb : handle_scan_request W.library W.daemon dio task' with
  | none =>
    have hsent := handle_scan_request_none_iff.mp hb
    rw [handle_scan_request_none_iff.mpr hsent] at ha
    cases ha
  | some b =>
    refine ⟨b, rfl, ?_⟩
    rcases handle_scan_request_verdict ha with ⟨hy, he, hv⟩ | ⟨hnot, hv⟩
    · rcases handle_scan_request_verdict hb with ⟨-, -, hw⟩ | ⟨hnot, -⟩
      · exact hw.trans hv.symm
      · exact absurd ⟨hy, he⟩ hnot
    · rcases handle_scan_request_verdict hb with ⟨hy, he, -⟩ | ⟨-, hw⟩
      · exact absurd ⟨hy, he⟩ hnot
      · exact hw.trans hv.symm

/-- Whatever a call of the channel returns, in a run in which no sweep wakes it, an exchange that
failed or that the daemon answered returns the same. -/
theorem returned_is_exchange {as : List Channel.Action} {s : Channel.State} {c : Nat}
    {reqid : Option Nat} {res : Outcome} (args : ScanArgs)
    (hr : run Channel.step Channel.State.loaded as = some s)
    (hg : Guarded Channel.step NoStrayWake Channel.State.loaded as)
    (hd : AnswersScans W s.log) (hret : Event.returned c reqid res ∈ s.log) :
    ∃ x : Exchange, x ≠ .woken ∧ SameDecision res (av_netlink_scan_request W args x) := by
  cases res with
  | error ret => exact ⟨.failed ret, Exchange.noConfusion, rfl⟩
  | verdict v rule_name =>
    obtain ⟨r, -, m, n, hchecked, -, hverdict, hv, -⟩ :=
      (sound_of_run hr hg).integrity.backed c reqid v rule_name hret
    obtain ⟨dio, task, a, ha, hmv⟩ := hd m _ _ hchecked
    obtain ⟨b, hb, hba⟩ :=
      verdict_of_scan (scanTask ⟨r, args.pid, args.path, args.sha256_hex⟩) ha
    refine ⟨.answered r dio, Exchange.noConfusion, ?_⟩
    have hn : n = a.verdict := Option.some.inj (hverdict.symm.trans hmv)
    simp only [av_netlink_scan_request, hb, SameDecision, hba, hv, hn]

end ChannelRuns

section Examples

private def flatHash : KernelHash := ⟨fun _ => 0, fun _ _ => ⟨0, Nat.two_pow_pos _⟩⟩

/-- The SHA-256 digest of the one-byte file that the examples use. -/
private def digestOfX : Bytes :=
  [45, 113, 22, 66, 183, 38, 176, 68, 1, 98, 124, 169, 251, 172, 50, 245, 200, 83, 15, 177, 144,
    60, 196, 219, 2, 37, 135, 23, 146, 26, 72, 129]

/-- An installation without signatures or corpora, whose rules have been compiled. -/
private def plain : Installation flatHash where
  sigs := Table.empty
  digest := fun _ content => if content = lit "x" then digestOfX else []
  library := ⟨fun _ => [], fun _ _ => 0, fun _ _ => -1⟩
  daemon := ⟨true, [], []⟩

private def child : StructPid := ⟨1, 100⟩

private def shell : Task := ⟨child, child, lit "/bin/sh"⟩

/-- A child of process 1 calls `execve`, and its item is queued. -/
private def execQueued : List Action :=
  [.fork ⟨initPid, initPid, lit "/bin/sh"⟩ 100, .raise shell .execve]

private def execX : ExecItem := ⟨child, 100, 0, lit "/tmp/x"⟩

private def fileX : OpenFile :=
  ⟨true, 1, ⟨8, 1234, 1⟩, [⟨lit "x", by decide⟩], none⟩

private def shashOk : ShashIo := ⟨.ok (), true, 0, fun _ => 0, 0⟩

private def workWith (file : OpenFile) (exchange : Exchange) : WorkIo :=
  ⟨true, ⟨true, some (lit "/"), true⟩, ⟨.ok file, fun _ => shashOk, true⟩, exchange⟩

private def calls : KillIo := ⟨true, true, true, true, true⟩

private theorem shell_killable {s : State}
    (hr : run step (State.boot (lit "/bin/sh")) execQueued = some s) :
    Killable s.tasks s.protected_table child := by
  obtain rfl := Option.some.inj hr
  exact ⟨by decide, ⟨shell, by decide, rfl⟩, fun t _ _ => List.not_mem_nil⟩

/-- No daemon is registered: the item kills the process. -/
theorem unanswered_exec_fails_closed :
    ∃ s, run step (State.boot (lit "/bin/sh")) execQueued = some s ∧
      Killable s.tasks s.protected_table child ∧
      FailsClosed plain s child calls execX (workWith fileX (.failed (-107))) := by
  have hqueued : ∃ s, run step (State.boot (lit "/bin/sh")) execQueued = some s ∧
      ⟨.execve, execX.target_pid, child⟩ ∈ s.queue ∧ shell ∈ s.tasks.tasks :=
    ⟨_, rfl, by decide, by decide⟩
  obtain ⟨s, hr, hq, hshell⟩ := hqueued
  refine ⟨s, hr, shell_killable hr, (fails_closed_iff hr hq).mpr fun _ => ?_⟩
  have hfile : Hashable plain.sigs (workWith fileX (.failed (-107))).hash fileX :=
    ⟨rfl, rfl, by decide, rfl, by decide, rfl, fun _ _ => ⟨rfl, rfl, rfl, fun _ _ => rfl, rfl⟩⟩
  exact ⟨⟨rfl, fileX, hfile, Or.inr trivial⟩, fun _ => ⟨shell, hshell, rfl⟩⟩

/-- The daemon could not open the path, and says so with CLEAN. -/
private def unopened : ScanIo :=
  ⟨none, none, true, [], ERROR_SUCCESS, ⟨none, true, true, true, [], fun _ => true, true⟩,
    ⟨none, true, .tooShort⟩, true⟩

/-- Two execs that live on under fail-closed though nothing was analysed: a file above the size
cap, and a file that the daemon cannot open. -/
theorem inconclusive_exec_lives_on :
    ∃ s, run step (State.boot (lit "/bin/sh")) execQueued = some s ∧
      ⟨.execve, execX.target_pid, child⟩ ∈ s.queue ∧
      ¬ FailsClosed plain s child calls execX
        (workWith { fileX with i_size := MAX_HASH_FILE_SIZE + 1 } .woken) ∧
      ¬ FailsClosed plain s child calls execX (workWith fileX (.answered 1 unopened)) := by
  refine ⟨_, rfl, by decide, fun h => ?_, fun h => ?_⟩
  · rcases h (shell_killable rfl) with ⟨d, t, hd, -⟩ | ⟨args, f, reqid, dio, a, hreq, -⟩
    · have hnone : none = some d := hd
      cases hnone
    · have hnone : none = some args := hreq
      cases hnone
  · rcases h (shell_killable rfl) with ⟨d, t, hd, -⟩ | ⟨args, f, reqid, dio, a, -, -, hx, hfile, -⟩
    · have hnone : none = some d := hd
      cases hnone
    · obtain ⟨-, rfl⟩ := Exchange.answered.inj hx
      cases hfile

end Examples

end KernelAv.Kernel.ExecWork
