/- digest: What the GUI shows of the kernel's state is that state, but for line breaks in fields. -/

import KernelAv.Lib.PyText
import KernelAv.Userspace.StateReplay

set_option autoImplicit false
set_option relaxedAutoImplicit false

namespace KernelAv.Userspace.GuiState

open KernelAv.Lib.CText
open KernelAv.Lib.Files (Disk)
open KernelAv.Lib.Lines (nl unlines)
open KernelAv.Lib.PyText
open KernelAv.Kernel
open KernelAv.Kernel.BehaviorTable (KernelHash)
open KernelAv.Kernel.SigTable
open KernelAv.Kernel.SigTableRefinement (isLowerHex)
open KernelAv.Kernel.TrustTable (TrustEntry)
open KernelAv.Kernel.ProcWrite
open KernelAv.Userspace.Avctl
open KernelAv.Userspace.StateFile
open KernelAv.Userspace.StateInvariant
open KernelAv.Userspace.StateLines
open KernelAv.Userspace.SaveCommit
open KernelAv.Userspace.StateReplay

section Reading

structure Signature where
  algo : Str
  hash : Str
  name : Str
deriving DecidableEq

structure Trusted where
  hash : Str
  name : Str
deriving DecidableEq

/-- The dictionary that `read_state` returns. -/
structure State where
  signatures : List Signature
  trust : List Trusted
  protected_paths : List Str
  policy : Option Str
deriving DecidableEq

/-- What `subprocess.run` returns, in text mode. -/
structure CompletedProcess where
  returncode : Int
  stdout : Str
  stderr : Str

/-- Output in text mode, with `errors="surrogateescape"`. -/
def textOutput (bytes : Bytes) : Str := translateNewlines (decode bytes)

def readSignature (state : State) (rest : Str) : State :=
  match split 2 rest with
  | [algo, hex, name] => { state with signatures := state.signatures ++ [⟨algo, hex, name⟩] }
  | _ => state

def readTrust (state : State) (rest : Str) : State :=
  match split 1 rest with
  | [hex, name] => { state with trust := state.trust ++ [⟨hex, name⟩] }
  | _ => state

/-- One pass of the loop. -/
def readLine (state : State) (line : Str) : State :=
  if line = [] ∨ line.head? = some 35 then state
  else
    match afterPrefix (str "sig add ") line with
    | some rest => readSignature state rest
    | none =>
      match afterPrefix (str "trust add ") line with
      | some rest => readTrust state rest
      | none =>
        match afterPrefix (str "protect add ") line with
        | some rest => { state with protected_paths := state.protected_paths ++ [rest] }
        | none =>
          match afterPrefix (str "policy ") line with
          | some rest => { state with policy := some rest }
          | none => state

def State.empty : State := ⟨[], [], [], none⟩

/-- The argument is the result of the run, or the text of the exception that ended it; an error is
the text of the `ProcfsError`. -/
def read_state : Except Str CompletedProcess → Except Str State
  | .error exc => .error (str "could not run avctl: " ++ exc)
  | .ok result =>
      if result.returncode ≠ 0 then
        let reason := strip result.stderr
        .error (if reason = [] then str "avctl save - failed" else reason)
      else .ok ((splitlines result.stdout).foldl readLine State.empty)

/-- What the GUI gets of a save. -/
def resultOf (r : SaveResult) (stderr : Bytes) : CompletedProcess :=
  ⟨r.ret, textOutput r.stdout, textOutput stderr⟩

end Reading

section Shown

variable {H : KernelHash}

def shownSignature (e : SigEntry) : Signature :=
  ⟨decode (algo_name e.algo), decode e.hex, decode e.name⟩

def shownTrust (x : TrustEntry) : Trusted := ⟨decode x.sha256_hex, decode x.name⟩

/-- The kernel's state as the GUI is to show it. -/
def shown (s : ProcState H) : State where
  signatures := s.sig.sig_table.entries.map shownSignature
  trust := s.trust.entries.map shownTrust
  protected_paths := s.protected_table.entries.map decode
  policy := some (decode (policyRow s.av_daemon_fail_closed))

/-- The fields that the kernel takes from its callers: the names, the hashes of trusted files,
and the protected paths. -/
def fields (s : ProcState H) : List Bytes :=
  s.sig.sig_table.entries.map SigEntry.name ++ (s.trust.entries.map TrustEntry.sha256_hex ++
    (s.trust.entries.map TrustEntry.name ++ s.protected_table.entries))

/-- No field has the bytes of a line break of Python's. -/
def NoBreaks (s : ProcState H) : Prop := ∀ field ∈ fields s, ¬ HasBreak field

/-- `-`. -/
def dash : CString := ⟨lit "-", by decide⟩

end Shown

section Quiet

/-- A text without breaks. -/
def Quiet (text : Str) : Prop := ∀ c ∈ text, isBreak c = false

/-- No text of the state has a break. -/
structure QuietState (state : State) : Prop where
  signatures : ∀ e ∈ state.signatures, Quiet e.name
  hashes : ∀ x ∈ state.trust, Quiet x.hash
  names : ∀ x ∈ state.trust, Quiet x.name
  protected_paths : ∀ p ∈ state.protected_paths, Quiet p

variable {state : State} {line rest : Str}

private theorem quiet_decode_iff (field : Bytes) : Quiet (decode field) ↔ ¬ HasBreak field := by
  rw [← decode_break_iff]
  constructor
  · rintro h ⟨c, hc, hbreak⟩
    rw [h c hc] at hbreak
    cases hbreak
  · intro h c hc
    by_contra hbreak
    exact h ⟨c, hc, by simpa using hbreak⟩

private theorem forall_concat {α : Type} {p : α → Prop} {l : List α} {a : α}
    (hl : ∀ x ∈ l, p x) (ha : p a) : ∀ x ∈ l ++ [a], p x := by
  intro x hx
  rcases List.mem_append.mp hx with hx | hx
  · exact hl x hx
  · obtain rfl := List.mem_singleton.mp hx
    exact ha

private theorem readSignature_quiet (h : QuietState state) (hrest : Quiet rest) :
    QuietState (readSignature state rest) := by
  unfold readSignature
  split
  · rename_i algo hex name hsplit
    have hname : Quiet name := fun c hc =>
      hrest c (mem_of_mem_split (by rw [hsplit]; simp) hc)
    exact ⟨forall_concat h.signatures hname, h.hashes, h.names, h.protected_paths⟩
  · exact h

private theorem readTrust_quiet (h : QuietState state) (hrest : Quiet rest) :
    QuietState (readTrust state rest) := by
  unfold readTrust
  split
  · rename_i hex name hsplit
    have hhash : Quiet hex := fun c hc =>
      hrest c (mem_of_mem_split (by rw [hsplit]; simp) hc)
    have hname : Quiet name := fun c hc =>
      hrest c (mem_of_mem_split (by rw [hsplit]; simp) hc)
    exact ⟨h.signatures, forall_concat h.hashes hhash, forall_concat h.names hname,
      h.protected_paths⟩
  · exact h

private theorem readLine_quiet (h : QuietState state) (hline : Quiet line) :
    QuietState (readLine state line) := by
  have hpart : ∀ {tag rest : Str}, afterPrefix tag line = some rest → Quiet rest :=
    fun hafter c hc => hline c (mem_of_afterPrefix hafter hc)
  unfold readLine
  split
  · exact h
  split
  · rename_i rest hafter
    exact readSignature_quiet h (hpart hafter)
  split
  · rename_i rest hafter
    exact readTrust_quiet h (hpart hafter)
  split
  · rename_i rest hafter
    exact ⟨h.signatures, h.hashes, h.names, forall_concat h.protected_paths (hpart hafter)⟩
  split
  · exact ⟨h.signatures, h.hashes, h.names, h.protected_paths⟩
  · exact h

/-- Whatever is read, no text of the state that is returned has a break. -/
theorem read_state_quiet {result : Except Str CompletedProcess}
    (h : read_state result = .ok state) : QuietState state := by
  have hfold : ∀ (lines : List Str) (start : State), (∀ line ∈ lines, Quiet line) →
      QuietState start → QuietState (lines.foldl readLine start) := by
    intro lines
    induction lines with
    | nil => exact fun start _ hstart => hstart
    | cons line lines ih =>
      intro start hlines hstart
      obtain ⟨hline, hrest⟩ := List.forall_mem_cons.mp hlines
      exact ih _ hrest (readLine_quiet hstart hline)
  cases result with
  | error exc => cases h
  | ok result =>
    rw [read_state] at h
    split at h
    · cases h
    · obtain rfl := Except.ok.inj h
      exact hfold _ _ (fun line hline => no_break_of_mem_splitlines hline)
        ⟨by simp [State.empty], by simp [State.empty], by simp [State.empty],
          by simp [State.empty]⟩

end Quiet

section Lines

variable {H : KernelHash} {s : ProcState H} {e : SigEntry} {x : TrustEntry} {state : State}

private theorem tag_text {tag : Bytes} {text : Str} (htag : tag.all isPrintable = true)
    (htext : tag.map UInt8.toNat = text) (rest : Bytes) :
    decode (tag ++ rest) = text ++ decode rest := by
  rw [decode_ascii_append fun b hb => (printable (List.all_eq_true.mp htag b hb)).2, htext]

private theorem word_text {word : Bytes} (hword : blank ∉ word) (n : Nat) (rest : Bytes) :
    split (n + 1) (decode (word ++ blank :: rest)) = decode word :: split n (decode rest) := by
  rw [decode_append (by decide)]
  exact split_word (not_mem_decode_ascii (b := blank) (by decide) hword) n _

private theorem sig_words (h : KeptSig e) : blank ∉ algo_name e.algo ∧ blank ∉ e.hex := by
  constructor
  · cases e.algo <;> decide
  · intro hblank
    have hdigit := List.all_eq_true.mp h.digits blank hblank
    cases hdigit

private theorem readLine_sig (h : KeptSig e) :
    readLine state (decode (sigCommand e)) =
      { state with signatures := state.signatures ++ [shownSignature e] } := by
  obtain ⟨halgo, hhex⟩ := sig_words h
  have hline : decode (sigCommand e) = str "sig add " ++ decode (sigRow e) :=
    tag_text rfl rfl _
  have hstart : ¬ (str "sig add " ++ decode (sigRow e) = [] ∨
      (str "sig add " ++ decode (sigRow e)).head? = some 35) := by
    rintro (hnil | hhash)
    · cases hnil
    · cases hhash
  rw [hline, readLine, if_neg hstart, afterPrefix_append]
  show readSignature state (decode (sigRow e)) = _
  rw [readSignature, sigRow, word_text halgo, word_text hhex]
  rfl

private theorem readLine_trust (h : KeptTrust x) :
    readLine state (decode (trustCommand x)) =
      { state with trust := state.trust ++ [shownTrust x] } := by
  have hhex : blank ∉ x.sha256_hex := by
    intro hblank
    have hspace := h.no_space blank hblank
    exact absurd hspace (by decide)
  have hline : decode (trustCommand x) = str "trust add " ++ decode (trustRow x) :=
    tag_text rfl rfl _
  have hstart : ¬ (str "trust add " ++ decode (trustRow x) = [] ∨
      (str "trust add " ++ decode (trustRow x)).head? = some 35) := by
    rintro (hnil | hhash)
    · cases hnil
    · cases hhash
  rw [hline, readLine, if_neg hstart, afterPrefix_append]
  show readTrust state (decode (trustRow x)) = _
  rw [readTrust, trustRow, word_text hhex]
  rfl

private theorem readLine_protect (path : Bytes) :
    readLine state (decode (protectCommand path)) =
      { state with protected_paths := state.protected_paths ++ [decode path] } := by
  have hline : decode (protectCommand path) = str "protect add " ++ decode path :=
    tag_text rfl rfl _
  have hstart : ¬ (str "protect add " ++ decode path = [] ∨
      (str "protect add " ++ decode path).head? = some 35) := by
    rintro (hnil | hhash)
    · cases hnil
    · cases hhash
  rw [hline, readLine, if_neg hstart, afterPrefix_append]
  rfl

private theorem readLine_policy (b : Bool) :
    readLine state (decode (policyCommand b)) =
      { state with policy := some (decode (policyRow b)) } := by
  have hline : decode (policyCommand b) = str "policy " ++ decode (policyRow b) :=
    tag_text rfl rfl _
  have hstart : ¬ (str "policy " ++ decode (policyRow b) = [] ∨
      (str "policy " ++ decode (policyRow b)).head? = some 35) := by
    rintro (hnil | hhash)
    · cases hnil
    · cases hhash
  rw [hline, readLine, if_neg hstart, afterPrefix_append]
  rfl

/-- The commands of one listing, of which each adds its entry. -/
private theorem foldl_entries {α : Type} (command : α → Bytes) (put : State → List α → State)
    (hnil : ∀ state, put state [] = state)
    (hcons : ∀ state a l, put (put state [a]) l = put state (a :: l)) {l : List α}
    (h : ∀ a ∈ l, ∀ state, readLine state (decode (command a)) = put state [a]) (state : State) :
    ((l.map command).map decode).foldl readLine state = put state l := by
  induction l generalizing state with
  | nil => exact (hnil state).symm
  | cons a l ih =>
    obtain ⟨ha, hl⟩ := List.forall_mem_cons.mp h
    rw [List.map_cons, List.map_cons, List.foldl_cons, ha, ih hl, hcons]

private theorem foldl_commands (hk : Kept s) :
    ((commands fun _ => s).map decode).foldl readLine State.empty = shown s := by
  have hsigs := foldl_entries sigCommand
    (fun state l => { state with signatures := state.signatures ++ l.map shownSignature })
    (by simp) (by simp) (l := s.sig.sig_table.entries) fun e he _ => readLine_sig (hk.sigs e he)
  have htrusts := foldl_entries trustCommand
    (fun state l => { state with trust := state.trust ++ l.map shownTrust })
    (by simp) (by simp) (l := s.trust.entries) fun x hx _ => readLine_trust (hk.trusts x hx)
  have hpaths := foldl_entries protectCommand
    (fun state l => { state with protected_paths := state.protected_paths ++ l.map decode })
    (by simp) (by simp) (l := s.protected_table.entries) fun p _ _ => readLine_protect p
  rw [commands, List.map_append, List.foldl_append, hsigs, List.map_append, List.foldl_append,
    htrusts, List.map_append, List.foldl_append, hpaths, List.map_singleton, List.foldl_cons,
    readLine_policy]
  simp only [shown, State.empty, List.nil_append, List.foldl_nil]

end Lines

section Showing

variable {H : KernelHash} {s : ProcState H} {env : SaveEnv} {F : Disk Bytes} {stderr : Bytes}

private theorem printable_digits {hex : Bytes} (h : hex.all isLowerHex = true) :
    ¬ HasBreak hex := by
  refine no_break_of_printable (List.all_eq_true.mpr fun b hb => ?_)
  have hdigit := List.all_eq_true.mp h b hb
  rw [isLowerHex, Bool.and_eq_true] at hdigit
  have hrange := hdigit.1
  unfold isxdigit at hrange
  simp at hrange
  simp only [isPrintable, Bool.and_eq_true, decide_eq_true_iff]
  omega

/-- The text that `avctl save` adds to the fields has no break. -/
private theorem command_no_break (hk : Kept s) (h : NoBreaks s) {l : Bytes}
    (hl : l ∈ commands fun _ => s) : ¬ HasBreak l := by
  have hblank : 32 ≤ blank.toNat ∧ blank.toNat < 0x80 := by decide
  have htagged : ∀ (tag rest : Bytes), ¬ HasBreak tag → ¬ HasBreak rest →
      ¬ HasBreak (tag ++ blank :: rest) := by
    intro tag rest htag hrest
    rw [hasBreak_append hblank, not_or]
    exact ⟨htag, hrest⟩
  simp only [commands, List.mem_append, List.mem_map, List.mem_singleton] at hl
  rcases hl with ⟨e, he, rfl⟩ | ⟨x, hx, rfl⟩ | ⟨p, hp, rfl⟩ | rfl
  · have halgo : ¬ HasBreak (algo_name e.algo) := by
      refine no_break_of_printable ?_
      cases e.algo <;> rfl
    have hname : ¬ HasBreak e.name :=
      h _ (List.mem_append_left _ (List.mem_map_of_mem he))
    exact htagged (lit "sig add") _ (no_break_of_printable rfl)
      (htagged _ _ halgo (htagged _ _ (printable_digits (hk.sigs e he).digits) hname))
  · have hhash : ¬ HasBreak x.sha256_hex :=
      h _ (List.mem_append_right _ (List.mem_append_left _ (List.mem_map_of_mem hx)))
    have hname : ¬ HasBreak x.name :=
      h _ (List.mem_append_right _ (List.mem_append_right _
        (List.mem_append_left _ (List.mem_map_of_mem hx))))
    exact htagged (lit "trust add") _ (no_break_of_printable rfl) (htagged _ _ hhash hname)
  · have hpath : ¬ HasBreak p :=
      h _ (List.mem_append_right _ (List.mem_append_right _ (List.mem_append_right _ hp)))
    exact htagged (lit "protect add") _ (no_break_of_printable rfl) hpath
  · refine no_break_of_printable ?_
    cases s.av_daemon_fail_closed <;> rfl

/-- What a successful `avctl save -` prints. -/
private theorem printed (hk : Kept s) (hline : OneLine s) (hreads : env.reads = wholeReads s)
    (hret : (do_save env F dash).ret = 0) :
    (do_save env F dash).stdout = unlines (commands fun _ => s) := by
  have hdash : to_stdout dash = true := by decide
  have hsaved : SavedAs s env F dash (do_save env F dash).stdout :=
    ⟨hreads, hret, by rw [if_pos hdash]⟩
  rw [saved_text hsaved, dump_whole hk hline, headerLines, if_pos hdash, List.nil_append]

private theorem quiet_of_shown (h : QuietState (shown s)) : NoBreaks s := by
  obtain ⟨hsigs, hhashes, hnames, hpaths⟩ := h
  simp only [shown, shownSignature, shownTrust, List.forall_mem_map] at hsigs hhashes hnames hpaths
  intro field hfield
  rw [← quiet_decode_iff]
  simp only [fields, List.mem_append, List.mem_map] at hfield
  rcases hfield with ⟨e, he, rfl⟩ | ⟨x, hx, rfl⟩ | ⟨x, hx, rfl⟩ | hp
  · exact hsigs e he
  · exact hhashes x hx
  · exact hnames x hx
  · exact hpaths field hp

/-- The GUI shows exactly the state that a successful `avctl save -` printed if no name, trusted
hash or protected path has the bytes of a line break of Python's, and otherwise another one. -/
theorem shows_state_iff (hs : Reached s) (hline : OneLine s) (hreads : env.reads = wholeReads s)
    (hret : (do_save env F dash).ret = 0) :
    read_state (.ok (resultOf (do_save env F dash) stderr)) = .ok (shown s) ↔ NoBreaks s := by
  have hk := hs.kept
  constructor
  · intro hread
    exact quiet_of_shown (read_state_quiet hread)
  · intro h
    have hlines := splitlines_unlines fun l hl => command_no_break hk h hl
    have hzero : ¬ (resultOf (do_save env F dash) stderr).returncode ≠ 0 := not_not.mpr hret
    rw [read_state, if_neg hzero]
    show Except.ok ((splitlines (textOutput (do_save env F dash).stdout)).foldl readLine
      State.empty) = _
    rw [printed hk hline hreads hret, textOutput, hlines, foldl_commands hk]

/-- A freshly loaded module is shown as it is. -/
theorem fresh_state_shown :
    read_state (.ok (resultOf (do_save (SaveEnv.smooth (wholeReads (av_init singleBucket true)))
        emptyDir dash) [])) = .ok (shown (av_init singleBucket true)) ↔
      NoBreaks (av_init singleBucket true) :=
  shows_state_iff (.load true) (init_one_line singleBucket) rfl rfl

/-- A path with a vertical tab, after which it reads like a command. -/
def tabbed : Bytes := lit "/a" ++ 11 :: lit "trust add 0 x"

/-- The module after that path is protected. -/
def tabbedState : ProcState singleBucket :=
  (procWrite (av_init singleBucket true)
    (RunEnv.root.call (lit "add " ++ tabbed ++ [nl])) .protected_paths).2

private theorem tabbed_entries : tabbedState.protected_table.entries = [tabbed] := by
  decide +kernel

/-- The path is shown as another one. -/
theorem tabbed_path_split :
    ¬ ∀ (H : KernelHash) (s : ProcState H), Reached s → OneLine s →
        ∀ (env : SaveEnv) (F : Disk Bytes) (stderr : Bytes), env.reads = wholeReads s →
          (do_save env F dash).ret = 0 →
            read_state (.ok (resultOf (do_save env F dash) stderr)) = .ok (shown s) := by
  intro hall
  have hline : OneLine tabbedState := by
    intro p hp
    rw [tabbed_entries] at hp
    obtain rfl := List.mem_singleton.mp hp
    decide
  have hread := hall singleBucket tabbedState (.write (.load true) _ _) hline
    (SaveEnv.smooth (wholeReads tabbedState)) emptyDir [] rfl rfl
  have hquiet := quiet_of_shown (read_state_quiet hread)
  have hmem : tabbed ∈ fields tabbedState := by
    refine List.mem_append_right _ (List.mem_append_right _ (List.mem_append_right _ ?_))
    rw [tabbed_entries]
    exact List.mem_singleton_self _
  exact hquiet tabbed hmem ⟨[11], by decide, lit "/a", lit "trust add 0 x", rfl⟩

end Showing

end KernelAv.Userspace.GuiState
