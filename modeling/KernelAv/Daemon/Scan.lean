/- digest: The daemon's scan of one file: its layers, its verdict, and what convicts. -/

import KernelAv.Kernel.Channel
import Mathlib.Data.Int.Init

set_option autoImplicit false
set_option relaxedAutoImplicit false

namespace KernelAv.Daemon.Scan

open KernelAv.Lib.CText
open KernelAv.Kernel.Channel (AV_VERDICT_CLEAN AV_VERDICT_MALICIOUS AV_RULE_NAME_MAXLEN
  ScanRequest)

def PATH_MAX : Nat := 4096
def MAX_FUZZY_TLSH_FILE_SIZE : Nat := 256 * 1024 * 1024
def READ_BUFFER_SIZE : Nat := 65536
def MALICIOUS_SCORE_THRESHOLD : Int := 100
def FUZZY_MATCH_THRESHOLD : Int := 60
def TLSH_MATCH_MAX_DIFF : Int := 30
def CORPUS_NAME_LEN : Nat := 128
def ERROR_SUCCESS : Int := 0

/-- A conversion to `int`. -/
def toInt (v : Int) : Int := Int.bmod v (2 ^ 32)

inductive MetaValue where
  | integer (v : Int)
  | boolean (v : Bool)
  | string (v : Bytes)
  deriving DecidableEq

/-- What the callback reads of a matching rule. -/
structure Rule where
  identifier : Bytes
  metas : List (Bytes × MetaValue)
  deriving DecidableEq

/-- `struct yara_match_ctx`. -/
structure YaraMatchCtx where
  matched : Bool
  score : Int
  override_matched : Bool
  rule_name : Bytes
  deriving DecidableEq

def YaraMatchCtx.start : YaraMatchCtx := ⟨false, 0, false, []⟩

def readMeta (ctx : YaraMatchCtx) : Bytes × MetaValue → YaraMatchCtx
  | (identifier, .integer v) =>
      if identifier = lit "weight" then { ctx with score := toInt (ctx.score + toInt v) } else ctx
  | (identifier, .boolean true) =>
      if identifier = lit "override" then { ctx with override_matched := true } else ctx
  | _ => ctx

/-- The names are joined by commas, as far as they fit. -/
def appendName (rule_name identifier : Bytes) : Bytes :=
  let remaining := AV_RULE_NAME_MAXLEN + 1 - rule_name.length
  if 1 < remaining then
    rule_name ++ snprintf_s remaining ((if rule_name = [] then [] else lit ",") ++ identifier)
  else rule_name

def yara_callback (ctx : YaraMatchCtx) (rule : Rule) : YaraMatchCtx :=
  let read := rule.metas.foldl readMeta { ctx with matched := true }
  { read with rule_name := appendName ctx.rule_name rule.identifier }

structure CorpusEntry where
  hash : Bytes
  name : Bytes
  deriving DecidableEq

/-- The daemon's read-only state once it has started. -/
structure Avd where
  compiled_rules : Bool
  fuzzy_corpus : List CorpusEntry
  tlsh_corpus : List CorpusEntry
  deriving DecidableEq

/-- The fuzzy hash library, and the distance of two TLSH digests. -/
structure HashLibrary where
  fuzzy_digest : Bytes → Bytes
  fuzzy_compare : Bytes → Bytes → Int
  tlsh_diff : Bytes → Bytes → Int

/-- What one `read` returns. -/
inductive ReadResult where
  | data (buf : Bytes)
  | interrupted
  | failed
  deriving DecidableEq

structure FuzzyIo where
  st_size : Option Nat
  dup_ok : Bool
  lseek_ok : Bool
  new_ok : Bool
  reads : List ReadResult
  update_ok : Nat → Bool
  digest_ok : Bool

/-- The return codes of `av_tlsh_hash_fd`: 0, -2 and the others. -/
inductive TlshHash where
  | hashed (hex : Bytes)
  | tooShort
  | failed
  deriving DecidableEq

structure TlshIo where
  st_size : Option Nat
  dup_ok : Bool
  hash : TlshHash
  deriving DecidableEq

/-- What the calls made in one scan return: the open (with the file's device and inode), the
hash of the file where none came with the request, the rewind, the rules that matched and the
code `yr_rules_scan_fd` ended with, the two corpus checks, and the send. -/
structure ScanIo where
  opened : Option (Nat × Nat)
  sha256 : Option Bytes
  rewound : Bool
  rules_matched : List Rule
  scan_ret : Int
  fuzzy : FuzzyIo
  tlsh : TlshIo
  sent : Bool

def fuzzy_tlsh_size_ok (st_size : Option Nat) : Bool :=
  st_size.all fun n => n ≤ MAX_FUZZY_TLSH_FILE_SIZE

/-- The read loop of `check_fuzzy_corpus`, up to the end of the file or the cap: the bytes that
`fuzzy_update` was given; `n` counts its calls. -/
def readLoop (update_ok : Nat → Bool) : List ReadResult → Nat → Bytes → Option Bytes
  | [], _, data => some data
  | r :: reads, n, data =>
      if MAX_FUZZY_TLSH_FILE_SIZE ≤ data.length then some data
      else
        match r with
        | .interrupted => readLoop update_ok reads n data
        | .failed => none
        | .data buf =>
            let got := buf.take (min READ_BUFFER_SIZE (MAX_FUZZY_TLSH_FILE_SIZE - data.length))
            if got = [] then some data
            else if update_ok n then readLoop update_ok reads (n + 1) (data ++ got)
            else none

/-- The digest of the file, unless a call fails on the way. -/
def fuzzyHash (L : HashLibrary) (io : FuzzyIo) : Option Bytes :=
  if !io.dup_ok || !io.lseek_ok || !io.new_ok then none
  else
    match readLoop io.update_ok io.reads 0 [] with
    | none => none
    | some data => if io.digest_ok then some (L.fuzzy_digest data) else none

/-- The entry with the highest score so far. -/
def raiseBest (L : HashLibrary) (file_hash : Bytes) (best : Int × Bytes) (e : CorpusEntry) :
    Int × Bytes :=
  let score := L.fuzzy_compare file_hash e.hash
  if best.1 < score then (score, e.name) else best

/-- The entry with the lowest distance so far; entries that do not parse are passed over. -/
def lowerBest (L : HashLibrary) (file_hash : Bytes) (best : Int × Bytes) (e : CorpusEntry) :
    Int × Bytes :=
  let diff := L.tlsh_diff file_hash e.hash
  if diff < 0 then best else if best.1 < 0 ∨ diff < best.1 then (diff, e.name) else best

/-- How a corpus check ends: -1, 0, or 1 with the name and the score of the entry. -/
inductive CorpusCheck where
  | failed
  | noMatch
  | found (name : Bytes) (score : Int)
  deriving DecidableEq

def check_fuzzy_corpus (L : HashLibrary) (D : Avd) (io : FuzzyIo) : CorpusCheck :=
  if D.fuzzy_corpus = [] then .noMatch
  else if !fuzzy_tlsh_size_ok io.st_size then .noMatch
  else
    match fuzzyHash L io with
    | none => .failed
    | some file_hash =>
        let best := D.fuzzy_corpus.foldl (raiseBest L file_hash) (-1, [])
        if FUZZY_MATCH_THRESHOLD ≤ best.1 then .found (snprintf_s CORPUS_NAME_LEN best.2) best.1
        else .noMatch

def check_tlsh_corpus (L : HashLibrary) (D : Avd) (io : TlshIo) : CorpusCheck :=
  if D.tlsh_corpus = [] then .noMatch
  else if !fuzzy_tlsh_size_ok io.st_size then .noMatch
  else if !io.dup_ok then .failed
  else
    match io.hash with
    | .tooShort => .noMatch
    | .failed => .failed
    | .hashed file_hash =>
        let best := D.tlsh_corpus.foldl (lowerBest L file_hash) (-1, [])
        if 0 ≤ best.1 ∧ best.1 ≤ TLSH_MATCH_MAX_DIFF then
          .found (snprintf_s CORPUS_NAME_LEN best.2) best.1
        else .noMatch

/-- `struct scan_result`, and whether the file was handed to `quarantine_file`. -/
structure ScanResult where
  verdict : Nat
  rule_name : Bytes
  score : Int
  sha256_hex : Bytes
  quarantined : Bool
  deriving DecidableEq

def yaraConvicts (ctx : YaraMatchCtx) : Bool :=
  ctx.matched && (ctx.override_matched || MALICIOUS_SCORE_THRESHOLD ≤ ctx.score)

def corpusRule (layer name : Bytes) (score : Int) : Bytes :=
  snprintf_s (AV_RULE_NAME_MAXLEN + 1)
    (layer ++ name.take 40 ++ lit "(" ++ fmtInt score ++ lit ")")

/-- The digest text the scan reports. -/
def scanHash (io : ScanIo) (sha256_hex : Bytes) : Bytes :=
  if sha256_hex ≠ [] then sha256_hex else io.sha256.getD []

def perform_scan (L : HashLibrary) (D : Avd) (io : ScanIo) (sha256_hex : Bytes) :
    ScanResult :=
  let hash := scanHash io sha256_hex
  let clean (score : Int) : ScanResult := ⟨AV_VERDICT_CLEAN, [], score, hash, false⟩
  let convict (rule_name : Bytes) (score : Int) : ScanResult :=
    ⟨AV_VERDICT_MALICIOUS, rule_name, score, hash, true⟩
  if !D.compiled_rules then clean 0
  else if !io.rewound then clean 0
  else if io.scan_ret ≠ ERROR_SUCCESS then clean 0
  else
    let ctx := io.rules_matched.foldl yara_callback YaraMatchCtx.start
    if yaraConvicts ctx then
      convict (snprintf_s (AV_RULE_NAME_MAXLEN + 1) ctx.rule_name) ctx.score
    else
      let score := if ctx.matched then ctx.score else 0
      match check_fuzzy_corpus L D io.fuzzy with
      | .found name fuzzy_score =>
          convict (corpusRule (lit "Fuzzy:") name (max 0 (min 100 fuzzy_score))) score
      | _ =>
          match check_tlsh_corpus L D io.tlsh with
          | .found name tlsh_diff => convict (corpusRule (lit "TLSH:") name tlsh_diff) score
          | _ => clean score

/-- `struct scan_task`. -/
structure ScanTask where
  reqid : Nat
  pid : Nat
  path : Bytes
  sha256_hex : Bytes
  deriving DecidableEq

/-- The task that `msg_handler` queues for a request that it takes. -/
def scanTask (req : ScanRequest) : ScanTask :=
  ⟨req.reqid, req.pid, snprintf_s PATH_MAX req.path, snprintf_s 65 req.sha256⟩

/-- The attributes of an AV_C_VERDICT message; an empty rule name is left out. -/
structure VerdictMessage where
  reqid : Nat
  verdict : Nat
  rule_name : Option Bytes
  deriving DecidableEq

def send_verdict (sent : Bool) (reqid verdict : Nat) (rule_name : Bytes) :
    Option VerdictMessage :=
  if sent then some ⟨reqid, verdict, if rule_name = [] then none else some rule_name⟩ else none

def handle_scan_request (L : HashLibrary) (D : Avd) (io : ScanIo) (task : ScanTask) :
    Option VerdictMessage :=
  match io.opened with
  | none => send_verdict io.sent task.reqid AV_VERDICT_CLEAN []
  | some _ =>
      let result := perform_scan L D io task.sha256_hex
      send_verdict io.sent task.reqid result.verdict result.rule_name

section Verdicts

variable {L : HashLibrary} {D : Avd} {io : ScanIo} {task : ScanTask} {sha256_hex : Bytes}

def fuzzyMatches (L : HashLibrary) (D : Avd) (io : FuzzyIo) : Prop :=
  ∃ name score, check_fuzzy_corpus L D io = .found name score

def tlshMatches (L : HashLibrary) (D : Avd) (io : TlshIo) : Prop :=
  ∃ name score, check_tlsh_corpus L D io = .found name score

/-- The file was opened, rewound and scanned to the end with the compiled rules. -/
structure YaraCompletes (D : Avd) (io : ScanIo) : Prop where
  opened : io.opened ≠ none
  compiled_rules : D.compiled_rules = true
  rewound : io.rewound = true
  scan_ret : io.scan_ret = ERROR_SUCCESS

/-- Some layer's evidence meets its own bar. -/
def Evident (L : HashLibrary) (D : Avd) (io : ScanIo) : Prop :=
  yaraConvicts (io.rules_matched.foldl yara_callback YaraMatchCtx.start) = true ∨
    fuzzyMatches L D io.fuzzy ∨ tlshMatches L D io.tlsh

/-- No step of the analysis failed. -/
structure Completes (L : HashLibrary) (D : Avd) (io : ScanIo) : Prop where
  yara : YaraCompletes D io
  fuzzy : check_fuzzy_corpus L D io.fuzzy ≠ .failed
  tlsh : check_tlsh_corpus L D io.tlsh ≠ .failed

private theorem not_fuzzyMatches {fio : FuzzyIo}
    (h : check_fuzzy_corpus L D fio = .failed ∨ check_fuzzy_corpus L D fio = .noMatch) :
    ¬ fuzzyMatches L D fio := by
  rintro ⟨name, score, hfound⟩
  rw [hfound] at h
  rcases h with h | h <;> cases h

private theorem not_tlshMatches {tio : TlshIo}
    (h : check_tlsh_corpus L D tio = .failed ∨ check_tlsh_corpus L D tio = .noMatch) :
    ¬ tlshMatches L D tio := by
  rintro ⟨name, score, hfound⟩
  rw [hfound] at h
  rcases h with h | h <;> cases h

/-- The daemon convicts on evidence, once its rules have scanned the file; in all other cases,
also those in which a step failed, it calls the file clean. -/
theorem perform_scan_verdict (ho : io.opened ≠ none) :
    (YaraCompletes D io ∧ Evident L D io ∧
      (perform_scan L D io sha256_hex).verdict = AV_VERDICT_MALICIOUS) ∨
    (¬ (YaraCompletes D io ∧ Evident L D io) ∧
      (perform_scan L D io sha256_hex).verdict = AV_VERDICT_CLEAN) := by
  unfold perform_scan
  dsimp only
  split
  · rename_i h
    right
    refine ⟨fun hy => ?_, rfl⟩
    rw [hy.1.compiled_rules] at h
    cases h
  rename_i hrules
  split
  · rename_i h
    right
    refine ⟨fun hy => ?_, rfl⟩
    rw [hy.1.rewound] at h
    cases h
  rename_i hrewound
  split
  · rename_i h
    exact Or.inr ⟨fun hy => h hy.1.scan_ret, rfl⟩
  rename_i hret
  have hyara : YaraCompletes D io :=
    ⟨ho, by simpa using hrules, by simpa using hrewound, by simpa using hret⟩
  split
  · rename_i h
    exact Or.inl ⟨hyara, Or.inl h, rfl⟩
  rename_i hno
  cases hf : check_fuzzy_corpus L D io.fuzzy with
  | found name score => exact Or.inl ⟨hyara, Or.inr (Or.inl ⟨name, score, hf⟩), rfl⟩
  | failed | noMatch =>
    have hnf : ¬ fuzzyMatches L D io.fuzzy := not_fuzzyMatches (by simp [hf])
    cases ht : check_tlsh_corpus L D io.tlsh with
    | found name score => exact Or.inl ⟨hyara, Or.inr (Or.inr ⟨name, score, ht⟩), rfl⟩
    | failed | noMatch =>
      have hnt : ¬ tlshMatches L D io.tlsh := not_tlshMatches (by simp [ht])
      refine Or.inr ⟨?_, rfl⟩
      rintro ⟨-, h | h | h⟩
      · exact hno h
      · exact hnf h
      · exact hnt h

/-- A file that could not be opened is called clean, too. -/
theorem handle_scan_request_verdict {a : VerdictMessage}
    (h : handle_scan_request L D io task = some a) :
    (YaraCompletes D io ∧ Evident L D io ∧ a.verdict = AV_VERDICT_MALICIOUS) ∨
      (¬ (YaraCompletes D io ∧ Evident L D io) ∧ a.verdict = AV_VERDICT_CLEAN) := by
  unfold handle_scan_request send_verdict at h
  split at h
  · rename_i hopen
    split at h
    · obtain rfl := Option.some.inj h
      exact Or.inr ⟨fun hy => hy.1.opened hopen, rfl⟩
    · cases h
  · rename_i hopen
    dsimp only at h
    split at h
    · obtain rfl := Option.some.inj h
      exact perform_scan_verdict (by simp [hopen])
    · cases h

/-- The rule name stays within its array. -/
theorem perform_scan_rule_le (L : HashLibrary) (D : Avd) (io : ScanIo) (sha256_hex : Bytes) :
    (perform_scan L D io sha256_hex).rule_name.length ≤ AV_RULE_NAME_MAXLEN := by
  have hcut : ∀ s : Bytes, (snprintf_s (AV_RULE_NAME_MAXLEN + 1) s).length ≤
      AV_RULE_NAME_MAXLEN := fun s => List.length_take_le _ s
  unfold perform_scan corpusRule
  dsimp only
  repeat' split
  all_goals first | exact hcut _ | exact Nat.zero_le _

private theorem toInt_bounds (v : Int) : -2 ^ 31 ≤ toInt v ∧ toInt v < 2 ^ 31 := by
  have hlo := Int.le_bmod (x := v) (m := 2 ^ 32) (by decide)
  have hhi := Int.bmod_lt (x := v) (m := 2 ^ 32) (by decide)
  unfold toInt
  omega

private theorem yara_score_bounds (rules : List Rule) :
    -2 ^ 31 ≤ (rules.foldl yara_callback YaraMatchCtx.start).score ∧
      (rules.foldl yara_callback YaraMatchCtx.start).score < 2 ^ 31 := by
  have hmeta : ∀ (metas : List (Bytes × MetaValue)) (ctx : YaraMatchCtx),
      -2 ^ 31 ≤ ctx.score ∧ ctx.score < 2 ^ 31 →
        -2 ^ 31 ≤ (metas.foldl readMeta ctx).score ∧ (metas.foldl readMeta ctx).score < 2 ^ 31 := by
    intro metas
    induction metas with
    | nil => exact fun _ h => h
    | cons m metas ih =>
      intro ctx h
      refine ih _ ?_
      unfold readMeta
      split
      · split
        · exact toInt_bounds _
        · exact h
      · split
        · exact h
        · exact h
      · exact h
  have hrules : ∀ (rules : List Rule) (ctx : YaraMatchCtx),
      -2 ^ 31 ≤ ctx.score ∧ ctx.score < 2 ^ 31 →
        -2 ^ 31 ≤ (rules.foldl yara_callback ctx).score ∧
          (rules.foldl yara_callback ctx).score < 2 ^ 31 := by
    intro rules
    induction rules with
    | nil => exact fun _ h => h
    | cons r rules ih => exact fun ctx h => ih _ (hmeta r.metas { ctx with matched := true } h)
  exact hrules rules _ ⟨by decide, by decide⟩

/-- The score is an `int`. -/
theorem perform_scan_score_bounds (L : HashLibrary) (D : Avd) (io : ScanIo)
    (sha256_hex : Bytes) : -2 ^ 31 ≤ (perform_scan L D io sha256_hex).score ∧
      (perform_scan L D io sha256_hex).score < 2 ^ 31 := by
  have hyara := yara_score_bounds io.rules_matched
  have hzero : -2 ^ 31 ≤ (0 : Int) ∧ (0 : Int) < 2 ^ 31 := ⟨by decide, by decide⟩
  unfold perform_scan
  dsimp only
  repeat' split
  all_goals first | exact hyara | exact hzero

/-- The kernel hears nothing exactly of a verdict that could not be sent. -/
theorem handle_scan_request_none_iff :
    handle_scan_request L D io task = none ↔ io.sent = false := by
  unfold handle_scan_request send_verdict
  split <;> cases io.sent <;> simp

end Verdicts

end KernelAv.Daemon.Scan
