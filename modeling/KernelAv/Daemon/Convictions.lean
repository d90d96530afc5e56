/- digest: Which evidence convicts a file in a scan, and what each scan leaves behind. -/

import KernelAv.Daemon.VerdictListing
import Mathlib.Algebra.BigOperators.Group.List.Basic

set_option autoImplicit false
set_option relaxedAutoImplicit false

namespace KernelAv.Daemon.Convictions

open KernelAv.Lib.CText
open KernelAv.Kernel.Channel (AV_VERDICT_CLEAN AV_VERDICT_MALICIOUS AV_RULE_NAME_MAXLEN)
open KernelAv.Daemon.Scan
open KernelAv.Daemon.VerdictHistory
open KernelAv.Daemon.VerdictListing

/-- The other arguments of `perform_scan`, the owner that `fstat` gives, and the time at its end. -/
structure ScanArgs where
  path : Bytes
  pid : UInt32
  on_demand : Bool
  owner : Option UInt32
  time : Int64

/-- The arguments of a call of `quarantine_file` on the file that is scanned. -/
structure QuarantineCall where
  path : Bytes
  rule_name : Bytes
  sha256_hex : Bytes
deriving DecidableEq

/-- What a scan leaves: its result, its calls of `quarantine_file`, and the history. -/
structure Scanned where
  out : ScanResult
  quarantine_files : List QuarantineCall
  history : History

/-- The call of `record_verdict_history` at the exit of `perform_scan`. -/
def recordCall (args : ScanArgs) (out : ScanResult) : RecordCall where
  pid := args.pid
  uid := args.owner.getD (-1)
  path := some args.path
  sha256_hex := some out.sha256_hex
  verdict := UInt8.ofNat out.verdict
  rule_name := some out.rule_name
  score := Int32.ofInt out.score
  on_demand := args.on_demand
  time := args.time

/-- `perform_scan` with its calls; every branch that convicts quarantines with the rule name of the
result, and all branches meet at the record. -/
def scanFile (L : HashLibrary) (D : Avd) (io : ScanIo) (args : ScanArgs) (sha256_hex : Bytes)
    (history : History) : Scanned :=
  let done := perform_scan L D io sha256_hex
  let out := { done with sha256_hex := snprintf_s 65 done.sha256_hex }
  { out := out
    quarantine_files :=
      if done.quarantined then [⟨args.path, done.rule_name, done.sha256_hex⟩] else []
    history := record_verdict_history (recordCall args out) history }

section Evidence

/-- The rules are there, the file was rewound, and YARA has scanned it to its end. -/
structure YaraRan (D : Avd) (io : ScanIo) : Prop where
  compiled_rules : D.compiled_rules = true
  rewound : io.rewound = true
  scan_ret : io.scan_ret = ERROR_SUCCESS

/-- The rule carries `override = true`. -/
def Overrides (rule : Rule) : Prop := (lit "override", MetaValue.boolean true) ∈ rule.metas

/-- The weight that a meta of a rule adds. -/
def metaWeight : Bytes × MetaValue → Int
  | (identifier, .integer v) => if identifier = lit "weight" then v else 0
  | _ => 0

def ruleWeight (rule : Rule) : Int := (rule.metas.map metaWeight).sum

def summedWeight (rules : List Rule) : Int := (rules.map ruleWeight).sum

def FuzzyEvidence (L : HashLibrary) (D : Avd) (io : FuzzyIo) : Prop :=
  fuzzy_tlsh_size_ok io.st_size = true ∧ ∃ hash, fuzzyHash L io = some hash ∧
    ∃ e ∈ D.fuzzy_corpus, FUZZY_MATCH_THRESHOLD ≤ L.fuzzy_compare hash e.hash

def TlshEvidence (L : HashLibrary) (D : Avd) (io : TlshIo) : Prop :=
  fuzzy_tlsh_size_ok io.st_size = true ∧ io.dup_ok = true ∧ ∃ hash, io.hash = .hashed hash ∧
    ∃ e ∈ D.tlsh_corpus, 0 ≤ L.tlsh_diff hash e.hash ∧
      L.tlsh_diff hash e.hash ≤ TLSH_MATCH_MAX_DIFF

/-- Some layer's evidence meets its own bar; the weights are summed in an `int`. -/
def MeetsBar (L : HashLibrary) (D : Avd) (io : ScanIo) : Prop :=
  (∃ rule ∈ io.rules_matched, Overrides rule) ∨
    MALICIOUS_SCORE_THRESHOLD ≤ toInt (summedWeight io.rules_matched) ∨
      FuzzyEvidence L D io.fuzzy ∨ TlshEvidence L D io.tlsh

end Evidence

section Rules

variable {ctx : YaraMatchCtx} {total : Int}

private theorem toInt_add (a b : Int) : toInt (toInt a + toInt b) = toInt (a + b) := by
  unfold toInt
  rw [Int.bmod_add_bmod, Int.add_bmod_bmod]

private theorem readMeta_score (h : ctx.score = toInt total) (m : Bytes × MetaValue) :
    (readMeta ctx m).score = toInt (total + metaWeight m) := by
  obtain ⟨identifier, value⟩ := m
  have hsame : ctx.score = toInt (total + 0) := by
    rw [Int.add_zero]
    exact h
  cases value with
  | integer v =>
      rw [readMeta, metaWeight]
      split
      · rw [h, toInt_add]
      · exact hsame
  | boolean b =>
      cases b with
      | false => exact hsame
      | true =>
          rw [readMeta]
          split
          · exact hsame
          · exact hsame
  | string s => exact hsame

private theorem readMeta_override (ctx : YaraMatchCtx) (m : Bytes × MetaValue) :
    (readMeta ctx m).override_matched = true ↔
      ctx.override_matched = true ∨ m = (lit "override", .boolean true) := by
  obtain ⟨identifier, value⟩ := m
  cases value with
  | integer v =>
      rw [readMeta]
      split
      · simp
      · simp
  | boolean b =>
      cases b with
      | false => simp [readMeta]
      | true =>
          rw [readMeta]
          split
          · rename_i hid
            simp [hid]
          · rename_i hid
            simp [hid]
  | string s => simp [readMeta]

private theorem readMeta_matched (ctx : YaraMatchCtx) (m : Bytes × MetaValue) :
    (readMeta ctx m).matched = ctx.matched := by
  unfold readMeta
  split
  · split
    · rfl
    · rfl
  · split
    · rfl
    · rfl
  · rfl

/-- By induction on the metas of a rule. -/
private theorem readMetas (metas : List (Bytes × MetaValue)) : ∀ (ctx : YaraMatchCtx) (total : Int),
    ctx.score = toInt total →
      (metas.foldl readMeta ctx).score = toInt (total + (metas.map metaWeight).sum) ∧
      ((metas.foldl readMeta ctx).override_matched = true ↔
        ctx.override_matched = true ∨ (lit "override", .boolean true) ∈ metas) ∧
      (metas.foldl readMeta ctx).matched = ctx.matched := by
  induction metas with
  | nil =>
      intro ctx total h
      refine ⟨?_, ?_, rfl⟩
      · rw [List.map_nil, List.sum_nil, Int.add_zero]
        exact h
      · rw [List.foldl_nil, or_iff_left List.not_mem_nil]
  | cons m metas ih =>
      intro ctx total h
      obtain ⟨hscore, hoverride, hmatched⟩ := ih _ _ (readMeta_score h m)
      rw [List.foldl_cons]
      refine ⟨?_, ?_, ?_⟩
      · rw [hscore, List.map_cons, List.sum_cons, Int.add_assoc]
      · rw [hoverride, readMeta_override, List.mem_cons, or_assoc]
        apply or_congr_right
        rw [eq_comm]
      · rw [hmatched, readMeta_matched]

/-- By induction on the rules that matched. -/
private theorem callbacks (rules : List Rule) : ∀ (ctx : YaraMatchCtx) (total : Int),
    ctx.score = toInt total →
      (rules.foldl yara_callback ctx).score = toInt (total + summedWeight rules) ∧
      ((rules.foldl yara_callback ctx).override_matched = true ↔
        ctx.override_matched = true ∨ ∃ rule ∈ rules, Overrides rule) ∧
      ((rules.foldl yara_callback ctx).matched = true ↔ ctx.matched = true ∨ rules ≠ []) := by
  induction rules with
  | nil =>
      intro ctx total h
      refine ⟨?_, ?_, ?_⟩
      · rw [summedWeight, List.map_nil, List.sum_nil, Int.add_zero]
        exact h
      · simp
      · simp
  | cons rule rules ih =>
      intro ctx total h
      obtain ⟨hscore, hoverride, hmatched⟩ :=
        readMetas rule.metas { ctx with matched := true } total h
      obtain ⟨hs, ho, hm⟩ := ih (yara_callback ctx rule) _ hscore
      rw [List.foldl_cons]
      refine ⟨?_, ?_, ?_⟩
      · rw [hs, summedWeight, summedWeight, List.map_cons, List.sum_cons, Int.add_assoc, ruleWeight]
      · have hone : (yara_callback ctx rule).override_matched = true ↔
            ctx.override_matched = true ∨ Overrides rule := hoverride
        rw [ho, hone, or_assoc]
        simp
      · have hone : (yara_callback ctx rule).matched = true := hmatched
        rw [hm]
        simp [hone]

theorem yaraConvicts_iff (rules : List Rule) :
    yaraConvicts (rules.foldl yara_callback YaraMatchCtx.start) = true ↔
      (∃ rule ∈ rules, Overrides rule) ∨
        MALICIOUS_SCORE_THRESHOLD ≤ toInt (summedWeight rules) := by
  obtain ⟨hscore, hoverride, hmatched⟩ :=
    callbacks rules YaraMatchCtx.start 0 rfl
  rw [Int.zero_add] at hscore
  have hover : (rules.foldl yara_callback YaraMatchCtx.start).override_matched = true ↔
      ∃ rule ∈ rules, Overrides rule :=
    hoverride.trans (or_iff_right Bool.false_ne_true)
  have hmatch : (rules.foldl yara_callback YaraMatchCtx.start).matched = true ↔ rules ≠ [] :=
    hmatched.trans (or_iff_right Bool.false_ne_true)
  rw [yaraConvicts, Bool.and_eq_true, Bool.or_eq_true, decide_eq_true_eq, hover, hmatch, hscore]
  refine ⟨And.right, fun h => ⟨?_, h⟩⟩
  -- Without a rule there is neither an override nor a weight.
  rintro rfl
  rcases h with ⟨rule, hrule, -⟩ | hweight
  · exact absurd hrule List.not_mem_nil
  · exact absurd hweight (by decide)

end Rules

section Corpora

variable {L : HashLibrary} {D : Avd}

/-- The highest score reaches a bar when some score does. -/
private theorem raiseBest_bar (hash : Bytes) (bar : Int) (corpus : List CorpusEntry) :
    ∀ best : Int × Bytes, bar ≤ (corpus.foldl (raiseBest L hash) best).1 ↔
      bar ≤ best.1 ∨ ∃ e ∈ corpus, bar ≤ L.fuzzy_compare hash e.hash := by
  induction corpus with
  | nil =>
      intro best
      simp
  | cons e corpus ih =>
      intro best
      have hone : bar ≤ (raiseBest L hash best e).1 ↔
          bar ≤ best.1 ∨ bar ≤ L.fuzzy_compare hash e.hash := by
        unfold raiseBest
        simp only
        split
        · simp only
          omega
        · omega
      rw [List.foldl_cons, ih, hone, or_assoc]
      simp

/-- The lowest distance is within a bar when some distance is. -/
private theorem lowerBest_bar (hash : Bytes) (bar : Int) (corpus : List CorpusEntry) :
    ∀ best : Int × Bytes, (0 ≤ (corpus.foldl (lowerBest L hash) best).1 ∧
        (corpus.foldl (lowerBest L hash) best).1 ≤ bar) ↔
      (0 ≤ best.1 ∧ best.1 ≤ bar) ∨
        ∃ e ∈ corpus, 0 ≤ L.tlsh_diff hash e.hash ∧ L.tlsh_diff hash e.hash ≤ bar := by
  induction corpus with
  | nil =>
      intro best
      simp
  | cons e corpus ih =>
      intro best
      have hone : (0 ≤ (lowerBest L hash best e).1 ∧ (lowerBest L hash best e).1 ≤ bar) ↔
          (0 ≤ best.1 ∧ best.1 ≤ bar) ∨
            (0 ≤ L.tlsh_diff hash e.hash ∧ L.tlsh_diff hash e.hash ≤ bar) := by
        unfold lowerBest
        simp only
        split
        · omega
        · split
          · simp only
            omega
          · omega
      rw [List.foldl_cons, ih, hone, or_assoc]
      simp

theorem fuzzyMatches_iff (io : FuzzyIo) : fuzzyMatches L D io ↔ FuzzyEvidence L D io := by
  unfold fuzzyMatches FuzzyEvidence check_fuzzy_corpus
  by_cases hempty : D.fuzzy_corpus = []
  · simp [hempty]
  · cases hsize : fuzzy_tlsh_size_ok io.st_size with
    | false => simp [hempty]
    | true =>
        cases hhash : fuzzyHash L io with
        | none => simp [hempty]
        | some hash =>
            have hbar := raiseBest_bar (L := L) hash FUZZY_MATCH_THRESHOLD D.fuzzy_corpus (-1, [])
            rw [or_iff_right (by decide)] at hbar
            simp only [if_neg hempty, Bool.not_true, Bool.false_eq_true, if_false,
              Option.some.injEq, exists_eq_left', true_and, ← hbar]
            split
            · rename_i hle
              exact iff_of_true ⟨_, _, rfl⟩ hle
            · rename_i hlt
              refine iff_of_false ?_ hlt
              rintro ⟨name, score, hfound⟩
              cases hfound

theorem tlshMatches_iff (io : TlshIo) : tlshMatches L D io ↔ TlshEvidence L D io := by
  unfold tlshMatches TlshEvidence check_tlsh_corpus
  by_cases hempty : D.tlsh_corpus = []
  · simp [hempty]
  · cases hsize : fuzzy_tlsh_size_ok io.st_size with
    | false => simp [hempty]
    | true =>
        cases hdup : io.dup_ok with
        | false => simp [hempty]
        | true =>
            cases hhash : io.hash with
            | tooShort => simp [hempty]
            | failed => simp [hempty]
            | hashed hash =>
                have hbar := lowerBest_bar (L := L) hash TLSH_MATCH_MAX_DIFF D.tlsh_corpus (-1, [])
                rw [or_iff_right (by decide)] at hbar
                simp only [if_neg hempty, Bool.not_true, Bool.false_eq_true, if_false,
                  TlshHash.hashed.injEq, exists_eq_left', true_and, ← hbar]
                split
                · rename_i hle
                  exact iff_of_true ⟨_, _, rfl⟩ hle
                · rename_i hlt
                  refine iff_of_false ?_ hlt
                  rintro ⟨name, score, hfound⟩
                  cases hfound

theorem evident_iff (io : ScanIo) : Evident L D io ↔ MeetsBar L D io := by
  rw [Evident, MeetsBar, yaraConvicts_iff, fuzzyMatches_iff, tlshMatches_iff, or_assoc]

end Corpora

section Verdicts

variable {L : HashLibrary} {D : Avd} {io : ScanIo} {sha256_hex : Bytes}

/-- The verdict does not look at how the file was opened. -/
private theorem verdict_cases (L : HashLibrary) (D : Avd) (io : ScanIo) (sha256_hex : Bytes) :
    (YaraRan D io ∧ MeetsBar L D io ∧
      (perform_scan L D io sha256_hex).verdict = AV_VERDICT_MALICIOUS) ∨
    (¬ (YaraRan D io ∧ MeetsBar L D io) ∧
      (perform_scan L D io sha256_hex).verdict = AV_VERDICT_CLEAN) := by
  have hopened : ({ io with opened := some (0, 0) } : ScanIo).opened ≠ none := Option.some_ne_none _
  have hran : YaraCompletes D { io with opened := some (0, 0) } ↔ YaraRan D io :=
    ⟨fun h => ⟨h.compiled_rules, h.rewound, h.scan_ret⟩,
      fun h => ⟨hopened, h.compiled_rules, h.rewound, h.scan_ret⟩⟩
  have hbar : Evident L D { io with opened := some (0, 0) } ↔ MeetsBar L D io := evident_iff _
  rw [← hran, ← hbar]
  exact perform_scan_verdict hopened

private theorem malicious_iff : (perform_scan L D io sha256_hex).verdict = AV_VERDICT_MALICIOUS ↔
    YaraRan D io ∧ MeetsBar L D io := by
  rcases verdict_cases L D io sha256_hex with ⟨hran, hbar, hv⟩ | ⟨hno, hv⟩
  · exact iff_of_true hv ⟨hran, hbar⟩
  · refine iff_of_false ?_ hno
    rw [hv]
    decide

private theorem quarantined_iff : (perform_scan L D io sha256_hex).quarantined = true ↔
    (perform_scan L D io sha256_hex).verdict = AV_VERDICT_MALICIOUS := by
  have hconvict : true = true ↔ AV_VERDICT_MALICIOUS = AV_VERDICT_MALICIOUS := by decide
  have hclean : false = true ↔ AV_VERDICT_CLEAN = AV_VERDICT_MALICIOUS := by decide
  unfold perform_scan
  dsimp only
  repeat' split
  all_goals first | exact hconvict | exact hclean

private theorem perform_scan_hash :
    (perform_scan L D io sha256_hex).sha256_hex = scanHash io sha256_hex := by
  unfold perform_scan
  dsimp only
  repeat' split
  all_goals rfl

private theorem score_toInt :
    (Int32.ofInt (perform_scan L D io sha256_hex).score).toInt =
      (perform_scan L D io sha256_hex).score := by
  obtain ⟨hlo, hhi⟩ := perform_scan_score_bounds L D io sha256_hex
  exact Int32.toInt_ofInt_of_le hlo hhi

end Verdicts

/-- The record tells what the scan reports. -/
structure Reports (args : ScanArgs) (out : ScanResult) (c : RecordCall) : Prop where
  path : c.path = some args.path
  verdict : c.verdict.toNat = out.verdict
  rule_name : c.rule_name = some out.rule_name
  score : c.score.toInt = out.score
  sha256_hex : c.sha256_hex = some out.sha256_hex

/-- Once YARA has scanned the file to its end, the verdict is MALICIOUS exactly when some layer's
evidence meets its own bar, however the others ended; when it could not, the scan fails open. The
file is quarantined exactly with that verdict, and each scan leaves exactly one record. -/
theorem conviction_layering (L : HashLibrary) (D : Avd) (io : ScanIo) (args : ScanArgs)
    (sha256_hex : Bytes) (history : History) (calls : List RecordCall)
    (hhistory : Remembers history calls) :
    let s := scanFile L D io args sha256_hex history
    (YaraRan D io → (s.out.verdict = AV_VERDICT_MALICIOUS ↔ MeetsBar L D io)) ∧
      (¬ YaraRan D io → s.out.verdict = AV_VERDICT_CLEAN) ∧
      (s.out.verdict = AV_VERDICT_MALICIOUS ∨ s.out.verdict = AV_VERDICT_CLEAN) ∧
      s.quarantine_files = (if s.out.verdict = AV_VERDICT_MALICIOUS then
        [⟨args.path, s.out.rule_name, scanHash io sha256_hex⟩] else []) ∧
      ∃ c, Remembers s.history (calls ++ [c]) ∧ Reports args s.out c := by
  intro s
  have hcases := verdict_cases L D io sha256_hex
  refine ⟨fun hran => ?_, fun hran => ?_, ?_, ?_, ?_⟩
  · exact malicious_iff.trans (and_iff_right hran)
  · rcases hcases with ⟨hyes, -, -⟩ | ⟨-, hclean⟩
    · exact absurd hyes hran
    · exact hclean
  · rcases hcases with ⟨-, -, hv⟩ | ⟨-, hv⟩
    · exact Or.inl hv
    · exact Or.inr hv
  · have hcall : s.quarantine_files = if (perform_scan L D io sha256_hex).quarantined then
        [⟨args.path, s.out.rule_name, (perform_scan L D io sha256_hex).sha256_hex⟩] else [] := rfl
    have hverdict : s.out.verdict = (perform_scan L D io sha256_hex).verdict := rfl
    simp only [hcall, hverdict, perform_scan_hash, quarantined_iff]
  · refine ⟨recordCall args s.out, hhistory.record _, rfl, ?_, rfl, score_toInt, rfl⟩
    have hcall : (recordCall args s.out).verdict.toNat =
        (UInt8.ofNat (perform_scan L D io sha256_hex).verdict).toNat := rfl
    have hverdict : s.out.verdict = (perform_scan L D io sha256_hex).verdict := rfl
    rw [hcall, hverdict]
    rcases hcases with ⟨-, -, hv⟩ | ⟨-, hv⟩
    · rw [hv]
      rfl
    · rw [hv]
      rfl

/-- A library whose digest is the data, with no likeness at all. -/
private def bareLibrary : HashLibrary := ⟨id, fun _ _ => 0, fun _ _ => -1⟩

/-- One rule with an override has matched, and the fuzzy hash fails. -/
private def overrideScan (scan_ret : Int) : ScanIo where
  opened := some (1, 1)
  sha256 := none
  rewound := true
  rules_matched := [⟨lit "Entry", [(lit "override", .boolean true)]⟩]
  scan_ret := scan_ret
  fuzzy := ⟨some 1, false, true, true, [], fun _ => true, true⟩
  tlsh := ⟨some 1, true, .tooShort⟩
  sent := true

private theorem override_meets (scan_ret : Int) (D : Avd) :
    MeetsBar bareLibrary D (overrideScan scan_ret) :=
  Or.inl ⟨_, List.mem_cons_self, List.mem_cons_self⟩

theorem override_convicts : (scanFile bareLibrary ⟨true, [⟨[1], [2]⟩], []⟩
    (overrideScan ERROR_SUCCESS) ⟨[47], 1, true, some 0, 0⟩ [] History.boot).out.verdict =
      AV_VERDICT_MALICIOUS :=
  ((conviction_layering bareLibrary ⟨true, [⟨[1], [2]⟩], []⟩ (overrideScan ERROR_SUCCESS)
    ⟨[47], 1, true, some 0, 0⟩ [] History.boot [] remembers_boot).1 ⟨rfl, rfl, rfl⟩).mpr
      (override_meets _ _)

/-- After a timeout (the code 26 of YARA) the match of the override rule is dropped. -/
theorem timeout_drops_override : ¬ ∀ (L : HashLibrary) (D : Avd) (io : ScanIo)
    (sha256_hex : Bytes), MeetsBar L D io →
      (perform_scan L D io sha256_hex).verdict = AV_VERDICT_MALICIOUS := by
  intro h
  have hverdict := h bareLibrary ⟨true, [], []⟩ (overrideScan 26) [] (override_meets 26 _)
  revert hverdict
  decide

end KernelAv.Daemon.Convictions
