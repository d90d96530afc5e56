/- digest: The layers of a scan share one offset, and each rewinds it before it reads. -/

import KernelAv.Daemon.Sha256
import KernelAv.Daemon.Tlsh
import KernelAv.Daemon.Scan

set_option autoImplicit false
set_option relaxedAutoImplicit false

namespace KernelAv.Daemon.SharedOffset

open KernelAv.Lib.CText
open KernelAv.Kernel.Channel (AV_VERDICT_CLEAN AV_VERDICT_MALICIOUS AV_RULE_NAME_MAXLEN)
open KernelAv.Daemon.Sha256
open KernelAv.Daemon.Scan hiding ReadResult FuzzyIo TlshIo readLoop fuzzyHash check_fuzzy_corpus
  check_tlsh_corpus perform_scan
open KernelAv.Daemon.Tlsh (tlsh_ctx tlsh_init tlsh_update tlsh_final tlsh_to_hex TLSH_DIGEST_HEXLEN)

section Descriptions

/-- An open file description: what the file holds, and the offset, which every descriptor that
`dup` makes shares. -/
structure Description where
  content : Bytes
  offset : Nat

/-- What `lseek(fd, 0, SEEK_SET)` leaves. -/
def Description.rewind (d : Description) : Description := { d with offset := 0 }

/-- What one `read` gives: at most so many bytes and one more, or an error. A call that is
interrupted counts as an error where the source does not repeat it, and otherwise not at all. -/
inductive ReadEnd where
  | upTo (k : Nat)
  | error

inductive Layer where
  | sha256
  | yara
  | fuzzy
  | tlsh
  | copy
deriving DecidableEq

/-- One layer's way through the file: where it began, and the bytes that it processed, if it came
to the end of what it reads. -/
structure Pass where
  layer : Layer
  start : Nat
  taken : Option Bytes

/-- What a step of the scan gives, the description after it, and the passes made. -/
structure Stage (α : Type) where
  result : α
  after : Description
  passes : List Pass

variable {σ : Type}

/-- The loop of `read` and of what is done with the bytes, into a buffer of 64 kB and up to `max`
bytes where there is such a bound; the result is none after an error. Each round moves the offset
or ends the loop, so the length of the file bounds their number. -/
def drain (reads : Nat → ReadEnd) (max : Option Nat) (feed : σ → Bytes → Option σ) :
    Nat → Nat → Nat → σ → Description → Option σ × Description
  | 0, _, _, s, d => (some s, d)
  | fuel + 1, n, total, s, d =>
      if max.any (· ≤ total) then (some s, d)
      else
        match reads n with
        | .error => (none, d)
        | .upTo k =>
            let want := max.elim READ_BUFFER_SIZE fun m => min READ_BUFFER_SIZE (m - total)
            let buf := (d.content.drop d.offset).take (min (k + 1) want)
            if buf = [] then (some s, d)
            else
              let d := { d with offset := d.offset + buf.length }
              match feed s buf with
              | none => (none, d)
              | some s => drain reads max feed fuel (n + 1) (total + buf.length) s d

/-- The same, with a record of the bytes. -/
def recording (feed : σ → Bytes → Option σ) (s : σ × Bytes) (buf : Bytes) : Option (σ × Bytes) :=
  (feed s.1 buf).map fun next => (next, s.2 ++ buf)

/-- The loop from where the description stands, with the pass it makes. -/
def stream (layer : Layer) (reads : Nat → ReadEnd) (max : Option Nat)
    (feed : σ → Bytes → Option σ) (s : σ) (d : Description) : Stage (Option σ) :=
  let r := drain reads max (recording feed) (d.content.length + 1) 0 0 (s, []) d
  ⟨r.1.map Prod.fst, r.2, [⟨layer, d.offset, r.1.map Prod.snd⟩]⟩

end Descriptions

section Layers

/-- The outcomes of `dup`, `fdopen` and `fseek`, what the stream reads, where `fclose` leaves the
offset, and what was in the memory of `ctx`. -/
structure ShaIo where
  dup_ok : Bool
  fdopen_ok : Bool
  fseek_ok : Bool
  reads : Nat → ReadEnd
  left : Nat
  ctx : sha256_ctx

/-- `hexchars[b >> 4]` and `hexchars[b & 0xf]`. -/
def hexchars (b : UInt8) : Bytes :=
  [(lit "0123456789abcdef").getD (b >>> 4).toNat 0,
    (lit "0123456789abcdef").getD (b &&& 0xf).toNat 0]

/-- The digest of the bytes, which `fread` hands on in blocks of 64 kB. -/
def sha256_hex (ctx : sha256_ctx) (data : Bytes) : Option Bytes := do
  let fuel := data.length + 64
  let ctx ← sha256_updates fuel (sha256_init ctx) (data.toChunks READ_BUFFER_SIZE)
  let (_, digest) ← sha256_final fuel ctx
  return digest.flatMap hexchars

def sha256_fd (io : ShaIo) (d : Description) : Stage (Option Bytes) :=
  if !io.dup_ok || !io.fdopen_ok then ⟨none, d, []⟩
  else if !io.fseek_ok then ⟨none, { d with offset := io.left }, []⟩
  else
    let r := stream .sha256 io.reads none (fun data buf => some (data ++ buf)) [] d.rewind
    ⟨r.result.bind (sha256_hex io.ctx), { d with offset := io.left }, r.passes⟩

/-- The scan of the rules: the rules that match what stands behind the offset and the code it ends
with, and where it leaves the offset. -/
structure YaraIo where
  lseek_ok : Bool
  scan : Bytes → List Rule × Int
  left : Nat

def yr_rules_scan_fd (io : YaraIo) (d : Description) : Stage (List Rule × Int) :=
  ⟨io.scan (d.content.drop d.offset), { d with offset := io.left },
    [⟨.yara, d.offset, some (d.content.drop d.offset)⟩]⟩

structure FuzzyIo where
  st_size : Option Nat
  dup_ok : Bool
  lseek_ok : Bool
  new_ok : Bool
  reads : Nat → ReadEnd
  update_ok : Nat → Bool
  digest_ok : Bool

/-- The bytes that `fuzzy_update` was given; the first component counts its calls. -/
def fuzzyUpdate (update_ok : Nat → Bool) (s : Nat × Bytes) (buf : Bytes) : Option (Nat × Bytes) :=
  if update_ok s.1 then some (s.1 + 1, s.2 ++ buf) else none

def fuzzyHash (L : HashLibrary) (io : FuzzyIo) (d : Description) : Stage (Option Bytes) :=
  if !io.dup_ok || !io.lseek_ok then ⟨none, d, []⟩
  else if !io.new_ok then ⟨none, d.rewind, []⟩
  else
    let r := stream .fuzzy io.reads (some MAX_FUZZY_TLSH_FILE_SIZE) (fuzzyUpdate io.update_ok)
      (0, []) d.rewind
    ⟨r.result.bind fun s => if io.digest_ok then some (L.fuzzy_digest s.2) else none, r.after,
      r.passes⟩

def check_fuzzy_corpus (L : HashLibrary) (D : Avd) (io : FuzzyIo) (d : Description) :
    Stage CorpusCheck :=
  if D.fuzzy_corpus = [] then ⟨.noMatch, d, []⟩
  else if !fuzzy_tlsh_size_ok io.st_size then ⟨.noMatch, d, []⟩
  else
    let r := fuzzyHash L io d
    match r.result with
    | none => ⟨.failed, r.after, r.passes⟩
    | some file_hash =>
        let best := D.fuzzy_corpus.foldl (raiseBest L file_hash) (-1, [])
        if FUZZY_MATCH_THRESHOLD ≤ best.1 then
          ⟨.found (snprintf_s CORPUS_NAME_LEN best.2) best.1, r.after, r.passes⟩
        else ⟨.noMatch, r.after, r.passes⟩

structure TlshIo where
  st_size : Option Nat
  dup_ok : Bool
  lseek_ok : Bool
  reads : Nat → ReadEnd
  calloc_ok : Nat → Bool

def AV_TLSH_HASH_BUFSZ : Nat := 200

/-- The variables of the loop of `av_tlsh_hash_fd`, with the number of its rounds. -/
structure Hashing where
  calls : Nat
  ctx : tlsh_ctx
  any_data : Bool

def tlshUpdate (calloc_ok : Nat → Bool) (h : Hashing) (buf : Bytes) : Option Hashing :=
  some ⟨h.calls + 1, tlsh_update (calloc_ok h.calls) h.ctx buf, true⟩

/-- What `av_tlsh_hash_fd` does after its loop; `tlsh_final` always returns. -/
def tlshDigest (h : Hashing) : TlshHash :=
  if !h.any_data then .tooShort
  else
    match tlsh_final h.ctx with
    | none => .failed
    | some none => .tooShort
    | some (some digest) =>
        if AV_TLSH_HASH_BUFSZ ≤ TLSH_DIGEST_HEXLEN then .failed else .hashed (tlsh_to_hex digest)

def av_tlsh_hash_fd (io : TlshIo) (d : Description) : Stage TlshHash :=
  if !io.lseek_ok then ⟨.failed, d, []⟩
  else
    let r := stream .tlsh io.reads (some MAX_FUZZY_TLSH_FILE_SIZE) (tlshUpdate io.calloc_ok)
      ⟨0, tlsh_init, false⟩ d.rewind
    ⟨r.result.elim .failed tlshDigest, r.after, r.passes⟩

def check_tlsh_corpus (L : HashLibrary) (D : Avd) (io : TlshIo) (d : Description) :
    Stage CorpusCheck :=
  if D.tlsh_corpus = [] then ⟨.noMatch, d, []⟩
  else if !fuzzy_tlsh_size_ok io.st_size then ⟨.noMatch, d, []⟩
  else if !io.dup_ok then ⟨.failed, d, []⟩
  else
    let r := av_tlsh_hash_fd io d
    match r.result with
    | .tooShort => ⟨.noMatch, r.after, r.passes⟩
    | .failed => ⟨.failed, r.after, r.passes⟩
    | .hashed file_hash =>
        let best := D.tlsh_corpus.foldl (lowerBest L file_hash) (-1, [])
        if 0 ≤ best.1 ∧ best.1 ≤ TLSH_MATCH_MAX_DIFF then
          ⟨.found (snprintf_s CORPUS_NAME_LEN best.2) best.1, r.after, r.passes⟩
        else ⟨.noMatch, r.after, r.passes⟩

/-- The outcomes of the calls of `quarantine_file`: the directory and the name, the link, the calls
of the copy, and the change of its mode. -/
structure QuarantineIo where
  dest_ok : Bool
  linkat_ok : Bool
  lseek_ok : Bool
  open_ok : Bool
  reads : Nat → ReadEnd
  write_ok : Nat → Bool
  chmod_ok : Bool

/-- The bytes that were written to the copy; the first component counts the writes. -/
def copyWrite (write_ok : Nat → Bool) (s : Nat × Bytes) (buf : Bytes) : Option (Nat × Bytes) :=
  if write_ok s.1 then some (s.1 + 1, s.2 ++ buf) else none

/-- The content of the copy, if it is not removed again. -/
def copy_fd_to (io : QuarantineIo) (d : Description) : Stage (Option Bytes) :=
  if !io.lseek_ok then ⟨none, d, []⟩
  else if !io.open_ok then ⟨none, d.rewind, []⟩
  else
    let r := stream .copy io.reads none (copyWrite io.write_ok) (0, []) d.rewind
    ⟨r.result.map Prod.snd, r.after, r.passes⟩

/-- The content of the entry that is left in the quarantine; a link has that of the file. -/
def quarantine_file (io : QuarantineIo) (d : Description) : Stage (Option Bytes) :=
  let kept (content : Bytes) : Option Bytes := if io.chmod_ok then some content else none
  if !io.dest_ok then ⟨none, d, []⟩
  else if io.linkat_ok then ⟨kept d.content, d, []⟩
  else
    let r := copy_fd_to io d
    ⟨r.result.bind kept, r.after, r.passes⟩

end Layers

section Scans

/-- What the calls of one scan give. -/
structure ScanIo where
  sha256 : ShaIo
  yara : YaraIo
  fuzzy : FuzzyIo
  tlsh : TlshIo
  quarantine : QuarantineIo

/-- The result, the content that went into the quarantine, and the passes over the file. -/
structure Scanned where
  out : ScanResult
  copy : Option Bytes
  passes : List Pass

/-- The digest text of the scan. -/
def scanHash (io : ShaIo) (sha256_hex : Bytes) (d : Description) : Stage Bytes :=
  if sha256_hex ≠ [] then ⟨sha256_hex, d, []⟩
  else
    let r := sha256_fd io d
    ⟨r.result.getD [], r.after, r.passes⟩

/-- The exit of a scan that convicts, with the passes made so far. -/
def convict (io : QuarantineIo) (hash rule_name : Bytes) (score : Int) (d : Description)
    (passes : List Pass) : Scanned :=
  let q := quarantine_file io d
  ⟨⟨AV_VERDICT_MALICIOUS, rule_name, score, hash, true⟩, q.result, passes ++ q.passes⟩

def perform_scan (L : HashLibrary) (D : Avd) (io : ScanIo) (d : Description)
    (sha256_hex : Bytes) : Scanned :=
  let h := scanHash io.sha256 sha256_hex d
  let clean (score : Int) (passes : List Pass) : Scanned :=
    ⟨⟨AV_VERDICT_CLEAN, [], score, h.result, false⟩, none, passes⟩
  if !D.compiled_rules then clean 0 h.passes
  else if !io.yara.lseek_ok then clean 0 h.passes
  else
    let y := yr_rules_scan_fd io.yara h.after.rewind
    let passes := h.passes ++ y.passes
    if y.result.2 ≠ ERROR_SUCCESS then clean 0 passes
    else
      let ctx := y.result.1.foldl yara_callback YaraMatchCtx.start
      if yaraConvicts ctx then
        convict io.quarantine h.result (snprintf_s (AV_RULE_NAME_MAXLEN + 1) ctx.rule_name)
          ctx.score y.after passes
      else
        let score := if ctx.matched then ctx.score else 0
        let f := check_fuzzy_corpus L D io.fuzzy y.after
        let passes := passes ++ f.passes
        match f.result with
        | .found name fuzzy_score =>
            convict io.quarantine h.result
              (corpusRule (lit "Fuzzy:") name (max 0 (min 100 fuzzy_score))) score f.after passes
        | _ =>
            let t := check_tlsh_corpus L D io.tlsh f.after
            let passes := passes ++ t.passes
            match t.result with
            | .found name tlsh_diff =>
                convict io.quarantine h.result (corpusRule (lit "TLSH:") name tlsh_diff) score
                  t.after passes
            | _ => clean score passes

end Scans

section Draining

variable {σ : Type} {reads : Nat → ReadEnd} {max : Option Nat} {feed : σ → Bytes → Option σ}

/-- What a loop that is to take no more than `max` bytes takes of those before it. -/
def share (max : Option Nat) (total : Nat) (bytes : Bytes) : Bytes :=
  max.elim bytes fun m => bytes.take (m - total)

private theorem share_done {m total : Nat} {bytes : Bytes} (h : m ≤ total) :
    share (some m) total bytes = [] := by
  show bytes.take (m - total) = []
  rw [Nat.sub_eq_zero_of_le h, List.take_zero]

private theorem drop_taken (want : Nat) (bytes : Bytes) :
    bytes.drop (bytes.take want).length = bytes.drop want := by
  rw [List.length_take]
  rcases le_total want bytes.length with hle | hle
  · rw [Nat.min_eq_left hle]
  · rw [Nat.min_eq_right hle, List.drop_length, List.drop_of_length_le hle]

/-- A round takes its bytes from the front of the share. -/
private theorem share_step {total want : Nat} {bytes : Bytes}
    (hwant : ∀ m, max = some m → want ≤ m - total) :
    share max total bytes = bytes.take want ++
      share max (total + (bytes.take want).length) (bytes.drop (bytes.take want).length) := by
  rw [drop_taken]
  cases max with
  | none => exact (List.take_append_drop want bytes).symm
  | some m =>
    have hle := hwant m rfl
    show bytes.take (m - total) = bytes.take want ++ (bytes.drop want).take (m - (total + _))
    rw [List.length_take]
    rcases le_total want bytes.length with hlong | hshort
    · rw [Nat.min_eq_left hlong, ← List.take_add]
      congr 1
      omega
    · rw [List.take_of_length_le hshort, List.drop_of_length_le hshort, List.take_nil,
        List.append_nil, List.take_of_length_le (hshort.trans hle)]

/-- The loop keeps the content; if it ends without an error it has taken its whole share, and what
the rounds keep about the bytes taken so far holds of that share. -/
theorem drain_share (reads : Nat → ReadEnd) (max : Option Nat) (feed : σ → Bytes → Option σ)
    (P : Bytes → σ → Prop)
    (hfeed : ∀ seen s buf s', P seen s → feed s buf = some s' → P (seen ++ buf) s')
    {fuel : Nat} (n total : Nat) (s : σ) {d : Description} (seen : Bytes)
    (hfuel : d.content.length - d.offset < fuel) (hP : P seen s) :
    (drain reads max feed fuel n total s d).2.content = d.content ∧
      ∀ s', (drain reads max feed fuel n total s d).1 = some s' →
        (drain reads max feed fuel n total s d).2.offset =
            d.offset + (share max total (d.content.drop d.offset)).length ∧
          P (seen ++ share max total (d.content.drop d.offset)) s' := by
  induction fuel generalizing n total s d seen with
  | zero => exact absurd hfuel (Nat.not_lt_zero _)
  | succ fuel ih =>
    rw [drain]
    split
    · rename_i hdone
      obtain ⟨m, rfl, hm⟩ : ∃ m, max = some m ∧ m ≤ total := by
        cases max with
        | none => cases hdone
        | some m => exact ⟨m, rfl, by simpa using hdone⟩
      refine ⟨rfl, fun s' hs' => ?_⟩
      obtain rfl := Option.some.inj hs'
      rw [share_done hm]
      exact ⟨rfl, by rw [List.append_nil]; exact hP⟩
    · rename_i hmore
      cases hread : reads n with
      | error => exact ⟨rfl, fun s' hs' => by cases hs'⟩
      | upTo k =>
        dsimp only
        set want := min (k + 1)
          (max.elim READ_BUFFER_SIZE fun m => min READ_BUFFER_SIZE (m - total)) with hwant
        have hpos : 0 < want := by
          cases max with
          | none => exact lt_min (Nat.succ_pos k) (show 0 < READ_BUFFER_SIZE by decide)
          | some m =>
            have hlt : total < m := by simpa using hmore
            exact lt_min (Nat.succ_pos k)
              (lt_min (show 0 < READ_BUFFER_SIZE by decide) (Nat.sub_pos_of_lt hlt))
        have hbound : ∀ m, max = some m → want ≤ m - total := by
          rintro m rfl
          exact (min_le_right _ _).trans (min_le_right _ _)
        have hstep : share max total (d.content.drop d.offset) = _ := share_step hbound
        split
        · rename_i hempty
          have hnil : d.content.drop d.offset = [] := by
            rcases List.take_eq_nil_iff.mp hempty with hzero | hnil
            · exact absurd hzero hpos.ne'
            · exact hnil
          refine ⟨rfl, fun s' hs' => ?_⟩
          obtain rfl := Option.some.inj hs'
          have hshare : share max total ([] : Bytes) = [] := by
            cases max with
            | none => rfl
            | some m => exact List.take_nil
          rw [hnil, hshare]
          exact ⟨rfl, by rw [List.append_nil]; exact hP⟩
        · rename_i hne
          set buf := (d.content.drop d.offset).take want with hbuf
          have hlen : 0 < buf.length := List.length_pos_of_ne_nil hne
          have hwithin : buf.length ≤ d.content.length - d.offset := by
            rw [hbuf, List.length_take, List.length_drop]
            exact min_le_right _ _
          cases hfed : feed s buf with
          | none => exact ⟨rfl, fun s' hs' => by cases hs'⟩
          | some s₁ =>
            dsimp only
            have hnext : (⟨d.content, d.offset + buf.length⟩ : Description).content.length -
                (⟨d.content, d.offset + buf.length⟩ : Description).offset < fuel := by
              dsimp only
              omega
            obtain ⟨hcontent, hrest⟩ := ih (n + 1) (total + buf.length) s₁ (seen ++ buf) hnext
              (hfeed seen s buf s₁ hP hfed)
            refine ⟨hcontent, fun s' hs' => ?_⟩
            obtain ⟨hoffset, hkept⟩ := hrest s' hs'
            rw [← List.drop_drop] at hoffset hkept
            rw [hstep, List.length_append, ← List.append_assoc]
            exact ⟨hoffset.trans (Nat.add_assoc _ _ _), hkept⟩

/-- Without errors, of the reads and of what is done with the bytes, the loop ends well. -/
theorem drain_finishes (hreads : ∀ n, reads n ≠ .error)
    (hfeed : ∀ s buf, (feed s buf).isSome = true) (fuel n total : Nat) (s : σ) (d : Description) :
    (drain reads max feed fuel n total s d).1.isSome = true := by
  induction fuel generalizing n total s d with
  | zero => rfl
  | succ fuel ih =>
    rw [drain]
    split
    · rfl
    · cases hread : reads n with
      | error => exact absurd hread (hreads n)
      | upTo k =>
        dsimp only
        split
        · rfl
        · split
          · rename_i hfed
            have hsome := hfeed s ((d.content.drop d.offset).take (min (k + 1)
              (max.elim READ_BUFFER_SIZE fun m => min READ_BUFFER_SIZE (m - total))))
            rw [hfed] at hsome
            cases hsome
          · exact ih _ _ _ _

end Draining

section Passes

/-- What a layer is to process: the corpus checks have a cap. -/
def whole : Layer → Bytes → Bytes
  | .fuzzy, content => content.take MAX_FUZZY_TLSH_FILE_SIZE
  | .tlsh, content => content.take MAX_FUZZY_TLSH_FILE_SIZE
  | _, content => content

/-- The layer begins at byte 0, and has processed all that it is to unless something stops it. -/
structure Whole (stops : Layer → Prop) (content : Bytes) (p : Pass) : Prop where
  start : p.start = 0
  taken : p.taken = some (whole p.layer content) ∨ p.taken = none ∧ stops p.layer

/-- A stage leaves the content alone, and its passes are whole. -/
structure Sound {α : Type} (stops : Layer → Prop) (content : Bytes) (r : Stage α) : Prop where
  same : r.after.content = content
  passes : ∀ p ∈ r.passes, Whole stops content p

variable {α σ : Type} {d : Description} {stops : Layer → Prop}

private theorem sound_idle (a : α) : Sound stops d.content (⟨a, d, []⟩ : Stage α) :=
  ⟨rfl, fun _ hp => absurd hp List.not_mem_nil⟩

private theorem stream_sound (layer : Layer) (reads : Nat → ReadEnd) (max : Option Nat)
    (feed : σ → Bytes → Option σ) (s : σ) (hwhole : share max 0 d.content = whole layer d.content)
    (hread : ∀ n, reads n = .error → stops layer)
    (hfed : ∀ s buf, feed s buf = none → stops layer) :
    Sound stops d.content (stream layer reads max feed s d.rewind) := by
  have hfuel : d.rewind.content.length - d.rewind.offset < d.content.length + 1 := by
    show d.content.length - 0 < d.content.length + 1
    omega
  have hrecord : ∀ (seen : Bytes) (s : σ × Bytes) buf s', s.2 = seen →
      recording feed s buf = some s' → s'.2 = seen ++ buf := by
    rintro seen s buf s' rfl hs'
    obtain ⟨next, -, rfl⟩ := Option.map_eq_some_iff.mp hs'
    rfl
  obtain ⟨hcontent, hend⟩ := drain_share reads max (recording feed) (fun seen s => s.2 = seen)
    hrecord 0 0 (s, []) [] hfuel rfl
  refine ⟨hcontent, fun p hp => ?_⟩
  obtain rfl := List.mem_singleton.mp hp
  refine ⟨rfl, ?_⟩
  cases hdrain : (drain reads max (recording feed) (d.content.length + 1) 0 0 (s, [])
      d.rewind).1 with
  | some s' =>
    left
    obtain ⟨-, htaken⟩ := hend s' hdrain
    have hall : s'.2 = whole layer d.content := htaken.trans hwhole
    show Option.map Prod.snd (drain reads max (recording feed) (d.content.length + 1) 0 0 (s, [])
      d.rewind).1 = _
    rw [hdrain, ← hall]
    rfl
  | none =>
    right
    refine ⟨congrArg (Option.map Prod.snd) hdrain, ?_⟩
    by_contra hstops
    have hfeed : ∀ (s : σ × Bytes) buf, (recording feed s buf).isSome = true := by
      intro s buf
      rw [recording, Option.isSome_map, Option.isSome_iff_ne_none]
      exact fun hnone => hstops (hfed s.1 buf hnone)
    have hfinishes : (drain reads max (recording feed) (d.content.length + 1) 0 0 (s, [])
        d.rewind).1.isSome = true :=
      drain_finishes (fun n herror => hstops (hread n herror)) hfeed _ _ _ _ _
    rw [hdrain] at hfinishes
    cases hfinishes

theorem sha256_fd_sound (io : ShaIo) (hread : ∀ n, io.reads n = .error → stops .sha256) :
    Sound stops d.content (sha256_fd io d) := by
  have hpass : Sound stops d.content (stream .sha256 io.reads none
      (fun data buf => some (data ++ buf)) [] d.rewind) :=
    stream_sound _ _ _ _ _ rfl hread fun s buf hnone => by cases hnone
  unfold sha256_fd
  split
  · exact sound_idle _
  · split
    · exact ⟨rfl, fun _ hp => absurd hp List.not_mem_nil⟩
    · exact ⟨rfl, hpass.passes⟩

theorem fuzzyHash_sound (L : HashLibrary) (io : FuzzyIo)
    (hread : ∀ n, io.reads n = .error → stops .fuzzy)
    (hupdate : ∀ n, io.update_ok n = false → stops .fuzzy) :
    Sound stops d.content (fuzzyHash L io d) := by
  have hpass : Sound stops d.content (stream .fuzzy io.reads (some MAX_FUZZY_TLSH_FILE_SIZE)
      (fuzzyUpdate io.update_ok) (0, []) d.rewind) := by
    refine stream_sound _ _ _ _ _ rfl hread fun s buf hnone => ?_
    unfold fuzzyUpdate at hnone
    split at hnone
    · cases hnone
    · rename_i hfail
      exact hupdate s.1 (by simpa using hfail)
  unfold fuzzyHash
  split
  · exact sound_idle _
  · split
    · exact ⟨rfl, fun _ hp => absurd hp List.not_mem_nil⟩
    · exact ⟨hpass.same, hpass.passes⟩

theorem check_fuzzy_corpus_sound (L : HashLibrary) (D : Avd) (io : FuzzyIo)
    (hread : ∀ n, io.reads n = .error → stops .fuzzy)
    (hupdate : ∀ n, io.update_ok n = false → stops .fuzzy) :
    Sound stops d.content (check_fuzzy_corpus L D io d) := by
  have hhash := fuzzyHash_sound (d := d) L io hread hupdate
  unfold check_fuzzy_corpus
  split
  · exact sound_idle _
  split
  · exact sound_idle _
  dsimp only
  split
  · exact ⟨hhash.same, hhash.passes⟩
  · split
    · exact ⟨hhash.same, hhash.passes⟩
    · exact ⟨hhash.same, hhash.passes⟩

theorem av_tlsh_hash_fd_sound (io : TlshIo) (hread : ∀ n, io.reads n = .error → stops .tlsh) :
    Sound stops d.content (av_tlsh_hash_fd io d) := by
  have hpass : Sound stops d.content (stream .tlsh io.reads (some MAX_FUZZY_TLSH_FILE_SIZE)
      (tlshUpdate io.calloc_ok) ⟨0, tlsh_init, false⟩ d.rewind) :=
    stream_sound _ _ _ _ _ rfl hread fun s buf hnone => by cases hnone
  unfold av_tlsh_hash_fd
  split
  · exact sound_idle _
  · exact ⟨hpass.same, hpass.passes⟩

theorem check_tlsh_corpus_sound (L : HashLibrary) (D : Avd) (io : TlshIo)
    (hread : ∀ n, io.reads n = .error → stops .tlsh) :
    Sound stops d.content (check_tlsh_corpus L D io d) := by
  have hhash := av_tlsh_hash_fd_sound (d := d) io hread
  unfold check_tlsh_corpus
  split
  · exact sound_idle _
  split
  · exact sound_idle _
  split
  · exact sound_idle _
  dsimp only
  split
  · exact ⟨hhash.same, hhash.passes⟩
  · exact ⟨hhash.same, hhash.passes⟩
  · split
    · exact ⟨hhash.same, hhash.passes⟩
    · exact ⟨hhash.same, hhash.passes⟩

private theorem copyWrite_some {write_ok : Nat → Bool} {s s' : Nat × Bytes} {buf : Bytes}
    (h : copyWrite write_ok s buf = some s') : s'.2 = s.2 ++ buf := by
  unfold copyWrite at h
  split at h
  · obtain rfl := Option.some.inj h
    rfl
  · cases h

theorem copy_fd_to_sound (io : QuarantineIo) (hread : ∀ n, io.reads n = .error → stops .copy)
    (hwrite : ∀ n, io.write_ok n = false → stops .copy) :
    Sound stops d.content (copy_fd_to io d) := by
  have hpass : Sound stops d.content (stream .copy io.reads none (copyWrite io.write_ok) (0, [])
      d.rewind) := by
    refine stream_sound _ _ _ _ _ rfl hread fun s buf hnone => ?_
    unfold copyWrite at hnone
    split at hnone
    · cases hnone
    · rename_i hfail
      exact hwrite s.1 (by simpa using hfail)
  unfold copy_fd_to
  split
  · exact sound_idle _
  split
  · exact ⟨rfl, fun _ hp => absurd hp List.not_mem_nil⟩
  · exact ⟨hpass.same, hpass.passes⟩

/-- A copy that is not removed again has the content of the file. -/
theorem copy_fd_to_whole (io : QuarantineIo) {c : Bytes} (hc : (copy_fd_to io d).result = some c) :
    c = d.content := by
  have hfuel : d.rewind.content.length - d.rewind.offset < d.content.length + 1 := by
    show d.content.length - 0 < d.content.length + 1
    omega
  have hrecord : ∀ (seen : Bytes) (s : (Nat × Bytes) × Bytes) buf s', s.1.2 = seen →
      recording (copyWrite io.write_ok) s buf = some s' → s'.1.2 = seen ++ buf := by
    rintro seen s buf s' rfl hs'
    obtain ⟨next, hwrite, rfl⟩ := Option.map_eq_some_iff.mp hs'
    exact copyWrite_some hwrite
  obtain ⟨-, hend⟩ := drain_share io.reads none (recording (copyWrite io.write_ok))
    (fun seen s => s.1.2 = seen) hrecord 0 0 ((0, []), []) [] hfuel rfl
  unfold copy_fd_to at hc
  split at hc
  · cases hc
  split at hc
  · cases hc
  obtain ⟨s', hs', rfl⟩ := Option.map_eq_some_iff.mp hc
  obtain ⟨s'', hs'', rfl⟩ := Option.map_eq_some_iff.mp hs'
  obtain ⟨-, hwritten⟩ := hend s'' hs''
  exact hwritten

theorem quarantine_file_sound (io : QuarantineIo) (hread : ∀ n, io.reads n = .error → stops .copy)
    (hwrite : ∀ n, io.write_ok n = false → stops .copy) :
    Sound stops d.content (quarantine_file io d) := by
  have hcopy := copy_fd_to_sound (d := d) io hread hwrite
  unfold quarantine_file
  dsimp only
  split
  · exact sound_idle _
  split
  · exact sound_idle _
  · exact ⟨hcopy.same, hcopy.passes⟩

theorem quarantine_file_whole (io : QuarantineIo) {c : Bytes}
    (hc : (quarantine_file io d).result = some c) : c = d.content := by
  unfold quarantine_file at hc
  dsimp only at hc
  split at hc
  · cases hc
  split at hc
  · split at hc
    · exact (Option.some.inj hc).symm
    · cases hc
  · obtain ⟨c', hc', hkept⟩ := Option.bind_eq_some_iff.mp hc
    split at hkept
    · obtain rfl := Option.some.inj hkept
      exact copy_fd_to_whole io hc'
    · cases hkept

end Passes

section Scans

variable (L : HashLibrary) (D : Avd) (io : ScanIo)

def ScanIo.reads : Layer → Nat → ReadEnd
  | .sha256 => io.sha256.reads
  | .yara => fun _ => .upTo 0
  | .fuzzy => io.fuzzy.reads
  | .tlsh => io.tlsh.reads
  | .copy => io.quarantine.reads

/-- What can stop a layer before its end: a read that fails, and for two of them what is done with
the bytes. -/
def Stops (layer : Layer) : Prop :=
  (∃ n, io.reads layer n = .error) ∨ (layer = .fuzzy ∧ ∃ n, io.fuzzy.update_ok n = false) ∨
    (layer = .copy ∧ ∃ n, io.quarantine.write_ok n = false)

variable {io}

private theorem whole_append {stops : Layer → Prop} {content : Bytes} {ps qs : List Pass}
    (hps : ∀ p ∈ ps, Whole stops content p) (hqs : ∀ p ∈ qs, Whole stops content p) :
    ∀ p ∈ ps ++ qs, Whole stops content p := by
  intro p hp
  rcases List.mem_append.mp hp with hp | hp
  · exact hps p hp
  · exact hqs p hp

private theorem scanHash_sound (sha256_hex : Bytes) (d : Description) :
    Sound (Stops io) d.content (scanHash io.sha256 sha256_hex d) := by
  have hsha : Sound (Stops io) d.content (sha256_fd io.sha256 d) :=
    sha256_fd_sound io.sha256 fun n herror => .inl ⟨n, herror⟩
  unfold scanHash
  split
  · exact sound_idle _
  · exact ⟨hsha.same, hsha.passes⟩

/-- The layers of a scan went through the whole file, and so did what is in the quarantine. -/
structure Thorough (stops : Layer → Prop) (content : Bytes) (r : Scanned) : Prop where
  copy : ∀ c, r.copy = some c → c = content
  passes : ∀ p ∈ r.passes, Whole stops content p

private theorem clean_thorough {stops : Layer → Prop} {content : Bytes} {passes : List Pass}
    (out : ScanResult) (hpasses : ∀ p ∈ passes, Whole stops content p) :
    Thorough stops content ⟨out, none, passes⟩ :=
  ⟨fun c hc => (by cases hc), hpasses⟩

private theorem convict_thorough (hash rule_name : Bytes) (score : Int) {d : Description}
    {content : Bytes} (hd : d.content = content) {passes : List Pass}
    (hpasses : ∀ p ∈ passes, Whole (Stops io) content p) :
    Thorough (Stops io) content (convict io.quarantine hash rule_name score d passes) := by
  have hsound : Sound (Stops io) d.content (quarantine_file io.quarantine d) :=
    quarantine_file_sound io.quarantine (fun n herror => .inl ⟨n, herror⟩) fun n hfail =>
      .inr (.inr ⟨rfl, n, hfail⟩)
  rw [hd] at hsound
  refine ⟨fun c hc => ?_, whole_append hpasses hsound.passes⟩
  rw [← hd]
  exact quarantine_file_whole io.quarantine hc

/-- Where the offset stands before a scan makes no difference once it is rewound. -/
private theorem scanHash_offset (io : ShaIo) (sha256_hex content : Bytes) (o₁ o₂ : Nat) :
    (scanHash io sha256_hex ⟨content, o₁⟩).result = (scanHash io sha256_hex ⟨content, o₂⟩).result ∧
      (scanHash io sha256_hex ⟨content, o₁⟩).passes =
        (scanHash io sha256_hex ⟨content, o₂⟩).passes ∧
      (scanHash io sha256_hex ⟨content, o₁⟩).after.rewind =
        (scanHash io sha256_hex ⟨content, o₂⟩).after.rewind := by
  unfold scanHash
  split
  · exact ⟨rfl, rfl, rfl⟩
  · unfold sha256_fd
    cases io.dup_ok with
    | false => exact ⟨rfl, rfl, rfl⟩
    | true =>
      cases io.fdopen_ok with
      | false => exact ⟨rfl, rfl, rfl⟩
      | true =>
        cases io.fseek_ok with
        | false => exact ⟨rfl, rfl, rfl⟩
        | true => exact ⟨rfl, rfl, rfl⟩

private theorem scan_offset (sha256_hex content : Bytes) (o₁ o₂ : Nat) :
    perform_scan L D io ⟨content, o₁⟩ sha256_hex =
      perform_scan L D io ⟨content, o₂⟩ sha256_hex := by
  obtain ⟨hresult, hpasses, hrewound⟩ := scanHash_offset io.sha256 sha256_hex content o₁ o₂
  unfold perform_scan
  dsimp only
  rw [hresult, hpasses, hrewound]

private theorem yara_sound {content : Bytes} (y : YaraIo) {d : Description}
    (h : d.content = content) : Sound (Stops io) content (yr_rules_scan_fd y d.rewind) := by
  refine ⟨h, fun p hp => ?_⟩
  obtain rfl := List.mem_singleton.mp hp
  exact ⟨rfl, .inl (congrArg some h)⟩

private theorem scan_thorough (sha256_hex : Bytes) (d : Description) :
    Thorough (Stops io) d.content (perform_scan L D io d sha256_hex) := by
  have hhash : Sound (Stops io) d.content (scanHash io.sha256 sha256_hex d) :=
    scanHash_sound sha256_hex d
  have hyara : Sound (Stops io) d.content
      (yr_rules_scan_fd io.yara (scanHash io.sha256 sha256_hex d).after.rewind) :=
    yara_sound io.yara hhash.same
  have hscanned := whole_append hhash.passes hyara.passes
  unfold perform_scan
  dsimp only
  split
  · exact clean_thorough _ hhash.passes
  split
  · exact clean_thorough _ hhash.passes
  split
  · exact clean_thorough _ hscanned
  generalize yr_rules_scan_fd io.yara (scanHash io.sha256 sha256_hex d).after.rewind = y
    at hyara hscanned
  split
  · exact convict_thorough _ _ _ hyara.same hscanned
  have hfuzzy : Sound (Stops io) y.after.content (check_fuzzy_corpus L D io.fuzzy y.after) :=
    check_fuzzy_corpus_sound L D io.fuzzy (fun n herror => .inl ⟨n, herror⟩) fun n hfail =>
      .inr (.inl ⟨rfl, n, hfail⟩)
  rw [hyara.same] at hfuzzy
  have hchecked := whole_append hscanned hfuzzy.passes
  split
  · exact convict_thorough _ _ _ hfuzzy.same hchecked
  set f := check_fuzzy_corpus L D io.fuzzy y.after with hf
  have htlsh : Sound (Stops io) f.after.content (check_tlsh_corpus L D io.tlsh f.after) :=
    check_tlsh_corpus_sound L D io.tlsh fun n herror => .inl ⟨n, herror⟩
  rw [hfuzzy.same] at htlsh
  have hall := whole_append hchecked htlsh.passes
  split
  · exact convict_thorough _ _ _ htlsh.same hall
  · exact clean_thorough _ hall

/-- A scan does not depend on where the offset stands before it: its layers, and the copy into the
quarantine, go through the file from byte 0, whatever the layers before them left. -/
theorem scan_reads_from_start (content sha256_hex : Bytes) (o₁ o₂ : Nat) :
    perform_scan L D io ⟨content, o₁⟩ sha256_hex = perform_scan L D io ⟨content, o₂⟩ sha256_hex ∧
      Thorough (Stops io) content (perform_scan L D io ⟨content, o₁⟩ sha256_hex) :=
  ⟨scan_offset L D sha256_hex content o₁ o₂, scan_thorough L D sha256_hex ⟨content, o₁⟩⟩

end Scans

end KernelAv.Daemon.SharedOffset
