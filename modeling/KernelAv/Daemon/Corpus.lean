/- digest: A corpus is loaded line by line, but for lines that its buffer of 512 bytes cuts. -/

import KernelAv.Daemon.Scan
import KernelAv.Daemon.Tlsh
import KernelAv.Lib.Buffers

set_option autoImplicit false
set_option relaxedAutoImplicit false

namespace KernelAv.Daemon.Corpus

open KernelAv.Lib.CText
open KernelAv.Lib.Lines (nl fgetsAll splitOn_clean)
open KernelAv.Lib.Buffers
open KernelAv.Daemon.Scan (CorpusEntry)
open KernelAv.Daemon.Tlsh (TLSH_DIGEST_HEXLEN)

def cr : UInt8 := 13
def comma : UInt8 := 44
def hash : UInt8 := 35

section Loading

/-- The two parts of a line, or `none` for a line to skip. -/
def parse_corpus_line (line : Bytes) : Option (Bytes × Bytes) :=
  let line := (cstr line).takeWhile fun b => b ≠ cr && b ≠ nl
  if line.head? = some hash ∨ line = [] then none
  else if comma ∉ line then none
  else
    let hash_part := line.takeWhile (· ≠ comma)
    let name_part := (line.dropWhile (· ≠ comma)).drop 1
    if hash_part = [] ∨ name_part = [] then none else some (hash_part, name_part)

def AV_TLSH_HASH_BUFSZ : Nat := 200

def av_tlsh_hash_maxlen : Nat := TLSH_DIGEST_HEXLEN

/-- The size of the field `name` of an entry. -/
def NAME_SIZE : Nat := 128

/-- The size of the buffer `line`. -/
def LINE_SIZE : Nat := 512

/-- An entry with fields of these sizes; each part is cut to its field. -/
def storeEntry (hash_size : Nat) (parts : Bytes × Bytes) : CorpusEntry :=
  ⟨snprintf_s hash_size (parts.1.take (hash_size - 1)),
    snprintf_s NAME_SIZE (parts.2.take (NAME_SIZE - 1))⟩

/-- What the loop of `load_fuzzy_corpus` makes of a buffer. -/
def fuzzyEntry (FUZZY_MAX_RESULT : Nat) (line : Bytes) : Option CorpusEntry :=
  (parse_corpus_line line).map (storeEntry FUZZY_MAX_RESULT)

def tlshEntry (line : Bytes) : Option CorpusEntry :=
  match parse_corpus_line line with
  | none => none
  | some (hash_part, name_part) =>
      if av_tlsh_hash_maxlen < hash_part.length then none
      else some (storeEntry AV_TLSH_HASH_BUFSZ (hash_part, name_part))

/-- What the system gives a load: the content if the file could be opened, and the outcomes of
`malloc`, and of `realloc` by the capacity that is asked for. -/
structure CorpusIo where
  content : Option Bytes
  malloc_ok : Bool
  realloc_ok : Nat → Bool

/-- The loop over the buffers, with the entries and the capacity so far. -/
def corpusLoop (realloc_ok : Nat → Bool) (entry : Bytes → Option CorpusEntry) :
    List Bytes → List CorpusEntry → Nat → Int × List CorpusEntry
  | [], corpus, _ => (0, corpus)
  | line :: lines, corpus, capacity =>
      match entry line with
      | none => corpusLoop realloc_ok entry lines corpus capacity
      | some e =>
          if corpus.length = capacity then
            if realloc_ok (capacity * 2) then
              corpusLoop realloc_ok entry lines (corpus ++ [e]) (capacity * 2)
            else (-1, corpus)
          else corpusLoop realloc_ok entry lines (corpus ++ [e]) capacity

/-- From `fopen` on, in both functions: the result and the corpus. -/
def loadCorpus (io : CorpusIo) (entry : Bytes → Option CorpusEntry) : Int × List CorpusEntry :=
  match io.content with
  | none => (0, [])
  | some file =>
      if !io.malloc_ok then (-1, [])
      else corpusLoop io.realloc_ok entry (fgetsAll LINE_SIZE file) [] 16

/-- The size of the hash field is a constant of libfuzzy. -/
def load_fuzzy_corpus (FUZZY_MAX_RESULT : Nat) (io : CorpusIo) : Int × List CorpusEntry :=
  loadCorpus io (fuzzyEntry FUZZY_MAX_RESULT)

def load_tlsh_corpus (io : CorpusIo) : Int × List CorpusEntry :=
  if AV_TLSH_HASH_BUFSZ < av_tlsh_hash_maxlen + 1 then (-1, []) else loadCorpus io tlshEntry

end Loading

section Lines

/-- The text of a line, which a carriage return ends. -/
def lineText (l : Bytes) : Bytes := l.takeWhile (· ≠ cr)

/-- What stands before the first comma of a line. -/
def hashPart (l : Bytes) : Bytes := (lineText l).takeWhile (· ≠ comma)

/-- What stands behind the first comma of a line. -/
def namePart (l : Bytes) : Bytes := ((lineText l).dropWhile (· ≠ comma)).drop 1

/-- A line that is not empty and no comment, with something on both sides of its first comma. -/
structure EntryLine (l : Bytes) : Prop where
  not_empty : lineText l ≠ []
  no_comment : (lineText l).head? ≠ some hash
  hash_part : hashPart l ≠ []
  name_part : namePart l ≠ []

instance (l : Bytes) : Decidable (EntryLine l) :=
  decidable_of_iff (lineText l ≠ [] ∧ (lineText l).head? ≠ some hash ∧ hashPart l ≠ [] ∧
    namePart l ≠ []) ⟨fun h => ⟨h.1, h.2.1, h.2.2.1, h.2.2.2⟩, fun h => ⟨h.1, h.2, h.3, h.4⟩⟩

/-- A line for the TLSH corpus, whose hash is no longer than a digest. -/
def TlshLine (l : Bytes) : Prop := EntryLine l ∧ (hashPart l).length ≤ TLSH_DIGEST_HEXLEN

instance (l : Bytes) : Decidable (TlshLine l) := inferInstanceAs (Decidable (_ ∧ _))

/-- The entry of a line: its own hash and name, each cut to its field. -/
def lineEntry (hash_size : Nat) (l : Bytes) : CorpusEntry :=
  ⟨(hashPart l).take (hash_size - 1), (namePart l).take (NAME_SIZE - 1)⟩

def fuzzyLine (FUZZY_MAX_RESULT : Nat) (l : Bytes) : Option CorpusEntry :=
  if EntryLine l then some (lineEntry FUZZY_MAX_RESULT l) else none

def tlshLine (l : Bytes) : Option CorpusEntry :=
  if TlshLine l then some (lineEntry AV_TLSH_HASH_BUFSZ l) else none

/-- The entries that buffers give, each with the place in the file where its buffer begins. -/
def fromBuffers (entry : Bytes → Option CorpusEntry) (file : Bytes) : List (Nat × CorpusEntry) :=
  readings entry (places (LINE_SIZE - 1) 0 file)

/-- The entries that lines give, each with the place in the file where its line begins. -/
def fromLines (whole : Bytes → Option CorpusEntry) (file : Bytes) : List (Nat × CorpusEntry) :=
  readings whole (starts 0 (file.splitOn nl))

/-- The load succeeds, and its entries are those of the lines: one for each line that gives one,
in their order, with the hash and the name of the line, and read where the line begins. -/
def ByLines (entry whole : Bytes → Option CorpusEntry) (file : Bytes)
    (loaded : Int × List CorpusEntry) : Prop :=
  loaded = (0, (fromBuffers entry file).map Prod.snd) ∧
    fromBuffers entry file = fromLines whole file

/-- The bytes of a line that its buffer number `k` begins with. -/
def piece (l : Bytes) (k : Nat) : Bytes := (l.drop ((LINE_SIZE - 1) * k)).take (LINE_SIZE - 1)

/-- The first buffer of the line holds all of its text, or its comma and as much of its name as an
entry does. -/
def FirstHolds (l : Bytes) : Prop :=
  (lineText l).length ≤ LINE_SIZE - 1 ∨ (hashPart l).length + NAME_SIZE ≤ LINE_SIZE - 1

end Lines

section Parsing

variable {l : Bytes} {n : Nat}

private theorem takeWhile_clean {p q : UInt8 → Bool} (h : ∀ b ∈ l, p b = q b) :
    l.takeWhile p = l.takeWhile q := by
  induction l with
  | nil => rfl
  | cons b l ih =>
    obtain ⟨hb, hl⟩ := List.forall_mem_cons.mp h
    rw [List.takeWhile_cons, List.takeWhile_cons, hb, ih hl]

/-- A line without NUL and newline is cut at its first carriage return. -/
private theorem cut_line (hnul : (0 : UInt8) ∉ l) (hnl : nl ∉ l) :
    (cstr l).takeWhile (fun b => b ≠ cr && b ≠ nl) = lineText l := by
  rw [cstr_eq_self hnul]
  refine takeWhile_clean fun b hb => ?_
  have hne : b ≠ nl := fun heq => hnl (heq ▸ hb)
  simp [hne]

private theorem comma_of_name (h : namePart l ≠ []) : comma ∈ lineText l := by
  by_contra hcomma
  have hall : ∀ b ∈ lineText l, decide (b ≠ comma) = true := by
    intro b hb
    have hne : b ≠ comma := fun heq => hcomma (heq ▸ hb)
    simpa using hne
  refine h ?_
  rw [namePart, List.dropWhile_eq_nil_iff.mpr hall, List.drop_nil]

private theorem parse_line (hnul : (0 : UInt8) ∉ l) (hnl : nl ∉ l) :
    parse_corpus_line l = if EntryLine l then some (hashPart l, namePart l) else none := by
  unfold parse_corpus_line
  dsimp only
  rw [cut_line hnul hnl]
  by_cases hentry : EntryLine l
  · have hparts : ¬ (hashPart l = [] ∨ namePart l = []) :=
      not_or.mpr ⟨hentry.hash_part, hentry.name_part⟩
    rw [if_pos hentry, if_neg (not_or.mpr ⟨hentry.no_comment, hentry.not_empty⟩),
      if_neg (not_not.mpr (comma_of_name hentry.name_part))]
    exact if_neg hparts
  · rw [if_neg hentry]
    split
    · rfl
    rename_i hskip
    split
    · rfl
    split
    · rfl
    · rename_i hparts
      obtain ⟨hcomment, hempty⟩ := not_or.mp hskip
      obtain ⟨hhash, hname⟩ := not_or.mp hparts
      exact absurd ⟨hempty, hcomment, hhash, hname⟩ hentry

private theorem takeWhile_concat (p : UInt8 → Bool) (u : Bytes) (b : UInt8) :
    (u ++ [b]).takeWhile p = u.takeWhile p ∨
      (u ++ [b]).takeWhile p = u.takeWhile p ++ [b] ∧ p b = true := by
  induction u with
  | nil =>
    rw [List.nil_append, List.takeWhile_cons]
    cases hb : p b with
    | false => exact .inl rfl
    | true => exact .inr ⟨rfl, rfl⟩
  | cons a u ih =>
    rw [List.cons_append, List.takeWhile_cons, List.takeWhile_cons]
    cases p a with
    | false => exact .inl rfl
    | true =>
      rcases ih with h | ⟨h, hb⟩
      · exact .inl (congrArg (a :: ·) h)
      · exact .inr ⟨congrArg (a :: ·) h, hb⟩

/-- What a newline at the end of a buffer adds is cut off again. -/
private theorem parse_newline (u : Bytes) :
    parse_corpus_line (u ++ [nl]) = parse_corpus_line u := by
  have hstop : ∀ w : Bytes, (w ++ [nl]).takeWhile (fun b => b ≠ cr && b ≠ nl) =
      w.takeWhile (fun b => b ≠ cr && b ≠ nl) := by
    intro w
    rcases takeWhile_concat (fun b => b ≠ cr && b ≠ nl) w nl with h | ⟨-, h⟩
    · exact h
    · cases h
  have hcut : (cstr (u ++ [nl])).takeWhile (fun b => b ≠ cr && b ≠ nl) =
      (cstr u).takeWhile (fun b => b ≠ cr && b ≠ nl) := by
    rcases takeWhile_concat (· ≠ 0) u nl with h | ⟨h, -⟩
    · exact congrArg _ h
    · exact (congrArg _ h).trans (hstop _)
  unfold parse_corpus_line
  rw [hcut]

end Parsing

section Buffers

variable {FUZZY_MAX_RESULT : Nat} {l : Bytes} {k : Nat}

private theorem storeEntry_parts (size : Nat) (l : Bytes) :
    storeEntry size (hashPart l, namePart l) = lineEntry size l := by
  simp only [storeEntry, lineEntry, snprintf_s, List.take_take, Nat.min_self]

/-- A buffer without NUL and newline gives the entry that it would give as a line. -/
private theorem fuzzyEntry_line (hnul : (0 : UInt8) ∉ l) (hnl : nl ∉ l) :
    fuzzyEntry FUZZY_MAX_RESULT l = fuzzyLine FUZZY_MAX_RESULT l := by
  rw [fuzzyEntry, parse_line hnul hnl, fuzzyLine]
  split
  · rw [Option.map_some, storeEntry_parts]
  · rfl

private theorem tlshEntry_line (hnul : (0 : UInt8) ∉ l) (hnl : nl ∉ l) :
    tlshEntry l = tlshLine l := by
  rw [tlshEntry, parse_line hnul hnl, tlshLine]
  by_cases hentry : EntryLine l
  · rw [if_pos hentry]
    dsimp only
    by_cases hlong : av_tlsh_hash_maxlen < (hashPart l).length
    · rw [if_pos hlong, if_neg fun h : TlshLine l => absurd h.2 (not_le.mpr hlong)]
    · have htlsh : TlshLine l := ⟨hentry, not_lt.mp hlong⟩
      rw [if_neg hlong, if_pos htlsh, storeEntry_parts]
  · rw [if_neg hentry, if_neg fun h : TlshLine l => hentry h.1]

private theorem clean_piece {c : UInt8} (h : c ∉ l) (k : Nat) : c ∉ piece l k := fun hmem =>
  h (List.mem_of_mem_drop (List.mem_of_mem_take hmem))

private theorem piece_zero (l : Bytes) : piece l 0 = l.take (LINE_SIZE - 1) := by
  rw [piece, Nat.mul_zero, List.drop_zero]

private theorem lineText_piece (l : Bytes) :
    lineText (piece l 0) = (lineText l).take (LINE_SIZE - 1) := by
  rw [piece_zero, lineText, lineText, List.take_takeWhile]

private theorem parts_of_text {h m : Bytes} (htext : lineText l = h ++ comma :: m)
    (hcomma : comma ∉ h) : hashPart l = h ∧ namePart l = m := by
  have hall : ∀ b ∈ h, decide (b ≠ comma) = true := by
    intro b hb
    have hne : b ≠ comma := fun heq => hcomma (heq ▸ hb)
    simpa using hne
  rw [hashPart, namePart, htext, List.takeWhile_append_of_pos hall,
    List.dropWhile_append_of_pos hall, List.takeWhile_cons_of_neg (by simp),
    List.dropWhile_cons_of_neg (by simp), List.append_nil]
  exact ⟨rfl, rfl⟩

private theorem text_of_parts (h : namePart l ≠ []) :
    lineText l = hashPart l ++ comma :: namePart l ∧ comma ∉ hashPart l := by
  obtain ⟨u, v, hsplit, hu⟩ := List.eq_append_cons_of_mem (comma_of_name h)
  obtain ⟨hhash, hname⟩ := parts_of_text hsplit hu
  rw [hhash, hname]
  exact ⟨hsplit, hu⟩

private theorem head_take (t : Bytes) : (t.take (LINE_SIZE - 1)).head? = t.head? := by
  cases t <;> rfl

/-- A line whose first buffer gives an entry gives one itself, with the same hash. -/
private theorem entry_of_piece (h : EntryLine (piece l 0)) :
    EntryLine l ∧ hashPart l = hashPart (piece l 0) := by
  obtain ⟨htext, hcomma⟩ := text_of_parts h.name_part
  rw [lineText_piece] at htext
  have hwhole := List.take_append_drop (LINE_SIZE - 1) (lineText l)
  rw [htext, List.append_assoc, List.cons_append] at hwhole
  obtain ⟨hhash, hname⟩ := parts_of_text hwhole.symm hcomma
  have hcomment := h.no_comment
  rw [lineText_piece, head_take] at hcomment
  refine ⟨⟨?_, hcomment, ?_, ?_⟩, hhash⟩
  · rw [← hwhole]
    simp
  · rw [hhash]
    exact h.hash_part
  · rw [hname]
    exact fun hnil => h.name_part (List.append_eq_nil_iff.mp hnil).1

/-- Of a line with its comma in front of the end of the buffer, the buffer has the hash, and the
name as far as it goes. -/
private theorem piece_parts (h : EntryLine l) (hlen : (hashPart l).length < LINE_SIZE - 1) :
    hashPart (piece l 0) = hashPart l ∧
      namePart (piece l 0) = (namePart l).take (LINE_SIZE - 1 - (hashPart l).length - 1) := by
  obtain ⟨htext, hcomma⟩ := text_of_parts h.name_part
  obtain ⟨m, hm⟩ : ∃ m, LINE_SIZE - 1 - (hashPart l).length = m + 1 :=
    ⟨LINE_SIZE - 1 - (hashPart l).length - 1, by omega⟩
  refine parts_of_text ?_ hcomma
  rw [lineText_piece, htext, List.take_append, List.take_of_length_le hlen.le, hm,
    List.take_succ_cons]
  rfl

private theorem piece_entry (h : EntryLine l) (hlen : (hashPart l).length + 1 < LINE_SIZE - 1) :
    EntryLine (piece l 0) := by
  obtain ⟨hhash, hname⟩ := piece_parts h (by omega)
  refine ⟨?_, ?_, ?_, ?_⟩
  · rw [lineText_piece]
    intro hnil
    have hhead := head_take (lineText l)
    rw [hnil] at hhead
    exact h.not_empty (List.head?_eq_none_iff.mp hhead.symm)
  · rw [lineText_piece, head_take]
    exact h.no_comment
  · rw [hhash]
    exact h.hash_part
  · rw [hname]
    intro hnil
    have hcut := congrArg List.length hnil
    rw [List.length_take, List.length_nil] at hcut
    have hpos := List.length_pos_iff.mpr h.name_part
    omega

/-- A buffer without the comma, or with nothing behind it, gives no entry. -/
private theorem piece_short (hlen : LINE_SIZE - 1 ≤ (hashPart l).length + 1) :
    ¬ EntryLine (piece l 0) := by
  intro hpiece
  obtain ⟨htext, -⟩ := text_of_parts hpiece.name_part
  have hsame := (entry_of_piece hpiece).2
  have hpos := List.length_pos_iff.mpr hpiece.name_part
  have hcut := congrArg List.length htext
  rw [lineText_piece, List.length_take, List.length_append, List.length_cons, ← hsame] at hcut
  omega

/-- The name that the buffer has is cut like the whole name. -/
private theorem lineEntry_piece (size : Nat) (h : EntryLine l)
    (hlen : (hashPart l).length + NAME_SIZE ≤ LINE_SIZE - 1) :
    lineEntry size (piece l 0) = lineEntry size l := by
  have hpos : NAME_SIZE = 128 := rfl
  obtain ⟨hhash, hname⟩ := piece_parts h (by omega)
  rw [lineEntry, hhash, hname, List.take_take, Nat.min_eq_left (by omega)]
  rfl

/-- The text decides about everything. -/
private theorem piece_whole (h : (lineText l).length ≤ LINE_SIZE - 1) :
    lineText (piece l 0) = lineText l := by
  rw [lineText_piece, List.take_of_length_le h]

private theorem entryLine_congr {l' : Bytes} (h : lineText l = lineText l') :
    (EntryLine l ↔ EntryLine l') ∧ ∀ size, lineEntry size l = lineEntry size l' := by
  have hhash : hashPart l = hashPart l' := by rw [hashPart, h, hashPart]
  have hname : namePart l = namePart l' := by rw [namePart, h, namePart]
  refine ⟨⟨fun hl => ?_, fun hl => ?_⟩, fun size => by rw [lineEntry, hhash, hname, lineEntry]⟩
  · exact ⟨h ▸ hl.not_empty, h ▸ hl.no_comment, hhash ▸ hl.hash_part, hname ▸ hl.name_part⟩
  · exact ⟨h ▸ hl.not_empty, h ▸ hl.no_comment, hhash ▸ hl.hash_part, hname ▸ hl.name_part⟩

/-- The first buffer of a line gives what the line gives if it holds what an entry needs. -/
private theorem fuzzy_first_iff (l : Bytes) :
    fuzzyLine FUZZY_MAX_RESULT (piece l 0) = fuzzyLine FUZZY_MAX_RESULT l ↔
      (EntryLine l → FirstHolds l) := by
  have hsize : LINE_SIZE = 512 := rfl
  have hcut : NAME_SIZE = 128 := rfl
  by_cases hentry : EntryLine l
  · have hwhole : fuzzyLine FUZZY_MAX_RESULT l = some (lineEntry FUZZY_MAX_RESULT l) :=
      if_pos hentry
    constructor
    · intro h _
      by_contra hnot
      obtain ⟨hlong, hlate⟩ := not_or.mp hnot
      rw [hwhole, fuzzyLine] at h
      split at h
      · rename_i hpiece
        have hshort : (hashPart l).length + 1 < LINE_SIZE - 1 := by
          by_contra hle
          exact piece_short (not_lt.mp hle) hpiece
        obtain ⟨-, hname⟩ := piece_parts hentry (by omega)
        have hnames := congrArg CorpusEntry.name (Option.some.inj h)
        have hlens := congrArg List.length hnames
        obtain ⟨htext, -⟩ := text_of_parts hentry.name_part
        have hall := congrArg List.length htext
        rw [List.length_append, List.length_cons] at hall
        simp only [lineEntry, hname, List.length_take] at hlens
        omega
      · cases h
    · intro h
      rcases h hentry with hshort | hearly
      · obtain ⟨hiff, hsame⟩ := entryLine_congr (piece_whole hshort)
        rw [hwhole, fuzzyLine, if_pos (hiff.mpr hentry), hsame]
      · rw [hwhole, fuzzyLine, if_pos (piece_entry hentry (by omega)),
          lineEntry_piece _ hentry hearly]
  · refine iff_of_true ?_ fun h => absurd h hentry
    rw [fuzzyLine, fuzzyLine, if_neg hentry, if_neg fun h => hentry (entry_of_piece h).1]

/-- A hash of a digest's length leaves room for the name in the first buffer. -/
private theorem tlsh_first (l : Bytes) : tlshLine (piece l 0) = tlshLine l := by
  have hsize : LINE_SIZE = 512 := rfl
  have hcut : NAME_SIZE = 128 := rfl
  have hdigest : TLSH_DIGEST_HEXLEN = 70 := rfl
  by_cases htlsh : TlshLine l
  · obtain ⟨hentry, hlen⟩ := htlsh
    have hpiece : TlshLine (piece l 0) := by
      refine ⟨piece_entry hentry (by omega), ?_⟩
      rw [(piece_parts hentry (by omega)).1]
      exact hlen
    rw [tlshLine, tlshLine, if_pos hpiece, if_pos ⟨hentry, hlen⟩,
      lineEntry_piece _ hentry (by omega)]
  · rw [tlshLine, tlshLine, if_neg htlsh, if_neg]
    rintro ⟨hpiece, hlen⟩
    obtain ⟨hentry, hsame⟩ := entry_of_piece hpiece
    exact htlsh ⟨hentry, hsame ▸ hlen⟩

end Buffers

section Loads

variable {FUZZY_MAX_RESULT : Nat} {io : CorpusIo} {file : Bytes}
  {entry whole : Bytes → Option CorpusEntry}

/-- With memory for all of them, the loop keeps the entries in the order of their buffers. -/
private theorem corpusLoop_entries (hrealloc : ∀ capacity, io.realloc_ok capacity = true)
    (lines : List Bytes) (corpus : List CorpusEntry) (capacity : Nat) :
    corpusLoop io.realloc_ok entry lines corpus capacity =
      (0, corpus ++ lines.filterMap entry) := by
  induction lines generalizing corpus capacity with
  | nil => rw [corpusLoop, List.filterMap_nil, List.append_nil]
  | cons line lines ih =>
    rw [corpusLoop, List.filterMap_cons]
    cases entry line with
    | none => exact ih corpus capacity
    | some e =>
      have hput : corpus ++ [e] ++ lines.filterMap entry =
          corpus ++ e :: lines.filterMap entry := by
        rw [List.append_assoc]
        rfl
      dsimp only
      rw [hrealloc, if_pos rfl, ih, ih, hput, ite_self]

private theorem loadCorpus_entries (hio : io.content = some file) (hmalloc : io.malloc_ok = true)
    (hrealloc : ∀ capacity, io.realloc_ok capacity = true) :
    loadCorpus io entry = (0, (fromBuffers entry file).map Prod.snd) := by
  rw [fromBuffers, readings_values, places_texts, loadCorpus, hio]
  dsimp only
  rw [hmalloc, corpusLoop_entries hrealloc]
  rfl

/-- Where buffers without NUL and newline give what they would give as lines, a load is line by line
exactly if the first buffer of each line gives what the line does and no later one gives any. -/
private theorem byLines_iff (hio : io.content = some file) (hmalloc : io.malloc_ok = true)
    (hrealloc : ∀ capacity, io.realloc_ok capacity = true) (hnul : (0 : UInt8) ∉ file)
    (hline : ∀ u, entry (u ++ [nl]) = entry u) (hnil : entry [] = none)
    (hclean : ∀ l, (0 : UInt8) ∉ l → nl ∉ l → entry l = whole l) :
    ByLines entry whole file (loadCorpus io entry) ↔ ∀ l ∈ file.splitOn nl,
      whole (piece l 0) = whole l ∧ ∀ k, whole (piece l (k + 1)) = none := by
  rw [ByLines, loadCorpus_entries hio hmalloc hrealloc, and_iff_right rfl, fromBuffers, fromLines,
    readings_lines_iff (by decide) (fun u _ => hline u) hnil]
  refine forall₂_congr fun l hl => ?_
  obtain ⟨hnl, hsub⟩ := splitOn_clean hl
  have hzero : (0 : UInt8) ∉ l := fun h => hnul (hsub 0 h)
  have hpiece : ∀ k, entry (piece l k) = whole (piece l k) := fun k =>
    hclean _ (clean_piece hzero k) (clean_piece hnl k)
  rw [← piece_zero, hpiece]
  refine and_congr_right fun _ => forall_congr' fun k => ?_
  exact iff_of_eq (congrArg (· = none) (hpiece (k + 1)))

private theorem fuzzy_by_lines_iff (hio : io.content = some file) (hnul : (0 : UInt8) ∉ file)
    (hmalloc : io.malloc_ok = true) (hrealloc : ∀ capacity, io.realloc_ok capacity = true) :
    ByLines (fuzzyEntry FUZZY_MAX_RESULT) (fuzzyLine FUZZY_MAX_RESULT) file
        (load_fuzzy_corpus FUZZY_MAX_RESULT io) ↔
      ∀ l ∈ file.splitOn nl, (EntryLine l → FirstHolds l) ∧
        ∀ k, ¬ EntryLine (piece l (k + 1)) := by
  rw [load_fuzzy_corpus, byLines_iff hio hmalloc hrealloc hnul
    (fun u => by rw [fuzzyEntry, parse_newline, fuzzyEntry]) rfl
    fun l hzero hnl => fuzzyEntry_line hzero hnl]
  refine forall₂_congr fun l _ => and_congr (fuzzy_first_iff l) (forall_congr' fun k => ?_)
  rw [fuzzyLine]
  split <;> simp_all

private theorem tlsh_by_lines_iff (hio : io.content = some file) (hnul : (0 : UInt8) ∉ file)
    (hmalloc : io.malloc_ok = true) (hrealloc : ∀ capacity, io.realloc_ok capacity = true) :
    ByLines tlshEntry tlshLine file (load_tlsh_corpus io) ↔
      ∀ l ∈ file.splitOn nl, ∀ k, ¬ TlshLine (piece l (k + 1)) := by
  rw [load_tlsh_corpus, if_neg (by decide), byLines_iff hio hmalloc hrealloc hnul
    (fun u => by rw [tlshEntry, parse_newline, tlshEntry]) rfl
    fun l hzero hnl => tlshEntry_line hzero hnl]
  refine forall₂_congr fun l _ => ?_
  rw [and_iff_right (tlsh_first l)]
  refine forall_congr' fun k => ?_
  rw [tlshLine]
  split <;> simp_all

/-- Where there is memory, a file without NUL is loaded line by line exactly if no line has a
later buffer that reads like a line of its own and, for the fuzzy corpus, the first buffer of every
line that gives an entry holds what the entry keeps. -/
theorem corpus_by_lines_iff (hio : io.content = some file) (hnul : (0 : UInt8) ∉ file)
    (hmalloc : io.malloc_ok = true) (hrealloc : ∀ capacity, io.realloc_ok capacity = true) :
    (ByLines (fuzzyEntry FUZZY_MAX_RESULT) (fuzzyLine FUZZY_MAX_RESULT) file
        (load_fuzzy_corpus FUZZY_MAX_RESULT io) ↔
      ∀ l ∈ file.splitOn nl, (EntryLine l → FirstHolds l) ∧
        ∀ k, ¬ EntryLine (piece l (k + 1))) ∧
    (ByLines tlshEntry tlshLine file (load_tlsh_corpus io) ↔
      ∀ l ∈ file.splitOn nl, ∀ k, ¬ TlshLine (piece l (k + 1))) :=
  ⟨fuzzy_by_lines_iff hio hnul hmalloc hrealloc, tlsh_by_lines_iff hio hnul hmalloc hrealloc⟩

/-- A system with memory for every corpus. -/
def CorpusIo.granted (file : Bytes) : CorpusIo := ⟨some file, true, fun _ => true⟩

/-- A comment, an entry and a line without a name. -/
def shortLines : Bytes := lit "# c" ++ nl :: (lit "3:ab:c,bad" ++ cr :: nl :: lit "3:x,")

/-- A file of short lines. -/
theorem short_lines_loaded :
    (ByLines (fuzzyEntry 148) (fuzzyLine 148) shortLines
        (load_fuzzy_corpus 148 (CorpusIo.granted shortLines)) ↔
      ∀ l ∈ shortLines.splitOn nl, (EntryLine l → FirstHolds l) ∧
        ∀ k, ¬ EntryLine (piece l (k + 1))) ∧
    (ByLines tlshEntry tlshLine shortLines (load_tlsh_corpus (CorpusIo.granted shortLines)) ↔
      ∀ l ∈ shortLines.splitOn nl, ∀ k, ¬ TlshLine (piece l (k + 1))) :=
  corpus_by_lines_iff rfl (by decide) rfl fun _ => rfl

/-- A comment that is one byte longer than the buffer, and then reads like an entry. -/
def longComment : Bytes := hash :: (List.replicate 510 120 ++ lit "a,b")

/-- The end of a comment becomes an entry. -/
theorem comment_loaded :
    ¬ ∀ (FUZZY_MAX_RESULT : Nat) (file : Bytes) (io : CorpusIo), io.content = some file →
        (0 : UInt8) ∉ file → io.malloc_ok = true →
          (∀ capacity, io.realloc_ok capacity = true) →
            ByLines (fuzzyEntry FUZZY_MAX_RESULT) (fuzzyLine FUZZY_MAX_RESULT) file
                (load_fuzzy_corpus FUZZY_MAX_RESULT io) ∧
              ByLines tlshEntry tlshLine file (load_tlsh_corpus io) := by
  intro hall
  have hmissing : ∀ c, c ≠ hash → c ≠ 120 → c ∉ lit "a,b" → c ∉ longComment := by
    intro c hhash hx htail hmem
    rcases List.mem_cons.mp hmem with heq | hmem
    · exact hhash heq
    · rcases List.mem_append.mp hmem with hmem | hmem
      · exact hx (List.eq_of_mem_replicate hmem)
      · exact htail hmem
  have hnul := hmissing 0 (by decide) (by decide) (by decide)
  have hnl := hmissing nl (by decide) (by decide) (by decide)
  obtain ⟨-, htlsh⟩ := hall 148 longComment (CorpusIo.granted longComment) rfl hnul rfl fun _ => rfl
  have hcond := (tlsh_by_lines_iff rfl hnul rfl fun _ => rfl).mp htlsh
  have hmem : longComment ∈ longComment.splitOn nl := by
    rw [List.splitOn_eq_singleton hnl]
    exact List.mem_singleton_self _
  have hpiece : piece longComment 1 = lit "a,b" := by
    have hdrop : longComment.drop 511 = lit "a,b" := by
      rw [longComment, List.drop_succ_cons, List.drop_left' (List.length_replicate)]
    show (longComment.drop (511 * 1)).take 511 = _
    rw [Nat.mul_one, hdrop]
    rfl
  have hnone := hcond longComment hmem 0
  rw [Nat.zero_add, hpiece] at hnone
  exact hnone (by decide)

end Loads

end KernelAv.Daemon.Corpus
