/- digest: Commands written to the protected-path file, and the writes that mean what they say. -/

import KernelAv.Kernel.ListTables
import KernelAv.Kernel.ProcWrite

set_option autoImplicit false
set_option relaxedAutoImplicit false

namespace KernelAv.Kernel.ProtectedWrites

open KernelAv.Lib.CText hiding isspace
open KernelAv.Lib.Chains
open KernelAv.Lib.Lines (nl)
open KernelAv.Lib.Scanf
open KernelAv.Kernel.Paths (slash PATH_MAX)
open KernelAv.Kernel.BehaviorTable (KernelHash)
open KernelAv.Kernel.TrustTable (EINVAL ENOMEM ENOENT)
open KernelAv.Kernel.ProtectTable
open KernelAv.Kernel.ListTables (Absolute AllAbsolute)
open KernelAv.Kernel.ProcWrite

/-- How a buffer reads as a command: what stands before the first blank, the blanks, the path, a
carriage return or none before the newline, and what a NUL behind the newline hides. -/
structure Reading where
  adds : Bool
  head : Bytes
  blanks : Bytes
  path : Bytes
  crlf : Bool
  hidden : Option Bytes
  deriving DecidableEq

def terminator (crlf : Bool) : Bytes := if crlf then [cr, nl] else [nl]

def Reading.line (r : Reading) : Bytes :=
  r.head ++ (r.blanks ++ (r.path ++ terminator r.crlf))

def Reading.text (r : Reading) : Bytes :=
  r.line ++ r.hidden.elim [] fun rest => 0 :: rest

/-- The first word in front of the blanks is the command's, and the path stands between the blanks
and the terminator. -/
structure Reads (r : Reading) (ubuf : Bytes) : Prop where
  text : ubuf = r.text
  no_nul : (0 : UInt8) ∉ r.line
  command : strcaseeq (firstWord r.head) (commandWord r.adds) = true
  head : ∀ b ∈ r.head, isBlank b = false
  blanks_ne : r.blanks ≠ []
  blanks : ∀ b ∈ r.blanks, isBlank b = true
  path_ne : r.path ≠ []
  path_head : ∀ b, r.path.head? = some b → isBlank b = false
  ending : r.crlf = false → r.path.getLast? ≠ some cr

/-- The buffer is one command: nothing but the word in front of the blanks, no newline in the path,
nothing behind the terminator, and an absolute path for an addition. -/
structure Strict (r : Reading) : Prop where
  bare : strcaseeq r.head (commandWord r.adds) = true
  one_line : nl ∉ r.path
  whole : r.hidden = none
  absolute : r.adds = true → r.path.head? = some slash

/-- The write passes the checks on the task, the offset, the sizes, the allocations and the copy,
and its path is one that the table takes. -/
structure Admits (w : WriteCall) (r : Reading) : Prop where
  capable : w.capable = true
  ppos : w.ppos = 0
  count : w.count < PROTECTED_WRITE_MAXLEN
  kbuf_ok : w.kbuf_ok = true
  path_ok : w.path_ok = true
  copy_ok : w.copy_ok = true
  entry_ok : r.adds = true → w.entry_ok = true
  absolute : Absolute r.path

section Tables

variable {H : KernelHash}

/-- The one path has been added to the table, or removed from it. -/
def Done (adds : Bool) (path : Bytes) (t u : Table H) : Prop :=
  t.find? path = (if adds then none else some path) ∧
    ∀ p, u.find? p = if p = path then (if adds then some path else none) else t.find? p

/-- The tables that writes to the file build. -/
def Reached (t : Table H) : Prop :=
  ∃ ws : List WriteCall, t = ws.foldl (fun t w => (protected_proc_write t w).2) HashTable.empty

/-- The write returns its length and does what the one command in its buffer says, or it is an
error and changes nothing. -/
def WriteMeans (t : Table H) (w : WriteCall) : Prop :=
  (protected_proc_write t w).1 = w.count ∧ w.ppos = 0 ∧
      (∃ r, Reads r w.ubuf ∧ Strict r ∧ Done r.adds r.path t (protected_proc_write t w).2) ∨
    (protected_proc_write t w).1 < 0 ∧ (protected_proc_write t w).2 = t

end Tables

section Buffers

variable {r r' : Reading} {ubuf s path : Bytes}

theorem Reads.cstr_eq (h : Reads r ubuf) : cstr ubuf = r.line := by
  have hline : ∀ b ∈ r.line, (b ≠ 0 : Bool) = true := by
    intro b hb
    have hne : b ≠ 0 := fun heq => h.no_nul (heq ▸ hb)
    simpa using hne
  rw [h.text, Reading.text, cstr, List.takeWhile_append_of_pos hline]
  cases r.hidden with
  | none => exact List.append_nil _
  | some rest => exact List.append_nil _

private theorem dropWhile_prefix {p : UInt8 → Bool} {u v : Bytes} (hu : ∀ b ∈ u, p b = true)
    (hv : ∀ b, v.head? = some b → p b = false) : (u ++ v).dropWhile p = v := by
  rw [List.dropWhile_append_of_pos hu]
  cases v with
  | nil => rfl
  | cons b v => exact List.dropWhile_cons_of_neg (by simp [hv b rfl])

private theorem takeWhile_prefix {p : UInt8 → Bool} {u v : Bytes} (hu : ∀ b ∈ u, p b = true)
    (hv : ∀ b, v.head? = some b → p b = false) : (u ++ v).takeWhile p = u := by
  rw [List.takeWhile_append_of_pos hu]
  cases v with
  | nil => exact List.append_nil _
  | cons b v => rw [List.takeWhile_cons_of_neg (by simp [hv b rfl]), List.append_nil]

private theorem not_blank {b : UInt8} (h : isBlank b = false) : (!isBlank b) = true := by
  rw [h]
  rfl

private theorem blanks_head (h : Reads r ubuf) (b : UInt8)
    (hb : (r.blanks ++ (r.path ++ terminator r.crlf)).head? = some b) :
    (!isBlank b) = false := by
  obtain ⟨a, rest, hblanks⟩ := List.exists_cons_of_ne_nil h.blanks_ne
  rw [hblanks] at hb
  obtain rfl := Option.some.inj hb
  rw [h.blanks a (hblanks ▸ List.mem_cons_self)]
  rfl

private theorem path_term_head (h : Reads r ubuf) (b : UInt8)
    (hb : (r.path ++ terminator r.crlf).head? = some b) : isBlank b = false := by
  obtain ⟨a, rest, hpath⟩ := List.exists_cons_of_ne_nil h.path_ne
  rw [hpath] at hb
  obtain rfl := Option.some.inj hb
  exact h.path_head a (by rw [hpath]; rfl)

theorem Reads.afterCommand_eq (h : Reads r ubuf) :
    afterCommand r.line = r.path ++ terminator r.crlf := by
  rw [afterCommand, Reading.line,
    dropWhile_prefix (fun b hb => not_blank (h.head b hb)) (blanks_head h),
    dropWhile_prefix h.blanks (path_term_head h)]

private theorem isspace_of_blank {b : UInt8} (h : isBlank b = true) : isspace b = true := by
  rw [isBlank, Bool.or_eq_true, beq_iff_eq, beq_iff_eq] at h
  rcases h with rfl | rfl <;> decide

theorem Reads.firstWord_line (h : Reads r ubuf) : firstWord r.line = firstWord r.head := by
  obtain ⟨a, rest, hblanks⟩ := List.exists_cons_of_ne_nil h.blanks_ne
  have ha : isspace a = true := isspace_of_blank (h.blanks a (hblanks ▸ List.mem_cons_self))
  rw [Reading.line, hblanks, List.cons_append]
  rcases firstWord_append (s := r.head) (t := rest ++ (r.path ++ terminator r.crlf)) ha with
    heq | ⟨hall, -⟩
  · exact heq
  · have hnil : firstWord r.head = [] := by
      rw [firstWord, skip_spaces, List.dropWhile_eq_nil_iff.mpr hall]
      rfl
    have hlen := length_of_caseeq h.command
    rw [hnil, commandWord_length] at hlen
    cases hlen

theorem Reads.sscanf_line (h : Reads r ubuf) : sscanf [.word 7] r.line = [firstWord r.head] := by
  have hlen := length_of_caseeq h.command
  rw [commandWord_length] at hlen
  have hne : r.line ≠ [] := by
    rw [Reading.line]
    intro hnil
    exact h.blanks_ne (List.append_eq_nil_iff.mp (List.append_eq_nil_iff.mp hnil).2).1
  rw [sscanf, if_neg hne]
  dsimp only
  rw [h.firstWord_line, List.take_of_length_le (by omega), sscanf]

/-- The terminator that is stripped, and that no carriage return is left before a bare newline. -/
theorem stripTerminator_iff : stripTerminator s = some path ↔
    ∃ crlf, s = path ++ terminator crlf ∧ (crlf = false → path.getLast? ≠ some cr) := by
  constructor
  · intro h
    rw [stripTerminator] at h
    split at h
    · cases h
    rename_i hnl
    rw [not_not] at hnl
    have hs : s = s.dropLast ++ [nl] := (List.dropLast_append_getLast? nl hnl).symm
    split at h
    · rename_i hcr
      obtain rfl := Option.some.inj h
      refine ⟨true, ?_, nofun⟩
      have hcr' : s.dropLast = s.dropLast.dropLast ++ [cr] :=
        (List.dropLast_append_getLast? cr hcr).symm
      calc s = (s.dropLast.dropLast ++ [cr]) ++ [nl] := by rw [← hcr', ← hs]
        _ = s.dropLast.dropLast ++ terminator true := List.append_assoc _ _ _
    · rename_i hcr
      obtain rfl := Option.some.inj h
      exact ⟨false, hs, fun _ => hcr⟩
  · rintro ⟨crlf, rfl, hlast⟩
    cases crlf with
    | false =>
      rw [terminator, stripTerminator]
      simp [hlast rfl]
    | true =>
      have hsplit : path ++ [cr, nl] = (path ++ [cr]) ++ [nl] := by simp
      rw [terminator, if_pos rfl, stripTerminator, hsplit]
      simp

theorem Reads.stripped (h : Reads r ubuf) :
    stripTerminator (afterCommand r.line) = some r.path := by
  rw [h.afterCommand_eq]
  exact stripTerminator_iff.mpr ⟨r.crlf, rfl, h.ending⟩

/-- A buffer reads in one way only. -/
theorem Reads.unique (h : Reads r ubuf) (h' : Reads r' ubuf) : r = r' := by
  have hline : r.line = r'.line := h.cstr_eq.symm.trans h'.cstr_eq
  have htakes : ∀ {x : Reading}, Reads x ubuf →
      x.line.takeWhile (fun b => !isBlank b) = x.head := fun hx =>
    takeWhile_prefix (fun b hb => not_blank (hx.head b hb)) (blanks_head hx)
  have hdrops : ∀ {x : Reading}, Reads x ubuf →
      (x.line.dropWhile fun b => !isBlank b).takeWhile isBlank = x.blanks := by
    intro x hx
    rw [Reading.line, dropWhile_prefix (fun b hb => not_blank (hx.head b hb)) (blanks_head hx)]
    exact takeWhile_prefix hx.blanks (path_term_head hx)
  have hhead : r.head = r'.head := by rw [← htakes h, hline, htakes h']
  have hblanks : r.blanks = r'.blanks := by rw [← hdrops h, hline, hdrops h']
  have hpath : r.path = r'.path := by
    have hstrip := h.stripped
    rw [hline, h'.stripped] at hstrip
    exact (Option.some.inj hstrip).symm
  have hterm : r.path ++ terminator r.crlf = r'.path ++ terminator r'.crlf := by
    rw [← h.afterCommand_eq, hline, h'.afterCommand_eq]
  rw [hpath] at hterm
  have hcrlf : r.crlf = r'.crlf := by
    have htail := List.append_cancel_left hterm
    revert htail
    cases r.crlf <;> cases r'.crlf <;> decide
  have hadds : r.adds = r'.adds := command_inj h.command (hhead ▸ h'.command)
  have htext : r.text = r'.text := h.text.symm.trans h'.text
  rw [Reading.text, Reading.text, hline] at htext
  have hhidden : r.hidden = r'.hidden := by
    have htail := List.append_cancel_left htext
    revert htail
    cases r.hidden <;> cases r'.hidden <;> simp
  cases r
  cases r'
  simp_all only

private theorem not_command {adds : Bool} {u v : Bytes} (hu : u.head? = some slash) :
    strcaseeq (firstWord (u ++ v)) (commandWord adds) = false := by
  obtain ⟨a, u, rfl⟩ : ∃ a t, u = a :: t := by
    cases u with
    | nil => cases hu
    | cons a u => exact ⟨a, u, rfl⟩
  obtain rfl := Option.some.inj hu
  have hword : firstWord (slash :: u ++ v) = slash :: (u ++ v).takeWhile fun b => !isspace b := by
    rw [firstWord, skip_spaces_of_head, List.cons_append,
      List.takeWhile_cons_of_pos (by decide)]
    intro b hb
    obtain rfl := Option.some.inj hb
    decide
  rw [hword, Bool.eq_false_iff]
  intro heq
  have hmap := beq_iff_eq.mp heq
  rw [List.map_cons] at hmap
  revert hmap
  cases adds with
  | true =>
    intro hmap
    exact absurd (List.cons.inj hmap).1 (by decide)
  | false =>
    intro hmap
    exact absurd (List.cons.inj hmap).1 (by decide)

/-- What the two scans accept is a reading, when the path is absolute. -/
theorem reads_of_scans (adds : Bool) {cmd : Bytes} {more : List Bytes}
    (hscan : sscanf [.word 7] (cstr ubuf) = cmd :: more)
    (hcmd : strcaseeq cmd (commandWord adds) = true)
    (hstrip : stripTerminator (afterCommand (cstr ubuf)) = some path)
    (habs : path.head? = some slash) :
    ∃ r, Reads r ubuf ∧ r.adds = adds ∧ r.path = path := by
  obtain ⟨crlf, hafter, hending⟩ := stripTerminator_iff.mp hstrip
  set s := cstr ubuf with hs
  set head := s.takeWhile fun b => !isBlank b with hhead
  set tail := s.dropWhile fun b => !isBlank b with htail
  have hsplit : s = head ++ (tail.takeWhile isBlank ++ (path ++ terminator crlf)) := by
    rw [← hafter, afterCommand, List.takeWhile_append_dropWhile,
      List.takeWhile_append_dropWhile]
  have hheads : ∀ b ∈ head, isBlank b = false := by
    intro b hb
    simpa using List.mem_takeWhile_imp hb
  have hblanks : ∀ b ∈ tail.takeWhile isBlank, isBlank b = true := fun b hb =>
    List.mem_takeWhile_imp hb
  have hblanks_ne : tail.takeWhile isBlank ≠ [] := by
    cases htail' : tail with
    | nil =>
      rw [afterCommand, ← htail, htail'] at hafter
      rw [(List.append_eq_nil_iff.mp hafter.symm).1] at habs
      cases habs
    | cons a rest =>
      have ha : isBlank a = true := by
        have hstop := List.head?_dropWhile_not (fun b => !isBlank b) s
        rw [← htail, htail'] at hstop
        simpa using hstop
      rw [List.takeWhile_cons_of_pos ha]
      exact List.cons_ne_nil _ _
  have hfirst : cmd = (firstWord s).take 7 := by
    rw [sscanf] at hscan
    split at hscan
    · cases hscan
    · exact (List.cons.inj hscan).1.symm
  have hcommand : strcaseeq (firstWord head) (commandWord adds) = true := by
    have hshort : firstWord s = cmd := by
      have hlen := length_of_caseeq hcmd
      rw [commandWord_length, hfirst, List.length_take] at hlen
      rw [hfirst, List.take_of_length_le (by omega)]
    obtain ⟨a, rest, hcons⟩ := List.exists_cons_of_ne_nil hblanks_ne
    have ha : isspace a = true := isspace_of_blank (hblanks a (hcons ▸ List.mem_cons_self))
    rw [hcons, List.cons_append] at hsplit
    rcases firstWord_append (s := head) (t := rest ++ (path ++ terminator crlf)) ha with
      heq | ⟨-, heq⟩
    · rw [← heq, ← hsplit, hshort]
      exact hcmd
    · have hrest : ∀ b ∈ rest, isspace b = true := fun b hb =>
        isspace_of_blank (hblanks b (hcons ▸ List.mem_cons_of_mem a hb))
      rw [← hsplit, hshort, firstWord, skip_spaces_append hrest, ← firstWord] at heq
      rw [heq, not_command habs] at hcmd
      cases hcmd
  have hrest : ∃ hidden : Option Bytes, ubuf = s ++ hidden.elim [] (fun rest => 0 :: rest) := by
    cases hdrop : ubuf.dropWhile (· ≠ 0) with
    | nil =>
      refine ⟨none, ?_⟩
      rw [Option.elim_none, ← hdrop]
      exact List.takeWhile_append_dropWhile.symm
    | cons b rest =>
      have hb : b = 0 := by
        have hstop := List.head?_dropWhile_not (fun x : UInt8 => decide (x ≠ 0)) ubuf
        rw [hdrop] at hstop
        simpa using hstop
      subst hb
      refine ⟨some rest, ?_⟩
      rw [Option.elim_some, ← hdrop]
      exact List.takeWhile_append_dropWhile.symm
  obtain ⟨hidden, hubuf⟩ := hrest
  refine ⟨⟨adds, head, tail.takeWhile isBlank, path, crlf, hidden⟩, ?_, rfl, rfl⟩
  have hpath_head : ∀ b, path.head? = some b → isBlank b = false := by
    intro b hb
    obtain rfl := Option.some.inj (habs.symm.trans hb)
    decide
  exact
    { text := by rw [hubuf, Reading.text, Reading.line, ← hsplit]
      no_nul := by
        rw [Reading.line, ← hsplit]
        intro hzero
        simpa using List.mem_takeWhile_imp hzero
      command := hcommand
      head := hheads
      blanks_ne := hblanks_ne
      blanks := hblanks
      path_ne := by
        rintro hnil
        rw [show path = [] from hnil] at habs
        cases habs
      path_head := hpath_head
      ending := hending }

end Buffers

section Writes

variable {H : KernelHash} {t : Table H} {w : WriteCall} {r : Reading}

/-- A write returns its length, or it is an error and changes nothing. -/
theorem protected_proc_write_result (t : Table H) (w : WriteCall) :
    (protected_proc_write t w).1 = w.count ∨
      (protected_proc_write t w).1 < 0 ∧ (protected_proc_write t w).2 = t := by
  have hadd : ∀ path, (av_behavior_protect_add t w.entry_ok path).1 = 0 ∨
      (av_behavior_protect_add t w.entry_ok path).1 < 0 ∧
        (av_behavior_protect_add t w.entry_ok path).2 = t := fun path =>
    (protect_add_spec t w.entry_ok path).imp_left And.left
  have hdel : ∀ path, (av_behavior_protect_del t path).1 = 0 ∨ -ENOENT < 0 ∧
      (av_behavior_protect_del t path).2 = t := fun path =>
    (protect_del_spec t path).imp And.left fun h => ⟨by decide, h.2⟩
  unfold protected_proc_write
  repeat' split
  all_goals first
    | exact .inr ⟨show -EPERM < 0 by decide, rfl⟩
    | exact .inr ⟨show -EINVAL < 0 by decide, rfl⟩
    | exact .inr ⟨show -ENOMEM < 0 by decide, rfl⟩
    | exact .inr ⟨show -EFAULT < 0 by decide, rfl⟩
    | exact reply_result (hadd _)
    | exact reply_result (hdel _)

/-- What a write that is not refused has passed. -/
theorem gates_passed (h : 0 ≤ (protected_proc_write t w).1) :
    w.capable = true ∧ w.ppos = 0 ∧ w.count < PROTECTED_WRITE_MAXLEN ∧ w.kbuf_ok = true ∧
      w.path_ok = true ∧ w.copy_ok = true := by
  unfold protected_proc_write at h
  exact (protected_checks_passed h).1

private theorem add_passed {ok : Bool} {path : Bytes}
    (h : (av_behavior_protect_add t ok path).1 = 0) : Absolute path ∧ ok = true := by
  unfold av_behavior_protect_add at h
  split at h
  · exact absurd h (show ¬ -EINVAL = 0 by decide)
  rename_i hvalid
  split at h
  · exact absurd h (show ¬ -ENOMEM = 0 by decide)
  rename_i hok
  rw [not_or, not_not, not_le] at hvalid
  exact ⟨hvalid, by simpa using hok⟩

/-- A write that is not refused has a reading that it admits, and does what that says. -/
theorem accepted (ht : AllAbsolute t) (h : 0 ≤ (protected_proc_write t w).1) :
    ∃ r, Reads r w.ubuf ∧ Admits w r ∧ Done r.adds r.path t (protected_proc_write t w).2 := by
  obtain ⟨hcapable, hppos, hcount, hkbuf, hpath, hcopy⟩ := gates_passed h
  obtain ⟨cmd, more, path, hscan, hstrip, ⟨hcmd, hret, htable⟩ | ⟨hcmd, hret, htable⟩⟩ :=
    protected_proc_write_ok h
  · obtain ⟨habs, hentry⟩ := add_passed hret
    obtain ⟨r, hreads, hadds, rfl⟩ :=
      reads_of_scans true hscan hcmd hstrip habs.1
    refine ⟨r, hreads, ⟨hcapable, hppos, hcount, hkbuf, hpath, hcopy, fun _ => hentry, habs⟩, ?_⟩
    rw [htable, hadds]
    rcases protect_add_spec t w.entry_ok r.path with ⟨-, hnone, hfind⟩ | ⟨hneg, -⟩
    · exact ⟨hnone, hfind⟩
    · exact absurd hret hneg.ne
  · rcases protect_del_spec t path with ⟨-, hsome, hfind⟩ | ⟨hneg, -⟩
    · have habs : Absolute path := ht path (by rw [hsome]; rfl)
      obtain ⟨r, hreads, hadds, rfl⟩ :=
        reads_of_scans false hscan hcmd hstrip habs.1
      refine ⟨r, hreads, ⟨hcapable, hppos, hcount, hkbuf, hpath, hcopy, ?_, habs⟩, ?_⟩
      · rw [hadds]
        nofun
      · rw [htable, hadds]
        exact ⟨hsome, hfind⟩
    · exact absurd hret hneg.ne

/-- An admitted write does what its reading says. -/
theorem admitted (hreads : Reads r w.ubuf) (h : Admits w r) :
    protected_proc_write t w =
      if r.adds then reply w (av_behavior_protect_add t w.entry_ok r.path)
        (av_behavior_protect_add t w.entry_ok r.path).1
      else reply w (av_behavior_protect_del t r.path) (-ENOENT) := by
  have hlen : ¬ (r.path = [] ∨ PATH_MAX ≤ r.path.length) := by
    rintro (hnil | hlong)
    · exact hreads.path_ne hnil
    · exact absurd h.absolute.2 (not_lt.mpr hlong)
  unfold protected_proc_write
  rw [hreads.cstr_eq, hreads.sscanf_line]
  simp only [h.capable, h.ppos, h.count.not_ge, h.kbuf_ok, h.path_ok, h.copy_ok, hreads.stripped,
    hlen, strscpy_eq_self h.absolute.2, ne_eq, not_true_eq_false, Bool.not_true, Bool.or_self,
    Bool.false_eq_true, if_false]
  cases hadds : r.adds with
  | true =>
    have hcmd := hreads.command
    rw [hadds] at hcmd
    rw [if_pos rfl]
    exact if_pos hcmd
  | false =>
    have hcmd := hreads.command
    rw [hadds] at hcmd
    rw [if_neg (not_add_of_del hcmd), if_neg Bool.false_ne_true]
    exact if_pos hcmd

/-- Every path of a table that writes have built is absolute. -/
theorem Reached.absolute (h : Reached t) : AllAbsolute t := by
  obtain ⟨ws, rfl⟩ := h
  have hkeep : ∀ (ws : List WriteCall) (t : Table H), AllAbsolute t →
      AllAbsolute (ws.foldl (fun t w => (protected_proc_write t w).2) t) := by
    intro ws
    induction ws with
    | nil => exact fun t ht => ht
    | cons w ws ih =>
      intro t ht
      refine ih _ ?_
      rcases protected_proc_write_result t w with hret | ⟨-, hsame⟩
      · obtain ⟨r, -, hadmits, -, hfind⟩ := accepted ht (hret ▸ Int.natCast_nonneg _)
        intro p hp
        rw [hfind] at hp
        split at hp
        · rename_i heq
          exact heq ▸ hadmits.absolute
        · exact ht p hp
      · show AllAbsolute (protected_proc_write t w).2
        rw [hsame]
        exact ht
  refine hkeep ws _ fun p hp => ?_
  cases hp

private theorem unblank_of_all {l : Bytes} (h : l.all (fun b => !isBlank b) = true) :
    ∀ b ∈ l, isBlank b = false := fun b hb => by
  simpa using List.all_eq_true.mp h b hb

/-- The reading of a write that adds a path and ends in both bytes of the terminator. -/
private theorem reads_add {path : Bytes} (h : Absolute path) (hnul : (0 : UInt8) ∉ path) :
    Reads ⟨true, lit "add", [32], path, true, none⟩ (lit "add" ++ 32 :: (path ++ [cr, nl])) where
  text := (List.append_nil _).symm
  no_nul := by
    simp only [Reading.line, terminator, List.mem_append, not_or]
    exact ⟨by decide, by decide, hnul, by decide⟩
  command := show strcaseeq (firstWord (lit "add")) (lit "add") = true by decide
  head := unblank_of_all (show (lit "add").all (fun b => !isBlank b) = true by decide)
  blanks_ne := List.cons_ne_nil _ _
  blanks := List.all_eq_true.mp (show [(32 : UInt8)].all isBlank = true by decide)
  path_ne := by
    rintro rfl
    cases h.1
  path_head := by
    intro b hb
    obtain rfl := Option.some.inj (h.1.symm.trans hb)
    decide
  ending := nofun

/-- Every absolute path is on the list of some table that writes build. -/
theorem exists_listed (H : KernelHash) {path : Bytes} (h : Absolute path)
    (hnul : (0 : UInt8) ∉ path) : ∃ t : Table H, Reached t ∧ t.find? path = some path := by
  set w := WriteCall.plain true (lit "add" ++ 32 :: (path ++ [cr, nl])) with hw
  have hreads := reads_add h hnul
  have hcount : w.count < PROTECTED_WRITE_MAXLEN := by
    have hlen := h.2
    have hmax : PROTECTED_WRITE_MAXLEN = PATH_MAX + 16 := rfl
    have hword : (lit "add").length = 3 := rfl
    show (lit "add" ++ 32 :: (path ++ [cr, nl])).length < _
    rw [List.length_append, List.length_cons, List.length_append, hword, hmax]
    simp only [List.length_cons, List.length_nil]
    omega
  refine ⟨_, ⟨[w], rfl⟩, ?_⟩
  show (protected_proc_write (HashTable.empty : Table H) w).2.find? path = some path
  rw [admitted (w := w) hreads ⟨rfl, rfl, hcount, rfl, rfl, rfl, fun _ => rfl, h⟩, if_pos rfl]
  rcases ListTables.protect_add_cases (HashTable.empty : Table H) path with
    ⟨hret, -, -, hfind⟩ | ⟨-, hsome, -⟩ | ⟨-, hbad, -⟩
  · show (reply w (av_behavior_protect_add (HashTable.empty : Table H) true path) _).2.find? path =
      some path
    rw [reply, if_pos hret]
    exact (hfind path).trans (if_pos rfl)
  · cases hsome
  · exact absurd h hbad

/-- An admitted write whose reading is no strict command is accepted in some reached table. -/
theorem misread (hreads : Reads r w.ubuf) (h : Admits w r) (hloose : ¬ Strict r) :
    ∃ (H : KernelHash) (t : Table H), Reached t ∧ ¬ WriteMeans t w := by
  have hrefutes : ∀ {t : Table singleBucket}, (protected_proc_write t w).1 = w.count →
      ¬ WriteMeans t w := by
    intro t hret
    rintro (⟨-, -, r', hreads', hstrict, -⟩ | ⟨hneg, -⟩)
    · exact hloose (hreads.unique hreads' ▸ hstrict)
    · rw [hret] at hneg
      exact absurd hneg (not_lt.mpr (Int.natCast_nonneg _))
  cases hadds : r.adds with
  | true =>
    refine ⟨singleBucket, HashTable.empty, ⟨[], rfl⟩, hrefutes ?_⟩
    rw [admitted hreads h, if_pos hadds, h.entry_ok hadds]
    rcases ListTables.protect_add_cases (HashTable.empty : Table singleBucket) r.path with
      ⟨hret, -⟩ | ⟨-, hsome, -⟩ | ⟨-, hbad, -⟩
    · rw [reply, if_pos hret]
    · cases hsome
    · exact absurd h.absolute hbad
  | false =>
    have hnul : (0 : UInt8) ∉ r.path := by
      intro hzero
      apply hreads.no_nul
      rw [Reading.line]
      exact List.mem_append_right _ (List.mem_append_right _ (List.mem_append_left _ hzero))
    obtain ⟨t, hreached, hlisted⟩ := exists_listed singleBucket h.absolute hnul
    refine ⟨singleBucket, t, hreached, hrefutes ?_⟩
    rw [admitted hreads h, if_neg (by rw [hadds]; exact Bool.false_ne_true)]
    have hret : (av_behavior_protect_del t r.path).1 = 0 := by
      rw [av_behavior_protect_del, if_pos (onList_iff.mpr hlisted)]
    rw [reply, if_pos hret]

/-- A write to the protected-path file means what it says, whatever the writes before it, exactly
when every reading that it admits is one command. -/
theorem protected_write_means_iff (w : WriteCall) :
    (∀ (H : KernelHash) (t : Table H), Reached t → WriteMeans t w) ↔
      ∀ r, Reads r w.ubuf → Admits w r → Strict r := by
  constructor
  · intro hmeans r hreads hadmits
    by_contra hloose
    obtain ⟨H, t, hreached, hnot⟩ := misread hreads hadmits hloose
    exact hnot (hmeans H t hreached)
  · intro hstrict H t hreached
    rcases protected_proc_write_result t w with hret | herror
    · obtain ⟨r, hreads, hadmits, hdone⟩ :=
        accepted hreached.absolute (hret ▸ Int.natCast_nonneg _)
      exact .inl ⟨hret, hadmits.ppos, r, hreads, hstrict r hreads hadmits, hdone⟩
    · exact .inr herror

end Writes

private theorem admits_short (path : Bytes) (r : Reading) (ubuf : Bytes) (hpath : r.path = path)
    (hhead : path.head? = some slash) (hlen : path.length ≤ 10) (hubuf : ubuf.length ≤ 20) :
    Admits (.plain true ubuf) r := by
  have hmax : PATH_MAX = 4096 := rfl
  have hroom : PROTECTED_WRITE_MAXLEN = PATH_MAX + 16 := rfl
  refine ⟨rfl, rfl, ?_, rfl, rfl, rfl, fun _ => rfl, ?_, ?_⟩
  · show ubuf.length < _
    omega
  · rw [hpath, hhead]
  · rw [hpath]
    omega

/-- White space in front of the command word, white space other than a blank behind it, a second
line, and bytes that a NUL hides. -/
def misreadings : List Reading :=
  [⟨true, 10 :: lit "add", [32], lit "/a", false, none⟩,
    ⟨true, lit "add" ++ 11 :: lit "x", [32], lit "/a", false, none⟩,
    ⟨true, lit "add", [32], lit "/a" ++ 10 :: lit "del /b", false, none⟩,
    ⟨true, lit "add", [32], lit "/a", false, some (lit "del")⟩]

private theorem misreadings_read : ∀ r ∈ misreadings, Reads r r.text := by
  have hfields : ∀ r ∈ misreadings, (0 : UInt8) ∉ r.line ∧
      strcaseeq (firstWord r.head) (commandWord r.adds) = true ∧
      r.head.all (fun b => !isBlank b) = true ∧ r.blanks ≠ [] ∧ r.blanks.all isBlank = true ∧
      r.path ≠ [] ∧ r.path.head? = some slash ∧ r.path.getLast? ≠ some cr := by
    decide
  intro r hr
  obtain ⟨hnul, hcommand, hhead, hblanks_ne, hblanks, hpath_ne, hslash, hlast⟩ := hfields r hr
  refine ⟨rfl, hnul, hcommand, unblank_of_all hhead, hblanks_ne, List.all_eq_true.mp hblanks,
    hpath_ne, ?_, fun _ => hlast⟩
  intro b hb
  obtain rfl := Option.some.inj (hslash.symm.trans hb)
  decide

/-- None of the four is one command, and each is accepted. -/
theorem protected_write_misreads :
    ¬ ∃ r ∈ misreadings, ∀ (H : KernelHash) (t : Table H), Reached t →
      WriteMeans t (.plain true r.text) := by
  have hloose : ∀ r ∈ misreadings, r.path.head? = some slash ∧ r.path.length ≤ 10 ∧
      r.text.length ≤ 20 ∧
      ¬ (strcaseeq r.head (commandWord r.adds) = true ∧ nl ∉ r.path ∧ r.hidden = none) := by
    decide
  rintro ⟨r, hr, hall⟩
  obtain ⟨hslash, hlen, htext, hnot⟩ := hloose r hr
  obtain ⟨H, t, hreached, hmis⟩ := misread (w := .plain true r.text) (misreadings_read r hr)
    (admits_short r.path r _ rfl hslash hlen htext) fun h => hnot ⟨h.bare, h.one_line, h.whole⟩
  exact hmis (hall H t hreached)

end KernelAv.Kernel.ProtectedWrites
