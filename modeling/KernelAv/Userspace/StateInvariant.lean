/- digest: What the entries look like in every state that writes to the proc files build. -/

import KernelAv.Kernel.ProtectedWrites
import KernelAv.Kernel.HashWrites
import KernelAv.Userspace.StateFile

set_option autoImplicit false
set_option relaxedAutoImplicit false

namespace KernelAv.Userspace.StateInvariant

open KernelAv.Lib.CText hiding isspace
open KernelAv.Lib.Chains
open KernelAv.Lib.Lines (nl)
open KernelAv.Lib.Scanf
open KernelAv.Kernel
open KernelAv.Kernel.Paths (slash)
open KernelAv.Kernel.BehaviorTable (KernelHash)
open KernelAv.Kernel.SigTable
open KernelAv.Kernel.SigTableRefinement
open KernelAv.Kernel.TrustTable (TrustEntry SHA256_HEX_LEN TRUST_NAME_LEN)
open KernelAv.Kernel.ListTables (Absolute AllAbsolute AllCanonical Canonical)
open KernelAv.Kernel.ProcWrite
open KernelAv.Userspace.Avctl (AVCTL_NAME_MAXLEN)
open KernelAv.Userspace.StateFile

/-- A name as the kernel's parsers leave it. -/
structure KeptName (name : Bytes) : Prop where
  ne_nil : name ≠ []
  length_le : name.length ≤ AVCTL_NAME_MAXLEN
  line : IsLine name
  head : ∀ b, name.head? = some b → isspace b = false

structure KeptSig (e : SigEntry) : Prop where
  length_eq : e.hex.length = algo_hexlen e.algo
  digits : e.hex.all isLowerHex = true
  name : KeptName e.name

/-- The hash is any word of the right length: the table does not ask for digits. -/
structure KeptTrust (e : TrustEntry) : Prop where
  canonical : Canonical e.sha256_hex
  no_space : ∀ b ∈ e.sha256_hex, isspace b = false
  no_nul : (0 : UInt8) ∉ e.sha256_hex
  name : KeptName e.name

structure KeptPath (path : Bytes) : Prop where
  absolute : Absolute path
  no_nul : (0 : UInt8) ∉ path

variable {H : KernelHash}

structure Kept (s : ProcState H) : Prop where
  counted : Counted s.sig
  sigs : ∀ e ∈ s.sig.sig_table.entries, KeptSig e
  trusts : ∀ e ∈ s.trust.entries, KeptTrust e
  paths : ∀ p ∈ s.protected_table.entries, KeptPath p

/-- The states from the loading of the module on, whoever writes to its files. -/
inductive Reached : ProcState H → Prop
  | load (kmalloc_ok : Bool) : Reached (av_init H kmalloc_ok)
  | write {s : ProcState H} (h : Reached s) (w : WriteCall) (file : ProcFile) :
      Reached (procWrite s w file).2

section Parsed

variable {s cmd algo_str hex name : Bytes} {more : List Bytes}

private theorem not_nul_of_cstr {b : Bytes} : (0 : UInt8) ∉ cstr b := by
  intro h
  simpa using List.mem_takeWhile_imp h

/-- The last field of both formats is a name that the table keeps as it is. -/
private theorem kept_name {fmt : List Directive} {fields : List Bytes}
    (hs : (0 : UInt8) ∉ s) (hscan : sscanf fmt s = fields) (hmem : name ∈ fields)
    {rest : Bytes} (hlast : name :: more = sscanf [.space, .upTo 63 nl] rest) : KeptName name := by
  rw [sscanf_space] at hlast
  obtain ⟨hname, hne⟩ := sscanf_upTo_inv hlast.symm
  refine ⟨hne, ?_, ⟨?_, ?_⟩, ?_⟩
  · rw [hname]
    exact List.length_take_le _ _
  · intro h
    rw [hname] at h
    simpa using List.mem_takeWhile_imp (List.mem_of_mem_take h)
  · rw [← hscan] at hmem
    exact fun h => hs (mem_of_mem_sscanf hmem h)
  · intro b hb
    obtain ⟨a, t, hcons⟩ : ∃ a t, skip_spaces rest = a :: t := by
      refine List.exists_cons_of_ne_nil fun hnil => hne ?_
      rw [hname, hnil]
      rfl
    have ha : isspace a = false := by
      have hstop := List.head?_dropWhile_not isspace rest
      rw [show rest.dropWhile isspace = a :: t from hcons] at hstop
      exact hstop
    have hnl : a ≠ nl := by
      rintro rfl
      exact absurd ha (by decide)
    rw [hname, hcons, List.takeWhile_cons_of_pos (by simpa using hnl)] at hb
    rw [← Option.some.inj hb]
    exact ha

theorem sig_name_kept (hs : (0 : UInt8) ∉ s)
    (hscan : sscanf sigFormat s = cmd :: algo_str :: hex :: name :: more) : KeptName name := by
  obtain ⟨-, t₁, h₁⟩ := sscanf_word_inv hscan
  rw [sscanf_space] at h₁
  obtain ⟨-, t₂, h₂⟩ := sscanf_word_inv h₁.symm
  rw [sscanf_space] at h₂
  obtain ⟨-, t₃, h₃⟩ := sscanf_word_inv h₂.symm
  exact kept_name hs hscan (by simp) h₃

theorem trust_fields_kept (hs : (0 : UInt8) ∉ s)
    (hscan : sscanf trustFormat s = cmd :: hex :: name :: more) :
    (∀ b ∈ hex, isspace b = false) ∧ (0 : UInt8) ∉ hex ∧ KeptName name := by
  obtain ⟨-, t₁, h₁⟩ := sscanf_word_inv hscan
  rw [sscanf_space] at h₁
  obtain ⟨hhex, t₂, h₂⟩ := sscanf_word_inv h₁.symm
  refine ⟨?_, ?_, kept_name hs hscan (by simp) h₂⟩
  · intro b hb
    rw [hhex] at hb
    exact firstWord_no_space (List.mem_of_mem_take hb)
  · intro h
    have hmem : hex ∈ sscanf trustFormat s := by
      rw [hscan]
      simp
    exact hs (mem_of_mem_sscanf hmem h)

private theorem tolower_ne_zero {b : UInt8} (h : b ≠ 0) : tolower b ≠ 0 := by
  have hall : ∀ n : Fin 256, UInt8.ofNat n ≠ 0 → tolower (UInt8.ofNat n) ≠ 0 := by
    decide +kernel
  have hb := hall ⟨b.toNat, b.toNat_lt⟩
  simp only [UInt8.ofNat_toNat] at hb
  exact hb h

end Parsed

section Steps

variable {s : ProcState H}

private theorem sig_write_kept (h : Kept s) (w : WriteCall) :
    Counted (sig_proc_write s.sig w).2 ∧
      ∀ e ∈ (sig_proc_write s.sig w).2.sig_table.entries, KeptSig e := by
  have hcounted : Counted (sig_proc_write s.sig w).2 :=
    sig_proc_write_keeps (P := Counted)
      (fun _ ok algo hex name ht => add_counted ht ok algo hex name)
      (fun _ algo hex ht => del_counted ht algo hex) h.counted w
  refine ⟨hcounted, fun e he => ?_⟩
  obtain ⟨hlen, hdigits⟩ := hcounted.entry (HashTable.mem_entries.mp he)
  refine ⟨hlen, hdigits, ?_⟩
  rcases HashWrites.sig_proc_write_result s.sig w with hret | ⟨-, hsame⟩
  · obtain ⟨cmd, algo_str, hex, name, algo, hscan, -, hcase⟩ :=
      sig_proc_write_ok
        (show 0 ≤ (sig_proc_write s.sig w).1 by rw [hret]; exact Int.natCast_nonneg _)
    rcases hcase with ⟨-, first, more, rfl, hadd, htable⟩ | ⟨-, hdel, htable⟩
    · obtain ⟨x, -, -, hxname, -, -, -, hfind⟩ := add_ok hadd
      have hname := sig_name_kept not_nul_of_cstr hscan
      rw [htable] at he
      rcases HashTable.mem_of_inserted hfind he with rfl | hold
      · have hshort : first.length < AV_SIG_NAME_LEN :=
          lt_of_le_of_lt hname.length_le (by decide)
        rw [hxname, strscpy_eq_self hshort]
        exact hname
      · exact (h.sigs e hold).name
    · obtain ⟨x, -, -, hfind⟩ := del_ok hdel
      rw [htable] at he
      exact (h.sigs e (HashTable.mem_of_deleted hfind he)).name
  · rw [hsame] at he
    exact (h.sigs e he).name

private theorem trust_write_kept (h : Kept s) (w : WriteCall) :
    ∀ e ∈ (trust_proc_write s.trust w).2.entries, KeptTrust e := by
  intro e he
  rcases HashWrites.trust_proc_write_result s.trust w with hret | ⟨-, hsame⟩
  · obtain ⟨cmd, hex, name, hscan, hcase⟩ :=
      trust_proc_write_ok
        (show 0 ≤ (trust_proc_write s.trust w).1 by rw [hret]; exact Int.natCast_nonneg _)
    rcases hcase with ⟨-, first, more, rfl, hadd, htable⟩ | ⟨-, hdel, htable⟩
    · obtain ⟨hlen, x, hxhex, hxname, -, hfind⟩ := TrustTable.trust_add_ok hadd
      obtain ⟨hspace, hnul, hname⟩ := trust_fields_kept not_nul_of_cstr hscan
      rw [htable] at he
      rcases HashTable.mem_of_inserted hfind he with rfl | hold
      · have hshort : first.length < TRUST_NAME_LEN := lt_of_le_of_lt hname.length_le (by decide)
        refine ⟨⟨?_, ?_⟩, ?_, ?_, ?_⟩
        · rw [hxhex]
          exact (List.length_map _).trans hlen
        · rw [hxhex, TrustTable.hex_tolower, TrustTable.hex_tolower, List.map_map]
          exact List.map_congr_left fun b _ => tolower_tolower b
        · intro b hb
          rw [hxhex] at hb
          obtain ⟨a, ha, rfl⟩ := List.mem_map.mp hb
          rw [isspace_tolower]
          exact hspace a ha
        · intro hzero
          rw [hxhex] at hzero
          obtain ⟨a, ha, heq⟩ := List.mem_map.mp hzero
          exact tolower_ne_zero (fun h0 => hnul (h0 ▸ ha)) heq
        · rw [hxname, strscpy_eq_self hshort]
          exact hname
      · exact h.trusts e hold
    · obtain ⟨-, -, hfind⟩ := TrustTable.trust_del_ok hdel
      rw [htable] at he
      have hkept := HashTable.mem_entries.mp he
      rw [hfind] at hkept
      obtain ⟨x, hx, hsame⟩ := Option.bind_eq_some_iff.mp hkept
      split at hsame
      · cases hsame
      · obtain rfl := Option.some.inj hsame
        exact h.trusts x (HashTable.mem_entries.mpr hx)
  · rw [hsame] at he
    exact h.trusts e he

theorem Kept.absolute (h : Kept s) : AllAbsolute s.protected_table := by
  intro p hp
  obtain ⟨q, hq⟩ := Option.isSome_iff_exists.mp hp
  obtain rfl := HashTable.key_of_find? hq
  exact (h.paths q (HashTable.mem_entries.mpr hq)).absolute

theorem Kept.canonical (h : Kept s) : AllCanonical s.trust := by
  intro k e he
  obtain rfl := HashTable.key_of_find? he
  exact (h.trusts e (HashTable.mem_entries.mpr he)).canonical

private theorem protected_write_kept (h : Kept s) (w : WriteCall) :
    ∀ p ∈ (protected_proc_write s.protected_table w).2.entries, KeptPath p := by
  intro p hp
  rcases ProtectedWrites.protected_proc_write_result s.protected_table w with hret | ⟨-, hsame⟩
  · obtain ⟨r, hreads, hadmits, -, hfind⟩ := ProtectedWrites.accepted h.absolute
      (show 0 ≤ (protected_proc_write s.protected_table w).1 by
        rw [hret]; exact Int.natCast_nonneg _)
    have hnul : (0 : UInt8) ∉ r.path := by
      intro hzero
      apply hreads.no_nul
      rw [ProtectedWrites.Reading.line]
      exact List.mem_append_right _ (List.mem_append_right _ (List.mem_append_left _ hzero))
    cases hadds : r.adds with
    | true =>
      rw [hadds] at hfind
      rcases HashTable.mem_of_inserted hfind hp with rfl | hold
      · exact ⟨hadmits.absolute, hnul⟩
      · exact h.paths p hold
    | false =>
      rw [hadds] at hfind
      exact h.paths p (HashTable.mem_of_deleted (e := r.path) hfind hp)
  · rw [hsame] at hp
    exact h.paths p hp

/-- A write keeps the tables as they are described. -/
theorem Kept.write (h : Kept s) (w : WriteCall) (file : ProcFile) :
    Kept (procWrite s w file).2 := by
  cases file with
  | signatures =>
    obtain ⟨hcounted, hsigs⟩ := sig_write_kept h w
    exact ⟨hcounted, hsigs, h.trusts, h.paths⟩
  | trusted => exact ⟨h.counted, h.sigs, trust_write_kept h w, h.paths⟩
  | protected_paths => exact ⟨h.counted, h.sigs, h.trusts, protected_write_kept h w⟩
  | daemon_policy => exact ⟨h.counted, h.sigs, h.trusts, h.paths⟩

/-- The seed signature. -/
def eicar : SigEntry := ⟨.sha256, EICAR_NAME, EICAR_HEX⟩

theorem eicar_kept : KeptSig eicar where
  length_eq := by decide
  digits := by decide +kernel
  name := ⟨by decide, by decide, ⟨by decide, by decide⟩, by
    intro b hb
    obtain rfl := Option.some.inj hb
    decide⟩

theorem entries_empty {κ α : Type} {n : Nat} {key : α → κ} {bucket : κ → Fin n} :
    (HashTable.empty : HashTable key bucket).entries = [] :=
  List.flatMap_eq_nil_iff.mpr fun _ _ => rfl

private theorem empty_counted (H : KernelHash) : Counted (Table.empty : SigTable.Table H) :=
  ⟨∅, refines_empty H⟩

/-- The freshly loaded module has the seed signature and no other. -/
theorem init_find (H : KernelHash) (k : AvAlgo × Bytes) :
    (av_init H true).sig.sig_table.find? k = if k = eicar.key then some eicar else none := by
  have hname : eicar.name.length < AV_SIG_NAME_LEN := by decide
  rcases (empty_counted H).add_cases eicar_kept.length_eq eicar_kept.digits hname with
    ⟨-, -, hfind⟩ | ⟨-, hsome, -⟩ | ⟨-, -, hfull, -⟩
  · exact hfind k
  · cases hsome
  · have hzero : (Table.empty : SigTable.Table H).sig_table.entries = [] := entries_empty
    rw [hzero] at hfull
    exact absurd hfull (by decide)

private theorem init_failed (H : KernelHash) : (av_init H false).sig = Table.empty := by
  rcases add_result (Table.empty : SigTable.Table H) false AvAlgo.sha256.val EICAR_HEX EICAR_NAME
    with ⟨-, hok⟩ | ⟨-, hsame⟩
  · cases hok
  · exact hsame

theorem kept_init (H : KernelHash) (kmalloc_ok : Bool) : Kept (av_init H kmalloc_ok) := by
  refine ⟨add_counted (empty_counted H) kmalloc_ok _ _ _, ?_, ?_, ?_⟩
  · intro e he
    cases kmalloc_ok with
    | true =>
      have hfind := HashTable.mem_entries.mp he
      rw [init_find] at hfind
      split at hfind
      · obtain rfl := Option.some.inj hfind
        exact eicar_kept
      · cases hfind
    | false =>
      rw [init_failed] at he
      rw [show (Table.empty : SigTable.Table H).sig_table.entries = [] from entries_empty] at he
      exact absurd he List.not_mem_nil
  · intro e he
    rw [show (av_init H kmalloc_ok).trust.entries = [] from entries_empty] at he
    exact absurd he List.not_mem_nil
  · intro p hp
    rw [show (av_init H kmalloc_ok).protected_table.entries = [] from entries_empty] at hp
    exact absurd hp List.not_mem_nil

theorem Reached.kept (h : Reached s) : Kept s := by
  induction h with
  | load kmalloc_ok => exact kept_init H kmalloc_ok
  | write _ w file ih => exact ih.write w file

end Steps

end KernelAv.Userspace.StateInvariant
