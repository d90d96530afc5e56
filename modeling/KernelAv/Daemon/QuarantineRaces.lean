/- digest: When the quarantine stays sound while scans and commands run at once. -/

import KernelAv.Daemon.QuarantineSteps

set_option autoImplicit false
set_option relaxedAutoImplicit false

namespace KernelAv.Daemon.QuarantineRaces

open KernelAv.Lib.CText
open KernelAv.Lib.Files
open KernelAv.Lib.Run
open KernelAv.Lib.Lines (nl)
open KernelAv.Daemon.Sidecar
open KernelAv.Daemon.Quarantine
open KernelAv.Daemon.QuarantineCalls
open KernelAv.Daemon.QuarantineInvariant
open KernelAv.Daemon.QuarantineSteps

section Runs

variable {S : Store} {d d' : Avd} {x : Call}

/-- A call that has only begun matters to no other. -/
private theorem inv_begin (hinv : Inv S d) (hrests : Call.rests x = true) (hok : CallOk S d x) :
    Inv S { d with calls := d.calls ++ [x] } := by
  have hx := resting_of_rests (S := S) hrests
  have hget : ∀ (u : Nat) (y : Call), (d.calls ++ [x])[u]? = some y →
      y = x ∨ d.calls[u]? = some y := by
    intro u y hy
    rw [List.getElem?_append] at hy
    split at hy
    · exact Or.inr hy
    · exact Or.inl (List.mem_singleton.mp (List.mem_of_getElem? hy))
  have hkeep : ∀ (u : Nat) (y : Call), d.calls[u]? = some y → (d.calls ++ [x])[u]? = some y := by
    intro u y hy
    rw [List.getElem?_append_left (List.getElem?_eq_some_iff.mp hy).1, hy]
  have hself : ∀ y, Compatible S x y ∧ Compatible S y x := fun y =>
    ⟨⟨fun _ h => ne_some hx.holds h, fun _ h => ne_some hx.handle h,
        fun _ h => ne_some hx.pending h⟩,
      ⟨fun _ _ h => ne_some hx.holds h, fun _ _ h => ne_some hx.handle h,
        fun _ _ h => ne_some hx.cleaning h⟩⟩
  constructor
  · intro id j hj
    rcases hinv.locked id j hj with hzero | ⟨u, y, hy, hid⟩
    · exact Or.inl hzero
    · exact Or.inr ⟨u, y, hkeep u y hy, hid⟩
  · intro id j hj
    rcases hinv.described id j hj with hdone | ⟨u, y, hy, hid⟩
    · exact Or.inl hdone
    · exact Or.inr ⟨u, y, hkeep u y hy, hid⟩
  · intro u y h id hy hh hs
    rcases hget u y hy with rfl | hold
    · exact ne_some hx.handle hh
    · exact hinv.writers u y h id hold hh hs
  · intro u y hy
    rcases hget u y hy with rfl | hold
    · exact hok
    · exact hinv.calls u y hold
  · intro u v y z huv hy hz
    rcases hget u y hy with rfl | hy'
    · exact (hself z).1
    · rcases hget v z hz with rfl | hz'
      · exact (hself y).2
      · exact hinv.pairs u v y z huv hy' hz'

private theorem start_no_slash {id : Bytes} (h : quarantine_id_valid id = true) : slash ∉ id := by
  simp only [quarantine_id_valid, Bool.and_eq_true, Bool.not_eq_true'] at h
  simpa using h.1.1.1.2

private theorem restore_start (id : Bytes) : Call.rests (.restore id (Restore.start S id)) = true ∧
    CallOk S d (.restore id (Restore.start S id)) := by
  unfold Restore.start
  split
  · exact ⟨rfl, trivial⟩
  · rename_i hvalid
    split
    · exact ⟨rfl, trivial⟩
    · exact ⟨rfl, start_no_slash (by simpa using hvalid)⟩

private theorem delete_start (id : Bytes) : Call.rests (.delete id (Delete.start S id)) = true ∧
    CallOk S d (.delete id (Delete.start S id)) := by
  unfold Delete.start
  split
  · exact ⟨rfl, trivial⟩
  · rename_i hvalid
    split
    · exact ⟨rfl, trivial⟩
    · exact ⟨rfl, start_no_slash (by simpa using hvalid)⟩

/-- One system call of any call, or the start of one, keeps the invariant. -/
theorem inv_step {a : Action} (hinv : Inv S d) (hok : Apart S d a)
    (hs : d.step S a = some d') : Inv S d' := by
  cases a with
  | convict c =>
    rw [Avd.step] at hs
    split at hs
    · rename_i hfd
      obtain rfl := Option.some.inj hs
      exact inv_begin hinv rfl ⟨hfd, hok, trivial⟩
    · cases hs
  | restore id =>
    obtain rfl := Option.some.inj hs
    obtain ⟨hrest, hstart⟩ := restore_start (S := S) (d := d) id
    exact inv_begin hinv hrest hstart
  | delete id =>
    obtain rfl := Option.some.inj hs
    obtain ⟨hrest, hstart⟩ := delete_start (S := S) (d := d) id
    exact inv_begin hinv hrest hstart
  | call t o =>
    obtain ⟨x, hx, rfl⟩ := Option.map_eq_some_iff.mp hs
    obtain ⟨ho, hfree⟩ := hok x hx
    refine inv_of_change hinv hx rfl ?_
    cases x with
    | quarantine c p => exact change_quarantine _ hinv hx ho hfree
    | restore id p => exact change_restore _ hinv hx (ho.resolve_right Bool.false_ne_true) hfree
    | delete id p => exact change_delete _ hinv hx (ho.resolve_right Bool.false_ne_true) hfree

private theorem inv_started (h : Started S d) : Inv S d := by
  have hnone : ∀ (t : Nat) (x : Call), d.calls[t]? ≠ some x := by
    intro t x hx
    rw [h.no_calls] at hx
    cases hx
  constructor
  · exact fun id j hj => Or.inl (h.sound id j hj).1
  · exact fun id j hj => Or.inl (h.sound id j hj).2
  · exact fun t x _ _ hx => absurd hx (hnone t x)
  · exact fun t x hx => absurd hx (hnone t x)
  · exact fun t u x y _ hx => absurd hx (hnone t x)

private theorem inProgress_of_unlocks {id : Bytes} (h : Call.unlocks x = some id) :
    x.inProgress = true := by
  cases x with
  | quarantine c p =>
    cases p with
    | done r => cases h
    | _ => rfl
  | restore id' p =>
    cases p with
    | done r => cases h
    | _ => rfl
  | delete id' p => cases h

private theorem unlocks_of_describing {id : Bytes} (h : Call.describing x = some id) :
    Call.unlocks x = some id := by
  unfold Call.describing at h
  split at h
  all_goals cases h
  all_goals rfl

/-- As long as calls keep out of each other's way, the quarantine is sound whenever no
`quarantine_file` and no RESTORE is in progress. -/
theorem sound_of_apart {as : List Action} (h : Started S d)
    (hg : Guarded (Avd.step S) (Apart S) d as) (hr : run (Avd.step S) d as = some d')
    (hquiet : ∀ x ∈ d'.calls, x.inProgress = false) : Sound S d' := by
  have hinv : Inv S d' :=
    guarded_invariant (Inv S) (fun _ _ _ hi hok hs => inv_step hi hok hs) (inv_started h) hg hr
  have hnobody : ∀ (t : Nat) (x : Call) (id : Bytes), d'.calls[t]? = some x →
      Call.unlocks x ≠ some id := by
    intro t x id hx hid
    have hbusy := hquiet x (List.mem_of_getElem? hx)
    rw [inProgress_of_unlocks hid] at hbusy
    cases hbusy
  intro id j hj
  refine ⟨?_, ?_⟩
  · rcases hinv.locked id j hj with hzero | ⟨t, x, hx, hid⟩
    · exact hzero
    · exact absurd hid (hnobody t x id hx)
  · rcases hinv.described id j hj with hdone | ⟨t, x, hx, hid⟩
    · exact hdone
    · exact absurd (unlocks_of_describing hid) (hnobody t x id hx)

end Runs

section Concrete

/-- Two regular files: `/t/a` of the mode 0755, and `/t/b` of the mode 0000. -/
private def scannedFiles : Fs where
  names n := if n = (2, lit "a") then some 0 else if n = (2, lit "b") then some 1 else none
  inodes i := ⟨0, S_IFREG ||| if i = 0 then 0o755 else 0, user, user, lit "X5O"⟩
  links _ := 1
  next := 2
  names_lt := by
    intro n i h
    split at h
    · cases h
      decide
    · split at h
      · cases h
        decide
      · cases h

private def booted : Avd := ⟨scannedFiles, [], fun i => statOf (scannedFiles.inodes i)⟩

private theorem booted_started : Started twoDirs booted where
  no_calls := rfl
  sound id j h := by
    have hname : scannedFiles.names (1, entryName id) = none := rfl
    rw [show booted.files.names (twoDirs.root, entryName id) = none from hname] at h
    cases h
  first_eq _ _ := rfl

private def convictA : Conviction := ⟨0, lit "/t/a", lit "eicar", lit "00"⟩

private def convictB : Conviction := ⟨1, lit "/t/b", lit "eicar", lit "00"⟩

private def clockAt (s : Nat) : Outcome := ⟨true, 1000, (s, 42), 7⟩

private def isEntry (S : Store) (path : Bytes) (n : Name) : Bool :=
  match S.lookup path with
  | .ok (.entry m) => m = n
  | _ => false

private theorem isEntry_iff {S : Store} {path : Bytes} {n : Name} :
    isEntry S path n = true ↔ S.lookup path = .ok (.entry n) := by
  unfold isEntry
  split
  · rename_i m hm
    rw [hm, decide_eq_true_eq]
    constructor
    · rintro rfl
      rfl
    · intro h
      exact Place.entry.inj (Except.ok.inj h)
  · rename_i hnot
    simp only [Bool.false_eq_true, false_iff]
    exact hnot n

/-- A check of one step, enough for the calls to keep out of each other's way. -/
private def keepsApart (d : Avd) : Action → Bool
  | .convict c => c ∈ [convictA, convictB]
  | .call t o =>
      d.calls[t]?.all fun x => o.ok && match x with
        | .quarantine c .fstat =>
            statOf (d.files.inodes c.fd) = d.first c.fd && c.path ≠ [] && !c.path.contains nl
        | .quarantine c (.clock_gettime _) =>
            let id := quarantine_id twoDirs o.now (basename c.path)
            isEntry twoDirs (meta_path twoDirs id) (1, metaName id) &&
              d.files.names (1, entryName id) = none && d.files.names (1, metaName id) = none &&
              d.calls.all fun y => Call.uses twoDirs y ≠ some id
        | .restore _ (.fchmod m _) => m.original_mode &&& S_IALLUGO = 0
        | .restore _ (.rename m) =>
            isEntry twoDirs m.original_path (2, lit "b") && d.files.names (2, lit "b") = none
        | .delete id .unlinkDest => d.calls.all fun y => Call.pending twoDirs y ≠ some id
        | _ => true
  | _ => true

private theorem admissible_of_mem {c : Conviction} (h : c ∈ [convictA, convictB]) :
    Admissible twoDirs c := by
  have hplace : isEntry twoDirs convictA.path (2, lit "a") = true ∧
      isEntry twoDirs convictB.path (2, lit "b") = true := by decide
  simp only [List.mem_cons, List.not_mem_nil, or_false] at h
  rcases h with rfl | rfl
  · refine ⟨by constructor <;> decide, fun id hid => ?_⟩
    rw [isEntry_iff.mp hplace.1] at hid
    cases congrArg Prod.fst (Place.entry.inj (Except.ok.inj hid))
  · refine ⟨by constructor <;> decide, fun id hid => ?_⟩
    rw [isEntry_iff.mp hplace.2] at hid
    cases congrArg Prod.fst (Place.entry.inj (Except.ok.inj hid))

private theorem apart_of_keepsApart {d : Avd} {a : Action} (h : keepsApart d a = true) :
    Apart twoDirs d a := by
  cases a with
  | convict c => exact admissible_of_mem (of_decide_eq_true h)
  | restore id => trivial
  | delete id => trivial
  | call t o =>
    intro x hx
    simp only [keepsApart, hx, Option.all_some, Bool.and_eq_true] at h
    obtain ⟨ho, h⟩ := h
    refine ⟨Or.inl ho, ?_⟩
    split at h
    · simp only [Bool.and_eq_true, decide_eq_true_eq, Bool.not_eq_true', List.contains_eq_mem,
        decide_eq_false_iff_not] at h
      exact ⟨h.1.1, attributesInert_of_line h.1.2 h.2⟩
    · simp only [Bool.and_eq_true, decide_eq_true_eq, List.all_eq_true] at h
      exact fun _ => ⟨isEntry_iff.mp h.1.1.1, h.1.1.2, h.1.2, h.2⟩
    · exact Or.inl (of_decide_eq_true h)
    · simp only [Bool.and_eq_true, decide_eq_true_eq] at h
      intro i _
      refine ⟨(2, lit "b"), isEntry_iff.mp h.1, rfl, fun id => ⟨?_, ?_⟩, ?_, ?_⟩
      · exact fun hid => absurd (congrArg Prod.fst hid) (show (2 : Nat) ≠ 1 by decide)
      · exact fun hid => absurd (congrArg Prod.fst hid) (show (2 : Nat) ≠ 1 by decide)
      · rw [h.2]
        exact nofun
      · rw [h.2]
        exact nofun
    · simp only [List.all_eq_true, decide_eq_true_eq] at h
      exact h
    · rename_i hfstat hclock hfchmod hrename hunlink
      unfold Undisturbed
      split
      · exact absurd rfl (hfstat _)
      · exact absurd rfl (hclock _ _)
      · exact absurd rfl (hfchmod _ _ _)
      · exact absurd rfl (hrename _ _)
      · exact absurd rfl (hunlink _)
      · trivial

/-- Two scans call by call in turn; then a RESTORE of the one file, and a DELETE of its id. -/
private def scansAndCommands : List Action :=
  .convict convictA :: .convict convictB ::
    (List.replicate 10 [.call 0 (clockAt 5), .call 1 (clockAt 5)]).flatten ++
      .restore (lit "7_5000000042_b") :: .delete (lit "7_5000000042_b") ::
        List.replicate 12 (.call 2 (clockAt 9)) ++ List.replicate 2 (.call 3 (clockAt 9))

/-- Files of their own are quarantined at once, and one of them is restored. -/
theorem scans_of_two_files_sound :
    ∃ d', run (Avd.step twoDirs) booted scansAndCommands = some d' ∧
      d'.files.names (1, entryName (lit "7_5000000042_a")) = some 0 ∧
      d'.files.names (2, lit "b") = some 1 ∧ Sound twoDirs d' := by
  have hend : (run (Avd.step twoDirs) booted scansAndCommands).any (fun d =>
      d.files.names (1, entryName (lit "7_5000000042_a")) = some 0 &&
        d.files.names (2, lit "b") = some 1 && d.calls.all fun x => !x.inProgress) = true := by
    decide +kernel
  obtain ⟨d', hrun, hd'⟩ := (Option.any_eq_true _ _).mp hend
  simp only [Bool.and_eq_true, decide_eq_true_eq, List.all_eq_true, Bool.not_eq_true'] at hd'
  have hguard : Guarded (Avd.step twoDirs) (fun d a => keepsApart d a = true) booted
      scansAndCommands := by decide +kernel
  exact ⟨d', hrun, hd'.1.1, hd'.1.2, sound_of_apart booted_started
    (hguard.imp fun _ _ => apart_of_keepsApart) hrun hd'.2⟩

/-- A scan holds a descriptor of the file at its path, which is not in the quarantine; and no
system call fails for an external reason. -/
def Unfailing (S : Store) (d : Avd) : Action → Prop
  | .convict c => Writable c.path c.rule_name c.sha256_hex ∧ nl ∉ c.path ∧
      ∃ n, S.lookup c.path = .ok (.entry n) ∧ n.1 ≠ S.root ∧ d.files.names n = some c.fd
  | .call _ o => o.ok = true
  | _ => True

/-- Two scans of one file, one after the other. -/
private def executedTwice : List Action :=
  .convict convictA :: .convict convictA ::
    (List.replicate 10 (.call 0 (clockAt 5)) ++ List.replicate 10 (.call 1 (clockAt 6)))

private theorem executedTwice_unfailing :
    Guarded (Avd.step twoDirs) (Unfailing twoDirs) booted executedTwice := by
  have hconvict : ∀ d : Avd, d.files.names (2, lit "a") = some 0 →
      Unfailing twoDirs d (.convict convictA) := fun d hd =>
    ⟨by constructor <;> decide, by decide, (2, lit "a"), isEntry_iff.mp (by decide), by decide, hd⟩
  refine ⟨hconvict booted rfl, fun d hd => ⟨hconvict d ?_, fun d' _ => ?_⟩⟩
  · obtain rfl := Option.some.inj hd
    rfl
  · refine guarded_of_forall fun a ha d'' => ?_
    simp only [List.mem_append, List.mem_replicate] at ha
    rcases ha with ⟨-, rfl⟩ | ⟨-, rfl⟩ <;> rfl

/-- The second scan of a file finds it as the first has locked it, and saves that. -/
theorem second_scan_saves_lock :
    ¬ ∀ (S : Store) (d d' : Avd) (as : List Action), Started S d →
        Guarded (Avd.step S) (Unfailing S) d as → run (Avd.step S) d as = some d' →
        (∀ x ∈ d'.calls, x.inProgress = false) → Sound S d' := by
  intro hall
  have hend : (run (Avd.step twoDirs) booted executedTwice).any (fun d =>
      (d.calls.all fun x => !x.inProgress) &&
        d.files.names (1, entryName (lit "7_6000000042_a")) = some 0 &&
        (d.files.names (1, metaName (lit "7_6000000042_a"))).any fun s =>
          (read_quarantine_meta (some (d.files.inodes s).data)).any fun m =>
            m.original_mode ≠ savedMode (some (d.first 0))) = true := by decide +kernel
  obtain ⟨d', hrun, hd'⟩ := (Option.any_eq_true _ _).mp hend
  simp only [Bool.and_eq_true, decide_eq_true_eq, List.all_eq_true, Bool.not_eq_true'] at hd'
  obtain ⟨⟨hquiet, hentry⟩, hmeta⟩ := hd'
  obtain ⟨s, hs, hmode⟩ := (Option.any_eq_true _ _).mp hmeta
  obtain ⟨m, hm, hdiffers⟩ := (Option.any_eq_true _ _).mp hmode
  obtain ⟨-, s', hs', m', hm', hsaved, -⟩ := hall twoDirs booted d' executedTwice booted_started
    executedTwice_unfailing hrun hquiet _ 0 hentry
  obtain rfl := Option.some.inj (hs.symm.trans hs')
  obtain rfl := Option.some.inj (hm.symm.trans hm')
  exact of_decide_eq_true hdiffers hsaved

end Concrete

end KernelAv.Daemon.QuarantineRaces
