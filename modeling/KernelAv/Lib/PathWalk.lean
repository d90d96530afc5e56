/- digest: Path walks through a tree with links, and when two viewers of the tree walk alike. -/

import Mathlib.Logic.Basic
import Mathlib.Tactic.ByContra

set_option autoImplicit false
set_option relaxedAutoImplicit false

namespace KernelAv.Lib.PathWalk

/-- One component of a path text. -/
inductive Component (κ : Type) where
  | here
  | up
  | name (k : κ)
  deriving DecidableEq

structure PathText (κ : Type) where
  absolute : Bool
  components : List (Component κ)
  deriving DecidableEq

/-- What following a link leads to: a text to walk, or straight to a place. -/
inductive Target (κ ν : Type) where
  | text (t : PathText κ)
  | jump (n : ν)
  | broken
  deriving DecidableEq

/-- Places, their entries and links. What a link says, and which places may be searched or
opened, can depend on the task that asks. -/
structure FileTree (κ τ ν : Type) where
  directory : ν → Bool
  entry : ν → κ → Option ν
  parent : ν → Option ν
  isLink : ν → Bool
  target : τ → ν → Target κ ν
  allows : τ → ν → Bool

/-- Who walks, and which place is the root for it. -/
structure View (τ ν : Type) where
  task : τ
  root : ν
  deriving DecidableEq

inductive Move (ν : Type) where
  | enter (n : ν)
  | link (n : ν)
  | lost
  deriving DecidableEq

/-- Where the walk of a list of components stops: at its end, or at the first link, with the
directory that holds the link and the components left. -/
inductive Stop (κ ν : Type) where
  | arrived (n : ν)
  | link (dir n : ν) (rest : List (Component κ))
  | lost
  deriving DecidableEq

section Walks

variable {κ τ ν : Type} [DecidableEq ν] (F : FileTree κ τ ν) (V : View τ ν)

/-- One component; `up` does not leave the root. -/
def move (c : Component κ) (loc : ν) : Move ν :=
  if F.directory loc && F.allows V.task loc then
    match c with
    | .here => .enter loc
    | .up => if loc = V.root then .enter loc else (F.parent loc).elim .lost .enter
    | .name k =>
        match F.entry loc k with
        | none => .lost
        | some n => if F.isLink n then .link n else .enter n
  else .lost

variable {F V} in
private theorem move_of_open {c : Component κ} {loc : ν}
    (h : (F.directory loc && F.allows V.task loc) = true) :
    move F V c loc = match c with
      | .here => .enter loc
      | .up => if loc = V.root then .enter loc else (F.parent loc).elim .lost .enter
      | .name k =>
          match F.entry loc k with
          | none => .lost
          | some n => if F.isLink n then .link n else .enter n :=
  if_pos h

/-- From the place the component leads to `n`, which is no link. -/
def Enters : Component κ → ν → ν → Prop
  | .here, loc, n => loc = n
  | .up, loc, n => if loc = V.root then loc = n else F.parent loc = some n
  | .name k, loc, n => F.entry loc k = some n ∧ F.isLink n = false

variable {F V} in
theorem move_enter_iff {c : Component κ} {loc n : ν} : move F V c loc = .enter n ↔
    (F.directory loc && F.allows V.task loc) = true ∧ Enters F V c loc n := by
  by_cases hopen : (F.directory loc && F.allows V.task loc) = true
  · rw [move_of_open hopen, and_iff_right hopen]
    cases c with
    | here => exact Move.enter.injEq loc n ▸ Iff.rfl
    | up =>
      dsimp only [Enters]
      split
      · exact Move.enter.injEq loc n ▸ Iff.rfl
      · cases F.parent loc with
        | none => exact iff_of_false (fun h => by cases h) (fun h => by cases h)
        | some p => simp
    | name k =>
      dsimp only [Enters]
      cases F.entry loc k with
      | none => exact iff_of_false (fun h => by cases h) (fun h => by cases h.1)
      | some m =>
        dsimp only
        split
        · rename_i hlink
          refine iff_of_false (fun h => by cases h) ?_
          rintro ⟨hm, hplain⟩
          obtain rfl := Option.some.inj hm
          rw [hplain] at hlink
          cases hlink
        · rename_i hplain
          rw [Move.enter.injEq, Option.some.injEq]
          exact ⟨fun h => ⟨h, h ▸ Bool.eq_false_iff.mpr hplain⟩, And.left⟩
  · unfold move
    rw [if_neg hopen]
    exact iff_of_false (fun h => by cases h) fun h => hopen h.1

variable {F V} in
theorem isLink_of_move {c : Component κ} {loc n : ν} (h : move F V c loc = .link n) :
    F.isLink n = true := by
  unfold move at h
  split at h
  · cases c with
    | here => cases h
    | up =>
      dsimp only at h
      split at h
      · cases h
      · cases hp : F.parent loc with
        | none =>
          rw [hp] at h
          cases h
        | some p =>
          rw [hp] at h
          cases h
    | name k =>
      dsimp only at h
      split at h
      · cases h
      · split at h
        · rename_i hlink
          cases h
          exact hlink
        · cases h
  · cases h

def scan : List (Component κ) → ν → Stop κ ν
  | [], loc => .arrived loc
  | c :: rest, loc =>
      match move F V c loc with
      | .enter n => scan rest n
      | .link n => .link loc n rest
      | .lost => .lost

/-- The components a link puts in front, and the place they start from. -/
def follow (dir n : ν) : Option (List (Component κ) × ν) :=
  match F.target V.task n with
  | .text t => some (t.components, if t.absolute then V.root else dir)
  | .jump m => some ([], m)
  | .broken => none

/-- The walk, with a limit on the links it follows. -/
def walk : Nat → List (Component κ) → ν → Option ν
  | links, todo, loc =>
      match scan F V todo loc with
      | .arrived n => some n
      | .lost => none
      | .link dir n rest =>
          match links with
          | 0 => none
          | links + 1 =>
              match follow F V dir n with
              | none => none
              | some (components, start) => walk links (components ++ rest) start

def resolve (links : Nat) (t : PathText κ) (base : ν) : Option ν :=
  walk F V links t.components (if t.absolute then V.root else base)

/-- What a move leads to, a link itself included. -/
def Move.place : Move ν → Option ν
  | .enter n => some n
  | .link n => some n
  | .lost => none

/-- The walk that does not follow a link at its end. -/
def locate (links : Nat) (todo : List (Component κ)) (loc : ν) : Option ν :=
  match todo.getLast? with
  | none => some loc
  | some c => (walk F V links todo.dropLast loc).bind fun dir => (move F V c dir).place

end Walks

section Prefixes

variable {κ τ ν : Type} [DecidableEq ν] {F : FileTree κ τ ν} {V : View τ ν}
variable {c : Component κ} {comps rest : List (Component κ)} {loc dir n : ν}

theorem walk_arrived {links : Nat} (h : scan F V comps loc = .arrived n) :
    walk F V links comps loc = some n := by
  unfold walk
  rw [h]

theorem scan_append (h : scan F V comps loc = .arrived dir) :
    scan F V (comps ++ rest) loc = scan F V rest dir := by
  induction comps generalizing loc with
  | nil =>
    rw [scan] at h
    rw [List.nil_append, Stop.arrived.inj h]
  | cons c comps ih =>
    rw [scan] at h
    rw [List.cons_append, scan]
    cases hm : move F V c loc with
    | enter n =>
      rw [hm] at h
      exact ih h
    | link n =>
      rw [hm] at h
      cases h
    | lost =>
      rw [hm] at h
      cases h

private theorem open_of_move (hc : move F V c dir ≠ .lost) :
    (F.directory dir && F.allows V.task dir) = true := by
  by_contra hno
  exact hc (if_neg hno)

/-- Components that stay where they are lead nowhere else. -/
private theorem scan_here (hopen : (F.directory dir && F.allows V.task dir) = true) (k : Nat) :
    scan F V (List.replicate k .here) dir = .arrived dir := by
  induction k with
  | zero => rfl
  | succ k ih =>
    rw [List.replicate_succ, scan, move_of_open hopen]
    exact ih

theorem scan_next (h : scan F V comps loc = .arrived dir) (hc : move F V c dir = .enter n)
    (k : Nat) : scan F V (comps ++ List.replicate k .here ++ [c]) loc = .arrived n := by
  have hne : move F V c dir ≠ .lost := by
    intro hlost
    cases hc.symm.trans hlost
  have hdir : scan F V (comps ++ List.replicate k .here) loc = .arrived dir := by
    rw [scan_append h, scan_here (open_of_move hne)]
  rw [scan_append hdir, scan, hc]
  rfl

/-- Where the last component leads is seen from the place that the others lead to. -/
theorem locate_next (links : Nat) (h : scan F V comps loc = .arrived dir) (k : Nat) :
    locate F V links (comps ++ List.replicate k .here ++ [c]) loc =
      (move F V c dir).place := by
  rw [locate, List.getLast?_concat, List.dropLast_concat]
  dsimp only
  by_cases hopen : (F.directory dir && F.allows V.task dir) = true
  · have hdir : scan F V (comps ++ List.replicate k .here) loc = .arrived dir := by
      rw [scan_append h, scan_here hopen]
    rw [walk_arrived hdir, Option.bind_some]
  · have hlost : ∀ c, move F V c dir = .lost := fun c => if_neg hopen
    cases k with
    | zero =>
      rw [List.replicate_zero, List.append_nil, walk_arrived h, Option.bind_some]
    | succ k =>
      have hscan : scan F V (comps ++ List.replicate (k + 1) .here) loc = .lost := by
        rw [scan_append h, List.replicate_succ, scan, hlost]
      rw [walk, hscan, hlost]
      rfl

end Prefixes

section TwoViews

variable {κ τ ν : Type} (F : FileTree κ τ ν) (V V' : View τ ν)

/-- The other viewer may search the place too, and goes up from it likewise. -/
structure StepSafe (c : Component κ) (loc : ν) : Prop where
  allowed : F.allows V'.task loc = true
  up : c = .up → (loc = V.root ↔ loc = V'.root) ∨ F.parent loc = some loc

/-- The link says the same to the other viewer, and an absolute text starts at the same root. -/
structure LinkSafe (n : ν) : Prop where
  target : F.target V'.task n = F.target V.task n
  root : ∀ t, F.target V.task n = .text t → t.absolute = true → V'.root = V.root

variable {F V V'} in
private theorem follow_eq_of_safe {dir n : ν} (h : LinkSafe F V V' n) :
    follow F V' dir n = follow F V dir n := by
  rw [follow, follow, h.target]
  cases ht : F.target V.task n with
  | jump m => rfl
  | broken => rfl
  | text t =>
    dsimp only
    cases ha : t.absolute with
    | false => rfl
    | true => rw [h.root t ht ha]

variable [DecidableEq ν]

def ScanSafe : List (Component κ) → ν → Prop
  | [], _ => True
  | c :: rest, loc =>
      StepSafe F V V' c loc ∧
        match move F V c loc with
        | .enter n => ScanSafe rest n
        | _ => True

/-- Each step and each link of the first viewer's walk is safe. -/
def WalkSafe : Nat → List (Component κ) → ν → Prop
  | links, todo, loc =>
      ScanSafe F V V' todo loc ∧
        match scan F V todo loc with
        | .link dir n rest =>
            match links with
            | 0 => True
            | links + 1 =>
                LinkSafe F V V' n ∧
                  match follow F V dir n with
                  | none => True
                  | some (components, start) => WalkSafe links (components ++ rest) start
        | _ => True

variable {F V V'}

/-- A move that leads somewhere is the same for the other viewer exactly when it is safe. -/
theorem move_eq_iff {c : Component κ} {loc : ν} (h : move F V c loc ≠ .lost) :
    move F V' c loc = move F V c loc ↔ StepSafe F V V' c loc := by
  have hopen : (F.directory loc && F.allows V.task loc) = true := by
    by_contra hc
    exact h (if_neg hc)
  have hdir : F.directory loc = true := (Bool.and_eq_true_iff.mp hopen).1
  have hallowed : move F V' c loc = move F V c loc → F.allows V'.task loc = true := by
    intro heq
    by_contra hno
    refine h (heq ▸ if_neg ?_)
    rw [Bool.and_eq_true_iff]
    exact fun hc => hno hc.2
  constructor
  · intro heq
    refine ⟨hallowed heq, ?_⟩
    rintro rfl
    have hopen' : (F.directory loc && F.allows V'.task loc) = true := by
      rw [hdir, hallowed heq]
      rfl
    rw [move_of_open hopen, move_of_open hopen'] at heq
    by_cases hr : loc = V.root
    · by_cases hr' : loc = V'.root
      · exact Or.inl ⟨fun _ => hr', fun _ => hr⟩
      · right
        rw [if_pos hr, if_neg hr'] at heq
        cases hp : F.parent loc with
        | none =>
          rw [hp] at heq
          cases heq
        | some p =>
          rw [hp] at heq
          rw [Move.enter.inj heq]
    · by_cases hr' : loc = V'.root
      · right
        rw [if_neg hr, if_pos hr'] at heq
        cases hp : F.parent loc with
        | none =>
          rw [hp] at heq
          cases heq
        | some p =>
          rw [hp] at heq
          rw [← Move.enter.inj heq]
      · exact Or.inl ⟨fun h' => absurd h' hr, fun h' => absurd h' hr'⟩
  · rintro ⟨hallow, hup⟩
    have hopen' : (F.directory loc && F.allows V'.task loc) = true := by
      rw [hdir, hallow]
      rfl
    rw [move_of_open hopen, move_of_open hopen']
    cases c with
    | here => rfl
    | name k => rfl
    | up =>
      dsimp only
      rcases hup rfl with hroot | hself
      · by_cases hr : loc = V.root
        · rw [if_pos hr, if_pos (hroot.mp hr)]
        · rw [if_neg hr, if_neg fun h' => hr (hroot.mpr h')]
      · rw [hself, Option.elim_some, ite_self, ite_self]

private theorem scan_eq_of_safe {todo : List (Component κ)} {loc : ν}
    (hs : ScanSafe F V V' todo loc) (h : scan F V todo loc ≠ .lost) :
    scan F V' todo loc = scan F V todo loc := by
  induction todo generalizing loc with
  | nil => rfl
  | cons c rest ih =>
    rw [ScanSafe] at hs
    obtain ⟨hstep, hrest⟩ := hs
    rw [scan] at h
    have hmove : move F V' c loc = move F V c loc := by
      refine (move_eq_iff fun hlost => ?_).mpr hstep
      rw [hlost] at h
      exact h rfl
    rw [scan, scan, hmove]
    cases hm : move F V c loc with
    | lost => rfl
    | link n => rfl
    | enter n =>
      rw [hm] at hrest h
      exact ih hrest h

/-- Two viewers arrive at the same place if no step of the first one's walk parts them. -/
theorem walk_eq_of_safe {links : Nat} {todo : List (Component κ)} {loc n : ν}
    (hs : WalkSafe F V V' links todo loc) (h : walk F V links todo loc = some n) :
    walk F V' links todo loc = some n := by
  induction links generalizing todo loc with
  | zero =>
    rw [WalkSafe] at hs
    rw [walk] at h ⊢
    rw [scan_eq_of_safe hs.1]
    · exact h
    · intro hlost
      rw [hlost] at h
      cases h
  | succ links ih =>
    rw [WalkSafe] at hs
    rw [walk] at h ⊢
    rw [scan_eq_of_safe hs.1]
    · cases hscan : scan F V todo loc with
      | arrived m =>
        rw [hscan] at h
        exact h
      | lost =>
        rw [hscan] at h
        cases h
      | link dir m rest =>
        rw [hscan] at h hs
        obtain ⟨-, hlink, hnext⟩ := hs
        dsimp only at h ⊢
        rw [follow_eq_of_safe hlink]
        cases hf : follow F V dir m with
        | none =>
          rw [hf] at h
          cases h
        | some r =>
          rw [hf] at h hnext
          exact ih hnext h
    · intro hlost
      rw [hlost] at h
      cases h

end TwoViews

end KernelAv.Lib.PathWalk
