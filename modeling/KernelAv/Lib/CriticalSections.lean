/- digest: Critical sections of one mutex, taken step by step: every interleaving is serial. -/

import KernelAv.Lib.Run
import Mathlib.Logic.Relation

set_option autoImplicit false
set_option relaxedAutoImplicit false

namespace KernelAv.Lib.CriticalSections

open KernelAv.Lib.Run (run run_invariant)
open Relation (ReflTransGen)

/-- The code of the critical sections over a shared state: the private data a section starts with,
and its next step, unless it is over. -/
structure Code (ι σ ρ : Type) where
  start : ι → ρ
  step : ι → σ → ρ → Option (σ × ρ)

/-- The section under way, with its thread and its private data, and the sections that are over,
oldest first, with the private data each ended with. -/
structure State (τ ι σ ρ : Type) where
  shared : σ
  holder : Option (τ × ι × ρ)
  ended : List (ι × ρ)

inductive Event (τ ι : Type) where
  | lock (t : τ) (i : ι)
  | step (t : τ)
  | unlock (t : τ)
  deriving DecidableEq

variable {τ ι σ ρ : Type}

def State.boot (s : σ) : State τ ι σ ρ := ⟨s, none, []⟩

namespace Code

/-- One step of any thread: only the one that has the mutex runs its section. -/
def act [DecidableEq τ] (C : Code ι σ ρ) (s : State τ ι σ ρ) :
    Event τ ι → Option (State τ ι σ ρ)
  | .lock t i =>
      match s.holder with
      | none => some { s with holder := some (t, i, C.start i) }
      | some _ => none
  | .step t =>
      match s.holder with
      | none => none
      | some (u, i, r) =>
          if u = t then
            (C.step i s.shared r).map fun x => { s with shared := x.1, holder := some (u, i, x.2) }
          else none
  | .unlock t =>
      match s.holder with
      | none => none
      | some (u, i, r) =>
          if u = t ∧ (C.step i s.shared r).isNone then
            some { s with holder := none, ended := s.ended ++ [(i, r)] }
          else none

variable (C : Code ι σ ρ)

def Reaches (i : ι) : σ × ρ → σ × ρ → Prop :=
  ReflTransGen fun x y => C.step i x.1 x.2 = some y

/-- A section from its first step to its last. -/
def Completes (i : ι) (s t : σ) (r : ρ) : Prop :=
  C.Reaches i (s, C.start i) (t, r) ∧ C.step i t r = none

/-- The sections one after another, each whole. -/
def Serial : σ → List (ι × ρ) → σ → Prop
  | s, [], t => t = s
  | s, x :: xs, t => ∃ u, C.Completes x.1 s u x.2 ∧ Serial u xs t

variable {C} {i : ι} {s t u : σ} {r : ρ} {xs ys : List (ι × ρ)}

/-- What holds when a section starts and is kept by its steps holds when it is over. -/
theorem Completes.invariant (h : C.Completes i s t r) (inv : σ → ρ → Prop)
    (hstart : inv s (C.start i))
    (hstep : ∀ x r y r', inv x r → C.step i x r = some (y, r') → inv y r') : inv t r := by
  have hreach : ∀ z, C.Reaches i (s, C.start i) z → inv z.1 z.2 := by
    intro z hz
    induction hz with
    | refl => exact hstart
    | tail _ hlast ih => exact hstep _ _ _ _ ih hlast
  exact hreach (t, r) h.1

theorem serial_append :
    C.Serial s (xs ++ ys) t ↔ ∃ u, C.Serial s xs u ∧ C.Serial u ys t := by
  induction xs generalizing s with
  | nil =>
    constructor
    · exact fun h => ⟨s, rfl, h⟩
    · rintro ⟨u, rfl, h⟩
      exact h
  | cons x xs ih =>
    constructor
    · rintro ⟨v, hv, h⟩
      obtain ⟨u, hu, h'⟩ := ih.mp h
      exact ⟨u, ⟨v, hv, hu⟩, h'⟩
    · rintro ⟨u, ⟨v, hv, hu⟩, h⟩
      exact ⟨v, hv, ih.mpr ⟨u, hu, h⟩⟩

private theorem Serial.snoc (h : C.Serial s xs t) (hi : C.Completes i t u r) :
    C.Serial s (xs ++ [(i, r)]) u :=
  serial_append.mpr ⟨t, h, u, hi, rfl⟩

/-- The sections that are over have been serial, and the one under way goes on from there. -/
def UnderWay (C : Code ι σ ρ) (s₀ : σ) (s : State τ ι σ ρ) : Prop :=
  ∃ t, C.Serial s₀ s.ended t ∧
    match s.holder with
    | none => s.shared = t
    | some (_, i, r) => C.Reaches i (t, C.start i) (s.shared, r)

private theorem underWay_act [DecidableEq τ] {s₀ : σ} {x y : State τ ι σ ρ} {a : Event τ ι}
    (h : UnderWay C s₀ x) (ha : C.act x a = some y) : UnderWay C s₀ y := by
  obtain ⟨t, hserial, hnow⟩ := h
  cases hheld : x.holder with
  | none =>
    rw [hheld] at hnow
    obtain rfl : x.shared = t := hnow
    cases a with
    | lock th i =>
      rw [act, hheld] at ha
      obtain rfl := Option.some.inj ha
      exact ⟨x.shared, hserial, ReflTransGen.refl⟩
    | step th | unlock th =>
      rw [act, hheld] at ha
      cases ha
  | some held =>
    obtain ⟨v, i, r⟩ := held
    rw [hheld] at hnow
    cases a with
    | lock th j =>
      rw [act, hheld] at ha
      cases ha
    | step th =>
      simp only [act, hheld] at ha
      split at ha
      · obtain ⟨z, hz, rfl⟩ := Option.map_eq_some_iff.mp ha
        exact ⟨t, hserial, ReflTransGen.tail hnow hz⟩
      · cases ha
    | unlock th =>
      simp only [act, hheld] at ha
      split at ha
      · rename_i hended
        obtain rfl := Option.some.inj ha
        exact ⟨x.shared, hserial.snoc ⟨hnow, by simpa using hended.2⟩, rfl⟩
      · cases ha

/-- Whatever the threads do, the sections that are over have run one after another. -/
theorem serial_of_run [DecidableEq τ] {s₀ : σ} {x : State τ ι σ ρ} {as : List (Event τ ι)}
    (h : run C.act (State.boot s₀) as = some x) : ∃ t, C.Serial s₀ x.ended t := by
  have hboot : UnderWay C s₀ (State.boot s₀ : State τ ι σ ρ) := ⟨s₀, rfl, rfl⟩
  obtain ⟨t, hserial, -⟩ :=
    run_invariant (UnderWay C s₀) (fun _ _ _ hx ha => underWay_act hx ha) hboot h
  exact ⟨t, hserial⟩

/-- If every whole section has the effect of one function, so have the sections in a row. -/
theorem Serial.effect {f : σ → ι → σ} (hf : ∀ i s t r, C.Completes i s t r → t = f s i)
    (h : C.Serial s xs t) : t = (xs.map Prod.fst).foldl f s := by
  induction xs generalizing s with
  | nil => exact h
  | cons x xs ih =>
    obtain ⟨u, hu, h'⟩ := h
    rw [ih h', hf _ _ _ _ hu]
    rfl

/-- A section that is over has started where the functions of those before it lead. -/
theorem completes_of_run [DecidableEq τ] {f : σ → ι → σ} {s₀ : σ} {x : State τ ι σ ρ}
    {as : List (Event τ ι)} (hf : ∀ i s t r, C.Completes i s t r → t = f s i)
    (h : run C.act (State.boot s₀) as = some x) (hended : x.ended = xs ++ (i, r) :: ys) :
    ∃ t, C.Completes i ((xs.map Prod.fst).foldl f s₀) t r := by
  obtain ⟨t, hserial⟩ := serial_of_run h
  rw [hended] at hserial
  obtain ⟨u, hbefore, v, hi, -⟩ := serial_append.mp hserial
  rw [← hbefore.effect hf]
  exact ⟨v, hi⟩

end Code

end KernelAv.Lib.CriticalSections
