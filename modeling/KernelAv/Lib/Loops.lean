/- digest: The loops of C as functions, with an invariant rule for each of them. -/

set_option autoImplicit false
set_option relaxedAutoImplicit false

namespace KernelAv.Lib.Loops

variable {σ : Type}

/-- `while (cond) body` for at most `fuel` tests of the condition; `none` when they run out. -/
def whileLoop (cond : σ → Bool) (body : σ → Option σ) : Nat → σ → Option σ
  | 0, _ => none
  | fuel + 1, s => if cond s then (body s).bind (whileLoop cond body fuel) else some s

/-- A loop whose body keeps an invariant and lowers a measure ends, and the invariant holds then. -/
theorem whileLoop_total {cond : σ → Bool} {body : σ → Option σ} (inv : σ → Prop)
    (measure : σ → Nat)
    (hbody : ∀ s, inv s → cond s = true →
      ∃ t, body s = some t ∧ inv t ∧ measure t < measure s)
    {fuel : Nat} {s : σ} (h : inv s) (hfuel : measure s < fuel) :
    ∃ t, whileLoop cond body fuel s = some t ∧ inv t ∧ cond t = false := by
  induction fuel generalizing s with
  | zero => omega
  | succ fuel ih =>
    cases hc : cond s with
    | false => exact ⟨s, by simp [whileLoop, hc], h, hc⟩
    | true =>
      obtain ⟨t, hbt, hinv, hlt⟩ := hbody s h hc
      obtain ⟨u, hu, hend⟩ := ih hinv (by omega)
      refine ⟨u, ?_, hend⟩
      rw [whileLoop, if_pos hc, hbt, Option.bind_some, hu]

/-- What holds before a counted loop and is kept by each round holds after it. -/
theorem fold_invariant {n : Nat} {f : (i : Nat) → i < n → σ → σ} {s : σ} (inv : Nat → σ → Prop)
    (h : inv 0 s) (hstep : ∀ i (hi : i < n) t, inv i t → inv (i + 1) (f i hi t)) :
    inv n (Nat.fold n f s) := by
  induction n with
  | zero => exact h
  | succ n ih =>
    have hn : inv n (Nat.fold n (fun i hi => f i (Nat.lt_succ_of_lt hi)) s) :=
      ih fun i hi t ht => hstep i (Nat.lt_succ_of_lt hi) t ht
    rw [Nat.fold_succ]
    exact hstep n (Nat.lt_succ_self n) _ hn

end KernelAv.Lib.Loops
