/- digest: Runs of a partial step function, runs whose steps are all allowed, and what they keep. -/

set_option autoImplicit false
set_option relaxedAutoImplicit false

namespace KernelAv.Lib.Run

variable {σ α β : Type}

/-- The state after a list of actions; `none` once an action is not enabled. -/
def run (step : σ → α → Option σ) : σ → List α → Option σ
  | s, [] => some s
  | s, a :: as => (step s a).bind fun s' => run step s' as

/-- Every action of the run is allowed in the state in which it is taken. -/
def Guarded (step : σ → α → Option σ) (ok : σ → α → Prop) : σ → List α → Prop
  | _, [] => True
  | s, a :: as => ok s a ∧ ∀ s', step s a = some s' → Guarded step ok s' as

section

variable {step : σ → α → Option σ} {ok : σ → α → Prop} {s s' : σ} {a : α} {as : List α}

@[simp] theorem run_nil (step : σ → α → Option σ) (s : σ) : run step s [] = some s := rfl

theorem run_cons : run step s (a :: as) = some s' ↔
    ∃ t, step s a = some t ∧ run step t as = some s' := by
  rw [run, Option.bind_eq_some_iff]

theorem Guarded.cons_of {t : σ} (h : ok s a) (hs : step s a = some t)
    (hg : Guarded step ok t as) : Guarded step ok s (a :: as) := by
  refine ⟨h, fun t' ht' => ?_⟩
  obtain rfl := Option.some.inj (hs.symm.trans ht')
  exact hg

/-- A run can be checked by running it. -/
instance instDecidableGuarded [∀ s a, Decidable (ok s a)] :
    (s : σ) → (as : List α) → Decidable (Guarded step ok s as)
  | _, [] => isTrue trivial
  | s, a :: as =>
      match hs : step s a with
      | none =>
          decidable_of_iff (ok s a)
            ⟨fun h => ⟨h, fun t ht => by rw [hs] at ht; cases ht⟩, fun h => h.1⟩
      | some t =>
          have : Decidable (Guarded step ok t as) := instDecidableGuarded t as
          decidable_of_iff (ok s a ∧ Guarded step ok t as)
            ⟨fun h => Guarded.cons_of h.1 hs h.2, fun h => ⟨h.1, h.2 t hs⟩⟩

/-- What holds at first and is kept by every allowed step holds at the end. -/
theorem guarded_invariant (inv : σ → Prop)
    (hstep : ∀ s a s', inv s → ok s a → step s a = some s' → inv s') (h : inv s)
    (hg : Guarded step ok s as) (hr : run step s as = some s') : inv s' := by
  induction as generalizing s with
  | nil =>
    obtain rfl := Option.some.inj hr
    exact h
  | cons a as ih =>
    obtain ⟨t, hst, hrun⟩ := run_cons.mp hr
    exact ih (hstep s a t h hg.1 hst) (hg.2 t hst) hrun

/-- Actions that are allowed in every state make a guarded run. -/
theorem guarded_of_forall (h : ∀ a ∈ as, ∀ s, ok s a) : Guarded step ok s as := by
  induction as generalizing s with
  | nil => trivial
  | cons a as ih =>
    exact ⟨h a List.mem_cons_self s,
      fun t _ => ih fun b hb => h b (List.mem_cons_of_mem a hb)⟩

theorem guarded_true (step : σ → α → Option σ) (s : σ) (as : List α) :
    Guarded step (fun _ _ => True) s as :=
  guarded_of_forall fun _ _ _ => trivial

theorem run_invariant (inv : σ → Prop) (hstep : ∀ s a s', inv s → step s a = some s' → inv s')
    (h : inv s) (hr : run step s as = some s') : inv s' :=
  guarded_invariant inv (fun s a s' hi _ => hstep s a s' hi) h (guarded_true step s as) hr

/-- An action of a guarded run is allowed in the state that the actions before it lead to. -/
theorem Guarded.at_state {t : σ} {bs : List α} (hg : Guarded step ok s (as ++ a :: bs))
    (hr : run step s as = some t) : ok t a := by
  induction as generalizing s with
  | nil =>
    obtain rfl := Option.some.inj hr
    exact hg.1
  | cons b as ih =>
    obtain ⟨u, hsu, hrun⟩ := run_cons.mp hr
    exact ih (hg.2 u hsu) hrun

/-- One condition on the steps gives another, resting on an invariant of the run. -/
theorem Guarded.imp_of_invariant {ok' : σ → α → Prop} (inv : σ → Prop)
    (hstep : ∀ s a s', inv s → ok s a → step s a = some s' → inv s')
    (himp : ∀ s a, inv s → ok s a → ok' s a) (h : inv s) (hg : Guarded step ok s as) :
    Guarded step ok' s as := by
  induction as generalizing s with
  | nil => trivial
  | cons a as ih =>
    exact ⟨himp s a h hg.1, fun t ht => ih (hstep s a t h hg.1 ht) (hg.2 t ht)⟩

theorem Guarded.imp {ok' : σ → α → Prop} (h : ∀ s a, ok s a → ok' s a)
    (hg : Guarded step ok s as) : Guarded step ok' s as :=
  hg.imp_of_invariant (fun _ => True) (fun _ _ _ _ _ _ => trivial) (fun s a _ => h s a)
    trivial

private theorem recorded_grows {recorded : σ → List β}
    (hgrow : ∀ s a s', step s a = some s' → ∀ b ∈ recorded s, b ∈ recorded s')
    (hr : run step s as = some s') : ∀ b ∈ recorded s, b ∈ recorded s' := by
  induction as generalizing s with
  | nil =>
    obtain rfl := Option.some.inj hr
    exact fun b hb => hb
  | cons a as ih =>
    obtain ⟨t, hst, hrun⟩ := run_cons.mp hr
    exact fun b hb => ih hrun b (hgrow s a t hst b hb)

/-- A run records events as it goes. If, as long as all steps were allowed, a step records only
good events exactly when it is allowed, then a run has recorded only good events exactly when all
its steps were allowed. -/
theorem recorded_iff_guarded (recorded : σ → List β) (good : β → Prop) (inv : σ → Prop)
    (hinv : ∀ s a s', inv s → ok s a → step s a = some s' → inv s')
    (hgrow : ∀ s a s', step s a = some s' → ∀ b ∈ recorded s, b ∈ recorded s')
    (hrec : ∀ s a s', inv s → step s a = some s' →
      ((∀ b ∈ recorded s', good b) ↔ (∀ b ∈ recorded s, good b) ∧ ok s a))
    (h : inv s) (hr : run step s as = some s') :
    (∀ b ∈ recorded s', good b) ↔ (∀ b ∈ recorded s, good b) ∧ Guarded step ok s as := by
  induction as generalizing s with
  | nil =>
    obtain rfl := Option.some.inj hr
    exact (and_iff_left trivial).symm
  | cons a as ih =>
    obtain ⟨t, hst, hrun⟩ := run_cons.mp hr
    have hstep := hrec s a t h hst
    by_cases hok : ok s a
    · rw [ih (hinv s a t h hok hst) hrun, hstep, and_assoc]
      refine and_congr_right fun _ => and_congr_right fun _ => ?_
      constructor
      · intro hg t' ht'
        obtain rfl := Option.some.inj (hst.symm.trans ht')
        exact hg
      · intro hg
        exact hg t hst
    · constructor
      · intro hgood
        have hbefore : ∀ b ∈ recorded t, good b :=
          fun b hb => hgood b (recorded_grows hgrow hrun b hb)
        exact absurd (hstep.mp hbefore).2 hok
      · rintro ⟨-, hg⟩
        exact absurd hg.1 hok

section History

variable {ι : Type} {event : σ → α → ι → Prop} {e : ι} {t : σ}

/-- The event occurs at some action of the run. -/
def Occurs (step : σ → α → Option σ) (event : σ → α → ι → Prop) (e : ι) : σ → List α → Prop
  | _, [] => False
  | s, a :: as => event s a e ∨ ∃ s', step s a = some s' ∧ Occurs step event e s' as

theorem occurs_cons (hst : step s a = some t) :
    Occurs step event e s (a :: as) ↔ event s a e ∨ Occurs step event e t as := by
  refine or_congr_right ⟨?_, fun h => ⟨t, hst, h⟩⟩
  rintro ⟨t', ht', h⟩
  obtain rfl := Option.some.inj (hst.symm.trans ht')
  exact h

instance instDecidableOccurs [∀ s a, Decidable (event s a e)] :
    (s : σ) → (as : List α) → Decidable (Occurs step event e s as)
  | _, [] => isFalse id
  | s, a :: as =>
      match hs : step s a with
      | none =>
          decidable_of_iff (event s a e) ⟨Or.inl, fun h => h.resolve_right fun ⟨t, ht, _⟩ => by
            rw [hs] at ht
            cases ht⟩
      | some t =>
          have : Decidable (Occurs step event e t as) := instDecidableOccurs t as
          decidable_of_iff (event s a e ∨ Occurs step event e t as) (occurs_cons hs).symm

/-- What ties the state to the events so far, and is kept by every step, does so at the end. -/
theorem history_invariant (event : σ → α → ι → Prop) (inv : (ι → Prop) → σ → Prop)
    (hstep : ∀ h s a s', inv h s → step s a = some s' → inv (fun e => h e ∨ event s a e) s')
    {h : ι → Prop} (hinv : inv h s) (hr : run step s as = some s') :
    inv (fun e => h e ∨ Occurs step event e s as) s' := by
  induction as generalizing s h with
  | nil =>
    obtain rfl := Option.some.inj hr
    have hnone : (fun e => h e ∨ Occurs step event e s []) = h :=
      funext fun e => propext (or_iff_left id)
    rwa [hnone]
  | cons a as ih =>
    obtain ⟨t, hst, hrun⟩ := run_cons.mp hr
    have hsplit : (fun e => h e ∨ Occurs step event e s (a :: as)) =
        fun e => (h e ∨ event s a e) ∨ Occurs step event e t as := by
      funext e
      rw [occurs_cons hst, or_assoc]
    rw [hsplit]
    exact ih (hstep h s a t hinv hst) hrun

end History

/-- Whatever allowed actions come, after at most `n` of them the run goes on as from `t`. -/
def Leads (step : σ → α → Option σ) (allowed : α → Prop) (n : Nat) (s t : σ) : Prop :=
  ∀ as, (∀ a ∈ as, allowed a) → n ≤ as.length → ∃ bs, (∀ b ∈ bs, allowed b) ∧
    as.length ≤ bs.length + n ∧ run step s as = run step t bs

section

variable {allowed : α → Prop} {m n : Nat} {t u : σ}

theorem Leads.trans (h : Leads step allowed m s t) (h' : Leads step allowed n t u) :
    Leads step allowed (m + n) s u := by
  intro as has hlen
  obtain ⟨bs, hbs, hlen', hrun⟩ := h as has (by omega)
  obtain ⟨cs, hcs, hlen'', hrun'⟩ := h' bs hbs (by omega)
  exact ⟨cs, hcs, by omega, hrun.trans hrun'⟩

/-- An action first, then the rest of the way. -/
theorem Leads.after (h : ∀ a, allowed a → ∃ s', step s a = some s' ∧ Leads step allowed n s' t) :
    Leads step allowed (n + 1) s t := by
  intro as has hlen
  cases as with
  | nil =>
    rw [List.length_nil] at hlen
    omega
  | cons a as =>
    obtain ⟨ha, has'⟩ := List.forall_mem_cons.mp has
    obtain ⟨s', hs', hleads⟩ := h a ha
    obtain ⟨bs, hbs, hlen', hrun⟩ := hleads as has' (by simpa using hlen)
    refine ⟨bs, hbs, by rw [List.length_cons]; omega, ?_⟩
    rw [run, hs', Option.bind_some, hrun]

theorem Leads.refl (s : σ) : Leads step allowed 0 s s :=
  fun as has _ => ⟨as, has, Nat.le_refl _, rfl⟩

theorem Leads.one (h : ∀ a, allowed a → step s a = some t) : Leads step allowed 1 s t :=
  Leads.after fun a ha => ⟨t, h a ha, Leads.refl t⟩

theorem Leads.mono (h : Leads step allowed m s t) (hle : m ≤ n) : Leads step allowed n s t := by
  intro as has hlen
  obtain ⟨bs, hbs, hlen', hrun⟩ := h as has (by omega)
  exact ⟨bs, hbs, by omega, hrun⟩

/-- A state that keeps itself is where a run that leads to it ends. -/
theorem Leads.ends (h : Leads step allowed n s t) (hstop : ∀ a, step t a = some t)
    (has : ∀ a ∈ as, allowed a) (hlen : n ≤ as.length) : run step s as = some t := by
  obtain ⟨bs, -, -, hrun⟩ := h as has hlen
  rw [hrun]
  clear hrun
  induction bs with
  | nil => rfl
  | cons b bs ih => rw [run, hstop, Option.bind_some, ih]

end

end

end KernelAv.Lib.Run
