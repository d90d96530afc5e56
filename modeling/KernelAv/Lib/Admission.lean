/- digest: Parties that take and give back what they use, admitted by a capped shared counter. -/

import KernelAv.Lib.Run
import Mathlib.Data.Fintype.Basic
import Mathlib.Data.List.Count
import Mathlib.Logic.Function.Basic

set_option autoImplicit false
set_option relaxedAutoImplicit false

namespace KernelAv.Lib.Admission

open KernelAv.Lib.Run

/-- What one party does, one atomic step after the other. Where a step can fail, the first
continuation is that of the failure. -/
inductive Code (R : Type) where
  | done
  | act (k : Code R)
  | check (fail ok : Code R)
  | take (r : R) (k : Code R)
  | tryTake (r : R) (fail ok : Code R)
  | put (r : R) (k : Code R)
  | attempt (fail ok : Code R)
  | undo (k : Code R)
  | release (k : Code R)
  deriving DecidableEq

/-- What a party did so far that has to be matched. -/
inductive Mark (R : Type) where
  | took (r : R)
  | put (r : R)
  | admitted
  | refused
  | undone
  | released
  deriving DecidableEq

namespace Code

variable {R : Type}

/-- The mark of the next step and the code behind it. `ok` is what the step meets outside, `room`
whether the counter, incremented, is within the cap. -/
def next (ok room : Bool) : Code R → Option (Option (Mark R) × Code R)
  | done => none
  | act k => some (none, k)
  | check fail k => some (none, if ok then k else fail)
  | take r k => some (some (.took r), k)
  | tryTake r fail k => if ok then some (some (.took r), k) else some (none, fail)
  | put r k => some (some (.put r), k)
  | attempt fail k => if room then some (some .admitted, k) else some (some .refused, fail)
  | undo k => some (some .undone, k)
  | release k => some (some .released, k)

/-- The longest way to the end. -/
def height : Code R → Nat
  | done => 0
  | act k => k.height + 1
  | check fail k => max fail.height k.height + 1
  | take _ k => k.height + 1
  | tryTake _ fail k => max fail.height k.height + 1
  | put _ k => k.height + 1
  | attempt fail k => max fail.height k.height + 1
  | undo k => k.height + 1
  | release k => k.height + 1

/-- No step waits for another party, and each one brings the end nearer. -/
theorem next_height {c : Code R} (hc : c ≠ done) (ok room : Bool) :
    ∃ m k, c.next ok room = some (m, k) ∧ k.height < c.height := by
  cases c with
  | done => exact absurd rfl hc
  | act k => exact ⟨_, _, rfl, Nat.lt_succ_self _⟩
  | check fail k =>
    refine ⟨_, _, rfl, Nat.lt_succ_of_le ?_⟩
    cases ok
    · exact Nat.le_max_left _ _
    · exact Nat.le_max_right _ _
  | take r k => exact ⟨_, _, rfl, Nat.lt_succ_self _⟩
  | tryTake r fail k =>
    cases ok
    · exact ⟨_, _, rfl, Nat.lt_succ_of_le (Nat.le_max_left _ _)⟩
    · exact ⟨_, _, rfl, Nat.lt_succ_of_le (Nat.le_max_right _ _)⟩
  | put r k => exact ⟨_, _, rfl, Nat.lt_succ_self _⟩
  | attempt fail k =>
    cases room
    · exact ⟨_, _, rfl, Nat.lt_succ_of_le (Nat.le_max_left _ _)⟩
    · exact ⟨_, _, rfl, Nat.lt_succ_of_le (Nat.le_max_right _ _)⟩
  | undo k => exact ⟨_, _, rfl, Nat.lt_succ_self _⟩
  | release k => exact ⟨_, _, rfl, Nat.lt_succ_self _⟩

end Code

/-- A resource is taken once and put once. -/
inductive Status where
  | fresh
  | held
  | gone
  deriving DecidableEq

/-- Where a party stands with the counter. -/
inductive Slot where
  | idle
  | admitted
  | released
  | refused
  | undone
  deriving DecidableEq

structure Ledger (R : Type) where
  status : R → Status
  slot : Slot

section Ledgers

variable {R : Type} [DecidableEq R] [Fintype R]

def Ledger.start : Ledger R := ⟨fun _ => .fresh, .idle⟩

variable (inside : R → Bool)

/-- The ledger after a mark, if the mark is in order. What is `inside` is held only while the party
is admitted. -/
def Ledger.mark (l : Ledger R) : Mark R → Option (Ledger R)
  | .took r =>
      if l.status r = .fresh ∧ (inside r = true → l.slot = .admitted) then
        some { l with status := Function.update l.status r .held }
      else none
  | .put r =>
      if l.status r = .held then some { l with status := Function.update l.status r .gone }
      else none
  | .admitted => if l.slot = .idle then some { l with slot := .admitted } else none
  | .refused => if l.slot = .idle then some { l with slot := .refused } else none
  | .undone => if l.slot = .refused then some { l with slot := .undone } else none
  | .released =>
      if l.slot = .admitted ∧ ∀ r, inside r = true → l.status r ≠ .held then
        some { l with slot := .released }
      else none

/-- All that a mark in order can do. -/
inductive Ledger.Marks (l : Ledger R) : Mark R → Ledger R → Prop
  | took {r : R} (fresh : l.status r = .fresh) (slot : inside r = true → l.slot = .admitted) :
      Ledger.Marks l (.took r) { l with status := Function.update l.status r .held }
  | put {r : R} (held : l.status r = .held) :
      Ledger.Marks l (.put r) { l with status := Function.update l.status r .gone }
  | admitted (slot : l.slot = .idle) : Ledger.Marks l .admitted { l with slot := .admitted }
  | refused (slot : l.slot = .idle) : Ledger.Marks l .refused { l with slot := .refused }
  | undone (slot : l.slot = .refused) : Ledger.Marks l .undone { l with slot := .undone }
  | released (slot : l.slot = .admitted) (out : ∀ r, inside r = true → l.status r ≠ .held) :
      Ledger.Marks l .released { l with slot := .released }

/-- Whatever its steps meet, the code goes on in order and leaves nothing held. -/
def balanced (l : Ledger R) : Code R → Bool
  | .done => decide (∀ r, l.status r ≠ .held) && decide (l.slot ≠ .admitted ∧ l.slot ≠ .refused)
  | .act k => balanced l k
  | .check fail k => balanced l fail && balanced l k
  | .take r k => (l.mark inside (.took r)).any fun l' => balanced l' k
  | .tryTake r fail k =>
      balanced l fail && (l.mark inside (.took r)).any fun l' => balanced l' k
  | .put r k => (l.mark inside (.put r)).any fun l' => balanced l' k
  | .attempt fail k =>
      ((l.mark inside .refused).any fun l' => balanced l' fail) &&
        (l.mark inside .admitted).any fun l' => balanced l' k
  | .undo k => (l.mark inside .undone).any fun l' => balanced l' k
  | .release k => (l.mark inside .released).any fun l' => balanced l' k

/-- The ledger after the marks of a trace, newest first. -/
def replay : List (Mark R) → Option (Ledger R)
  | [] => some Ledger.start
  | m :: trace => (replay trace).bind fun l => l.mark inside m

variable {inside} {l l' : Ledger R} {c k : Code R} {trace : List (Mark R)}

omit [DecidableEq R] [Fintype R] in
private theorem any_iff {o : Option (Ledger R)} {p : Ledger R → Bool} :
    o.any p = true ↔ ∃ l, o = some l ∧ p l = true := by
  cases o <;> simp

/-- Steps of balanced code are in order, and what is left is balanced. -/
theorem balanced_next {ok room : Bool} {m : Option (Mark R)} (hb : balanced inside l c = true)
    (hn : c.next ok room = some (m, k)) :
    match m with
    | none => balanced inside l k = true
    | some m => ∃ l', l.mark inside m = some l' ∧ balanced inside l' k = true := by
  cases c with
  | done => cases hn
  | act k' =>
    obtain ⟨rfl, rfl⟩ := Prod.mk.inj (Option.some.inj hn)
    exact hb
  | check fail k' =>
    obtain ⟨rfl, rfl⟩ := Prod.mk.inj (Option.some.inj hn)
    obtain ⟨hfail, hk⟩ := Bool.and_eq_true_iff.mp hb
    cases ok
    · exact hfail
    · exact hk
  | take r k' =>
    obtain ⟨rfl, rfl⟩ := Prod.mk.inj (Option.some.inj hn)
    exact any_iff.mp hb
  | tryTake r fail k' =>
    obtain ⟨hfail, hk⟩ := Bool.and_eq_true_iff.mp hb
    cases ok
    · obtain ⟨rfl, rfl⟩ := Prod.mk.inj (Option.some.inj hn)
      exact hfail
    · obtain ⟨rfl, rfl⟩ := Prod.mk.inj (Option.some.inj hn)
      exact any_iff.mp hk
  | put r k' =>
    obtain ⟨rfl, rfl⟩ := Prod.mk.inj (Option.some.inj hn)
    exact any_iff.mp hb
  | attempt fail k' =>
    obtain ⟨hfail, hk⟩ := Bool.and_eq_true_iff.mp hb
    cases room
    · obtain ⟨rfl, rfl⟩ := Prod.mk.inj (Option.some.inj hn)
      exact any_iff.mp hfail
    · obtain ⟨rfl, rfl⟩ := Prod.mk.inj (Option.some.inj hn)
      exact any_iff.mp hk
  | undo k' =>
    obtain ⟨rfl, rfl⟩ := Prod.mk.inj (Option.some.inj hn)
    exact any_iff.mp hb
  | release k' =>
    obtain ⟨rfl, rfl⟩ := Prod.mk.inj (Option.some.inj hn)
    exact any_iff.mp hb

theorem Ledger.marks_of_mark {m : Mark R} (hm : l.mark inside m = some l') :
    l.Marks inside m l' := by
  cases m <;> rw [Ledger.mark] at hm <;> split at hm <;> cases hm
  case took.isTrue r h => exact .took h.1 h.2
  case put.isTrue r h => exact .put h
  case admitted.isTrue h => exact .admitted h
  case refused.isTrue h => exact .refused h
  case undone.isTrue h => exact .undone h
  case released.isTrue h => exact .released h.1 h.2

/-- How often each mark stands in a trace, by the ledger the trace leads to. -/
structure Counts (trace : List (Mark R)) (l : Ledger R) : Prop where
  took : ∀ r, trace.count (.took r) = if l.status r = .fresh then 0 else 1
  put : ∀ r, trace.count (.put r) = if l.status r = .gone then 1 else 0
  admitted : trace.count .admitted = if l.slot = .admitted ∨ l.slot = .released then 1 else 0
  released : trace.count .released = if l.slot = .released then 1 else 0
  refused : trace.count .refused = if l.slot = .refused ∨ l.slot = .undone then 1 else 0
  undone : trace.count .undone = if l.slot = .undone then 1 else 0

private theorem counts_mark {m : Mark R} (h : Counts trace l) (hm : l.mark inside m = some l') :
    Counts (m :: trace) l' := by
  obtain ⟨htook, hput, hadm, hrel, href, hund⟩ := h
  cases Ledger.marks_of_mark hm with
  | @took r fresh slot =>
    refine ⟨fun q => ?_, fun q => ?_, by simpa using hadm, by simpa using hrel, by simpa using href,
      by simpa using hund⟩
    · by_cases hq : q = r
      · subst hq
        simp [htook, fresh]
      · simp [htook, Ne.symm hq, hq]
    · by_cases hq : q = r
      · subst hq
        simp [hput, fresh]
      · simp [hput, hq]
  | @put r held =>
    refine ⟨fun q => ?_, fun q => ?_, by simpa using hadm, by simpa using hrel, by simpa using href,
      by simpa using hund⟩
    · by_cases hq : q = r
      · subst hq
        simp [htook, held]
      · simp [htook, hq]
    · by_cases hq : q = r
      · subst hq
        simp [hput, held]
      · simp [hput, Ne.symm hq, hq]
  | admitted slot =>
    rw [slot] at hadm hrel href hund
    exact ⟨by simpa using htook, by simpa using hput, by simpa using hadm, by simpa using hrel,
      by simpa using href, by simpa using hund⟩
  | refused slot =>
    rw [slot] at hadm hrel href hund
    exact ⟨by simpa using htook, by simpa using hput, by simpa using hadm, by simpa using hrel,
      by simpa using href, by simpa using hund⟩
  | undone slot =>
    rw [slot] at hadm hrel href hund
    exact ⟨by simpa using htook, by simpa using hput, by simpa using hadm, by simpa using hrel,
      by simpa using href, by simpa using hund⟩
  | released slot out =>
    rw [slot] at hadm hrel href hund
    exact ⟨by simpa using htook, by simpa using hput, by simpa using hadm, by simpa using hrel,
      by simpa using href, by simpa using hund⟩

theorem counts_of_replay (h : replay inside trace = some l) : Counts trace l := by
  induction trace generalizing l with
  | nil =>
    obtain rfl := Option.some.inj h
    exact ⟨fun _ => rfl, fun _ => rfl, rfl, rfl, rfl, rfl⟩
  | cons m trace ih =>
    rw [replay, Option.bind_eq_some_iff] at h
    obtain ⟨l₀, h₀, hm⟩ := h
    exact counts_mark (ih h₀) hm

private theorem inside_mark {m : Mark R}
    (h : ∀ r, inside r = true → l.status r = .held → l.slot = .admitted)
    (hm : l.mark inside m = some l') {r : R} (hr : inside r = true)
    (hheld : l'.status r = .held) : l'.slot = .admitted := by
  cases Ledger.marks_of_mark hm with
  | @took q fresh slot =>
    by_cases hq : r = q
    · exact slot (hq ▸ hr)
    · exact h r hr (by simpa [hq] using hheld)
  | @put q held =>
    by_cases hq : r = q
    · simp [hq] at hheld
    · exact h r hr (by simpa [hq] using hheld)
  | admitted slot => rfl
  | refused slot =>
    rw [h r hr hheld] at slot
    cases slot
  | undone slot =>
    rw [h r hr hheld] at slot
    cases slot
  | released slot out => exact absurd hheld (out r hr)

/-- What is inside is held only while admitted. -/
theorem inside_of_replay (h : replay inside trace = some l) {r : R} (hr : inside r = true)
    (hheld : l.status r = .held) : l.slot = .admitted := by
  induction trace generalizing l r with
  | nil =>
    obtain rfl := Option.some.inj h
    cases hheld
  | cons m trace ih =>
    rw [replay, Option.bind_eq_some_iff] at h
    obtain ⟨l₀, h₀, hm⟩ := h
    exact inside_mark (fun q hq hqheld => ih h₀ hq hqheld) hm hr hheld

end Ledgers

/-- A party: what it is, what it has still to do, and what it did. -/
structure Event (κ R : Type) where
  kind : κ
  code : Code R
  trace : List (Mark R)

structure State (κ R : Type) where
  counter : Int
  events : List (Event κ R)

/-- A new party enters, or one of those present takes its next step. -/
inductive Action (κ : Type) where
  | enter (kind : κ)
  | advance (i : Nat) (ok : Bool)

variable {κ R : Type}

/-- What a mark does to the shared counter. -/
def delta : Option (Mark R) → Int
  | some .admitted => 1
  | some .refused => 1
  | some .undone => -1
  | some .released => -1
  | _ => 0

def State.boot : State κ R := ⟨0, []⟩

/-- Admission is one atomic increment, tested against the cap of the kind. -/
def step (program : κ → Code R) (cap : κ → Int) (s : State κ R) : Action κ → Option (State κ R)
  | .enter kind => some { s with events := s.events ++ [⟨kind, program kind, []⟩] }
  | .advance i ok =>
      match s.events[i]? with
      | none => none
      | some e =>
          match e.code.next ok (decide (s.counter + 1 ≤ cap e.kind)) with
          | none => none
          | some (m, k) =>
              some ⟨s.counter + delta m, s.events.set i ⟨e.kind, k, m.toList ++ e.trace⟩⟩

variable [DecidableEq R]

/-- Admitted and not released. -/
def Event.live (e : Event κ R) : Bool := e.trace.count .released < e.trace.count .admitted

/-- Refused, with the increment not yet undone. -/
def Event.trial (e : Event κ R) : Bool := e.trace.count .undone < e.trace.count .refused

def Event.holds (r : R) (e : Event κ R) : Bool := e.trace.count (.put r) < e.trace.count (.took r)

section Runs

variable [Fintype R] (program : κ → Code R) (cap : κ → Int) (inside : R → Bool)

/-- What a party did is in order, and what it has still to do is balanced. -/
def Tidy (e : Event κ R) : Prop :=
  ∃ l, replay inside e.trace = some l ∧ balanced inside l e.code = true

/-- The invariant of a run: tidy parties, and a counter that counts those admitted and those on
trial. -/
structure Inv (s : State κ R) : Prop where
  tidy : ∀ e ∈ s.events, Tidy inside e
  counter : s.counter = (s.events.countP Event.live + s.events.countP Event.trial : Nat)

variable {program cap inside} {s s' : State κ R} {e e' : Event κ R}

omit [Fintype R] in
private theorem live_eq {l : Ledger R} (h : Counts e.trace l) :
    e.live = decide (l.slot = .admitted) := by
  rw [Event.live, h.admitted, h.released]
  cases l.slot <;> simp

omit [Fintype R] in
private theorem trial_eq {l : Ledger R} (h : Counts e.trace l) :
    e.trial = decide (l.slot = .refused) := by
  rw [Event.trial, h.refused, h.undone]
  cases l.slot <;> simp

omit [Fintype R] in
private theorem countP_set {α : Type} (p : α → Bool) {l : List α} {i : Nat} {a : α} (b : α)
    (h : l[i]? = some a) :
    (l.set i b).countP p + (p a).toNat = l.countP p + (p b).toNat := by
  induction l generalizing i with
  | nil => cases h
  | cons x l ih =>
    cases i with
    | zero =>
      obtain rfl := Option.some.inj h
      rw [List.set_cons_zero, List.countP_cons, List.countP_cons]
      cases p x <;> cases p b <;> simp
    | succ i =>
      have hrest := ih (by simpa using h)
      rw [List.set_cons_succ, List.countP_cons, List.countP_cons]
      omega

omit [DecidableEq R] [Fintype R] in
private theorem slot_toNat {l : Ledger R} {t : Slot} (h : l.slot = t) :
    ((decide (l.slot = .admitted)).toNat + (decide (l.slot = .refused)).toNat : Int) =
      (decide (t = .admitted)).toNat + (decide (t = .refused)).toNat := by
  rw [h]

/-- The mark of a step changes the counter as it changes where the party stands. -/
private theorem delta_mark {l l' : Ledger R} {m : Mark R} (hm : l.mark inside m = some l') :
    delta (some m) =
      ((decide (l'.slot = .admitted)).toNat + (decide (l'.slot = .refused)).toNat : Int) -
        ((decide (l.slot = .admitted)).toNat + (decide (l.slot = .refused)).toNat : Int) := by
  cases Ledger.marks_of_mark hm with
  | took fresh slot => exact (Int.sub_self _).symm
  | put held => exact (Int.sub_self _).symm
  | admitted slot =>
    rw [slot_toNat slot]
    rfl
  | refused slot =>
    rw [slot_toNat slot]
    rfl
  | undone slot =>
    rw [slot_toNat slot]
    rfl
  | released slot out =>
    rw [slot_toNat slot]
    rfl

/-- One step of a tidy party. -/
private theorem tidy_next {ok room : Bool} {m : Option (Mark R)} {k : Code R} (h : Tidy inside e)
    (hn : e.code.next ok room = some (m, k)) :
    Tidy inside ⟨e.kind, k, m.toList ++ e.trace⟩ ∧
      delta m = ((Event.live ⟨e.kind, k, m.toList ++ e.trace⟩).toNat +
        (Event.trial ⟨e.kind, k, m.toList ++ e.trace⟩).toNat : Int) -
        (e.live.toNat + e.trial.toNat : Int) := by
  obtain ⟨l, hl, hb⟩ := h
  have hnext := balanced_next hb hn
  have hcounts := counts_of_replay hl
  cases m with
  | none =>
    refine ⟨⟨l, hl, hnext⟩, ?_⟩
    have hlive : Event.live ⟨e.kind, k, e.trace⟩ = e.live := rfl
    have htrial : Event.trial ⟨e.kind, k, e.trace⟩ = e.trial := rfl
    simp only [Option.toList_none, List.nil_append, hlive, htrial, delta, Int.sub_self]
  | some m =>
    obtain ⟨l', hmark, hbal⟩ := hnext
    have hl' : replay inside (m :: e.trace) = some l' := by
      rw [replay, hl, Option.bind_some, hmark]
    have hcounts' := counts_of_replay hl'
    refine ⟨⟨l', hl', hbal⟩, ?_⟩
    rw [live_eq hcounts, trial_eq hcounts, delta_mark hmark]
    simp only [Option.toList_some, List.singleton_append]
    rw [live_eq (e := ⟨e.kind, k, m :: e.trace⟩) hcounts',
      trial_eq (e := ⟨e.kind, k, m :: e.trace⟩) hcounts']

omit [DecidableEq R] [Fintype R] in
theorem step_advance {i : Nat} {ok : Bool} (h : step program cap s (.advance i ok) = some s') :
    ∃ e m k, s.events[i]? = some e ∧
      e.code.next ok (decide (s.counter + 1 ≤ cap e.kind)) = some (m, k) ∧
      s' = ⟨s.counter + delta m, s.events.set i ⟨e.kind, k, m.toList ++ e.trace⟩⟩ := by
  rw [step] at h
  split at h
  · cases h
  rename_i e he
  split at h
  · cases h
  rename_i m k hn
  exact ⟨e, m, k, he, hn, (Option.some.inj h).symm⟩

/-- Programs that are balanced from the start keep the invariant. -/
theorem step_inv (hprog : ∀ kind, balanced inside Ledger.start (program kind) = true)
    {a : Action κ} (h : Inv inside s) (hstep : step program cap s a = some s') : Inv inside s' := by
  cases a with
  | enter kind =>
    obtain rfl := Option.some.inj hstep
    refine ⟨fun e he => ?_, ?_⟩
    · rcases List.mem_append.mp he with hold | hnew
      · exact h.tidy e hold
      · rw [List.mem_singleton.mp hnew]
        exact ⟨Ledger.start, rfl, hprog kind⟩
    · show s.counter = _
      rw [h.counter, List.countP_append, List.countP_append]
      simp [Event.live, Event.trial]
  | advance i ok =>
    obtain ⟨e, m, k, he, hn, rfl⟩ := step_advance hstep
    obtain ⟨htidy, hdelta⟩ := tidy_next (h.tidy e (List.mem_of_getElem? he)) hn
    refine ⟨fun e' he' => ?_, ?_⟩
    · rcases List.mem_or_eq_of_mem_set he' with hold | rfl
      · exact h.tidy e' hold
      · exact htidy
    · have hlive := countP_set Event.live ⟨e.kind, k, m.toList ++ e.trace⟩ he
      have htrial := countP_set Event.trial ⟨e.kind, k, m.toList ++ e.trace⟩ he
      show s.counter + delta m =
        ((s.events.set i ⟨e.kind, k, m.toList ++ e.trace⟩).countP Event.live +
          (s.events.set i ⟨e.kind, k, m.toList ++ e.trace⟩).countP Event.trial : Nat)
      have hcounter := h.counter
      omega

theorem boot_inv : Inv inside (State.boot : State κ R) :=
  ⟨fun _ he => absurd he List.not_mem_nil, rfl⟩

theorem run_inv (hprog : ∀ kind, balanced inside Ledger.start (program kind) = true)
    {as : List (Action κ)} (hr : run (step program cap) State.boot as = some s) : Inv inside s :=
  run_invariant (Inv inside) (fun _ _ _ h hs => step_inv hprog h hs) boot_inv hr

/-- What a party did is matched: each thing at most once, and all of it at the end. -/
structure Matched (inside : R → Bool) (e : Event κ R) : Prop where
  admitted : e.trace.count .admitted ≤ 1
  released : e.trace.count .released ≤ e.trace.count .admitted
  took : ∀ r, e.trace.count (.took r) ≤ 1
  put : ∀ r, e.trace.count (.put r) ≤ e.trace.count (.took r)
  inside : ∀ r, inside r = true → e.holds r = true → e.live = true
  finished : e.code = .done → e.trace.count .released = e.trace.count .admitted ∧
    e.trace.count .undone = e.trace.count .refused ∧
    ∀ r, e.trace.count (.put r) = e.trace.count (.took r)

theorem Tidy.matched (h : Tidy inside e) : Matched inside e := by
  obtain ⟨l, hl, hb⟩ := h
  have hc := counts_of_replay hl
  refine ⟨?_, ?_, fun r => ?_, fun r => ?_, fun r hr hheld => ?_, fun hdone => ?_⟩
  · rw [hc.admitted]
    split <;> omega
  · rw [hc.admitted, hc.released]
    cases l.slot <;> simp
  · rw [hc.took]
    split <;> omega
  · rw [hc.took, hc.put]
    cases l.status r <;> simp
  · rw [live_eq hc, decide_eq_true_eq]
    refine inside_of_replay hl hr ?_
    rw [Event.holds, hc.took, hc.put, decide_eq_true_eq] at hheld
    cases hs : l.status r <;> rw [hs] at hheld <;> simp at hheld ⊢
  · rw [hdone] at hb
    obtain ⟨hheld, hslot⟩ := Bool.and_eq_true_iff.mp hb
    rw [decide_eq_true_eq] at hheld hslot
    refine ⟨?_, ?_, fun r => ?_⟩
    · rw [hc.released, hc.admitted]
      simp [hslot.1]
    · rw [hc.undone, hc.refused]
      simp [hslot.2]
    · have hr := hheld r
      rw [hc.put, hc.took]
      cases hs : l.status r
      · rfl
      · exact absurd hs hr
      · rfl

omit [DecidableEq R] [Fintype R] in
private theorem next_admitted {c k : Code R} {ok room : Bool}
    (h : c.next ok room = some (some .admitted, k)) : room = true := by
  cases c with
  | attempt fail k' =>
    cases room
    · cases h
    · rfl
  | tryTake r fail k' => cases ok <;> cases h
  | done => cases h
  | act k' => cases h
  | check fail k' => cases h
  | take r k' => cases h
  | put r k' => cases h
  | undo k' => cases h
  | release k' => cases h

omit [Fintype R] in
private theorem admitted_of_live {m : Option (Mark R)} {k : Code R} (hold : e.live = false)
    (hnew : Event.live (⟨e.kind, k, m.toList ++ e.trace⟩ : Event κ R) = true) :
    m = some .admitted := by
  rw [Event.live, decide_eq_false_iff_not] at hold
  rw [Event.live, decide_eq_true_eq] at hnew
  cases m with
  | none => exact absurd hnew hold
  | some m =>
    cases m <;> simp at hnew hold ⊢ <;> omega

omit [Fintype R] in
private theorem countP_and_le (P : κ → Bool) (es : List (Event κ R)) :
    es.countP (fun e => P e.kind && e.live) ≤ es.countP Event.live :=
  List.countP_mono_left fun _ _ h => (Bool.and_eq_true_iff.mp h).2

/-- Parties whose caps are all within a bound are never more than the bound at a time. -/
theorem admitted_le (hprog : ∀ kind, balanced inside Ledger.start (program kind) = true)
    (P : κ → Bool) {bound : Int} (hbound : 0 ≤ bound)
    (hcap : ∀ kind, P kind = true → cap kind ≤ bound)
    {as : List (Action κ)} (hr : run (step program cap) State.boot as = some s) :
    (s.events.countP (fun e => P e.kind && e.live) : Int) ≤ bound := by
  refine (run_invariant (fun s => Inv inside s ∧
    (s.events.countP (fun e => P e.kind && e.live) : Int) ≤ bound) ?_ ⟨boot_inv, hbound⟩ hr).2
  rintro s a s' ⟨hinv, hle⟩ hstep
  have hinv' := step_inv hprog hinv hstep
  refine ⟨hinv', ?_⟩
  cases a with
  | enter kind =>
    obtain rfl := Option.some.inj hstep
    rw [List.countP_append]
    simpa [Event.live] using hle
  | advance i ok =>
    obtain ⟨e, m, k, he, hn, rfl⟩ := step_advance hstep
    have hcount := countP_set (fun e => P e.kind && e.live) ⟨e.kind, k, m.toList ++ e.trace⟩ he
    by_cases hnew : (P e.kind && Event.live ⟨e.kind, k, m.toList ++ e.trace⟩) = true
    · obtain ⟨hP, hlive⟩ := Bool.and_eq_true_iff.mp hnew
      cases hold : e.live with
      | true =>
        -- one that was admitted before: as many as there were
        simp only [hP, hold, hlive, Bool.and_self, Bool.toNat_true] at hcount
        simp only
        omega
      | false =>
        -- a new one met room below its cap
        obtain rfl := admitted_of_live hold hlive
        have hroom := hcap e.kind hP
        have hnext := of_decide_eq_true (next_admitted hn)
        have hcounter := hinv'.counter
        have hsub := countP_and_le P
          (s.events.set i ⟨e.kind, k, (some .admitted).toList ++ e.trace⟩)
        simp only [delta] at hcounter
        simp only
        omega
    · simp only [hnew, Bool.toNat_false] at hcount
      simp only
      omega

omit [Fintype R] in
/-- An attempt is refused exactly when those admitted and those on trial fill the cap. -/
theorem refused_iff [Fintype R] (h : Inv inside s) {i : Nat} {ok : Bool} {fail k : Code R}
    (he : s.events[i]? = some e) (hcode : e.code = .attempt fail k)
    (hstep : step program cap s (.advance i ok) = some s') :
    (∃ e', s'.events[i]? = some e' ∧ e'.trace = .refused :: e.trace) ↔
      cap e.kind ≤ (s.events.countP Event.live + s.events.countP Event.trial : Nat) := by
  obtain ⟨e₁, m, k₁, he₁, hn, rfl⟩ := step_advance hstep
  obtain rfl := Option.some.inj (he.symm.trans he₁)
  have hat : (s.events.set i ⟨e.kind, k₁, m.toList ++ e.trace⟩)[i]? =
      some ⟨e.kind, k₁, m.toList ++ e.trace⟩ := by
    rw [List.getElem?_set_self (List.getElem?_eq_some_iff.mp he).1]
  have hcounter := h.counter
  rw [hcode, Code.next] at hn
  by_cases hroom : s.counter + 1 ≤ cap e.kind
  · rw [if_pos (decide_eq_true hroom)] at hn
    obtain ⟨rfl, rfl⟩ := Prod.mk.inj (Option.some.inj hn)
    constructor
    · rintro ⟨e', he', htrace⟩
      obtain rfl := Option.some.inj (hat.symm.trans he')
      cases List.head_eq_of_cons_eq htrace
    · intro hle
      omega
  · rw [if_neg (by simpa using hroom)] at hn
    obtain ⟨rfl, rfl⟩ := Prod.mk.inj (Option.some.inj hn)
    refine iff_of_true ⟨_, hat, rfl⟩ ?_
    omega

omit [DecidableEq R] [Fintype R] in
/-- Only an attempt is refused. -/
theorem admit_of_refused {i : Nat} {ok : Bool} (he : s.events[i]? = some e)
    (hstep : step program cap s (.advance i ok) = some s') (he' : s'.events[i]? = some e')
    (htrace : e'.trace = .refused :: e.trace) : ∃ fail k, e.code = .attempt fail k := by
  obtain ⟨e₁, m, k, he₁, hn, rfl⟩ := step_advance hstep
  obtain rfl := Option.some.inj (he.symm.trans he₁)
  rw [List.getElem?_set_self (List.getElem?_eq_some_iff.mp he).1] at he'
  obtain rfl := Option.some.inj he'
  have hm : m.toList = [.refused] := List.append_cancel_right (htrace : _ = [.refused] ++ e.trace)
  obtain rfl : m = some .refused := by
    cases m with
    | none => cases hm
    | some m => exact congrArg some (List.head_eq_of_cons_eq hm)
  cases hc : e.code with
  | attempt fail k' => exact ⟨fail, k', rfl⟩
  | tryTake r fail k' =>
    rw [hc] at hn
    cases ok <;> cases hn
  | done => rw [hc] at hn; cases hn
  | act k' => rw [hc] at hn; cases hn
  | check fail k' => rw [hc] at hn; cases hn
  | take r k' => rw [hc] at hn; cases hn
  | put r k' => rw [hc] at hn; cases hn
  | undo k' => rw [hc] at hn; cases hn
  | release k' => rw [hc] at hn; cases hn

omit [DecidableEq R] [Fintype R] in
/-- A party that is not at its end can always go on, and comes nearer to it. -/
theorem progress {i : Nat} (he : s.events[i]? = some e) (hcode : e.code ≠ .done) (ok : Bool) :
    ∃ s' e', step program cap s (.advance i ok) = some s' ∧ s'.events[i]? = some e' ∧
      e'.code.height < e.code.height ∧ ∀ j, j ≠ i → s'.events[j]? = s.events[j]? := by
  obtain ⟨m, k, hn, hlt⟩ := Code.next_height hcode ok (decide (s.counter + 1 ≤ cap e.kind))
  refine ⟨⟨s.counter + delta m, s.events.set i ⟨e.kind, k, m.toList ++ e.trace⟩⟩,
    ⟨e.kind, k, m.toList ++ e.trace⟩, ?_, ?_, hlt, fun j hj => ?_⟩
  · simp only [step, he, hn]
  · rw [List.getElem?_set_self (List.getElem?_eq_some_iff.mp he).1]
  · exact List.getElem?_set_ne hj.symm

/-- The action is a step of the party at `i`. -/
def Action.ofParty (i : Nat) : Action κ → Bool
  | .enter _ => false
  | .advance j _ => i == j

omit [DecidableEq R] [Fintype R] in
private theorem height_step {a : Action κ} {i : Nat} (he : s.events[i]? = some e)
    (hstep : step program cap s a = some s') :
    ∃ e', s'.events[i]? = some e' ∧
      e'.code.height + (a.ofParty i).toNat ≤ e.code.height := by
  have hlt := (List.getElem?_eq_some_iff.mp he).1
  cases a with
  | enter kind =>
    obtain rfl := Option.some.inj hstep
    exact ⟨e, by rw [List.getElem?_append_left hlt, he], Nat.le_refl _⟩
  | advance j ok =>
    by_cases hj : i = j
    · subst hj
      have hcode : e.code ≠ .done := by
        rintro hdone
        simp [step, he, hdone, Code.next] at hstep
      obtain ⟨s₁, e₁, hs₁, he₁, hheight, -⟩ :
          ∃ s₁ e₁, step program cap s (.advance i ok) = some s₁ ∧ s₁.events[i]? = some e₁ ∧
            e₁.code.height < e.code.height ∧ ∀ j, j ≠ i → s₁.events[j]? = s.events[j]? :=
        progress he hcode ok
      obtain rfl := Option.some.inj (hstep.symm.trans hs₁)
      refine ⟨e₁, he₁, ?_⟩
      rw [Action.ofParty, beq_self_eq_true, Bool.toNat_true]
      omega
    · obtain ⟨e₁, m, k, -, -, rfl⟩ := step_advance hstep
      refine ⟨e, by rw [List.getElem?_set_ne (Ne.symm hj), he], ?_⟩
      rw [Action.ofParty, beq_eq_false_iff_ne.mpr hj]
      exact Nat.le_refl _

omit [DecidableEq R] [Fintype R] in
/-- A party takes no more steps than its code is high, whatever the others do between them. -/
theorem steps_le {as : List (Action κ)} {i : Nat} (he : s.events[i]? = some e)
    (hr : run (step program cap) s as = some s') :
    ∃ e', s'.events[i]? = some e' ∧
      e'.code.height + as.countP (Action.ofParty i) ≤ e.code.height := by
  induction as generalizing s e with
  | nil =>
    obtain rfl := Option.some.inj hr
    exact ⟨e, he, Nat.le_refl _⟩
  | cons a as ih =>
    obtain ⟨t, hst, hrun⟩ := run_cons.mp hr
    obtain ⟨e₁, he₁, hle₁⟩ := height_step he hst
    obtain ⟨e', he', hle⟩ := ih he₁ hrun
    refine ⟨e', he', ?_⟩
    rw [List.countP_cons]
    cases hown : a.ofParty i <;> simp [hown] at hle₁ ⊢ <;> omega

end Runs

end KernelAv.Lib.Admission
