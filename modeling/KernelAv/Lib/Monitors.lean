/- digest: A mutex with condition variables: mutual exclusion, and the wake-ups on their way. -/

import Mathlib.Algebra.Order.BigOperators.Group.Finset
import Mathlib.Data.Fintype.Basic
import Mathlib.Logic.Function.Basic

set_option autoImplicit false
set_option relaxedAutoImplicit false

namespace KernelAv.Lib.Monitors

/-- Where a thread stands: without the mutex, with it, blocked on a condition variable, or woken
from it and on the way back to the mutex. -/
inductive Phase (κ : Type) where
  | outside
  | inside
  | blocked (c : κ)
  | woken (c : κ)
  deriving DecidableEq

structure Monitor (τ κ : Type) where
  owner : Option τ
  phase : τ → Phase κ

variable {τ κ : Type}

def Monitor.free : Monitor τ κ := ⟨none, fun _ => .outside⟩

variable [DecidableEq τ] [DecidableEq κ]

namespace Monitor

/-- The mutex is taken by a thread outside, or taken back by a woken one. -/
def acquire (m : Monitor τ κ) (t : τ) : Option (Monitor τ κ) :=
  match m.owner, m.phase t with
  | none, .outside => some ⟨some t, Function.update m.phase t .inside⟩
  | none, .woken _ => some ⟨some t, Function.update m.phase t .inside⟩
  | _, _ => none

def release (m : Monitor τ κ) (t : τ) : Option (Monitor τ κ) :=
  if m.owner = some t then some ⟨none, Function.update m.phase t .outside⟩ else none

/-- The mutex is given back and the thread blocked, at once. -/
def wait (m : Monitor τ κ) (t : τ) (c : κ) : Option (Monitor τ κ) :=
  if m.owner = some t then some ⟨none, Function.update m.phase t (.blocked c)⟩ else none

/-- A blocked thread wakes up, signalled or not. -/
def wake (m : Monitor τ κ) (t : τ) : Option (Monitor τ κ) :=
  match m.phase t with
  | .blocked c => some { m with phase := Function.update m.phase t (.woken c) }
  | _ => none

/-- A signal wakes a thread that is blocked on the condition variable, if there is one. -/
def signal [Fintype τ] (m : Monitor τ κ) (t : τ) (c : κ) (w : Option τ) : Option (Monitor τ κ) :=
  if m.owner = some t then
    match w with
    | some u =>
        if m.phase u = .blocked c then
          some { m with phase := Function.update m.phase u (.woken c) }
        else none
    | none => if ∀ u, m.phase u ≠ .blocked c then some m else none
  else none

def broadcast (m : Monitor τ κ) (t : τ) (c : κ) : Option (Monitor τ κ) :=
  if m.owner = some t then
    some { m with phase := fun u => if m.phase u = .blocked c then .woken c else m.phase u }
  else none

/-- The thread inside is the owner. -/
def Ok (m : Monitor τ κ) : Prop := ∀ t, m.phase t = .inside ↔ m.owner = some t

variable {m m' : Monitor τ κ} {t u : τ} {c d : κ} {w : Option τ}

omit [DecidableEq κ] in
theorem acquire_eq (h : m.acquire t = some m') : m.owner = none ∧
    (m.phase t = .outside ∨ ∃ c, m.phase t = .woken c) ∧
      m' = ⟨some t, Function.update m.phase t .inside⟩ := by
  rw [acquire] at h
  split at h
  · rename_i howner hphase
    exact ⟨howner, .inl hphase, (Option.some.inj h).symm⟩
  · rename_i c howner hphase
    exact ⟨howner, .inr ⟨c, hphase⟩, (Option.some.inj h).symm⟩
  · cases h

omit [DecidableEq κ] in
theorem release_eq (h : m.release t = some m') :
    m.owner = some t ∧ m' = ⟨none, Function.update m.phase t .outside⟩ := by
  rw [release] at h
  split at h
  · rename_i howner
    exact ⟨howner, (Option.some.inj h).symm⟩
  · cases h

omit [DecidableEq κ] in
theorem wait_eq (h : m.wait t c = some m') :
    m.owner = some t ∧ m' = ⟨none, Function.update m.phase t (.blocked c)⟩ := by
  rw [wait] at h
  split at h
  · rename_i howner
    exact ⟨howner, (Option.some.inj h).symm⟩
  · cases h

omit [DecidableEq κ] in
theorem wake_eq (h : m.wake t = some m') : ∃ c, m.phase t = .blocked c ∧
    m' = { m with phase := Function.update m.phase t (.woken c) } := by
  rw [wake] at h
  split at h
  · rename_i c hphase
    exact ⟨c, hphase, (Option.some.inj h).symm⟩
  · cases h

theorem signal_eq [Fintype τ] (h : m.signal t c w = some m') : m.owner = some t ∧
    ((∃ u, m.phase u = .blocked c ∧
        m' = { m with phase := Function.update m.phase u (.woken c) }) ∨
      ((∀ u, m.phase u ≠ .blocked c) ∧ m' = m)) := by
  unfold signal at h
  split at h
  swap
  · cases h
  rename_i howner
  refine ⟨howner, ?_⟩
  split at h
  · rename_i u
    split at h
    · rename_i hphase
      exact .inl ⟨u, hphase, (Option.some.inj h).symm⟩
    · cases h
  · split at h
    · rename_i hnone
      exact .inr ⟨hnone, (Option.some.inj h).symm⟩
    · cases h

theorem broadcast_eq (h : m.broadcast t c = some m') : m.owner = some t ∧
    m' = { m with phase := fun u => if m.phase u = .blocked c then .woken c else m.phase u } := by
  rw [broadcast] at h
  split at h
  · rename_i howner
    exact ⟨howner, (Option.some.inj h).symm⟩
  · cases h

omit [DecidableEq κ] in
private theorem ok_enter (hok : m.Ok) (howner : m.owner = none) :
    Ok (⟨some t, Function.update m.phase t .inside⟩ : Monitor τ κ) := by
  intro u
  by_cases hu : u = t
  · subst hu
    simp
  · have hout : m.phase u ≠ .inside := fun h => by
      rw [hok u, howner] at h
      cases h
    simp [Function.update_of_ne hu, hout, Ne.symm hu]

omit [DecidableEq κ] in
private theorem ok_leave (hok : m.Ok) (howner : m.owner = some t) {x : Phase κ}
    (hx : x ≠ .inside) : Ok (⟨none, Function.update m.phase t x⟩ : Monitor τ κ) := by
  intro u
  by_cases hu : u = t
  · subst hu
    simp [hx]
  · have hout : m.phase u ≠ .inside := fun h => by
      rw [hok u, howner] at h
      exact hu (Option.some.inj h).symm
    simp [Function.update_of_ne hu, hout]

omit [DecidableEq κ] in
private theorem ok_woken (hok : m.Ok) (hphase : m.phase t = .blocked c) :
    Ok { m with phase := Function.update m.phase t (.woken c) } := by
  intro u
  by_cases hu : u = t
  · subst hu
    have hout := (hok u).not.mp (by rw [hphase]; exact nofun)
    simpa using hout
  · simpa [Function.update_of_ne hu] using hok u

omit [DecidableEq τ] [DecidableEq κ] in
theorem ok_free : Ok (Monitor.free : Monitor τ κ) := fun _ => by simp [Monitor.free]

omit [DecidableEq κ] in
theorem Ok.acquire (hok : m.Ok) (h : m.acquire t = some m') : m'.Ok := by
  obtain ⟨howner, -, rfl⟩ := acquire_eq h
  exact ok_enter hok howner

omit [DecidableEq κ] in
theorem Ok.release (hok : m.Ok) (h : m.release t = some m') : m'.Ok := by
  obtain ⟨howner, rfl⟩ := release_eq h
  exact ok_leave hok howner nofun

omit [DecidableEq κ] in
theorem Ok.wait (hok : m.Ok) (h : m.wait t c = some m') : m'.Ok := by
  obtain ⟨howner, rfl⟩ := wait_eq h
  exact ok_leave hok howner nofun

omit [DecidableEq κ] in
theorem Ok.wake (hok : m.Ok) (h : m.wake t = some m') : m'.Ok := by
  obtain ⟨c, hphase, rfl⟩ := wake_eq h
  exact ok_woken hok hphase

theorem Ok.signal [Fintype τ] (hok : m.Ok) (h : m.signal t c w = some m') : m'.Ok := by
  obtain ⟨-, ⟨u, hphase, rfl⟩ | ⟨-, rfl⟩⟩ := signal_eq h
  · exact ok_woken hok hphase
  · exact hok

theorem Ok.broadcast (hok : m.Ok) (h : m.broadcast t c = some m') : m'.Ok := by
  obtain ⟨-, rfl⟩ := broadcast_eq h
  intro u
  by_cases hu : m.phase u = .blocked c
  · have hout := (hok u).not.mp (by rw [hu]; exact nofun)
    simpa [hu] using hout
  · simpa [hu] using hok u

section Frames

/-! What an operation leaves of who has the mutex and who is blocked. -/

omit [DecidableEq κ] in
theorem owner_acquire (h : m.acquire t = some m') : m.owner = none ∧ m'.owner = some t := by
  obtain ⟨howner, -, rfl⟩ := acquire_eq h
  exact ⟨howner, rfl⟩

omit [DecidableEq κ] in
theorem owner_release (h : m.release t = some m') : m.owner = some t ∧ m'.owner = none := by
  obtain ⟨howner, rfl⟩ := release_eq h
  exact ⟨howner, rfl⟩

omit [DecidableEq κ] in
theorem owner_wait (h : m.wait t c = some m') : m.owner = some t ∧ m'.owner = none := by
  obtain ⟨howner, rfl⟩ := wait_eq h
  exact ⟨howner, rfl⟩

omit [DecidableEq κ] in
theorem owner_wake (h : m.wake t = some m') : m'.owner = m.owner := by
  obtain ⟨c, -, rfl⟩ := wake_eq h
  rfl

theorem owner_signal [Fintype τ] (h : m.signal t c w = some m') :
    m.owner = some t ∧ m'.owner = some t := by
  obtain ⟨howner, ⟨u, -, rfl⟩ | ⟨-, rfl⟩⟩ := signal_eq h <;> exact ⟨howner, howner⟩

theorem owner_broadcast (h : m.broadcast t c = some m') :
    m.owner = some t ∧ m'.owner = some t := by
  obtain ⟨howner, rfl⟩ := broadcast_eq h
  exact ⟨howner, howner⟩

omit [DecidableEq κ] in
private theorem blocked_of_update {x : Phase κ} (hx : ∀ d, x ≠ .blocked d)
    (h : Function.update m.phase t x u = .blocked d) : m.phase u = .blocked d := by
  by_cases hu : u = t
  · subst hu
    rw [Function.update_self] at h
    exact absurd h (hx d)
  · rwa [Function.update_of_ne hu] at h

omit [DecidableEq κ] in
theorem blocked_of_acquire (h : m.acquire t = some m') (hb : m'.phase u = .blocked d) :
    m.phase u = .blocked d := by
  obtain ⟨-, -, rfl⟩ := acquire_eq h
  exact blocked_of_update (x := .inside) (fun _ => nofun) hb

omit [DecidableEq κ] in
theorem blocked_of_release (h : m.release t = some m') (hb : m'.phase u = .blocked d) :
    m.phase u = .blocked d := by
  obtain ⟨-, rfl⟩ := release_eq h
  exact blocked_of_update (x := .outside) (fun _ => nofun) hb

omit [DecidableEq κ] in
theorem blocked_of_wait (h : m.wait t c = some m') (hb : m'.phase u = .blocked d) :
    (u = t ∧ d = c) ∨ m.phase u = .blocked d := by
  obtain ⟨-, rfl⟩ := wait_eq h
  by_cases hu : u = t
  · subst hu
    have hc : Phase.blocked c = .blocked d := by simpa using hb
    exact .inl ⟨rfl, (Phase.blocked.inj hc).symm⟩
  · exact .inr (by simpa [Function.update_of_ne hu] using hb)

omit [DecidableEq κ] in
theorem blocked_of_wake (h : m.wake t = some m') (hb : m'.phase u = .blocked d) :
    m.phase u = .blocked d := by
  obtain ⟨c, -, rfl⟩ := wake_eq h
  exact blocked_of_update (x := .woken c) (fun _ => nofun) hb

theorem blocked_of_signal [Fintype τ] (h : m.signal t c w = some m')
    (hb : m'.phase u = .blocked d) : m.phase u = .blocked d := by
  obtain ⟨-, ⟨v, -, rfl⟩ | ⟨-, rfl⟩⟩ := signal_eq h
  · exact blocked_of_update (x := .woken c) (fun _ => nofun) hb
  · exact hb

theorem blocked_of_broadcast (h : m.broadcast t c = some m') (hb : m'.phase u = .blocked d) :
    m.phase u = .blocked d := by
  obtain ⟨-, rfl⟩ := broadcast_eq h
  by_cases hu : m.phase u = .blocked c
  · simp [hu] at hb
  · simpa [hu] using hb

/-- A signal leaves nobody blocked where only one thread can be. -/
theorem not_blocked_signal [Fintype τ] (h : m.signal t c w = some m')
    (honly : ∀ v, m.phase v = .blocked c → v = u) : m'.phase u ≠ .blocked c := by
  obtain ⟨-, ⟨v, hv, rfl⟩ | ⟨hnone, rfl⟩⟩ := signal_eq h
  · obtain rfl := honly v hv
    simp
  · exact hnone u

/-- After a broadcast no thread is blocked on the condition variable. -/
theorem not_blocked_broadcast (ha : m.broadcast t c = some m') (u : τ) :
    m'.phase u ≠ .blocked c := by
  obtain ⟨-, rfl⟩ := broadcast_eq ha
  by_cases hu : m.phase u = .blocked c <;> simp [hu]

end Frames

section Places

/-- Where a program has a thread: without the mutex, with it, or in a loop that waits on a condition
variable, where it has the mutex, is blocked or woken. -/
inductive Place (κ : Type) where
  | out
  | locked
  | loop (c : κ)
  deriving DecidableEq

def Place.Allows : Place κ → Phase κ → Prop
  | .out, p => p = .outside
  | .locked, p => p = .inside
  | .loop c, p => p = .inside ∨ p = .blocked c ∨ p = .woken c

/-- Every thread is in a phase that its place allows, and only the owner is inside. -/
structure Standing (m : Monitor τ κ) (place : τ → Place κ) : Prop where
  ok : m.Ok
  allows : ∀ t, (place t).Allows (m.phase t)

variable {place : τ → Place κ}

omit [DecidableEq κ] in
private theorem Standing.update {o : Option τ} {x : Phase κ} {p : Place κ}
    (h : Standing m place) (hok : Ok (⟨o, Function.update m.phase t x⟩ : Monitor τ κ))
    (hp : p.Allows x) :
    Standing (⟨o, Function.update m.phase t x⟩ : Monitor τ κ) (Function.update place t p) := by
  refine ⟨hok, fun u => ?_⟩
  by_cases hu : u = t
  · subst hu
    simpa using hp
  · simpa [Function.update_of_ne hu] using h.allows u

omit [DecidableEq κ] in
theorem Standing.acquire {p : Place κ} (h : Standing m place) (ha : m.acquire t = some m')
    (hp : p.Allows .inside) : Standing m' (Function.update place t p) := by
  have hok := h.ok.acquire ha
  obtain ⟨-, -, rfl⟩ := acquire_eq ha
  exact h.update hok hp

omit [DecidableEq κ] in
theorem Standing.release (h : Standing m place) (ha : m.release t = some m') :
    Standing m' (Function.update place t .out) := by
  have hok := h.ok.release ha
  obtain ⟨-, rfl⟩ := release_eq ha
  exact h.update hok rfl

omit [DecidableEq κ] in
theorem Standing.wait (h : Standing m place) (hp : place t = .loop c)
    (ha : m.wait t c = some m') : Standing m' place := by
  have hok := h.ok.wait ha
  obtain ⟨-, rfl⟩ := wait_eq ha
  have hplace := h.update (p := .loop c) hok (.inr (.inl rfl))
  rwa [← hp, Function.update_eq_self] at hplace

omit [DecidableEq κ] in
private theorem Place.Allows.woken {p : Place κ} (h : p.Allows (.blocked c)) :
    p.Allows (.woken c) := by
  cases p with
  | out => cases h
  | locked => cases h
  | loop d =>
    rcases h with h | h | h
    · cases h
    · obtain rfl := Phase.blocked.inj h
      exact .inr (.inr rfl)
    · cases h

omit [DecidableEq κ] in
private theorem Standing.woken (h : Standing m place) (hphase : m.phase u = .blocked c) :
    Standing { m with phase := Function.update m.phase u (.woken c) } place := by
  refine ⟨ok_woken h.ok hphase, fun v => ?_⟩
  by_cases hv : v = u
  · subst hv
    have hallows := h.allows v
    rw [hphase] at hallows
    simpa using hallows.woken
  · simpa [Function.update_of_ne hv] using h.allows v

omit [DecidableEq κ] in
theorem Standing.wake (h : Standing m place) (ha : m.wake t = some m') : Standing m' place := by
  obtain ⟨c, hphase, rfl⟩ := wake_eq ha
  exact h.woken hphase

theorem Standing.signal [Fintype τ] (h : Standing m place) (ha : m.signal t c w = some m') :
    Standing m' place := by
  obtain ⟨-, ⟨u, hphase, rfl⟩ | ⟨-, rfl⟩⟩ := signal_eq ha
  · exact h.woken hphase
  · exact h

theorem Standing.broadcast (h : Standing m place) (ha : m.broadcast t c = some m') :
    Standing m' place := by
  refine ⟨h.ok.broadcast ha, fun u => ?_⟩
  obtain ⟨-, rfl⟩ := broadcast_eq ha
  by_cases hu : m.phase u = .blocked c
  · have hallows := h.allows u
    rw [hu] at hallows
    simpa [hu] using hallows.woken
  · simpa [hu] using h.allows u

omit [DecidableEq κ] in
/-- The owner goes on under the mutex. -/
theorem Standing.move {p : Place κ} (h : Standing m place) (howner : m.owner = some t)
    (hp : p.Allows .inside) : Standing m (Function.update place t p) := by
  have hself : (⟨m.owner, Function.update m.phase t .inside⟩ : Monitor τ κ) = m := by
    rw [← (h.ok t).mpr howner, Function.update_eq_self]
  have hmove := h.update (o := m.owner) (x := .inside) (p := p) (by rw [hself]; exact h.ok) hp
  rwa [hself] at hmove

omit [DecidableEq τ] [DecidableEq κ] in
theorem Standing.owner (h : Standing m place) (hp : place t = .locked) : m.owner = some t := by
  have hallows := h.allows t
  rw [hp] at hallows
  exact (h.ok t).mp hallows

omit [DecidableEq τ] [DecidableEq κ] in
/-- A thread blocks only where its loop waits. -/
theorem Standing.loop_of_blocked (h : Standing m place) (hb : m.phase t = .blocked c) :
    place t = .loop c := by
  have hallows := h.allows t
  rw [hb] at hallows
  cases hp : place t with
  | out => rw [hp] at hallows; cases hallows
  | locked => rw [hp] at hallows; cases hallows
  | loop d =>
    rw [hp] at hallows
    rcases hallows with h | h | h
    · cases h
    · rw [Phase.blocked.inj h]
    · cases h

omit [DecidableEq τ] [DecidableEq κ] in
theorem Standing.loop_of_woken (h : Standing m place) (hb : m.phase t = .woken c) :
    place t = .loop c := by
  have hallows := h.allows t
  rw [hb] at hallows
  cases hp : place t with
  | out => rw [hp] at hallows; cases hallows
  | locked => rw [hp] at hallows; cases hallows
  | loop d =>
    rw [hp] at hallows
    rcases hallows with h | h | h
    · cases h
    · cases h
    · rw [Phase.woken.inj h]

end Places

section Wakeups

variable [Fintype τ]

/-- How many threads are woken from a condition variable and not back inside. -/
def wakeups (m : Monitor τ κ) (c : κ) : Nat := ∑ t, (decide (m.phase t = .woken c)).toNat

omit [DecidableEq κ] in
private theorem sum_update (p : Phase κ → Bool) (f : τ → Phase κ) (t : τ) (x : Phase κ) :
    ∑ u, (p (Function.update f t x u)).toNat + (p (f t)).toNat =
      ∑ u, (p (f u)).toNat + (p x).toNat := by
  have hnew := Finset.add_sum_erase Finset.univ (fun u => (p (Function.update f t x u)).toNat)
    (Finset.mem_univ t)
  have hold := Finset.add_sum_erase Finset.univ (fun u => (p (f u)).toNat) (Finset.mem_univ t)
  have hrest : ∑ u ∈ Finset.univ.erase t, (p (Function.update f t x u)).toNat =
      ∑ u ∈ Finset.univ.erase t, (p (f u)).toNat :=
    Finset.sum_congr rfl fun u hu => by rw [Function.update_of_ne (Finset.ne_of_mem_erase hu)]
  rw [Function.update_self] at hnew
  omega

/-- If a thread is blocked on the condition variable, at least `n` wake-ups are on the way. -/
def Served (m : Monitor τ κ) (c : κ) (n : Nat) : Prop :=
  (∃ t, m.phase t = .blocked c) → n ≤ m.wakeups c

variable {n k : Nat}

omit [DecidableEq τ] in
theorem Served.mono (h : m.Served c n) (hle : k ≤ n) : m.Served c k :=
  fun hb => hle.trans (h hb)

omit [DecidableEq τ] in
theorem served_zero (m : Monitor τ κ) (c : κ) : m.Served c 0 := fun _ => Nat.zero_le _

private theorem Served.update {x : Phase κ} {o : Option τ} (h : m.Served c n)
    (hx : x ≠ .blocked c) (hk : k + (decide (m.phase t = .woken c)).toNat ≤
      n + (decide (x = .woken c)).toNat) :
    (⟨o, Function.update m.phase t x⟩ : Monitor τ κ).Served c k := by
  rintro ⟨u, hu⟩
  have hne : u ≠ t := by
    rintro rfl
    exact hx (by simpa using hu)
  have hold := h ⟨u, by simpa [Function.update_of_ne hne] using hu⟩
  have hsum : (⟨o, Function.update m.phase t x⟩ : Monitor τ κ).wakeups c +
      (decide (m.phase t = .woken c)).toNat = m.wakeups c + (decide (x = .woken c)).toNat :=
    sum_update (fun y => decide (y = .woken c)) m.phase t x
  omega

/-- A thread that comes back from the condition variable uses one wake-up. -/
theorem Served.acquire (h : m.Served c n) (ha : m.acquire t = some m') :
    m'.Served c (n - 1) := by
  obtain ⟨-, -, rfl⟩ := acquire_eq ha
  cases n with
  | zero => exact served_zero _ c
  | succ n =>
    refine h.update nofun ?_
    cases decide (m.phase t = .woken c) <;> simp

/-- One that comes from elsewhere uses none. -/
theorem Served.enter (h : m.Served c n) (ht : m.phase t ≠ .woken c)
    (ha : m.acquire t = some m') : m'.Served c n := by
  obtain ⟨-, -, rfl⟩ := acquire_eq ha
  refine h.update nofun ?_
  simp [ht]

theorem Served.release (h : m.Served c n) (hok : m.Ok) (ha : m.release t = some m') :
    m'.Served c n := by
  obtain ⟨howner, rfl⟩ := release_eq ha
  refine h.update nofun ?_
  simp [(hok t).mpr howner]

theorem Served.wait (h : m.Served c n) (hok : m.Ok) (hd : d ≠ c) (ha : m.wait t d = some m') :
    m'.Served c n := by
  obtain ⟨howner, rfl⟩ := wait_eq ha
  refine h.update (fun hx => hd (Phase.blocked.inj hx)) ?_
  simp [(hok t).mpr howner]

private theorem Served.woken (h : m.Served c n) (hphase : m.phase u = .blocked d) :
    Served { m with phase := Function.update m.phase u (.woken d) } c
      (n + (decide (d = c)).toNat) := by
  refine h.update nofun ?_
  simp [hphase]

theorem Served.wake (h : m.Served c n) (ha : m.wake t = some m') : m'.Served c n := by
  obtain ⟨d, hphase, rfl⟩ := wake_eq ha
  exact (h.woken hphase).mono (Nat.le_add_right _ _)

/-- A signal is a wake-up on the way, if any thread is blocked. -/
theorem Served.signal (h : m.Served c n) (ha : m.signal t c w = some m') :
    m'.Served c (n + 1) := by
  obtain ⟨-, ⟨u, hphase, rfl⟩ | ⟨hnone, rfl⟩⟩ := signal_eq ha
  · simpa using h.woken hphase
  · exact fun ⟨u, hu⟩ => absurd hu (hnone u)

theorem Served.signal_other (h : m.Served c n) (ha : m.signal t d w = some m') :
    m'.Served c n := by
  obtain ⟨-, ⟨u, hphase, rfl⟩ | ⟨-, rfl⟩⟩ := signal_eq ha
  · exact (h.woken hphase).mono (Nat.le_add_right _ _)
  · exact h

theorem Served.broadcast (h : m.Served c n) (ha : m.broadcast t d = some m') :
    m'.Served c n := by
  by_cases hd : c = d
  · subst hd
    exact fun ⟨u, hu⟩ => absurd hu (not_blocked_broadcast ha u)
  · obtain ⟨-, rfl⟩ := broadcast_eq ha
    rintro ⟨u, hu⟩
    have hblocked : m.phase u = .blocked c := by
      by_cases hud : m.phase u = .blocked d
      · simp [hud] at hu
      · simpa [hud] using hu
    refine (h ⟨u, hblocked⟩).trans (Finset.sum_le_sum fun v _ => ?_)
    by_cases hv : m.phase v = .blocked d <;> simp [hv]

end Wakeups

end Monitor

end KernelAv.Lib.Monitors
