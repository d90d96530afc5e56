/- digest: Selection by partition: values that change places in a range, cuts, and ranks. -/

import Mathlib.Data.Finset.Card
import Mathlib.Logic.Equiv.Basic
import Mathlib.Order.Interval.Finset.Nat

set_option autoImplicit false
set_option relaxedAutoImplicit false

namespace KernelAv.Lib.Selection

section Places

variable {α : Type} {l r n : Nat} {f g h : Nat → α}

/-- The values from `l` to `r` change places, and the others stay. -/
def Rearranged (l r : Nat) (f g : Nat → α) : Prop :=
  ∃ σ : Equiv.Perm Nat, (∀ i, i < l ∨ r < i → σ i = i) ∧ ∀ i, g i = f (σ i)

theorem Rearranged.refl (l r : Nat) (f : Nat → α) : Rearranged l r f f :=
  ⟨Equiv.refl Nat, fun _ _ => rfl, fun _ => rfl⟩

theorem Rearranged.trans (hfg : Rearranged l r f g) (hgh : Rearranged l r g h) :
    Rearranged l r f h := by
  obtain ⟨σ, hσ, hg⟩ := hfg
  obtain ⟨τ, hτ, hh⟩ := hgh
  refine ⟨τ.trans σ, fun i hi => ?_, fun i => ?_⟩
  · rw [Equiv.trans_apply, hτ i hi, hσ i hi]
  · rw [hh, hg, Equiv.trans_apply]

theorem Rearranged.mono {l' r' : Nat} (hl : l' ≤ l) (hr : r ≤ r') (hfg : Rearranged l r f g) :
    Rearranged l' r' f g := by
  obtain ⟨σ, hσ, hg⟩ := hfg
  refine ⟨σ, fun i hi => hσ i ?_, hg⟩
  omega

/-- Two values change places. -/
theorem Rearranged.of_swap {i j : Nat} (hi : l ≤ i ∧ i ≤ r) (hj : l ≤ j ∧ j ≤ r)
    (hg : ∀ k, g k = f (Equiv.swap i j k)) : Rearranged l r f g := by
  refine ⟨Equiv.swap i j, fun k hk => ?_, hg⟩
  apply Equiv.swap_apply_of_ne_of_ne
  · omega
  · omega

/-- What is moved within a range stays within it. -/
private theorem within {σ : Equiv.Perm Nat} (hσ : ∀ i, i < l ∨ r < i → σ i = i) {i : Nat}
    (hi : l ≤ i ∧ i ≤ r) : l ≤ σ i ∧ σ i ≤ r := by
  by_contra hout
  have hfix : σ (σ i) = σ i := hσ (σ i) (by omega)
  have hsame : σ i = i := σ.injective hfix
  rw [hsame] at hout
  exact hout hi

theorem Rearranged.outside (hfg : Rearranged l r f g) {i : Nat} (hi : i < l ∨ r < i) :
    g i = f i := by
  obtain ⟨σ, hσ, hg⟩ := hfg
  rw [hg, hσ i hi]

/-- A property of the values of the first `n` places holds of as many. -/
theorem Rearranged.card_filter (hfg : Rearranged l r f g) (hr : r < n) (p : α → Prop)
    [DecidablePred p] :
    ((Finset.range n).filter fun i => p (g i)).card =
      ((Finset.range n).filter fun i => p (f i)).card := by
  obtain ⟨σ, hσ, hg⟩ := hfg
  have hbound : ∀ i, i < n → σ i < n := by
    intro i hi
    by_cases hin : l ≤ i ∧ i ≤ r
    · have hwithin := within hσ hin
      omega
    · rw [hσ i (by omega)]
      exact hi
  apply Finset.card_bij fun i _ => σ i
  · intro i hi
    rw [Finset.mem_filter, Finset.mem_range] at hi ⊢
    exact ⟨hbound i hi.1, hg i ▸ hi.2⟩
  · intro i _ j _ hij
    exact σ.injective hij
  · intro j hj
    rw [Finset.mem_filter, Finset.mem_range] at hj
    have hback : σ (σ.symm j) = j := σ.apply_symm_apply j
    have hlt : σ.symm j < n := by
      by_cases hin : l ≤ σ.symm j ∧ σ.symm j ≤ r
      · omega
      · have hfix := hσ (σ.symm j) (by omega)
        rw [hback] at hfix
        omega
    refine ⟨σ.symm j, ?_, hback⟩
    rw [Finset.mem_filter, Finset.mem_range, hg, hback]
    exact ⟨hlt, hj.2⟩

private theorem card_filter_range (n : Nat) (f : Nat → α) (q : α → Prop) [DecidablePred q] :
    ((Finset.range n).filter fun i => q (f i)).card =
      ((List.range n).map f).countP fun x => decide (q x) := by
  rw [List.countP_map, List.countP_eq_length_filter]
  rfl

/-- Values that change places are a permutation of what they were. -/
theorem Rearranged.perm [DecidableEq α] (hfg : Rearranged l r f g) (hr : r < n) :
    ((List.range n).map g).Perm ((List.range n).map f) := by
  rw [List.perm_iff_count]
  intro a
  have hcard := hfg.card_filter hr fun x => x = a
  rw [card_filter_range n g fun x => x = a, card_filter_range n f fun x => x = a] at hcard
  simpa only [List.count, beq_eq_decide] using hcard

end Places

section Order

variable {α : Type} [LinearOrder α] {l r n k p : Nat} {f g : Nat → α}

/-- Of `n` values, those before `k` are at most those from `k` on. -/
def Cut (n : Nat) (f : Nat → α) (k : Nat) : Prop := ∀ i j, i < k → k ≤ j → j < n → f i ≤ f j

theorem cut_zero (n : Nat) (f : Nat → α) : Cut n f 0 := fun _ _ hi => absurd hi (Nat.not_lt_zero _)

theorem cut_end (n : Nat) (f : Nat → α) : Cut n f n :=
  fun _ _ _ hj hn => absurd hn (not_lt.mpr hj)

/-- A rearrangement on one side of a cut keeps it. -/
theorem Cut.rearranged (hcut : Cut n f k) (hfg : Rearranged l r f g) (hside : k ≤ l ∨ r < k)
    (hr : r < n) : Cut n g k := by
  obtain ⟨σ, hσ, hg⟩ := hfg
  intro i j hi hj hn
  have hplace : ∀ m, (l ≤ m ∧ m ≤ r → l ≤ σ m ∧ σ m ≤ r) ∧ (m < l ∨ r < m → σ m = m) :=
    fun m => ⟨within hσ, hσ m⟩
  have hpi := hplace i
  have hpj := hplace j
  rw [hg i, hg j]
  apply hcut
  · omega
  · omega
  · omega

/-- A partition of the range between two cuts gives two more, around its pivot. -/
theorem cut_pivot {ret : Nat} (hl : Cut n g l) (hr : Cut n g (r + 1)) (hret : l ≤ ret ∧ ret ≤ r)
    (hbelow : ∀ i, l ≤ i → i < ret → g i ≤ g ret)
    (habove : ∀ i, ret < i → i ≤ r → g ret ≤ g i) : Cut n g ret ∧ Cut n g (ret + 1) := by
  have hmid : ∀ i j, i ≤ ret → ret ≤ j → j < n → g i ≤ g j := by
    intro i j hi hj hn
    by_cases hil : i < l
    · exact hl i j hil (by omega) hn
    · by_cases hjr : r < j
      · exact hr i j (by omega) hjr hn
      · have hleft : g i ≤ g ret := by
          rcases Nat.lt_or_eq_of_le hi with hlt | rfl
          · exact hbelow i (by omega) hlt
          · exact le_refl _
        have hright : g ret ≤ g j := by
          rcases Nat.lt_or_eq_of_le hj with hlt | rfl
          · exact habove j hlt (by omega)
          · exact le_refl _
        exact hleft.trans hright
  refine ⟨fun i j hi hj hn => hmid i j (by omega) hj hn, fun i j hi hj hn => ?_⟩
  exact hmid i j (by omega) (by omega) hn

/-- Of `n` values, at most `p` are below this one, and more than `p` are not above it. -/
structure HasRank (n : Nat) (f : Nat → α) (p : Nat) (v : α) : Prop where
  below : ((Finset.range n).filter fun i => f i < v).card ≤ p
  upto : p < ((Finset.range n).filter fun i => f i ≤ v).card

/-- A value of a lower rank is not above one of a higher rank. -/
theorem HasRank.mono {v w : α} {p' : Nat} (hp : p ≤ p') (hv : HasRank n f p v)
    (hw : HasRank n f p' w) : v ≤ w := by
  by_contra hlt
  have hsub : ((Finset.range n).filter fun i => f i ≤ w) ⊆
      (Finset.range n).filter fun i => f i < v := by
    intro i hi
    rw [Finset.mem_filter] at hi ⊢
    exact ⟨hi.1, hi.2.trans_lt (not_le.mp hlt)⟩
  have hcard := Finset.card_le_card hsub
  have hbelow := hv.below
  have hupto := hw.upto
  omega

theorem HasRank.unique {v w : α} (hv : HasRank n f p v) (hw : HasRank n f p w) : v = w :=
  le_antisymm (hv.mono (le_refl p) hw) (hw.mono (le_refl p) hv)

/-- What stands between two cuts has the rank of its place. -/
theorem hasRank_of_cuts (hp : p < n) (hcut : Cut n f p) (hcut' : Cut n f (p + 1)) :
    HasRank n f p (f p) where
  below := by
    have hsub : ((Finset.range n).filter fun i => f i < f p) ⊆ Finset.range p := by
      intro i hi
      rw [Finset.mem_filter, Finset.mem_range] at hi
      rw [Finset.mem_range]
      by_contra hge
      rcases Nat.lt_or_eq_of_le (not_lt.mp hge) with hlt | rfl
      · exact absurd hi.2 (not_lt.mpr (hcut' p i (Nat.lt_succ_self p) hlt hi.1))
      · exact lt_irrefl _ hi.2
    exact (Finset.card_le_card hsub).trans_eq (Finset.card_range p)
  upto := by
    have hsub : Finset.range (p + 1) ⊆ (Finset.range n).filter fun i => f i ≤ f p := by
      intro i hi
      rw [Finset.mem_range] at hi
      rw [Finset.mem_filter, Finset.mem_range]
      refine ⟨by omega, ?_⟩
      rcases Nat.lt_or_eq_of_le (Nat.le_of_lt_succ hi) with hlt | rfl
      · exact hcut i p hlt (le_refl p) hp
      · exact le_refl _
    have hcard := Finset.card_le_card hsub
    rw [Finset.card_range] at hcard
    exact hcard

/-- The value of a rank is one of the values. -/
theorem HasRank.attained {v : α} (hv : HasRank n f p v) : ∃ i, i < n ∧ f i = v := by
  by_contra hnone
  have hsub : ((Finset.range n).filter fun i => f i ≤ v) ⊆
      (Finset.range n).filter fun i => f i < v := by
    intro i hi
    rw [Finset.mem_filter, Finset.mem_range] at hi ⊢
    refine ⟨hi.1, hi.2.lt_of_ne fun heq => ?_⟩
    exact hnone ⟨i, hi.1, heq⟩
  have hcard := Finset.card_le_card hsub
  have hbelow := hv.below
  have hupto := hv.upto
  omega

/-- Only the values counted matter. -/
theorem HasRank.congr {v : α} (hfg : ∀ i, i < n → f i = g i) (hv : HasRank n f p v) :
    HasRank n g p v where
  below := by
    have hsame : ((Finset.range n).filter fun i => g i < v) =
        (Finset.range n).filter fun i => f i < v :=
      Finset.filter_congr fun i hi => by rw [hfg i (Finset.mem_range.mp hi)]
    rw [hsame]
    exact hv.below
  upto := by
    have hsame : ((Finset.range n).filter fun i => g i ≤ v) =
        (Finset.range n).filter fun i => f i ≤ v :=
      Finset.filter_congr fun i hi => by rw [hfg i (Finset.mem_range.mp hi)]
    rw [hsame]
    exact hv.upto

theorem HasRank.of_rearranged {v : α} (hfg : Rearranged l r f g) (hr : r < n)
    (hv : HasRank n g p v) : HasRank n f p v where
  below := by
    rw [← hfg.card_filter hr fun x => x < v]
    exact hv.below
  upto := by
    rw [← hfg.card_filter hr fun x => x ≤ v]
    exact hv.upto

/-- The value of a rank stands at that place of the values in order. -/
theorem HasRank.sorted {v : α} (hp : p < n) (hv : HasRank n f p v) :
    (((List.range n).map f).mergeSort fun a b => decide (a ≤ b))[p]? = some v := by
  generalize hxs : ((List.range n).map f).mergeSort (fun a b => decide (a ≤ b)) = xs
  have hperm : xs.Perm ((List.range n).map f) := hxs ▸ List.mergeSort_perm _ _
  have hsorted : xs.Pairwise fun a b => decide (a ≤ b) = true := by
    rw [← hxs]
    apply List.pairwise_mergeSort
    · intro a b c hab hbc
      exact decide_eq_true ((of_decide_eq_true hab).trans (of_decide_eq_true hbc))
    · intro a b
      rw [Bool.or_eq_true]
      exact (le_total a b).imp decide_eq_true decide_eq_true
  have hlen : xs.length = n := by
    rw [hperm.length_eq, List.length_map, List.length_range]
  have hplaces : (List.range n).map (fun i => xs.getD i v) = xs := by
    apply List.ext_getElem
    · rw [List.length_map, List.length_range, hlen]
    · intro i _ hi
      rw [List.getElem_map, List.getElem_range, List.getD_eq_getElem?_getD,
        List.getElem?_eq_getElem hi, Option.getD_some]
  have hcut : ∀ k, Cut n (fun i => xs.getD i v) k := by
    intro k i j hi hj hn
    have hjn : j < xs.length := by omega
    have hin : i < xs.length := by omega
    have hle := List.pairwise_iff_getElem.mp hsorted i j hin hjn (by omega)
    simp only [List.getD_eq_getElem?_getD, List.getElem?_eq_getElem hin,
      List.getElem?_eq_getElem hjn, Option.getD_some]
    exact of_decide_eq_true hle
  have hrank : HasRank n (fun i => xs.getD i v) p (xs.getD p v) :=
    hasRank_of_cuts hp (hcut p) (hcut (p + 1))
  have hback : HasRank n f p (xs.getD p v) := by
    constructor
    · have hbelow := hrank.below
      rw [card_filter_range n _ fun x => x < xs.getD p v, hplaces, hperm.countP_eq] at hbelow
      rw [card_filter_range n f fun x => x < xs.getD p v]
      exact hbelow
    · have hupto := hrank.upto
      rw [card_filter_range n _ fun x => x ≤ xs.getD p v, hplaces, hperm.countP_eq] at hupto
      rw [card_filter_range n f fun x => x ≤ xs.getD p v]
      exact hupto
  have hpn : p < xs.length := by omega
  rw [hv.unique hback, List.getElem?_eq_getElem hpn, List.getD_eq_getElem?_getD,
    List.getElem?_eq_getElem hpn, Option.getD_some]

end Order

end KernelAv.Lib.Selection
