import Mathlib.Data.Fintype.BigOperators
import Mathlib.Data.Fintype.Perm
import Mathlib.Data.Nat.Factorial.BigOperators
import Mathlib.Data.Rat.Defs
import Mathlib.Logic.Equiv.Fintype
import Mathlib.SetTheory.Cardinal.Finite

/-!
# Lib.Shuffle — the swaps of a shuffle and the permutations they make

A shuffle of `n` places goes down from the last one and swaps each place with a chosen one that is not
above it.  Its choice sequences are as many as the permutations, and different sequences make different
permutations; so under uniform choices an event has the chance that it has under a uniform permutation.
-/

namespace HiveChameleon.Lib

open Equiv

/-- A choice for every place, the `i`-th one from `0..i`. -/
abbrev Choices (n : ℕ) := (i : Fin n) → Fin (i + 1)

namespace Choices

variable {n : ℕ}

/-- The choice for a place; zero outside. -/
def choice (c : Choices n) (i : ℕ) : ℕ := if h : i < n then c ⟨i, h⟩ else 0

theorem choice_eq (c : Choices n) {i : ℕ} (h : i < n) : c.choice i = c ⟨i, h⟩ := dif_pos h

theorem choice_le (c : Choices n) (i : ℕ) : c.choice i ≤ i := by
  unfold choice
  split
  · rename_i h
    exact Nat.le_of_lt_succ (c ⟨i, h⟩).isLt
  · exact Nat.zero_le i

/-- What the swaps from a place down make of the places. -/
def swaps (c : Choices n) : ℕ → Perm (Fin n)
  | 0 => 1
  | index + 1 =>
    if h : index + 1 < n then
      swap ⟨index + 1, h⟩ ⟨c.choice (index + 1), (c.choice_le _).trans_lt h⟩ * c.swaps index
    else 1

/-- The permutation that a whole shuffle makes. -/
def permutation (c : Choices n) : Perm (Fin n) := c.swaps (n - 1)

theorem swaps_succ (c : Choices n) {index : ℕ} (h : index + 1 < n) :
    c.swaps (index + 1) =
      swap ⟨index + 1, h⟩ ⟨c.choice (index + 1), (c.choice_le _).trans_lt h⟩ * c.swaps index := by
  rw [swaps, dif_pos h]

theorem swaps_above (c : Choices n) (index : ℕ) (j : Fin n) (hj : index < j) : c.swaps index j = j := by
  induction index with
  | zero => rfl
  | succ index ih =>
    have hlt : index + 1 < n := hj.trans j.isLt
    have hchosen := c.choice_le (index + 1)
    rw [swaps_succ c hlt, Perm.mul_apply, ih (by omega)]
    refine swap_apply_of_ne_of_ne ?_ ?_
    · exact Fin.ne_of_val_ne (show j.val ≠ index + 1 by omega)
    · exact Fin.ne_of_val_ne (show j.val ≠ c.choice (index + 1) by omega)

theorem choice_eq_of_swaps_eq {c c' : Choices n} (index : ℕ) (hindex : index < n)
    (h : c.swaps index = c'.swaps index) : ∀ j ≤ index, c.choice j = c'.choice j := by
  induction index with
  | zero =>
    intro j hj
    have hc := c.choice_le j
    have hc' := c'.choice_le j
    omega
  | succ index ih =>
    have hplace (d : Choices n) : (d.swaps (index + 1) ⟨index + 1, hindex⟩).val = d.choice (index + 1) := by
      rw [swaps_succ d hindex, Perm.mul_apply, swaps_above d index _ (Nat.lt_succ_self index),
        swap_apply_left]
    have hfirst : c.choice (index + 1) = c'.choice (index + 1) := by
      rw [← hplace c, ← hplace c', h]
    rw [swaps_succ c hindex, swaps_succ c' hindex] at h
    simp only [hfirst] at h
    have hrest := ih (by omega) (mul_left_cancel h)
    intro j hj
    rcases Nat.lt_or_eq_of_le hj with hlt | rfl
    · exact hrest j (by omega)
    · exact hfirst

theorem permutation_injective : Function.Injective (permutation : Choices n → Perm (Fin n)) := by
  intro c c' h
  funext i
  have hn : n - 1 < n := by
    have := i.isLt
    omega
  have hi : c.choice i = c'.choice i := choice_eq_of_swaps_eq (n - 1) hn h i (by omega)
  rw [choice_eq c i.isLt, choice_eq c' i.isLt] at hi
  exact Fin.ext hi

theorem card_eq_factorial : Fintype.card (Choices n) = n.factorial := by
  rw [Fintype.card_pi]
  simp only [Fintype.card_fin]
  rw [Fin.prod_univ_eq_prod_range (fun i => i + 1) n, ← Nat.factorial_eq_prod_range_add_one]

/-- **Choice sequences are permutations**: each permutation comes from exactly one of them. -/
theorem permutation_bijective : Function.Bijective (permutation : Choices n → Perm (Fin n)) := by
  refine (Fintype.bijective_iff_injective_and_card _).mpr ⟨permutation_injective, ?_⟩
  rw [card_eq_factorial, Fintype.card_perm, Fintype.card_fin]

end Choices

/-! ### Chances -/

section Chance

variable {Ω Ω' : Type}

/-- The chance of an event when every outcome is as likely as any other. -/
noncomputable def chance (event : Ω → Prop) : ℚ := Nat.card {x // event x} / Nat.card Ω

theorem chance_congr (e : Ω ≃ Ω') {event : Ω → Prop} {event' : Ω' → Prop}
    (h : ∀ x, event' (e x) ↔ event x) : chance event = chance event' := by
  have hcount : Nat.card {x // event x} = Nat.card {x // event' x} :=
    Nat.card_congr (e.subtypeEquiv fun x => (h x).symm)
  rw [chance, chance, hcount, Nat.card_congr e]

theorem chance_eq (x : Ω) : chance (fun y => y = x) = 1 / Nat.card Ω := by
  have hcount : Nat.card {y // y = x} = 1 := Nat.card_unique
  rw [chance, hcount, Nat.cast_one]

theorem chance_and (event : Ω → Prop) (event' : Ω' → Prop) :
    chance (fun x : Ω × Ω' => event x.1 ∧ event' x.2) = chance event * chance event' := by
  have hcount : Nat.card {x : Ω × Ω' // event x.1 ∧ event' x.2} =
      Nat.card {x // event x} * Nat.card {x // event' x} := by
    rw [Nat.card_congr Equiv.subtypeProdEquivProd, Nat.card_prod]
  rw [chance, chance, chance, hcount, Nat.card_prod, Nat.cast_mul, Nat.cast_mul, mul_div_mul_comm]

variable {n : ℕ}

theorem chance_permutation (σ : Perm (Fin n)) :
    chance (fun c : Choices n => c.permutation = σ) = 1 / n.factorial := by
  have huniform : chance (fun c : Choices n => c.permutation = σ) = chance (fun τ => τ = σ) :=
    chance_congr (Equiv.ofBijective _ Choices.permutation_bijective) fun _ => Iff.rfl
  rw [huniform, chance_eq, Nat.card_eq_fintype_card, Fintype.card_perm, Fintype.card_fin]

/-- **Relabelled places**: two events that a permutation of the places takes to each other have the
same chance. -/
theorem chance_permutation_congr (π : Perm (Fin n)) (event event' : Perm (Fin n) → Prop)
    (h : ∀ σ, event' (π * σ) ↔ event σ) :
    chance (fun c : Choices n => event c.permutation) =
      chance (fun c : Choices n => event' c.permutation) := by
  let e : Choices n ≃ Perm (Fin n) := Equiv.ofBijective _ Choices.permutation_bijective
  refine chance_congr (e.trans ((Equiv.mulLeft π).trans e.symm)) fun c => ?_
  have hmoved : ((e.trans ((Equiv.mulLeft π).trans e.symm)) c).permutation = π * c.permutation :=
    e.apply_symm_apply _
  rw [hmoved]
  exact h _

theorem chance_filled {S S' : Finset (Fin n)} (hcard : S.card = S'.card) (A : Fin n → Prop) :
    chance (fun c : Choices n => ∀ i, c.permutation i ∈ S ↔ A i) =
      chance (fun c : Choices n => ∀ i, c.permutation i ∈ S' ↔ A i) := by
  obtain ⟨π, rfl⟩ := Perm.exists_map_finset_eq S S' hcard
  refine chance_permutation_congr π (fun σ => ∀ i, σ i ∈ S ↔ A i)
    (fun σ => ∀ i, σ i ∈ S.map π.toEmbedding ↔ A i) fun σ => ?_
  have hmoved (i : Fin n) : (π * σ) i ∈ S.map π.toEmbedding ↔ σ i ∈ S :=
    Finset.mem_map' π.toEmbedding
  simp only [hmoved]

theorem chance_seated {k : ℕ} (place : Fin k → Fin n) {x y : Fin k → Fin n} (hx : Function.Injective x)
    (hy : Function.Injective y) :
    chance (fun c : Choices n => ∀ i, c.permutation (place i) = x i) =
      chance (fun c : Choices n => ∀ i, c.permutation (place i) = y i) := by
  obtain ⟨π, hπ⟩ := Equiv.Perm.exists_extending_pair x y hx hy
  refine chance_permutation_congr π (fun σ => ∀ i, σ (place i) = x i)
    (fun σ => ∀ i, σ (place i) = y i) fun σ => ?_
  simp only [Perm.mul_apply, ← hπ, EmbeddingLike.apply_eq_iff_eq]

end Chance

end HiveChameleon.Lib
