import Mathlib.Data.List.Chain

/-!
# Lib.HashChain — linked families of blocks whose ids determine their ancestors

Blocks have a height, an id and the id of their parent.  In a universe where the id determines the
other two, two linked families that share a block agree on every height below it, and every block
of a linked family is an ancestor of the higher ones.  Blocks and ids are parameters.
-/

namespace HiveChameleon.Lib

/-- How blocks of type `B` name themselves and their parents. -/
structure Linkage (B I : Type) where
  number : B → ℕ
  id : B → I
  parent : B → I

namespace Linkage

variable {B I : Type} (L : Linkage B I)

/-- In `U` the id of a block determines its height and its parent. -/
def Determined (U : B → Prop) : Prop :=
  ∀ b b', U b → U b' → L.id b = L.id b' → L.number b = L.number b' ∧ L.parent b = L.parent b'

/-- A family linked down to height one, with one id a height. -/
structure Linked (P : B → Prop) : Prop where
  pos : ∀ b, P b → 1 ≤ L.number b
  unique : ∀ b b', P b → P b' → L.number b = L.number b' → L.id b = L.id b'
  parent : ∀ b, P b → 1 < L.number b → ∃ p, P p ∧ L.number p + 1 = L.number b ∧ L.parent b = L.id p

/-- `a` is `b` or lies below it, along parents. -/
inductive Ancestor (U : B → Prop) (a : B) : B → Prop where
  | refl (h : U a) : Ancestor U a a
  | step {p b : B} (h : Ancestor U a p) (hb : U b) (hparent : L.parent b = L.id p)
      (hnumber : L.number b = L.number p + 1) : Ancestor U a b

variable {L} {U P P' : B → Prop}

/-- **Agreement below a shared block**: two linked families with a block of the same id have the
same ids at every height below it. -/
theorem Linked.agree_below (hU : L.Determined U) (h : L.Linked P) (h' : L.Linked P')
    (hPU : ∀ b, P b → U b) (hPU' : ∀ b, P' b → U b) {b b' x : B} (hb : P b) (hb' : P' b')
    (hid : L.id b = L.id b') (hx : P x) (hle : L.number x ≤ L.number b) :
    ∃ x', P' x' ∧ L.number x' = L.number x ∧ L.id x' = L.id x := by
  obtain ⟨d, hd⟩ := Nat.exists_eq_add_of_le hle
  induction d generalizing b b' with
  | zero =>
    have hnumber := (hU b b' (hPU b hb) (hPU' b' hb') hid).1
    exact ⟨b', hb', by omega, by rw [← hid]; exact h.unique b x hb hx hd⟩
  | succ d ih =>
    -- one step down in both families: the ids of the parents agree
    obtain ⟨hnumber, hparent⟩ := hU b b' (hPU b hb) (hPU' b' hb') hid
    have hpos := h.pos x hx
    obtain ⟨p, hp, hpn, hpid⟩ := h.parent b hb (by omega)
    obtain ⟨p', hp', hpn', hpid'⟩ := h'.parent b' hb' (by omega)
    exact ih hp hp' (by rw [← hpid, ← hpid', hparent]) (by omega) (by omega)

theorem Linked.ancestor (h : L.Linked P) (hPU : ∀ b, P b → U b) {a b : B} (ha : P a) (hb : P b)
    (hle : L.number a ≤ L.number b) :
    ∃ a', P a' ∧ L.number a' = L.number a ∧ L.id a' = L.id a ∧ L.Ancestor U a' b := by
  obtain ⟨d, hd⟩ := Nat.exists_eq_add_of_le hle
  induction d generalizing b with
  | zero => exact ⟨b, hb, hd, h.unique b a hb ha hd, .refl (hPU b hb)⟩
  | succ d ih =>
    have hpos := h.pos a ha
    obtain ⟨p, hp, hpn, hpid⟩ := h.parent b hb (by omega)
    obtain ⟨a', ha', hn, hid, hanc⟩ := ih hp (by omega) (by omega)
    exact ⟨a', ha', hn, hid, hanc.step (hPU b hb) hpid hpn.symm⟩

theorem linked_of_list {blocks : List B}
    (hnumber : blocks.map L.number = List.range' 1 blocks.length)
    (hlinked : blocks.IsChain fun b c => L.parent c = L.id b) : L.Linked (· ∈ blocks) := by
  have hindex : ∀ i (hi : i < blocks.length), L.number blocks[i] = 1 + i := by
    intro i hi
    have hget : (blocks.map L.number)[i]? = (List.range' 1 blocks.length)[i]? := by rw [hnumber]
    rw [List.getElem?_map, List.getElem?_eq_getElem hi, List.getElem?_range' hi] at hget
    simpa using hget
  refine ⟨fun b hb => ?_, fun b b' hb hb' heq => ?_, fun b hb hlt => ?_⟩
  · obtain ⟨i, hi, rfl⟩ := List.getElem_of_mem hb
    rw [hindex i hi]; omega
  · obtain ⟨i, hi, rfl⟩ := List.getElem_of_mem hb
    obtain ⟨j, hj, rfl⟩ := List.getElem_of_mem hb'
    rw [hindex i hi, hindex j hj] at heq
    obtain rfl : i = j := by omega
    rfl
  · obtain ⟨i, hi, rfl⟩ := List.getElem_of_mem hb
    rw [hindex i hi] at hlt
    obtain ⟨j, rfl⟩ : ∃ j, i = j + 1 := ⟨i - 1, by omega⟩
    refine ⟨blocks[j], List.getElem_mem _, ?_, List.isChain_iff_getElem.mp hlinked j hi⟩
    rw [hindex j (by omega), hindex (j + 1) hi]; omega

end Linkage

end HiveChameleon.Lib
