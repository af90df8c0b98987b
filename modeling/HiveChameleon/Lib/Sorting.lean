import Mathlib.Data.List.Pairwise
import Mathlib.Data.List.Sort

/-!
# Lib.Sorting — a sorted list against a second order

A list is in the order `r`.  `pairwise_iff_of_sorted` says when it is also in the order `s`: `r` has
to have every pair the way round that `s` insists on.  A part of a list is sorted as it stands in the
sorted list.
-/

namespace HiveChameleon.Lib

variable {α : Type} {r s : α → α → Prop} {l : List α}

/-- A list in the order `s` has `a` before `b` unless `b` may stand before `a`. -/
theorem pairwise_of_not (hs : l.Pairwise s) (hr : l.Pairwise r) {a b : α} (ha : a ∈ l) (hb : b ∈ l)
    (hne : a ≠ b) (hba : ¬ s b a) : r a b := by
  induction l with
  | nil => exact absurd ha List.not_mem_nil
  | cons x l ih =>
    obtain ⟨hsx, hsl⟩ := List.pairwise_cons.mp hs
    obtain ⟨hrx, hrl⟩ := List.pairwise_cons.mp hr
    rcases List.mem_cons.mp ha with rfl | hal
    · rcases List.mem_cons.mp hb with rfl | hbl
      · exact absurd rfl hne
      · exact hrx b hbl
    · rcases List.mem_cons.mp hb with rfl | hbl
      · exact absurd (hsx a hal) hba
      · exact ih hsl hrl hal hbl

/-- **A list in the order `r` is in the order `s`** if and only if `r` has every pair the way round
that `s` insists on. -/
theorem pairwise_iff_of_sorted (hsorted : l.Pairwise r) (hrefl : ∀ a ∈ l, s a a)
    (hanti : ∀ a ∈ l, ∀ b ∈ l, r a b → r b a → a = b) :
    l.Pairwise s ↔ ∀ a ∈ l, ∀ b ∈ l, ¬ s b a → r a b := by
  constructor
  · intro hs a ha b hb hba
    have hne : a ≠ b := by
      rintro rfl
      exact hba (hrefl a ha)
    exact pairwise_of_not hs hsorted ha hb hne hba
  · intro h
    refine hsorted.imp_of_mem fun {x y} hx hy hxy => ?_
    by_contra hnot
    have hyx := h y hy x hx hnot
    obtain rfl := hanti x hx y hy hxy hyx
    exact hnot (hrefl x hx)

/-! ### The sorted list and its parts -/

section Filter

variable [DecidableRel r] (p : α → Bool)

theorem filter_orderedInsert (htrans : ∀ a b c, r a b → r b c → r a c) (a : α) (hl : l.Pairwise r) :
    (l.orderedInsert r a).filter p = if p a then (l.filter p).orderedInsert r a else l.filter p := by
  induction l with
  | nil => cases ha : p a <;> simp [ha]
  | cons b l ih =>
    obtain ⟨hb, hl'⟩ := List.pairwise_cons.mp hl
    by_cases hab : r a b
    · rw [List.orderedInsert_cons_of_le r l hab, List.filter_cons]
      -- everything behind `b` is behind `a`
      have hfirst : (List.filter p (b :: l)).orderedInsert r a = a :: List.filter p (b :: l) := by
        cases hfilter : List.filter p (b :: l) with
        | nil => rfl
        | cons c rest =>
          refine List.orderedInsert_cons_of_le r rest ?_
          have hc : c ∈ b :: l := List.mem_of_mem_filter (hfilter ▸ List.mem_cons_self)
          rcases List.mem_cons.mp hc with rfl | hc
          · exact hab
          · exact htrans a b c hab (hb c hc)
      rw [hfirst]
    · rw [List.orderedInsert_of_not_le r l hab, List.filter_cons, List.filter_cons, ih hl']
      cases hpb : p b with
      | false => rfl
      | true =>
        cases hpa : p a with
        | false => rfl
        | true =>
          rw [if_pos rfl, if_pos rfl, if_pos rfl, if_pos rfl, List.orderedInsert_of_not_le r _ hab]

/-- **A part is sorted in place.** -/
theorem filter_insertionSort (htrans : ∀ a b c, r a b → r b c → r a c) (htotal : ∀ a b, r a b ∨ r b a) :
    (l.insertionSort r).filter p = (l.filter p).insertionSort r := by
  have : Std.Total r := ⟨htotal⟩
  have : IsTrans α r := ⟨htrans⟩
  induction l with
  | nil => rfl
  | cons a l ih =>
    rw [List.insertionSort_cons, filter_orderedInsert p htrans a (List.pairwise_insertionSort r l), ih,
      List.filter_cons]
    cases p a with
    | false => rfl
    | true => rfl

end Filter

end HiveChameleon.Lib
