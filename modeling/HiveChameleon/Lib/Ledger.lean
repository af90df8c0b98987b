import Mathlib.Data.List.Basic
import Mathlib.Data.List.Range

/-!
# Lib.Ledger — a list of entries that grows at its end and is cut back to a height

A ledger keeps the entries that were not cut off and the height up to which they are settled.  What a
history of moves leaves is what its survivors alone would leave.
-/

namespace HiveChameleon.Lib

/-- The entries, the first one at height one, and the height up to which they are settled. -/
@[ext] structure Ledger (β : Type) where
  entries : List β
  settled : ℕ

namespace Ledger

variable {β γ : Type}

/-- A new entry, a cut down to a height, or a height that is settled. -/
inductive Move (β : Type) where
  | push (entry : β)
  | cut (height : ℕ)
  | settle (height : ℕ)
deriving DecidableEq

def empty : Ledger β := ⟨[], 0⟩

def move (l : Ledger β) : Move β → Ledger β
  | .push entry => { l with entries := l.entries ++ [entry] }
  | .cut height => { l with entries := l.entries.take height }
  | .settle height => { l with settled := max l.settled height }

def after (moves : List (Move β)) : Ledger β := moves.foldl move empty

/-- The moves that lead to a ledger without a detour. -/
def survivors (l : Ledger β) : List (Move β) := l.entries.map .push ++ [.settle l.settled]

theorem after_concat (moves : List (Move β)) (m : Move β) : after (moves ++ [m]) = (after moves).move m := by
  rw [after, List.foldl_append]
  rfl

theorem foldl_push (entries : List β) (l : Ledger β) :
    (entries.map Move.push).foldl move l = { l with entries := l.entries ++ entries } := by
  induction entries generalizing l with
  | nil => rw [List.map_nil, List.foldl_nil, List.append_nil]
  | cons entry entries ih =>
    rw [List.map_cons, List.foldl_cons, ih]
    show (⟨l.entries ++ [entry] ++ entries, l.settled⟩ : Ledger β) = _
    rw [List.append_assoc]
    rfl

/-- **Detours leave nothing**: the survivors lead to the same ledger. -/
theorem after_survivors (l : Ledger β) : after l.survivors = l := by
  rw [survivors, after_concat, after, foldl_push]
  exact Ledger.ext (List.nil_append _) (Nat.zero_max _)

theorem filter_flatMap_of {g : β → List γ} {p : γ → Bool} {q : β → Bool} : ∀ {entries : List β},
    (∀ entry ∈ entries, ∀ c ∈ g entry, p c = q entry) →
      (entries.flatMap g).filter p = (entries.filter q).flatMap g
  | [], _ => rfl
  | entry :: entries, h => by
    obtain ⟨hfirst, hrest⟩ := List.forall_mem_cons.mp h
    rw [List.flatMap_cons, List.filter_append, filter_flatMap_of hrest, List.filter_cons]
    cases hq : q entry with
    | true =>
      rw [if_pos rfl, List.flatMap_cons, List.filter_eq_self.mpr fun c hc => (hfirst c hc).trans hq]
    | false =>
      have hnone : (g entry).filter p = [] := by
        refine List.filter_eq_nil_iff.mpr fun c hc htrue => ?_
        rw [hfirst c hc, hq] at htrue
        cases htrue
      rw [if_neg nofun, hnone, List.nil_append]

/-- The height of an entry is its place. -/
def Numbered (number : β → ℕ) (l : Ledger β) : Prop :=
  l.entries.map number = List.range' 1 l.entries.length

variable {number : β → ℕ} {l : Ledger β}

theorem numbered_empty : Numbered number (empty : Ledger β) := rfl

theorem Numbered.push (h : Numbered number l) {entry : β} (hnext : number entry = l.entries.length + 1) :
    Numbered number (l.move (.push entry)) := by
  show (l.entries ++ [entry]).map number = List.range' 1 (l.entries ++ [entry]).length
  rw [List.map_append, h, List.map_singleton, hnext, List.length_append, List.length_singleton,
    List.range'_concat, Nat.one_mul, Nat.add_comm 1]

/-- Entries numbered from `start` on: a height cuts off what is numbered above it. -/
theorem take_eq_filter : ∀ {entries : List β} {start : ℕ},
    entries.map number = List.range' start entries.length →
      ∀ k, entries.take k = entries.filter fun entry => number entry < start + k
  | [], _, _, _ => by rw [List.take_nil, List.filter_nil]
  | entry :: entries, start, hmap, k => by
    rw [List.map_cons, List.length_cons, List.range'_succ, List.cons.injEq] at hmap
    obtain ⟨hfirst, hrest⟩ := hmap
    cases k with
    | zero =>
      have habove : ∀ a ∈ entry :: entries, ¬ number a < start := by
        intro a ha
        rcases List.mem_cons.mp ha with rfl | ha
        · omega
        · have hmem : number a ∈ List.range' (start + 1) entries.length :=
            hrest ▸ List.mem_map_of_mem ha
          have := (List.mem_range'_1.mp hmem).1
          omega
      rw [List.take_zero, eq_comm, List.filter_eq_nil_iff]
      exact fun a ha hlt => habove a ha (of_decide_eq_true hlt)
    | succ k =>
      have hkept : decide (number entry < start + (k + 1)) = true := decide_eq_true (by omega)
      rw [List.take_succ_cons, List.filter_cons, if_pos hkept, take_eq_filter hrest k, Nat.add_assoc,
        Nat.add_comm 1]

theorem Numbered.take (h : Numbered number l) (height : ℕ) :
    l.entries.take height = l.entries.filter fun entry => number entry ≤ height := by
  rw [take_eq_filter h height]
  exact List.filter_congr fun entry _ => by rw [decide_eq_decide]; omega

theorem Numbered.cut (h : Numbered number l) (height : ℕ) : Numbered number (l.move (.cut height)) := by
  show (l.entries.take height).map number = List.range' 1 (l.entries.take height).length
  rw [List.map_take, h, List.length_take]
  rcases le_total l.entries.length height with hle | hle
  · rw [List.take_range'_of_length_le hle, min_eq_right hle]
  · rw [List.take_range'_of_length_ge hle, min_eq_left hle]

end Ledger

end HiveChameleon.Lib
