import Mathlib.Data.Option.Basic
import Mathlib.Order.Basic

/-!
# Lib.Optimistic — cells written under the version that was read

A cell is empty or holds a value with a version; a write names the version it expects, or that the
cell is empty, and every write gives the cell a version it never had.  A write under the version of
an earlier read therefore succeeds only on the very cell that was read.
-/

namespace HiveChameleon.Lib

structure Versioned (α : Type) where
  value : α
  version : ℕ
deriving DecidableEq

/-- A cell of an optimistic store. -/
abbrev Cell (α : Type) := Option (Versioned α)

namespace Cell

variable {α : Type} {seen cell cell' : Cell α} {value : α}

/-- The version a write expects after a read; `none` expects an empty cell. -/
def expected (seen : Cell α) : Option ℕ := seen.map Versioned.version

/-- A conditional write; `none` when the cell is not as expected. -/
def write (expected : Option ℕ) (value : α) (cell : Cell α) : Option (Versioned α) :=
  match expected, cell with
  | none, none => some ⟨value, 0⟩
  | some version, some object =>
    if object.version = version then some ⟨value, version + 1⟩ else none
  | _, _ => none

/-- How many writes the cell has seen. -/
def writes : Cell α → ℕ
  | none => 0
  | some object => object.version + 1

/-- `seen` was read from the cell at some time. -/
def SeenOf (seen cell : Cell α) : Prop := seen = cell ∨ seen.writes < cell.writes

theorem SeenOf.rfl : SeenOf cell cell := .inl (Eq.refl cell)

theorem writes_write {expected : Option ℕ} {object : Versioned α}
    (h : cell.write expected value = some object) :
    object.value = value ∧ Cell.writes (some object) = cell.writes + 1 := by
  rcases expected with _ | version <;> rcases cell with _ | old
  · obtain rfl := Option.some.inj h
    exact ⟨Eq.refl _, Eq.refl _⟩
  · cases h
  · cases h
  · simp only [write] at h
    split at h
    · rename_i hversion
      obtain rfl := Option.some.inj h
      subst hversion
      exact ⟨Eq.refl _, Eq.refl _⟩
    · cases h

theorem SeenOf.write {expected : Option ℕ} {object : Versioned α} (h : SeenOf seen cell)
    (hwrite : cell.write expected value = some object) : SeenOf seen (some object) := by
  have hwrites := (writes_write hwrite).2
  refine .inr ?_
  rcases h with rfl | h
  · omega
  · omega

/-- **A write after a read meets the cell that was read.** -/
theorem SeenOf.eq_of_write {object : Versioned α} (h : SeenOf seen cell)
    (hwrite : cell.write seen.expected value = some object) : seen = cell := by
  rcases h with h | h
  · exact h
  · rcases seen with _ | old <;> rcases cell with _ | new
    · rfl
    · cases hwrite
    · cases hwrite
    · simp only [expected, Option.map_some, Cell.write] at hwrite
      split at hwrite
      · rename_i hversion
        simp only [writes] at h
        omega
      · cases hwrite

theorem write_self : ∃ object, cell.write cell.expected value = some object := by
  rcases cell with _ | old
  · exact ⟨_, Eq.refl _⟩
  · exact ⟨⟨value, old.version + 1⟩, if_pos (Eq.refl _)⟩

end Cell

end HiveChameleon.Lib
