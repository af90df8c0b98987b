import HiveChameleon.Lib.Table

/-!
# Lib.Snapshot — tables under snapshot isolation

A transaction works on the snapshot it began with.  It commits only when every row that it changed is
still as its snapshot has it; the rows it changed go to the table, the others stay as they are by then.
-/

namespace HiveChameleon.Lib

variable {α κ : Type} {key : α → κ} [DecidableEq κ]

/-- **First updater wins**: what a transaction that took `base` to `after` leaves of `committed`. -/
def Table.Commits (base after committed merged : Table α key) : Prop :=
  ∀ k, (after.find? k = base.find? k ∧ merged.find? k = committed.find? k) ∨
    (after.find? k ≠ base.find? k ∧ committed.find? k = base.find? k ∧
      merged.find? k = after.find? k)

variable {base after committed merged : Table α key} {k : κ}

theorem Table.Commits.written (h : Table.Commits base after committed merged)
    (hchanged : after.find? k ≠ base.find? k) :
    committed.find? k = base.find? k ∧ merged.find? k = after.find? k := by
  rcases h k with ⟨hsame, -⟩ | ⟨-, hrow⟩
  · exact absurd hsame hchanged
  · exact hrow

/-- A relation that the transaction respects in its snapshot, the commit respects. -/
theorem Table.Commits.related {R : Option α → Option α → Prop} (hrefl : ∀ row, R row row)
    (hafter : R (base.find? k) (after.find? k)) (h : Table.Commits base after committed merged) :
    R (committed.find? k) (merged.find? k) := by
  rcases h k with ⟨-, hkept⟩ | ⟨-, hfirst, hwritten⟩
  · rw [hkept]
    exact hrefl _
  · rw [hfirst, hwritten]
    exact hafter

end HiveChameleon.Lib
