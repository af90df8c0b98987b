import Mathlib.Data.Option.Basic

/-!
# Lib.NullLogic — conditions over columns that may be null

SQL evaluates a comparison with a null operand to unknown, combines truth values as Kleene does, and
takes the branch of an `IF` only on a condition that is true.  A disjunction of comparisons is
therefore taken exactly when one of them is true, and a null operand silences its comparison.
-/

namespace HiveChameleon.Lib

/-- A truth value of SQL; `none` is unknown. -/
abbrev Truth := Option Bool

namespace Truth

/-- `IF` and `WHERE` act on a condition that is true. -/
def Holds (c : Truth) : Prop := c = some true

instance (c : Truth) : Decidable c.Holds := inferInstanceAs (Decidable (_ = _))

/-- Kleene disjunction. -/
def or : Truth → Truth → Truth
  | some true, _ => some true
  | _, some true => some true
  | some false, some false => some false
  | _, _ => none

def anyOf : List Truth → Truth
  | [] => some false
  | c :: cs => c.or (anyOf cs)

/-- A condition without null operands. -/
def ofProp (p : Prop) [Decidable p] : Truth := some (decide p)

variable {α : Type} [DecidableEq α]

/-- `a <> b` -/
def ne : Option α → Option α → Truth
  | some a, some b => some (decide (a ≠ b))
  | _, _ => none

/-- `a = b` -/
def eq : Option α → Option α → Truth
  | some a, some b => some (decide (a = b))
  | _, _ => none

/-- `a IS DISTINCT FROM b` -/
def isDistinctFrom (a b : Option α) : Truth := some (decide (a ≠ b))

theorem holds_or {c d : Truth} : (c.or d).Holds ↔ c.Holds ∨ d.Holds := by
  unfold Holds
  rcases c with _ | c <;> rcases d with _ | d
  · decide
  · cases d <;> decide
  · cases c <;> decide
  · cases c <;> cases d <;> decide

/-- **A disjunction is taken exactly when one of its conditions is true.** -/
theorem holds_anyOf : ∀ {cs : List Truth}, (anyOf cs).Holds ↔ ∃ c ∈ cs, c.Holds
  | [] => by simp [anyOf, Holds]
  | c :: cs => by
    rw [anyOf, holds_or, holds_anyOf]
    simp

@[simp] theorem holds_ofProp {p : Prop} [Decidable p] : (ofProp p).Holds ↔ p := by
  simp [ofProp, Holds]

@[simp] theorem holds_isDistinctFrom {a b : Option α} : (isDistinctFrom a b).Holds ↔ a ≠ b := by
  simp [isDistinctFrom, Holds]

theorem holds_ne {a b : Option α} : (ne a b).Holds ↔ a ≠ none ∧ b ≠ none ∧ a ≠ b := by
  rcases a with _ | a <;> rcases b with _ | b <;> simp [ne, Holds]

theorem holds_eq {a b : Option α} : (eq a b).Holds ↔ a ≠ none ∧ a = b := by
  rcases a with _ | a <;> rcases b with _ | b <;> simp [eq, Holds]

theorem not_holds_ne_some {a : Option α} {b : α} :
    ¬ (ne a (some b)).Holds ↔ a = none ∨ a = some b := by
  rw [holds_ne]
  by_cases ha : a = none
  · simp [ha]
  · simp [ha]

end Truth

end HiveChameleon.Lib
