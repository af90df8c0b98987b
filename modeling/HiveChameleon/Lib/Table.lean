import Mathlib.Data.List.Nodup
import Mathlib.Data.List.Perm.Basic

/-!
# Lib.Table — tables with a primary key, and checked statements on them

A `Table` carries the proof that its rows have distinct keys, so that a table with a broken
primary key cannot be built.  Statements are `INSERT` of one row, `UPDATE … WHERE` with a row
check, and lookups by key; a statement that a check refuses returns an error and no table.
Everything is generic in the row type, the key and the error type.
-/

namespace HiveChameleon.Lib

/-! ### Checks -/

section Check

variable {ε : Type} {α β : Type}

/-- Raises `e` unless `p` holds. -/
def require (p : Prop) [Decidable p] (e : ε) : Except ε Unit := if p then .ok () else .error e

@[simp] theorem require_eq_ok {p : Prop} [Decidable p] {e : ε} {x : Unit} :
    require p e = .ok x ↔ p := by
  unfold require; split <;> simp [*]

@[simp] theorem bind_eq_ok {x : Except ε α} {f : α → Except ε β} {b : β} :
    (x >>= f) = .ok b ↔ ∃ a, x = .ok a ∧ f a = .ok b := by
  cases x with
  | ok a =>
    refine ⟨fun h => ⟨a, rfl, h⟩, ?_⟩
    rintro ⟨a', ha, h⟩
    cases ha; exact h
  | error e =>
    refine ⟨fun h => ?_, ?_⟩
    · cases h
    · rintro ⟨a, ha, -⟩; cases ha

@[simp] theorem exists_unit {p : Unit → Prop} : (∃ a, p a) ↔ p () :=
  ⟨fun ⟨(), h⟩ => h, fun h => ⟨(), h⟩⟩

@[simp] theorem pure_eq_ok {a b : α} : (pure a : Except ε α) = .ok b ↔ a = b := by
  simp [pure, Except.pure]

theorem toOption_eq_some {x : Except ε α} {a : α} : x.toOption = some a ↔ x = .ok a := by
  cases x <;> simp [Except.toOption]

/-- Runs a check on every element of a list, in order. -/
def checkAll (check : α → Except ε Unit) : List α → Except ε Unit
  | [] => .ok ()
  | a :: as => do check a; checkAll check as

theorem checkAll_eq_ok {check : α → Except ε Unit} {l : List α} {x : Unit} :
    checkAll check l = .ok x ↔ ∀ a ∈ l, check a = .ok () := by
  induction l with
  | nil => simp [checkAll]
  | cons a as ih => simp [checkAll, ih]

/-- Every failure of `x` meets `P`. -/
def FailsWith (P : ε → Prop) (x : Except ε α) : Prop := ∀ e, x = .error e → P e

namespace FailsWith

variable {P : ε → Prop} {x : Except ε α} {f : α → Except ε β}

theorem pure {a : α} : FailsWith P (Pure.pure a : Except ε α) := nofun

theorem ok {a : α} : FailsWith P (.ok a : Except ε α) := nofun

theorem error {e : ε} (h : P e) : FailsWith P (.error e : Except ε α) := by
  rintro _ ⟨⟩; exact h

theorem require {p : Prop} [Decidable p] {e : ε} (h : P e) : FailsWith P (require p e) := by
  unfold Lib.require; split
  · exact ok
  · exact error h

theorem bind (hx : FailsWith P x) (hf : ∀ a, x = .ok a → FailsWith P (f a)) :
    FailsWith P (x >>= f) := by
  cases x with
  | ok a => exact hf a rfl
  | error e => exact fun _ h => by cases h; exact hx e rfl

theorem seq (hx : FailsWith P x) (hf : ∀ a, FailsWith P (f a)) : FailsWith P (x >>= f) :=
  hx.bind fun a _ => hf a

theorem ite {p : Prop} [Decidable p] {y : Except ε α} (hx : FailsWith P x) (hy : FailsWith P y) :
    FailsWith P (if p then x else y) := by
  split
  · exact hx
  · exact hy

theorem checkAll {check : α → Except ε Unit} (h : ∀ a, FailsWith P (check a)) :
    ∀ l, FailsWith P (checkAll check l)
  | [] => ok
  | a :: as => (h a).seq fun _ => checkAll h as

end FailsWith

end Check

/-! ### Tables -/

/-- The rows of a table, with distinct primary keys. -/
structure Table (α : Type) {κ : Type} (key : α → κ) where
  rows : List α
  nodup_keys : (rows.map key).Nodup

namespace Table

variable {α κ : Type} {key : α → κ}

/-- The table without rows. -/
def empty : Table α key := ⟨[], by simp⟩

instance : Inhabited (Table α key) := ⟨empty⟩

instance : Membership α (Table α key) := ⟨fun t a => a ∈ t.rows⟩

theorem mem_def {t : Table α key} {a : α} : a ∈ t ↔ a ∈ t.rows := Iff.rfl

@[simp] theorem mem_rows {t : Table α key} {a : α} : a ∈ t.rows ↔ a ∈ t := Iff.rfl

@[simp] theorem not_mem_empty {a : α} : a ∉ (empty : Table α key) := by
  rw [mem_def]; simp [empty]

@[ext] theorem ext {t t' : Table α key} (h : t.rows = t'.rows) : t = t' := by
  cases t; cases t'; cases h; rfl

theorem eq_of_key {t : Table α key} {a b : α} (ha : a ∈ t) (hb : b ∈ t) (h : key a = key b) :
    a = b :=
  List.inj_on_of_nodup_map t.nodup_keys ha hb h

section Lookup

variable [DecidableEq κ]

/-- The row with key `k`. -/
def find? (t : Table α key) (k : κ) : Option α := t.rows.find? fun a => key a = k

theorem find?_eq_some {t : Table α key} {k : κ} {a : α} :
    t.find? k = some a ↔ a ∈ t ∧ key a = k := by
  constructor
  · intro h
    exact ⟨List.mem_of_find?_eq_some h, by simpa using List.find?_some h⟩
  · rintro ⟨ha, rfl⟩
    cases h : t.find? (key a) with
    | none => simpa using List.find?_eq_none.mp h a ha
    | some b =>
      have hb : key b = key a := by simpa using List.find?_some h
      rw [eq_of_key (List.mem_of_find?_eq_some h) ha hb]

theorem find?_key {t : Table α key} {a : α} (ha : a ∈ t) : t.find? (key a) = some a :=
  find?_eq_some.mpr ⟨ha, rfl⟩

theorem find?_eq_none {t : Table α key} {k : κ} : t.find? k = none ↔ ∀ a ∈ t, key a ≠ k := by
  simp [find?, List.find?_eq_none]

/-- `INSERT` of one row; `none` when its key is taken. -/
def insert? (t : Table α key) (a : α) : Option (Table α key) :=
  if h : key a ∈ t.rows.map key then none
  else some ⟨t.rows ++ [a], by
    rw [List.map_append, List.nodup_append]
    refine ⟨t.nodup_keys, by simp, ?_⟩
    rintro k hk k' hk' rfl
    simp only [List.map_cons, List.map_nil, List.mem_singleton] at hk'
    exact h (hk' ▸ hk)⟩

theorem insert?_eq_some {t t' : Table α key} {a : α} :
    t.insert? a = some t' ↔ (∀ b ∈ t, key b ≠ key a) ∧ t'.rows = t.rows ++ [a] := by
  unfold insert?
  split
  · rename_i h
    simp only [List.mem_map] at h
    obtain ⟨b, hb, hk⟩ := h
    simp only [reduceCtorEq, false_iff, not_and]
    exact fun hall => absurd hk (hall b hb)
  · rename_i h
    simp only [List.mem_map, not_exists, not_and] at h
    simp only [Option.some.injEq]
    constructor
    · rintro rfl; exact ⟨h, rfl⟩
    · rintro ⟨-, hr⟩; exact ext hr.symm

theorem insert?_eq_none {t : Table α key} {a : α} :
    t.insert? a = none ↔ ∃ b ∈ t, key b = key a := by
  simp [insert?]

/-- `INSERT` that raises `e` when the key is taken. -/
def insert {ε : Type} (t : Table α key) (a : α) (e : ε) : Except ε (Table α key) :=
  match t.insert? a with
  | some t' => .ok t'
  | none => .error e

theorem insert_eq_ok {ε : Type} {t t' : Table α key} {a : α} {e : ε} :
    t.insert a e = .ok t' ↔ (∀ b ∈ t, key b ≠ key a) ∧ t'.rows = t.rows ++ [a] := by
  rw [← insert?_eq_some]
  unfold insert
  cases t.insert? a <;> simp

theorem mem_insert {ε : Type} {t t' : Table α key} {a b : α} {e : ε} (h : t.insert a e = .ok t') :
    b ∈ t' ↔ b ∈ t ∨ b = a := by
  obtain ⟨-, hrows⟩ := insert_eq_ok.mp h
  rw [mem_def, hrows, List.mem_append, List.mem_singleton, ← mem_def]

theorem insert_failsWith {ε : Type} {P : ε → Prop} {t : Table α key} {a : α} {e : ε} (h : P e) :
    FailsWith P (t.insert a e) := by
  unfold insert
  split
  · exact .ok
  · exact .error h

end Lookup

section Update

/-- The `SET` of an `UPDATE`: a change of a row that keeps its key. -/
structure Assignment (key : α → κ) where
  set : α → α
  keeps : ∀ a, key (set a) = key a

instance : CoeFun (Assignment key) fun _ => α → α := ⟨Assignment.set⟩

variable (p : α → Prop) [DecidablePred p] (f : Assignment key)

/-- The row that an `UPDATE … SET f WHERE p` leaves in the place of `a`. -/
def updated (a : α) : α := if p a then f a else a

variable {p f}

theorem updated_of {a : α} (h : p a) : updated p f a = f a := if_pos h

theorem updated_of_not {a : α} (h : ¬ p a) : updated p f a = a := if_neg h

theorem updated_eq {β : Type} {g : α → β} (hg : ∀ a, g (f a) = g a) (a : α) :
    g (updated p f a) = g a := by
  unfold updated; split
  · exact hg a
  · rfl

theorem key_updated (a : α) : key (updated p f a) = key a :=
  updated_eq f.keeps a

variable (p f)

/-- `UPDATE … SET f WHERE p` -/
def modify (t : Table α key) : Table α key :=
  ⟨t.rows.map (updated p f), by
    have hk : key ∘ updated p f = key := funext key_updated
    rw [List.map_map, hk]
    exact t.nodup_keys⟩

end Update

section Updated

variable {p : α → Prop} {_ : DecidablePred p} {f : Assignment key} {t : Table α key}

theorem mem_modify {b : α} : b ∈ t.modify p f ↔ ∃ a ∈ t, updated p f a = b := by
  rw [mem_def]; simp [modify]

theorem mem_modify_cases {b : α} (h : b ∈ t.modify p f) :
    (∃ a ∈ t, p a ∧ f a = b) ∨ b ∈ t ∧ ¬ p b := by
  obtain ⟨a, ha, rfl⟩ := mem_modify.mp h
  by_cases hp : p a
  · exact .inl ⟨a, ha, hp, (updated_of hp).symm⟩
  · rw [updated_of_not hp]; exact .inr ⟨ha, hp⟩

theorem mem_modify_iff {b : α} :
    b ∈ t.modify p f ↔ b ∈ t ∧ ¬ p b ∨ ∃ a ∈ t, p a ∧ b = f a := by
  constructor
  · intro h
    rcases mem_modify_cases h with ⟨a, ha, hp, rfl⟩ | hb
    · exact .inr ⟨a, ha, hp, rfl⟩
    · exact .inl hb
  · rintro (⟨hb, hp⟩ | ⟨a, ha, hp, rfl⟩)
    · exact mem_modify.mpr ⟨b, hb, updated_of_not hp⟩
    · exact mem_modify.mpr ⟨a, ha, updated_of hp⟩

theorem mem_modify_of {a : α} (ha : a ∈ t) (hp : p a) : f a ∈ t.modify p f :=
  mem_modify.mpr ⟨a, ha, updated_of hp⟩

theorem mem_modify_of_not {a : α} (ha : a ∈ t) (hp : ¬ p a) : a ∈ t.modify p f :=
  mem_modify.mpr ⟨a, ha, updated_of_not hp⟩

theorem updated_mem_modify {a : α} (ha : a ∈ t) : updated p f a ∈ t.modify p f :=
  mem_modify.mpr ⟨a, ha, rfl⟩

theorem find?_modify [DecidableEq κ] {k : κ} :
    (t.modify p f).find? k = (t.find? k).map (updated p f) := by
  cases h : t.find? k with
  | none =>
    rw [Option.map_none, find?_eq_none]
    intro b hb
    obtain ⟨a, ha, rfl⟩ := mem_modify.mp hb
    rw [key_updated (p := p) (f := f)]
    exact find?_eq_none.mp h a ha
  | some a =>
    obtain ⟨ha, rfl⟩ := find?_eq_some.mp h
    exact find?_eq_some.mpr ⟨updated_mem_modify ha, key_updated a⟩

/-- An `UPDATE` that respects a selection, seen in the selection. -/
theorem filter_modify {q : α → Prop} [DecidablePred q] (hq : ∀ a, q (f a) ↔ q a) :
    (t.modify p f).rows.filter (fun a => q a) = (t.rows.filter fun a => q a).map (updated p f) := by
  have hcomp : (fun a => decide (q a)) ∘ updated p f = fun a => decide (q a) := by
    funext a
    rw [Function.comp_apply]
    by_cases hp : p a
    · rw [updated_of hp, decide_eq_decide]
      exact hq a
    · rw [updated_of_not hp]
  show (t.rows.map (updated p f)).filter (fun a => q a) = _
  rw [List.filter_map, hcomp]

/-- An `UPDATE` of rows outside a selection. -/
theorem filter_modify_of_not {q : α → Prop} [DecidablePred q] (hq : ∀ a, q (f a) ↔ q a)
    (hp : ∀ a, q a → ¬ p a) :
    (t.modify p f).rows.filter (fun a => q a) = t.rows.filter fun a => q a := by
  rw [filter_modify hq]
  conv_rhs => rw [← List.map_id (t.rows.filter fun a => q a)]
  refine List.map_congr_left fun a ha => ?_
  have hqa : q a := of_decide_eq_true (List.mem_filter.mp ha).2
  exact updated_of_not (hp a hqa)

/-- An `UPDATE` of rows inside a selection, which it leaves there. -/
theorem filter_modify_inside {q : α → Prop} [DecidablePred q] (hq : ∀ a, p a → q a ∧ q (f a)) :
    (t.modify p f).rows.filter (fun a => q a) = (t.rows.filter fun a => q a).map (updated p f) := by
  have hcomp : (fun a => decide (q a)) ∘ updated p f = fun a => decide (q a) := by
    funext a
    rw [Function.comp_apply, decide_eq_decide]
    by_cases hp : p a
    · rw [updated_of hp]
      exact iff_of_true (hq a hp).2 (hq a hp).1
    · rw [updated_of_not hp]
  show (t.rows.map (updated p f)).filter (fun a => q a) = _
  rw [List.filter_map, hcomp]

/-- An `UPDATE` that takes rows out of a selection leaves the others there. -/
theorem filter_modify_outside {q r : α → Prop} [DecidablePred q] [DecidablePred r]
    (hq : ∀ a, p a → ¬ q (f a)) (hr : ∀ a ∈ t, q a → (r a ↔ ¬ p a)) :
    (t.modify p f).rows.filter (fun a => q a) = (t.rows.filter fun a => q a).filter fun a => r a := by
  show (t.rows.map (updated p f)).filter (fun a => q a) = _
  rw [List.filter_map, List.filter_filter]
  have hsame : t.rows.filter ((fun a => decide (q a)) ∘ updated p f) =
      t.rows.filter fun a => decide (r a) && decide (q a) := by
    refine List.filter_congr fun a ha => ?_
    rw [Function.comp_apply, ← Bool.decide_and, decide_eq_decide]
    by_cases hp : p a
    · rw [updated_of hp]
      exact iff_of_false (hq a hp) fun ⟨hra, hqa⟩ => (hr a ha hqa).mp hra hp
    · rw [updated_of_not hp]
      exact ⟨fun hqa => ⟨(hr a ha hqa).mpr hp, hqa⟩, fun hboth => hboth.2⟩
  rw [hsame]
  conv_rhs => rw [← List.map_id (t.rows.filter fun a => decide (r a) && decide (q a))]
  refine List.map_congr_left fun a ha => ?_
  obtain ⟨ha, hboth⟩ := List.mem_filter.mp ha
  rw [Bool.and_eq_true, decide_eq_true_eq, decide_eq_true_eq] at hboth
  exact updated_of_not ((hr a ha hboth.2).mp hboth.1)

end Updated

/-- The rows that a condition keeps. -/
def filter (p : α → Prop) [DecidablePred p] (t : Table α key) : Table α key :=
  ⟨t.rows.filter fun a => p a, t.nodup_keys.sublist (List.filter_sublist.map key)⟩

theorem mem_filter {p : α → Prop} {_ : DecidablePred p} {t : Table α key} {a : α} :
    a ∈ t.filter p ↔ a ∈ t ∧ p a := by
  show a ∈ t.rows.filter (fun a => p a) ↔ a ∈ t.rows ∧ p a
  rw [List.mem_filter, decide_eq_true_iff]

section Remove

variable [DecidableEq α]

/-- The table without a row. -/
def remove (t : Table α key) (a : α) : Table α key := t.filter (· ≠ a)

theorem mem_remove {t : Table α key} {a b : α} : b ∈ t.remove a ↔ b ∈ t ∧ b ≠ a :=
  mem_filter

/-- A new version of a row, whose key may be another: the key must then be free. -/
def replace {ε : Type} [DecidableEq κ] (t : Table α key) (old new : α) (e : ε) :
    Except ε (Table α key) :=
  (t.remove old).insert new e

theorem mem_replace {ε : Type} [DecidableEq κ] {t t' : Table α key} {old new b : α} {e : ε}
    (h : t.replace old new e = .ok t') : b ∈ t' ↔ b ∈ t ∧ b ≠ old ∨ b = new := by
  rw [mem_insert h, mem_remove]

end Remove

section CheckedUpdate

variable {ε : Type}

/-- `UPDATE … SET f WHERE p` whose row checks see the old row and the new one. -/
def update (p : α → Prop) [DecidablePred p] (f : Assignment key) (check : α → α → Except ε Unit)
    (t : Table α key) : Except ε (Table α key) := do
  checkAll (fun a => check a (f a)) (t.rows.filter fun a => p a)
  pure (t.modify p f)

theorem update_eq_ok {p : α → Prop} {_ : DecidablePred p} {f : Assignment key}
    {check : α → α → Except ε Unit} {t t' : Table α key} :
    t.update p f check = .ok t' ↔
      (∀ a ∈ t, p a → check a (f a) = .ok ()) ∧ t' = t.modify p f := by
  simp only [update, bind_eq_ok, exists_unit, checkAll_eq_ok, pure_eq_ok, List.mem_filter,
    decide_eq_true_eq, and_imp, mem_rows, eq_comm (a := t')]

theorem update_failsWith {P : ε → Prop} {p : α → Prop} [DecidablePred p] {f : Assignment key}
    {check : α → α → Except ε Unit} {t : Table α key} (h : ∀ a b, FailsWith P (check a b)) :
    FailsWith P (t.update p f check) :=
  (FailsWith.checkAll (fun a => h a (f a)) _).seq fun _ => .pure

end CheckedUpdate

end Table

end HiveChameleon.Lib
