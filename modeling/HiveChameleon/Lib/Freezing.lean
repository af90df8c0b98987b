import HiveChameleon.Lib.Run

/-!
# Lib.Freezing — rows that freeze with their parent, under concurrent transactions

A parent row freezes when a transaction sets it so; triggers then refuse writes to it and to the child
rows that belong to it.  Transactions read committed rows or a snapshot and lock the rows they write,
but a trigger that looks the parent up takes no lock.  The evidence of a frozen parent is kept by every
run whose transactions do not overlap on it, `Orderly`.  Nothing here knows which tables these are.
-/

namespace HiveChameleon.Lib.Freezing

structure Rows (κ P δ D : Type) where
  parent : κ → Option P
  child : δ → Option D

/-- Rows that a transaction has written; `some none` deletes the row. -/
structure Writes (κ P δ D : Type) where
  parent : κ → Option (Option P)
  child : δ → Option (Option D)

inductive Level where
  | readCommitted | repeatableRead
deriving DecidableEq, Repr

section

variable {κ P δ D C : Type}

/-- The rows with the writes of a transaction on top. -/
def Rows.over (db : Rows κ P δ D) (w : Writes κ P δ D) : Rows κ P δ D where
  parent k := (w.parent k).getD (db.parent k)
  child k := (w.child k).getD (db.child k)

def Writes.nothing : Writes κ P δ D := ⟨fun _ => none, fun _ => none⟩

def Writes.setParent [DecidableEq κ] (w : Writes κ P δ D) (k : κ) (new : Option P) :
    Writes κ P δ D := { w with parent := Function.update w.parent k (some new) }

def Writes.setChild [DecidableEq δ] (w : Writes κ P δ D) (k : δ) (new : Option D) :
    Writes κ P δ D := { w with child := Function.update w.child k (some new) }

/-- No row is written by both. -/
def Writes.Disjoint (w w' : Writes κ P δ D) : Prop :=
  (∀ k, w.parent k = none ∨ w'.parent k = none) ∧ ∀ k, w.child k = none ∨ w'.child k = none

/-- A transaction; `checked` holds what each deferred check that passed saw, and `committing` that
`COMMIT` has begun. -/
structure Tx (κ P δ D : Type) where
  level : Level
  snapshot : Rows κ P δ D
  writes : Writes κ P δ D
  checked : κ → Option (Rows κ P δ D)
  committing : Bool

/-- The committed rows that a statement of the transaction reads. -/
def Tx.base (tx : Tx κ P δ D) (committed : Rows κ P δ D) : Rows κ P δ D :=
  match tx.level with
  | .readCommitted => committed
  | .repeatableRead => tx.snapshot

/-- What a statement of the transaction sees. -/
def Tx.view (tx : Tx κ P δ D) (committed : Rows κ P δ D) : Rows κ P δ D :=
  (tx.base committed).over tx.writes

/-- What the triggers say: which parent rows are frozen and which columns of them that protects, the
parent a child row belongs to (it may depend on another child row that belongs there directly), and the
writes that they let pass. -/
structure Triggers (κ P δ D C : Type) where
  Frozen : P → Prop
  content : P → C
  parentOf : (δ → Option D) → D → Option κ
  passParent : Option P → Option P → Prop
  passChild : Rows κ P δ D → Option D → Option D → Prop
  Deferred : P → Prop
  passDeferred : Rows κ P δ D → P → Prop
  frozen_of_pass : ∀ old new, Frozen old → passParent (some old) new →
    ∃ row, new = some row ∧ Frozen row ∧ content row = content old
  linked : ∀ rows rows' d r, parentOf rows d = some r → parentOf rows' d ≠ some r →
    ∃ k d', rows k = some d' ∧ rows' k ≠ rows k ∧ ∀ any, parentOf any d' = some r
  thawed_of_pass : ∀ db old new r row, passChild db old new →
    (old.bind (parentOf db.child) = some r ∨ new.bind (parentOf db.child) = some r) →
    db.parent r = some row → ¬ Frozen row

variable (T : Triggers κ P δ D C)

namespace Triggers

def FrozenIn (db : Rows κ P δ D) (r : κ) : Prop := ∃ row, db.parent r = some row ∧ T.Frozen row

/-- Writing `new` at `k` changes the child rows of `r`. -/
def Touches (db : Rows κ P δ D) (k : δ) (new : Option D) (r : κ) : Prop :=
  (db.child k).bind (T.parentOf db.child) = some r ∨ new.bind (T.parentOf db.child) = some r

/-- The child rows of `r`. -/
def details [DecidableEq κ] (db : Rows κ P δ D) (r : κ) : δ → Option D := fun k =>
  (db.child k).filter fun d => T.parentOf db.child d = some r

/-- The same child rows and the same protected columns. -/
def SameEvidence [DecidableEq κ] (db db' : Rows κ P δ D) (r : κ) : Prop :=
  (db.parent r).map T.content = (db'.parent r).map T.content ∧ T.details db r = T.details db' r

end Triggers

/-! ### The child rows of a parent -/

section

variable [DecidableEq κ] {T : Triggers κ P δ D C} {db db' : Rows κ P δ D} {w w' : Writes κ P δ D}
  {k : δ} {new : Option D} {d : D} {r : κ}

theorem details_eq_some :
    T.details db r k = some d ↔ db.child k = some d ∧ T.parentOf db.child d = some r := by
  rw [Triggers.details, Option.filter_eq_some_iff, decide_eq_true_eq]

/-- Whether a row belongs to `r` is up to the child rows of `r`. -/
theorem parentOf_congr (hsame : T.details db r = T.details db' r)
    (h : T.parentOf db.child d = some r) : T.parentOf db'.child d = some r := by
  by_contra hnot
  obtain ⟨k, d', hrow, hchanged, hdirect⟩ := T.linked _ _ d r h hnot
  have hmem : T.details db r k = some d' := details_eq_some.mpr ⟨hrow, hdirect _⟩
  rw [hsame] at hmem
  exact hchanged ((details_eq_some.mp hmem).1.trans hrow.symm)

theorem touches_congr (hsame : T.details db r = T.details db' r) (h : T.Touches db k new r) :
    T.Touches db' k new r := by
  rcases h with hold | hnew
  · obtain ⟨d, hrow, hparent⟩ := Option.bind_eq_some_iff.mp hold
    have hmem : T.details db r k = some d := details_eq_some.mpr ⟨hrow, hparent⟩
    rw [hsame] at hmem
    obtain ⟨hrow', hparent'⟩ := details_eq_some.mp hmem
    exact .inl (Option.bind_eq_some_iff.mpr ⟨d, hrow', hparent'⟩)
  · obtain ⟨d, hd, hparent⟩ := Option.bind_eq_some_iff.mp hnew
    exact .inr (Option.bind_eq_some_iff.mpr ⟨d, hd, parentOf_congr hsame hparent⟩)

omit [DecidableEq κ] in
theorem over_child_of_none (h : w.child k = none) : (db.over w).child k = db.child k := by
  show (w.child k).getD _ = _
  rw [h]
  rfl

omit [DecidableEq κ] in
theorem over_child_of_some (h : w.child k = some new) : (db.over w).child k = new := by
  show (w.child k).getD _ = _
  rw [h]
  rfl

omit [DecidableEq κ] in
theorem over_parent_of_none (h : w.parent r = none) : (db.over w).parent r = db.parent r := by
  show (w.parent r).getD _ = _
  rw [h]
  rfl

omit [DecidableEq κ] in
theorem over_parent_of_some {row : Option P} (h : w.parent r = some row) :
    (db.over w).parent r = row := by
  show (w.parent r).getD _ = _
  rw [h]
  rfl

omit [DecidableEq κ] in
theorem written_of_ne (h : (db.over w).child k ≠ db.child k) : ∃ new, w.child k = some new := by
  cases hw : w.child k with
  | none => exact absurd (over_child_of_none hw) h
  | some new => exact ⟨new, rfl⟩

/-- **Frame**: writes that touch no child row of `r` leave the child rows of `r` alone. -/
theorem details_over (h : ∀ k new, w.child k = some new → ¬ T.Touches db k new r) :
    T.details (db.over w) r = T.details db r := by
  have hinto (d : D) (hparent : T.parentOf db.child d = some r) :
      T.parentOf (db.over w).child d = some r := by
    by_contra hnot
    obtain ⟨k, d', hrow, hchanged, hdirect⟩ := T.linked _ _ d r hparent hnot
    obtain ⟨new, hw⟩ := written_of_ne hchanged
    exact h k new hw (.inl (Option.bind_eq_some_iff.mpr ⟨d', hrow, hdirect _⟩))
  have hback (d : D) (hparent : T.parentOf (db.over w).child d = some r) :
      T.parentOf db.child d = some r := by
    by_contra hnot
    obtain ⟨k, d', hrow, hchanged, hdirect⟩ := T.linked _ _ d r hparent hnot
    obtain ⟨new, hw⟩ := written_of_ne (Ne.symm hchanged)
    rw [over_child_of_some hw] at hrow
    exact h k new hw (.inr (Option.bind_eq_some_iff.mpr ⟨d', hrow, hdirect _⟩))
  funext k
  ext d
  rw [details_eq_some, details_eq_some]
  cases hw : w.child k with
  | none =>
    rw [over_child_of_none hw]
    exact ⟨fun hd => ⟨hd.1, hback d hd.2⟩, fun hd => ⟨hd.1, hinto d hd.2⟩⟩
  | some new =>
    rw [over_child_of_some hw]
    refine ⟨fun hd => ?_, fun hd => ?_⟩
    · exact absurd (.inr (Option.bind_eq_some_iff.mpr ⟨d, hd.1, hback d hd.2⟩)) (h k new hw)
    · exact absurd (.inl (Option.bind_eq_some_iff.mpr ⟨d, hd⟩)) (h k new hw)

omit [DecidableEq κ] in
theorem over_comm (h : w.Disjoint w') : (db.over w).over w' = (db.over w').over w := by
  have hparent : ((db.over w).over w').parent = ((db.over w').over w).parent := by
    funext k
    rcases h.1 k with hnone | hnone
    · rw [over_parent_of_none hnone]
      show (w'.parent k).getD ((w.parent k).getD _) = (w'.parent k).getD _
      rw [hnone]
      rfl
    · rw [over_parent_of_none hnone]
      show (w.parent k).getD _ = (w.parent k).getD ((w'.parent k).getD _)
      rw [hnone]
      rfl
  have hchild : ((db.over w).over w').child = ((db.over w').over w).child := by
    funext k
    rcases h.2 k with hnone | hnone
    · rw [over_child_of_none hnone]
      show (w'.child k).getD ((w.child k).getD _) = (w'.child k).getD _
      rw [hnone]
      rfl
    · rw [over_child_of_none hnone]
      show (w.child k).getD _ = (w.child k).getD ((w'.child k).getD _)
      rw [hnone]
      rfl
  exact congrArg₂ Rows.mk hparent hchild

end

/-! ### Transactions -/

/-- The committed rows and the open transactions. -/
structure Sys (ι κ P δ D : Type) where
  committed : Rows κ P δ D
  running : ι → Option (Tx κ P δ D)

inductive Label (ι κ P δ D : Type) where
  | start (i : ι) (level : Level)
  | writeParent (i : ι) (k : κ) (new : Option P)
  | rekey (i : ι) (k k' : κ) (new : P)
  | writeChild (i : ι) (k : δ) (new : Option D)
  | check (i : ι) (r : κ)
  | commit (i : ι)
  | rollback (i : ι)

section

variable {ι : Type} [DecidableEq ι] [DecidableEq κ] [DecidableEq δ]

def Sys.put (S : Sys ι κ P δ D) (i : ι) (tx : Tx κ P δ D) : Sys ι κ P δ D :=
  { S with running := Function.update S.running i (some tx) }

/-- The transaction `i` is over. -/
def Sys.finish (S : Sys ι κ P δ D) (i : ι) (committed : Rows κ P δ D) : Sys ι κ P δ D where
  committed := committed
  running := Function.update S.running i none

def Sys.start (ι : Type) (db : Rows κ P δ D) : Sys ι κ P δ D := ⟨db, fun _ => none⟩

/-- No other transaction holds the lock of the row. -/
def Sys.ParentFree (S : Sys ι κ P δ D) (i : ι) (k : κ) : Prop :=
  ∀ j tx, j ≠ i → S.running j = some tx → tx.writes.parent k = none

def Sys.ChildFree (S : Sys ι κ P δ D) (i : ι) (k : δ) : Prop :=
  ∀ j tx, j ≠ i → S.running j = some tx → tx.writes.child k = none

def Tx.begin (level : Level) (snapshot : Rows κ P δ D) : Tx κ P δ D where
  level := level
  snapshot := snapshot
  writes := .nothing
  checked := fun _ => none
  committing := false

/-- A statement writes a row that it has locked, at its current version (`hcurrent`: a snapshot with an
older one fails), and that the trigger lets pass.  `COMMIT` runs the deferred checks first. -/
inductive Step (T : Triggers κ P δ D C) :
    Sys ι κ P δ D → Label ι κ P δ D → Sys ι κ P δ D → Prop where
  | start {S : Sys ι κ P δ D} {i : ι} {level : Level} (hidle : S.running i = none) :
      Step T S (.start i level) (S.put i (.begin level S.committed))
  | writeParent {S : Sys ι κ P δ D} {i : ι} {k : κ} {new : Option P} {tx : Tx κ P δ D}
      (hrunning : S.running i = some tx) (hopen : tx.committing = false) (hfree : S.ParentFree i k)
      (hcurrent : (tx.view S.committed).parent k = (S.committed.over tx.writes).parent k)
      (hpass : T.passParent ((tx.view S.committed).parent k) new) :
      Step T S (.writeParent i k new) (S.put i { tx with writes := tx.writes.setParent k new })
  | rekey {S : Sys ι κ P δ D} {i : ι} {k k' : κ} {old new : P} {tx : Tx κ P δ D}
      (hrunning : S.running i = some tx) (hopen : tx.committing = false) (hfree : S.ParentFree i k)
      (hfree' : S.ParentFree i k')
      (hcurrent : (tx.view S.committed).parent k = (S.committed.over tx.writes).parent k)
      (hold : (tx.view S.committed).parent k = some old) (hpass : T.passParent (some old) (some new))
      (hunique : (S.committed.over tx.writes).parent k' = none) :
      Step T S (.rekey i k k' new)
        (S.put i { tx with writes := (tx.writes.setParent k none).setParent k' (some new) })
  | writeChild {S : Sys ι κ P δ D} {i : ι} {k : δ} {new : Option D} {tx : Tx κ P δ D}
      (hrunning : S.running i = some tx) (hopen : tx.committing = false) (hfree : S.ChildFree i k)
      (hcurrent : (tx.view S.committed).child k = (S.committed.over tx.writes).child k)
      (hpass : T.passChild (tx.view S.committed) ((tx.view S.committed).child k) new) :
      Step T S (.writeChild i k new) (S.put i { tx with writes := tx.writes.setChild k new })
  | check {S : Sys ι κ P δ D} {i : ι} {r : κ} {row : P} {tx : Tx κ P δ D}
      (hrunning : S.running i = some tx) (hwritten : tx.writes.parent r = some (some row))
      (hdeferred : T.Deferred row) (hpass : T.passDeferred (tx.view S.committed) row) :
      Step T S (.check i r) (S.put i { tx with
        checked := Function.update tx.checked r (some (tx.view S.committed))
        committing := true })
  | commit {S : Sys ι κ P δ D} {i : ι} {tx : Tx κ P δ D} (hrunning : S.running i = some tx)
      (hchecked : ∀ r row, tx.writes.parent r = some (some row) → T.Deferred row →
        tx.checked r ≠ none) :
      Step T S (.commit i) (S.finish i (S.committed.over tx.writes))
  | rollback {S : Sys ι κ P δ D} {i : ι} {tx : Tx κ P δ D} (hrunning : S.running i = some tx) :
      Step T S (.rollback i) (S.finish i S.committed)

/-- Another open transaction has written a row that would belong to `r` in `db`. -/
def Contended (T : Triggers κ P δ D C) (S : Sys ι κ P δ D) (i : ι) (db : Rows κ P δ D) (r : κ) :
    Prop :=
  ∃ j tx k new, j ≠ i ∧ S.running j = some tx ∧ tx.writes.child k = some new ∧ T.Touches db k new r

/-- **No overlap**: a transaction freezes a parent only while no other open one has written child rows
of it, and commits no child row of a parent whose deferred check another open one has passed; a
statement's snapshot shows the frozen parents it writes under, a check's the child rows as they are;
and no frozen row gets another key. -/
def Orderly (T : Triggers κ P δ D C) (t : Transition (Sys ι κ P δ D) (Label ι κ P δ D)) : Prop :=
  match t.label with
  | .commit i => ∀ tx, t.pre.running i = some tx →
      (∀ r, T.FrozenIn (t.pre.committed.over tx.writes) r → ¬ T.FrozenIn t.pre.committed r →
        ¬ Contended T t.pre i (t.pre.committed.over tx.writes) r) ∧
      ∀ j other r seen, j ≠ i → t.pre.running j = some other → other.checked r = some seen →
        ∀ k new, tx.writes.child k = some new → ¬ T.Touches seen k new r
  | .writeChild i k new => ∀ tx, t.pre.running i = some tx →
      ∀ r, T.FrozenIn t.pre.committed r → T.Touches t.pre.committed k new r →
        T.FrozenIn (tx.base t.pre.committed) r ∧
          T.details (tx.base t.pre.committed) r = T.details t.pre.committed r
  | .check i r => ∀ tx, t.pre.running i = some tx →
      T.details (tx.view t.pre.committed) r = T.details (t.pre.committed.over tx.writes) r
  | .rekey i k _ _ => ∀ tx, t.pre.running i = some tx → ¬ T.FrozenIn (tx.view t.pre.committed) k
  | _ => True

/-! ### The invariant -/

/-- What holds of one open transaction: what its checks saw is what it commits, and it has written
nothing under a frozen parent. -/
structure Sound (T : Triggers κ P δ D C) (committed : Rows κ P δ D) (tx : Tx κ P δ D) : Prop where
  checked : ∀ r seen, tx.checked r = some seen → tx.committing = true ∧
    tx.writes.parent r ≠ none ∧ seen.parent r = (committed.over tx.writes).parent r ∧
    T.details seen r = T.details (committed.over tx.writes) r
  child : ∀ r, T.FrozenIn committed r → ∀ k new, tx.writes.child k = some new →
    ¬ T.Touches committed k new r
  parent : ∀ r row, committed.parent r = some row → T.Frozen row →
    ∀ new, tx.writes.parent r = some new →
      ∃ row', new = some row' ∧ T.Frozen row' ∧ T.content row' = T.content row

/-- **The invariant**: each open transaction is sound, and no two have written one row. -/
structure Inv (T : Triggers κ P δ D C) (S : Sys ι κ P δ D) : Prop where
  sound : ∀ i tx, S.running i = some tx → Sound T S.committed tx
  disjoint : ∀ i j tx other, i ≠ j → S.running i = some tx → S.running j = some other →
    tx.writes.Disjoint other.writes

variable {T : Triggers κ P δ D C} {S S' : Sys ι κ P δ D} {committed : Rows κ P δ D}
  {tx other : Tx κ P δ D} {i j : ι} {k : κ} {r : κ} {label : Label ι κ P δ D}

omit [DecidableEq κ] [DecidableEq δ] in
theorem running_put (h : (S.put i tx).running j = some other) :
    j = i ∧ other = tx ∨ j ≠ i ∧ S.running j = some other := by
  by_cases hj : j = i
  · subst hj
    change Function.update S.running j (some tx) j = _ at h
    rw [Function.update_self] at h
    exact .inl ⟨rfl, (Option.some.inj h).symm⟩
  · change Function.update S.running i (some tx) j = _ at h
    rw [Function.update_of_ne hj] at h
    exact .inr ⟨hj, h⟩

omit [DecidableEq κ] [DecidableEq δ] in
theorem running_finish (h : (S.finish i committed).running j = some tx) :
    j ≠ i ∧ S.running j = some tx := by
  by_cases hj : j = i
  · subst hj
    change Function.update S.running j none j = _ at h
    rw [Function.update_self] at h
    cases h
  · change Function.update S.running i none j = _ at h
    rw [Function.update_of_ne hj] at h
    exact ⟨hj, h⟩

omit [DecidableEq ι] [DecidableEq κ] [DecidableEq δ] in
theorem Writes.Disjoint.symm {w w' : Writes κ P δ D} (h : w.Disjoint w') : w'.Disjoint w :=
  ⟨fun k => (h.1 k).symm, fun k => (h.2 k).symm⟩

omit [DecidableEq δ] in
theorem Inv.put (h : Inv T S) (hsound : Sound T S.committed tx)
    (hdisjoint : ∀ j other, j ≠ i → S.running j = some other → tx.writes.Disjoint other.writes) :
    Inv T (S.put i tx) := by
  refine ⟨fun j other hj => ?_, fun j j' other other' hne hj hj' => ?_⟩
  · rcases running_put hj with ⟨-, rfl⟩ | ⟨-, hj⟩
    · exact hsound
    · exact h.sound j other hj
  · rcases running_put hj with ⟨rfl, rfl⟩ | ⟨hji, hran⟩
    · rcases running_put hj' with ⟨rfl, -⟩ | ⟨hji', hran'⟩
      · exact absurd rfl hne
      · exact hdisjoint j' other' hji' hran'
    · rcases running_put hj' with ⟨rfl, rfl⟩ | ⟨hji', hran'⟩
      · exact (hdisjoint j other hji hran).symm
      · exact h.disjoint j j' other other' hne hran hran'

/-! ### One step -/

omit [DecidableEq ι] [DecidableEq δ] in
theorem Sound.frozen_current {row : P} (h : Sound T committed tx)
    (hrow : committed.parent r = some row) (hfrozen : T.Frozen row) :
    ∃ row', (committed.over tx.writes).parent r = some row' ∧ T.Frozen row' ∧
      T.content row' = T.content row := by
  cases hw : tx.writes.parent r with
  | none => exact ⟨row, by rw [over_parent_of_none hw, hrow], hfrozen, rfl⟩
  | some new =>
    obtain ⟨row', rfl, hfrozen', hcontent⟩ := h.parent r row hrow hfrozen new hw
    exact ⟨row', over_parent_of_some hw, hfrozen', hcontent⟩

omit [DecidableEq ι] [DecidableEq δ] in
theorem Sound.unchecked (h : Sound T committed tx) (hopen : tx.committing = false)
    {seen : Rows κ P δ D} : tx.checked r ≠ some seen := by
  intro hchecked
  have hcommitting := (h.checked r seen hchecked).1
  rw [hopen] at hcommitting
  cases hcommitting

omit [DecidableEq ι] [DecidableEq δ] in
theorem sound_begin {level : Level} {snapshot : Rows κ P δ D} :
    Sound T committed (.begin level snapshot) :=
  ⟨fun _ _ h => (by cases h), fun _ _ _ _ h => (by cases h), fun _ _ _ _ _ h => (by cases h)⟩

omit [DecidableEq ι] [DecidableEq δ] in
theorem Sound.writeParent {new : Option P} (h : Sound T committed tx) (hopen : tx.committing = false)
    (hcurrent : (tx.view committed).parent k = (committed.over tx.writes).parent k)
    (hpass : T.passParent ((tx.view committed).parent k) new) :
    Sound T committed { tx with writes := tx.writes.setParent k new } := by
  refine ⟨fun r seen hseen => absurd hseen (h.unchecked hopen), h.child, ?_⟩
  intro r row hrow hfrozen new' hw
  by_cases hr : r = k
  · subst hr
    change Function.update tx.writes.parent r (some new) r = some new' at hw
    rw [Function.update_self] at hw
    obtain rfl := Option.some.inj hw
    obtain ⟨old, hold, hfrozen', hcontent⟩ := h.frozen_current hrow hfrozen
    rw [hcurrent, hold] at hpass
    obtain ⟨row', hnew, hkept, hsame⟩ := T.frozen_of_pass old _ hfrozen' hpass
    exact ⟨row', hnew, hkept, hsame.trans hcontent⟩
  · change Function.update tx.writes.parent k (some new) r = some new' at hw
    rw [Function.update_of_ne hr] at hw
    exact h.parent r row hrow hfrozen new' hw

omit [DecidableEq ι] [DecidableEq δ] in
theorem Sound.rekey {k' : κ} {old new : P} (h : Sound T committed tx) (hopen : tx.committing = false)
    (hcurrent : (tx.view committed).parent k = (committed.over tx.writes).parent k)
    (hold : (tx.view committed).parent k = some old) (hthawed : ¬ T.FrozenIn (tx.view committed) k)
    (hunique : (committed.over tx.writes).parent k' = none) :
    Sound T committed
      { tx with writes := (tx.writes.setParent k none).setParent k' (some new) } := by
  refine ⟨fun r seen hseen => absurd hseen (h.unchecked hopen), h.child, ?_⟩
  intro r row hrow hfrozen new' hw
  obtain ⟨row', hrow', hfrozen', -⟩ := h.frozen_current hrow hfrozen
  -- neither the key that is given up nor the one that is taken has a frozen row
  have hk' : r ≠ k' := by
    rintro rfl
    rw [hunique] at hrow'
    cases hrow'
  have hk : r ≠ k := by
    rintro rfl
    exact hthawed ⟨row', by rw [hcurrent, hrow'], hfrozen'⟩
  change Function.update (Function.update tx.writes.parent k (some none)) k' (some (some new)) r =
    some new' at hw
  rw [Function.update_of_ne hk', Function.update_of_ne hk] at hw
  exact h.parent r row hrow hfrozen new' hw

omit [DecidableEq ι] in
theorem Sound.writeChild {k : δ} {new : Option D} (h : Sound T committed tx)
    (hopen : tx.committing = false)
    (hpass : T.passChild (tx.view committed) ((tx.view committed).child k) new)
    (hseen : ∀ r, T.FrozenIn committed r → T.Touches committed k new r →
      T.FrozenIn (tx.base committed) r ∧
        T.details (tx.base committed) r = T.details committed r) :
    Sound T committed { tx with writes := tx.writes.setChild k new } := by
  refine ⟨fun r seen hseen => absurd hseen (h.unchecked hopen), ?_, h.parent⟩
  intro r hr k' new' hw
  by_cases hk : k' = k
  · subst hk
    change Function.update tx.writes.child k' (some new) k' = some new' at hw
    rw [Function.update_self] at hw
    obtain rfl := Option.some.inj hw
    intro htouches
    obtain ⟨⟨row, hrow, hfrozen⟩, hdetails⟩ := hseen r hr htouches
    have hview : T.details (tx.view committed) r = T.details (tx.base committed) r :=
      details_over fun k new hw htouch => h.child r hr k new hw (touches_congr hdetails htouch)
    have htouches' : T.Touches (tx.view committed) k' new r :=
      touches_congr (hdetails.symm.trans hview.symm) htouches
    -- the parent is frozen in what the trigger reads, too
    have hparent : T.FrozenIn (tx.view committed) r := by
      cases hown : tx.writes.parent r with
      | none => exact ⟨row, (over_parent_of_none hown).trans hrow, hfrozen⟩
      | some own =>
        obtain ⟨row₀, hrow₀, hfrozen₀⟩ := hr
        obtain ⟨row', rfl, hfrozen', -⟩ := h.parent r row₀ hrow₀ hfrozen₀ own hown
        exact ⟨row', over_parent_of_some hown, hfrozen'⟩
    obtain ⟨row', hrow', hfrozen'⟩ := hparent
    exact T.thawed_of_pass _ _ _ r row' hpass htouches' hrow' hfrozen'
  · change Function.update tx.writes.child k (some new) k' = some new' at hw
    rw [Function.update_of_ne hk] at hw
    exact h.child r hr k' new' hw

omit [DecidableEq ι] [DecidableEq δ] in
theorem Sound.check {row : P} (h : Sound T committed tx)
    (hwritten : tx.writes.parent r = some (some row))
    (hcurrent : T.details (tx.view committed) r = T.details (committed.over tx.writes) r) :
    Sound T committed { tx with
      checked := Function.update tx.checked r (some (tx.view committed))
      committing := true } := by
  refine ⟨fun r' seen hseen => ?_, h.child, h.parent⟩
  by_cases hr : r' = r
  · subst hr
    change Function.update tx.checked r' _ r' = some seen at hseen
    rw [Function.update_self] at hseen
    obtain rfl := Option.some.inj hseen
    refine ⟨rfl, by rw [hwritten]; exact Option.some_ne_none _, ?_, hcurrent⟩
    exact (over_parent_of_some hwritten).trans (over_parent_of_some hwritten).symm
  · change Function.update tx.checked r _ r' = some seen at hseen
    rw [Function.update_of_ne hr] at hseen
    exact ⟨rfl, (h.checked r' seen hseen).2⟩

omit [DecidableEq ι] [DecidableEq δ] in
/-- **A commit keeps the evidence of a frozen parent.** -/
theorem Sound.keeps (h : Sound T committed tx) (hr : T.FrozenIn committed r) :
    T.FrozenIn (committed.over tx.writes) r ∧
      T.SameEvidence committed (committed.over tx.writes) r := by
  obtain ⟨row, hrow, hfrozen⟩ := hr
  obtain ⟨row', hrow', hfrozen', hcontent⟩ := h.frozen_current hrow hfrozen
  refine ⟨⟨row', hrow', hfrozen'⟩, ?_, (details_over (h.child r ⟨row, hrow, hfrozen⟩)).symm⟩
  rw [hrow, hrow', Option.map_some, Option.map_some, hcontent]

omit [DecidableEq ι] [DecidableEq δ] in
theorem Sound.after_commit (h : Sound T committed tx) (hother : Sound T committed other)
    (hdisjoint : tx.writes.Disjoint other.writes)
    (hfresh : ∀ r, T.FrozenIn (committed.over tx.writes) r → ¬ T.FrozenIn committed r →
      ∀ k new, other.writes.child k = some new →
        ¬ T.Touches (committed.over tx.writes) k new r)
    (hseen : ∀ r seen, other.checked r = some seen → ∀ k new, tx.writes.child k = some new →
      ¬ T.Touches seen k new r) : Sound T (committed.over tx.writes) other := by
  refine ⟨fun r seen hchecked => ?_, fun r hr k new hw => ?_, fun r row hrow hfrozen new hw => ?_⟩
  · obtain ⟨hcommitting, hown, hparent, hdetails⟩ := hother.checked r seen hchecked
    refine ⟨hcommitting, hown, ?_, ?_⟩
    · obtain ⟨row, hw⟩ := Option.ne_none_iff_exists'.mp hown
      rw [hparent, over_parent_of_some hw, over_parent_of_some hw]
    · rw [over_comm hdisjoint, hdetails]
      refine (details_over fun k new hw htouches => ?_).symm
      exact hseen r seen hchecked k new hw (touches_congr hdetails.symm htouches)
  · by_cases hbefore : T.FrozenIn committed r
    · intro htouches
      exact hother.child r hbefore k new hw
        (touches_congr (h.keeps hbefore).2.2.symm htouches)
    · exact hfresh r hr hbefore k new hw
  · have hnone : tx.writes.parent r = none := by
      rcases hdisjoint.1 r with hnone | hnone
      · exact hnone
      · rw [hnone] at hw
        cases hw
    rw [over_parent_of_none hnone] at hrow
    exact hother.parent r row hrow hfrozen new hw

omit [DecidableEq ι] [DecidableEq δ] in
theorem sameEvidence_refl (db : Rows κ P δ D) (r : κ) : T.SameEvidence db db r := ⟨rfl, rfl⟩

omit [DecidableEq ι] [DecidableEq δ] in
theorem sameEvidence_trans {db db' db'' : Rows κ P δ D} (h : T.SameEvidence db db' r)
    (h' : T.SameEvidence db' db'' r) : T.SameEvidence db db'' r :=
  ⟨h.1.trans h'.1, h.2.trans h'.2⟩

/-- Frozen parents stay frozen and keep their evidence. -/
def Keeps (T : Triggers κ P δ D C) (db db' : Rows κ P δ D) : Prop :=
  ∀ r, T.FrozenIn db r → T.FrozenIn db' r ∧ T.SameEvidence db db' r

omit [DecidableEq ι] [DecidableEq δ] in
theorem Keeps.refl (db : Rows κ P δ D) : Keeps T db db := fun r hr => ⟨hr, sameEvidence_refl db r⟩

omit [DecidableEq ι] [DecidableEq δ] in
theorem Keeps.trans {db db' db'' : Rows κ P δ D} (h : Keeps T db db') (h' : Keeps T db' db'') :
    Keeps T db db'' := by
  intro r hr
  obtain ⟨hr', hsame⟩ := h r hr
  obtain ⟨hr'', hsame'⟩ := h' r hr'
  exact ⟨hr'', sameEvidence_trans hsame hsame'⟩

omit [DecidableEq ι] [DecidableEq κ] in
theorem disjoint_setChild {k : δ} {new : Option D} {w w' : Writes κ P δ D} (h : w.Disjoint w')
    (hfree : w'.child k = none) : (w.setChild k new).Disjoint w' := by
  refine ⟨h.1, fun k' => ?_⟩
  by_cases hk : k' = k
  · rw [hk]
    exact .inr hfree
  · show Function.update w.child k (some new) k' = none ∨ _
    rw [Function.update_of_ne hk]
    exact h.2 k'

omit [DecidableEq ι] [DecidableEq δ] in
theorem disjoint_setParent {new : Option P} {w w' : Writes κ P δ D} (h : w.Disjoint w')
    (hfree : w'.parent k = none) : (w.setParent k new).Disjoint w' := by
  refine ⟨fun k' => ?_, h.2⟩
  by_cases hk : k' = k
  · rw [hk]
    exact .inr hfree
  · show Function.update w.parent k (some new) k' = none ∨ _
    rw [Function.update_of_ne hk]
    exact h.1 k'

/-- **Every orderly step keeps the invariant**, and the evidence of what is frozen. -/
theorem inv_step (h : Inv T S) (horderly : Orderly T ⟨S, label, S'⟩) (hstep : Step T S label S') :
    Inv T S' ∧ Keeps T S.committed S'.committed := by
  have hothers {i : ι} {tx : Tx κ P δ D} (hrunning : S.running i = some tx) (j : ι)
      (other : Tx κ P δ D) (hj : j ≠ i) (hother : S.running j = some other) :
      tx.writes.Disjoint other.writes := h.disjoint i j tx other (Ne.symm hj) hrunning hother
  cases hstep with
  | start hidle =>
    exact ⟨h.put sound_begin fun _ _ _ _ => ⟨fun _ => .inl rfl, fun _ => .inl rfl⟩, .refl _⟩
  | @writeParent i k new tx hrunning hopen hfree hcurrent hpass =>
    refine ⟨h.put ((h.sound i tx hrunning).writeParent hopen hcurrent hpass) ?_, .refl _⟩
    intro j other hj hother
    exact disjoint_setParent (hothers hrunning j other hj hother) (hfree j other hj hother)
  | @rekey i k k' old new tx hrunning hopen hfree hfree' hcurrent hold hpass hunique =>
    refine ⟨h.put ((h.sound i tx hrunning).rekey hopen hcurrent hold (horderly tx hrunning) hunique)
      ?_, .refl _⟩
    intro j other hj hother
    exact disjoint_setParent
      (disjoint_setParent (hothers hrunning j other hj hother) (hfree j other hj hother))
      (hfree' j other hj hother)
  | @writeChild i k new tx hrunning hopen hfree hcurrent hpass =>
    refine ⟨h.put ((h.sound i tx hrunning).writeChild hopen hpass (horderly tx hrunning)) ?_, .refl _⟩
    intro j other hj hother
    exact disjoint_setChild (hothers hrunning j other hj hother) (hfree j other hj hother)
  | @check i r row tx hrunning hwritten hdeferred hpass =>
    exact ⟨h.put ((h.sound i tx hrunning).check hwritten (horderly tx hrunning))
      fun j other hj hother => hothers hrunning j other hj hother, .refl _⟩
  | @commit i tx hrunning hchecked =>
    obtain ⟨hfresh, hseen⟩ := horderly tx hrunning
    have hsound := h.sound i tx hrunning
    refine ⟨⟨fun j other hj => ?_, fun j j' other other' hne hj hj' => ?_⟩, fun r hr => hsound.keeps hr⟩
    · obtain ⟨hji, hother⟩ := running_finish hj
      refine hsound.after_commit (h.sound j other hother) (hothers hrunning j other hji hother)
        (fun r hr hnot k new hw htouches => ?_) fun r seen hs => hseen j other r seen hji hother hs
      exact hfresh r hr hnot ⟨j, other, k, new, hji, hother, hw, htouches⟩
    · exact h.disjoint j j' other other' hne (running_finish hj).2 (running_finish hj').2
  | @rollback i tx hrunning =>
    refine ⟨⟨fun j other hj => ?_, fun j j' other other' hne hj hj' => ?_⟩, .refl _⟩
    · exact h.sound j other (running_finish hj).2
    · exact h.disjoint j j' other other' hne (running_finish hj).2 (running_finish hj').2

theorem Step.committed_eq (h : Step T S (.commit i) S')
    (hrunning : S.running i = some tx) : S'.committed = S.committed.over tx.writes := by
  cases h with
  | @commit _ tx' hrunning' hchecked =>
    obtain rfl : tx = tx' := Option.some.inj (hrunning.symm.trans hrunning')
    rfl

/-! ### Runs -/

omit [DecidableEq δ] [DecidableEq ι] in
theorem inv_start (db : Rows κ P δ D) : Inv T (.start ι db) :=
  ⟨fun _ _ h => (by cases h), fun _ _ _ _ _ h => (by cases h)⟩

/-- **Frozen evidence stays**, over a run of transactions that do not overlap on it: a parent that is
frozen after a step keeps its child rows and its protected columns, and a transaction that froze it
with a deferred check committed what the check saw. -/
theorem frozen_evidence_stays {db : Rows κ P δ D}
    {ts : List (Transition (Sys ι κ P δ D) (Label ι κ P δ D))}
    (hrun : Run (Step T) (.start ι db) ts S) (horderly : ∀ t ∈ ts, Orderly T t) :
    ∀ t ∈ ts, Keeps T t.post.committed S.committed ∧
      ∀ i tx r row, t.label = .commit i → t.pre.running i = some tx →
        tx.writes.parent r = some (some row) → T.Deferred row →
        ∃ seen, tx.checked r = some seen ∧ T.SameEvidence seen t.post.committed r := by
  have hinv := hrun.invariant (I := Inv T) (G := Orderly T)
    (fun _ _ _ hI hG hstep => (inv_step hI hG hstep).1) (inv_start db) horderly
  intro t ht
  refine ⟨?_, fun i tx r row hlabel hrunning hwritten hdeferred => ?_⟩
  · obtain ⟨us, vs, rfl, -, -, hrest⟩ := hrun.split_of_mem ht
    have hsteps : Run (fun S label S' => Step T S label S' ∧ Orderly T ⟨S, label, S'⟩) t.post vs S :=
      hrest.of_steps fun t' ht' =>
        ⟨hrest.step_of_mem t' ht', horderly t' (List.mem_append_right _ ht')⟩
    refine hsteps.related (I := Inv T) (R := fun S S' => Keeps T S.committed S'.committed)
      (fun _ => .refl _) ?_ (fun _ _ _ hI hs => inv_step hI hs.2 hs.1) (hinv.2 t ht).2
    intro S₁ S₂ S₃ h h'
    exact Keeps.trans h h'
  · have hstep := hrun.step_of_mem t ht
    rw [hlabel] at hstep
    generalize hpost : t.post = post at hstep
    cases hstep with
    | @commit _ tx' hrunning' hchecked =>
      obtain rfl : tx = tx' := Option.some.inj (hrunning.symm.trans hrunning')
      obtain ⟨seen, hseen⟩ := Option.ne_none_iff_exists'.mp (hchecked r row hwritten hdeferred)
      obtain ⟨-, -, hparent, hdetails⟩ := ((hinv.2 t ht).1.sound i tx hrunning).checked r seen hseen
      exact ⟨seen, hseen, congrArg (Option.map T.content) hparent, hdetails⟩

end

end

end HiveChameleon.Lib.Freezing
