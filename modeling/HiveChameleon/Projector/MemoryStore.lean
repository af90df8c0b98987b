import HiveChameleon.Projector.Projector

/-!
# Projector.MemoryStore — `InMemoryProjectionStore`, the store of the projector's tests

A call changes the two lists and the cursor map statement by statement, and nothing undoes a
statement when a later one throws; so a call returns what it left, also when it failed.  The guard of
the constructor against production use is left out.
-/

namespace HiveChameleon.Projector

open Gateway Lib

structure StoredOperationDecision extends OperationDecision where
  source : String
  state : OperationState
  irreversibleAt : Option Timestamp
  revertedAt : Option Timestamp
deriving DecidableEq

/-- `values.forEach(…)` with an assignment to the visited index. -/
def replaceWhere {α : Type} (values : List α) (predicate : α → Bool) (replacement : α → α) : List α :=
  values.map fun value => if predicate value then replacement value else value

structure InMemoryProjectionStore where
  checkpoints : List BlockCheckpoint
  operations : List StoredOperationDecision
  cursors : String → Option ProjectionCursor

namespace InMemoryProjectionStore

/-- The store that the constructor makes. -/
def empty : InMemoryProjectionStore := ⟨[], [], fun _ => none⟩

section Calls

variable (m : InMemoryProjectionStore) (source : String)

def getCursor : ProjectionCursor := (m.cursors source).getD (initialCursor source)

def getCurrentCheckpoint (blockNumber : ℕ) : Option BlockCheckpoint :=
  m.checkpoints.find? fun checkpoint =>
    checkpoint.source = source ∧ checkpoint.number = blockNumber ∧ checkpoint.state ≠ .reverted

/-- `cursors.set(source, cursor)` -/
def setCursor (cursor : ProjectionCursor) : InMemoryProjectionStore :=
  { m with cursors := Function.update m.cursors source (some cursor) }

/-- The three checks that `applyBlock` starts with. -/
def checkBlock (block : HafBlock) : Except Failure Unit := do
  require (block.number = (m.getCursor source).lastProcessedBlock + 1)
    (.projector .cursorConflict "Block does not immediately follow the cursor")
  require ((m.getCursor source).lastProcessedBlockId = none ∨
      (m.getCursor source).lastProcessedBlockId = some block.previousId)
    (.projector .cursorConflict "Block parent does not match the cursor")
  require (m.getCurrentCheckpoint source block.number = none)
    (.projector .cursorConflict "A current checkpoint already exists at this height")

/-- `{ ...block, source, state: 'included', includedAt: observedAt }` -/
def includedCheckpoint (block : HafBlock) (observedAt : Timestamp) : BlockCheckpoint where
  toHafBlock := block
  source := source
  state := .included
  includedAt := observedAt
  irreversibleAt := none
  revertedAt := none

/-- `{ ...decision, source, state: 'included' }` -/
def includedOperation (decision : OperationDecision) : StoredOperationDecision where
  toOperationDecision := decision
  source := source
  state := .included
  irreversibleAt := none
  revertedAt := none

/-- Whether an operation with this identity is stored, whatever its state. -/
def hasOperation (sourceOperationId : String) : Bool :=
  m.operations.any fun stored => stored.evidence.sourceOperationId = sourceOperationId

/-- The loop over the decisions: what was pushed before a duplicate stays. -/
def pushOperations : InMemoryProjectionStore → List OperationDecision →
    Except Failure Unit × InMemoryProjectionStore
  | m, [] => (.ok (), m)
  | m, decision :: decisions =>
    if m.hasOperation decision.evidence.sourceOperationId then
      (.error (.projector .cursorConflict "An operation identity already exists"), m)
    else
      pushOperations { m with operations := m.operations ++ [includedOperation source decision] }
        decisions

def applyBlock (block : HafBlock) (decisions : List OperationDecision) (observedAt : Timestamp) :
    Except Failure Unit × InMemoryProjectionStore :=
  match m.checkBlock source block with
  | .error e => (.error e, m)
  | .ok () =>
    let cursor := m.getCursor source
    let m := { m with checkpoints := m.checkpoints ++ [includedCheckpoint source block observedAt] }
    match pushOperations source m decisions with
    | (.error e, m) => (.error e, m)
    | (.ok (), m) =>
      (.ok (), m.setCursor source { cursor with
        lastProcessedBlock := block.number
        lastProcessedBlockId := some block.id })

/-- The store after the two replacements of `revertAfter`. -/
def revertRows (ancestorBlock : ℕ) (revertedAt : Timestamp) : InMemoryProjectionStore :=
  { m with
    checkpoints := replaceWhere m.checkpoints
      (fun checkpoint => checkpoint.source = source ∧ ancestorBlock < checkpoint.number ∧
        checkpoint.state ≠ .reverted)
      fun checkpoint => { checkpoint with state := .reverted, revertedAt := some revertedAt }
    operations := replaceWhere m.operations
      (fun operation => operation.source = source ∧ ancestorBlock < operation.evidence.blockNumber ∧
        operation.state ≠ .reverted)
      fun operation => { operation with state := .reverted, revertedAt := some revertedAt } }

def revertAfter (ancestorBlock : ℕ) (revertedAt : Timestamp) :
    Except Failure Unit × InMemoryProjectionStore :=
  let cursor := m.getCursor source
  if ancestorBlock < cursor.lastIrreversibleBlock then
    (.error (.projector .irreversibleFork "Cannot revert an irreversible checkpoint"), m)
  else
    let m := m.revertRows source ancestorBlock revertedAt
    let ancestor := m.getCurrentCheckpoint source ancestorBlock
    (.ok (), m.setCursor source { cursor with
      lastProcessedBlock := ancestorBlock
      lastProcessedBlockId := ancestor.map (·.id) })

/-- The store after the two replacements of `finalizeThrough`. -/
def finalizeRows (blockNumber : ℕ) (irreversibleAt : Timestamp) : InMemoryProjectionStore :=
  { m with
    checkpoints := replaceWhere m.checkpoints
      (fun checkpoint => checkpoint.source = source ∧ checkpoint.number ≤ blockNumber ∧
        checkpoint.state = .included)
      fun checkpoint => { checkpoint with state := .irreversible, irreversibleAt := some irreversibleAt }
    operations := replaceWhere m.operations
      (fun operation => operation.source = source ∧ operation.evidence.blockNumber ≤ blockNumber ∧
        operation.state = .included)
      fun operation => { operation with state := .irreversible, irreversibleAt := some irreversibleAt } }

def finalizeThrough (blockNumber : ℕ) (irreversibleAt : Timestamp) :
    Except Failure Unit × InMemoryProjectionStore :=
  let cursor := m.getCursor source
  if cursor.lastProcessedBlock < blockNumber then
    (.error (.projector .cursorConflict "Cannot finalize beyond the processed cursor"), m)
  else
    (.ok (), (m.finalizeRows source blockNumber irreversibleAt).setCursor source { cursor with
      lastIrreversibleBlock := max cursor.lastIrreversibleBlock blockNumber })

end Calls

/-! ### What a call leaves -/

section Specs

variable {m : InMemoryProjectionStore} {source source' : String}

theorem getCursor_setCursor {cursor : ProjectionCursor} :
    (m.setCursor source cursor).getCursor source = cursor := by
  show (Function.update m.cursors source (some cursor) source).getD _ = cursor
  rw [Function.update_self]
  rfl

theorem getCursor_setCursor_of_ne {cursor : ProjectionCursor} (h : source' ≠ source) :
    (m.setCursor source cursor).getCursor source' = m.getCursor source' := by
  show (Function.update m.cursors source (some cursor) source').getD _ = _
  rw [Function.update_of_ne h]
  rfl

@[simp] theorem getCurrentCheckpoint_setCursor {cursor : ProjectionCursor} {n : ℕ} :
    (m.setCursor source cursor).getCurrentCheckpoint source' n = m.getCurrentCheckpoint source' n := rfl

theorem checkBlock_eq_ok {block : HafBlock} :
    m.checkBlock source block = .ok () ↔
      block.number = (m.getCursor source).lastProcessedBlock + 1 ∧
        ((m.getCursor source).lastProcessedBlockId = none ∨
          (m.getCursor source).lastProcessedBlockId = some block.previousId) ∧
        m.getCurrentCheckpoint source block.number = none := by
  simp only [checkBlock, bind_eq_ok, exists_unit, require_eq_ok]

/-- The decisions bring identities that are not stored yet, each of them once. -/
structure NewIdentities (m : InMemoryProjectionStore) (decisions : List OperationDecision) : Prop where
  unstored : ∀ decision ∈ decisions, m.hasOperation decision.evidence.sourceOperationId = false
  nodup : (decisions.map (·.evidence.sourceOperationId)).Nodup

theorem hasOperation_push {stored : StoredOperationDecision} {id : String} :
    ({ m with operations := m.operations ++ [stored] }).hasOperation id =
      (m.hasOperation id || decide (stored.evidence.sourceOperationId = id)) := by
  simp only [hasOperation, List.any_append, List.any_cons, List.any_nil, Bool.or_false]

theorem pushOperations_new : ∀ {decisions : List OperationDecision} {m : InMemoryProjectionStore},
    m.NewIdentities decisions → pushOperations source m decisions =
      (.ok (), { m with operations := m.operations ++ decisions.map (includedOperation source) })
  | [], m, _ => by
    simp only [pushOperations, List.map_nil, List.append_nil]
  | decision :: decisions, m, h => by
    have hfirst : m.hasOperation decision.evidence.sourceOperationId = false :=
      h.unstored decision List.mem_cons_self
    obtain ⟨hnot, hnodup⟩ := List.nodup_cons.mp h.nodup
    have hrest : ({ m with
        operations := m.operations ++ [includedOperation source decision] }).NewIdentities decisions := by
      refine ⟨fun later hlater => ?_, hnodup⟩
      have hdiffer : decision.evidence.sourceOperationId ≠ later.evidence.sourceOperationId := by
        intro heq
        exact hnot (List.mem_map.mpr ⟨later, hlater, heq.symm⟩)
      rw [hasOperation_push, h.unstored later (List.mem_cons_of_mem decision hlater), Bool.false_or]
      exact decide_eq_false hdiffer
    rw [pushOperations, if_neg (by rw [hfirst]; decide), pushOperations_new hrest, List.map_cons,
      List.append_assoc]
    rfl

theorem applyBlock_new {block : HafBlock} {decisions : List OperationDecision} {observedAt : Timestamp}
    (hcheck : m.checkBlock source block = .ok ()) (hnew : m.NewIdentities decisions) :
    m.applyBlock source block decisions observedAt =
      (.ok (), ({ m with
        checkpoints := m.checkpoints ++ [includedCheckpoint source block observedAt]
        operations := m.operations ++ decisions.map (includedOperation source) }).setCursor source
          { m.getCursor source with
            lastProcessedBlock := block.number
            lastProcessedBlockId := some block.id }) := by
  have hpush : ({ m with
      checkpoints := m.checkpoints ++ [includedCheckpoint source block observedAt] }).NewIdentities
        decisions := ⟨hnew.unstored, hnew.nodup⟩
  simp only [applyBlock, hcheck, pushOperations_new hpush]

theorem applyBlock_refused {block : HafBlock} {decisions : List OperationDecision}
    {observedAt : Timestamp} {e : Failure} (hcheck : m.checkBlock source block = .error e) :
    m.applyBlock source block decisions observedAt = (.error e, m) := by
  simp only [applyBlock, hcheck]

theorem revertAfter_of_le {ancestorBlock : ℕ} {revertedAt : Timestamp}
    (h : (m.getCursor source).lastIrreversibleBlock ≤ ancestorBlock) :
    m.revertAfter source ancestorBlock revertedAt =
      (.ok (), (m.revertRows source ancestorBlock revertedAt).setCursor source { m.getCursor source with
        lastProcessedBlock := ancestorBlock
        lastProcessedBlockId := ((m.revertRows source ancestorBlock revertedAt).getCurrentCheckpoint source
          ancestorBlock).map (·.id) }) := by
  unfold revertAfter
  exact if_neg (Nat.not_lt.mpr h)

theorem revertAfter_of_lt {ancestorBlock : ℕ} {revertedAt : Timestamp}
    (h : ancestorBlock < (m.getCursor source).lastIrreversibleBlock) :
    m.revertAfter source ancestorBlock revertedAt =
      (.error (.projector .irreversibleFork "Cannot revert an irreversible checkpoint"), m) := by
  unfold revertAfter
  exact if_pos h

theorem finalizeThrough_of_le {blockNumber : ℕ} {irreversibleAt : Timestamp}
    (h : blockNumber ≤ (m.getCursor source).lastProcessedBlock) :
    m.finalizeThrough source blockNumber irreversibleAt =
      (.ok (), (m.finalizeRows source blockNumber irreversibleAt).setCursor source
        { m.getCursor source with
          lastIrreversibleBlock := max (m.getCursor source).lastIrreversibleBlock blockNumber }) := by
  unfold finalizeThrough
  exact if_neg (Nat.not_lt.mpr h)

theorem finalizeThrough_of_lt {blockNumber : ℕ} {irreversibleAt : Timestamp}
    (h : (m.getCursor source).lastProcessedBlock < blockNumber) :
    m.finalizeThrough source blockNumber irreversibleAt =
      (.error (.projector .cursorConflict "Cannot finalize beyond the processed cursor"), m) := by
  unfold finalizeThrough
  exact if_pos h

/-! #### The current checkpoints after a call -/

theorem find?_replaceWhere {α : Type} {q p : α → Bool} {f : α → α}
    (hout : ∀ a, p a = true → q a = false ∧ q (f a) = false) :
    ∀ values : List α, (replaceWhere values p f).find? q = values.find? q
  | [] => rfl
  | a :: as => by
    show (List.cons (if p a then f a else a) (replaceWhere as p f)).find? q = _
    by_cases hp : p a = true
    · obtain ⟨hbefore, hafter⟩ := hout a hp
      rw [if_pos hp, List.find?_cons_of_neg (by simp [hafter]), List.find?_cons_of_neg (by simp [hbefore])]
      exact find?_replaceWhere hout as
    · rw [if_neg hp, List.find?_cons, List.find?_cons, find?_replaceWhere hout as]

theorem map_find?_replaceWhere {α β : Type} {q p : α → Bool} {f : α → α} {g : α → β}
    (hfound : ∀ a, p a = true → q (f a) = q a) (hkept : ∀ a, g (f a) = g a) :
    ∀ values : List α, ((replaceWhere values p f).find? q).map g = (values.find? q).map g
  | [] => rfl
  | a :: as => by
    have ih := map_find?_replaceWhere hfound hkept as
    have hhead : q (if p a then f a else a) = q a := by
      by_cases hp : p a = true
      · rw [if_pos hp, hfound a hp]
      · rw [if_neg hp]
    have hvalue : g (if p a then f a else a) = g a := by
      by_cases hp : p a = true
      · rw [if_pos hp, hkept a]
      · rw [if_neg hp]
    show ((List.cons (if p a then f a else a) (replaceWhere as p f)).find? q).map g = _
    by_cases hq : q a = true
    · rw [List.find?_cons_of_pos (hhead.trans hq), List.find?_cons_of_pos hq, Option.map_some,
        Option.map_some, hvalue]
    · rw [List.find?_cons_of_neg (by rw [hhead]; exact hq), List.find?_cons_of_neg hq]
      exact ih

theorem getCurrentCheckpoint_finalizeRows {blockNumber n : ℕ} {irreversibleAt : Timestamp} :
    ((m.finalizeRows source blockNumber irreversibleAt).getCurrentCheckpoint source' n).map (·.id) =
      (m.getCurrentCheckpoint source' n).map (·.id) := by
  refine map_find?_replaceWhere (fun checkpoint hp => ?_) (fun checkpoint => ?_) m.checkpoints
  · have hstate : checkpoint.state = .included := (of_decide_eq_true hp).2.2
    simp [hstate]
  · rfl

theorem getCurrentCheckpoint_revertRows {ancestorBlock n : ℕ} {revertedAt : Timestamp}
    (hne : source' ≠ source) :
    (m.revertRows source ancestorBlock revertedAt).getCurrentCheckpoint source' n =
      m.getCurrentCheckpoint source' n := by
  refine find?_replaceWhere (fun checkpoint hp => ?_) m.checkpoints
  have hsource : checkpoint.source = source := (of_decide_eq_true hp).1
  have hother : ¬ checkpoint.source = source' := fun heq => hne (heq.symm.trans hsource)
  simp [hother]

section Included

variable {m' : InMemoryProjectionStore} {block : HafBlock} {observedAt : Timestamp}

theorem getCurrentCheckpoint_included_of_ne {n : ℕ}
    (hrows : m'.checkpoints = m.checkpoints ++ [includedCheckpoint source block observedAt])
    (hne : source' ≠ source) : m'.getCurrentCheckpoint source' n = m.getCurrentCheckpoint source' n := by
  have hother : ¬ (includedCheckpoint source block observedAt).source = source' := fun heq => hne heq.symm
  unfold getCurrentCheckpoint
  rw [hrows, List.find?_append, List.find?_cons_of_neg (by simp [hother]), List.find?_nil, Option.or_none]

theorem getCurrentCheckpoint_included
    (hrows : m'.checkpoints = m.checkpoints ++ [includedCheckpoint source block observedAt])
    (hnone : m.getCurrentCheckpoint source block.number = none) :
    m'.getCurrentCheckpoint source block.number = some (includedCheckpoint source block observedAt) := by
  unfold getCurrentCheckpoint at hnone ⊢
  rw [hrows, List.find?_append, hnone, Option.none_or]
  exact List.find?_cons_of_pos (by simp [includedCheckpoint])

end Included

end Specs

end InMemoryProjectionStore

end HiveChameleon.Projector
