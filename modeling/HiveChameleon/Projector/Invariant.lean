import HiveChameleon.Projector.StoreSpec

/-!
# Projector.Invariant — the projection invariant and what each store call does to it

`Chained` says that the current checkpoints are one hash-linked chain that ends at the cursor;
`Consistent` adds that finality agrees across checkpoints, operations and events.  A store call
keeps it, a revert on the one condition that it does not move the cursor up.  `Frozen` relates two
states between which no irreversible row changed.
-/

namespace HiveChameleon.Projector

open Gateway Lib

/-- The current checkpoints form one hash-linked chain from height one to the cursor. -/
structure Chained (source : String) (t : ChainTables) : Prop where
  exists_checkpoint : ∀ n, 1 ≤ n → n ≤ lastProcessed source t →
    ∃ c ∈ t.blockCheckpoint, c.Current source ∧ c.blockNumber = n
  unique_checkpoint : ∀ c ∈ t.blockCheckpoint, ∀ d ∈ t.blockCheckpoint, c.Current source →
    d.Current source → c.blockNumber = d.blockNumber → c = d
  in_range : ∀ c ∈ t.blockCheckpoint, c.Current source →
    1 ≤ c.blockNumber ∧ c.blockNumber ≤ lastProcessed source t
  linked : ∀ c ∈ t.blockCheckpoint, ∀ d ∈ t.blockCheckpoint, c.Current source →
    d.Current source → d.blockNumber = c.blockNumber + 1 → d.previousBlockId = some c.blockId

/-- **The projection invariant**: one current chain, irreversible exactly up to the irreversible
height, with operations and events of the finality of what they hang on. -/
structure Consistent (source : String) (t : ChainTables) : Prop extends Chained source t where
  irreversible_iff : ∀ c ∈ t.blockCheckpoint, c.Current source →
    (c.state = .irreversible ↔ c.blockNumber ≤ lastIrreversible source t)
  irreversible_le : lastIrreversible source t ≤ lastProcessed source t
  operation_state : ∀ op ∈ t.operation,
    ∃ c ∈ t.blockCheckpoint, c.id = op.checkpointId ∧ c.state = op.state
  event_state : ∀ e ∈ t.matchEvent,
    ∃ op ∈ t.operation, op.id = e.operationId ∧ op.state = e.operationState

/-- The part of the invariant about finality, which does not need the chain. -/
structure FinalityAgrees (source : String) (t : ChainTables) : Prop where
  irreversible_le : ∀ c ∈ t.blockCheckpoint, c.source = source → c.state = .irreversible →
    c.blockNumber ≤ lastIrreversible source t
  operation_state : ∀ op ∈ t.operation,
    ∃ c ∈ t.blockCheckpoint, c.id = op.checkpointId ∧ c.state = op.state
  event_state : ∀ e ∈ t.matchEvent,
    ∃ op ∈ t.operation, op.id = e.operationId ∧ op.state = e.operationState

theorem Consistent.finalityAgrees {source : String} {t : ChainTables} (h : Consistent source t) :
    FinalityAgrees source t where
  irreversible_le c hc hsource hs := (h.irreversible_iff c hc ⟨hsource, by simp [hs]⟩).mp hs
  operation_state := h.operation_state
  event_state := h.event_state

/-- Nothing that was irreversible changed: checkpoints, operations and event bindings. -/
structure Frozen (t t' : ChainTables) : Prop where
  checkpoint : ∀ c ∈ t.blockCheckpoint, c.state = .irreversible → c ∈ t'.blockCheckpoint
  operation : ∀ op ∈ t.operation, op.state = .irreversible → op ∈ t'.operation
  event : ∀ e ∈ t.matchEvent, e.operationState = .irreversible → e ∈ t'.matchEvent

namespace Frozen

theorem refl (t : ChainTables) : Frozen t t :=
  ⟨fun _ h _ => h, fun _ h _ => h, fun _ h _ => h⟩

theorem trans {t t' t'' : ChainTables} (h : Frozen t t') (h' : Frozen t' t'') : Frozen t t'' where
  checkpoint c hc hs := h'.checkpoint c (h.checkpoint c hc hs) hs
  operation op hop hs := h'.operation op (h.operation op hop hs) hs
  event e he hs := h'.event e (h.event e he hs) hs

end Frozen

section

variable {source : String} {t t' : ChainTables}

theorem consistent_empty (source : String) :
    Consistent source ⟨Table.empty, Table.empty, Table.empty, Table.empty⟩ where
  exists_checkpoint n h1 h2 := by
    simp [lastProcessed, Table.find?, Table.empty] at h2; omega
  unique_checkpoint c hc := absurd hc Table.not_mem_empty
  in_range c hc := absurd hc Table.not_mem_empty
  linked c hc := absurd hc Table.not_mem_empty
  irreversible_iff c hc := absurd hc Table.not_mem_empty
  irreversible_le := by simp [lastProcessed, lastIrreversible, Table.find?, Table.empty]
  operation_state op hop := absurd hop Table.not_mem_empty
  event_state e he := absurd he Table.not_mem_empty

/-- The invariant does not see whether the cursor row exists yet. -/
theorem Consistent.ensureCursor (h : Consistent source t) :
    Consistent source (ensureCursor source t) where
  exists_checkpoint := by simpa using h.exists_checkpoint
  unique_checkpoint := by simpa using h.unique_checkpoint
  in_range := by simpa using h.in_range
  linked := by simpa using h.linked
  irreversible_iff := by simpa using h.irreversible_iff
  irreversible_le := by simpa using h.irreversible_le
  operation_state := by simpa using h.operation_state
  event_state := by simpa using h.event_state

theorem frozen_ensureCursor : Frozen t (ensureCursor source t) :=
  ⟨fun _ hc _ => by simpa using hc, fun _ hop _ => by simpa using hop,
    fun _ he _ => by simpa using he⟩

/-- At a height of the chain, the cursor's join finds the checkpoint. -/
theorem currentCheckpointRow_eq_some {n : ℕ} {c : BlockCheckpointRow} (h : Chained source t) :
    currentCheckpointRow t source n = some c ↔
      c ∈ t.blockCheckpoint ∧ c.Current source ∧ c.blockNumber = n := by
  unfold currentCheckpointRow
  constructor
  · intro hfind
    exact ⟨List.mem_of_find?_eq_some hfind, by simpa using List.find?_some hfind⟩
  · rintro ⟨hc, hcur, rfl⟩
    cases hfind : t.blockCheckpoint.rows.find?
        (fun d => d.Current source ∧ d.blockNumber = c.blockNumber) with
    | none => simpa [hcur] using List.find?_eq_none.mp hfind c hc
    | some d =>
      have hd : d.Current source ∧ d.blockNumber = c.blockNumber := by
        simpa using List.find?_some hfind
      rw [h.unique_checkpoint d (List.mem_of_find?_eq_some hfind) c hc hd.1 hcur hd.2]

/-! ### `applyBlock` -/

section Apply

variable {block : HafBlock} {id : Uuid} {observedAt : Timestamp}

theorem Applied.mem_checkpoint (ha : Applied source block id observedAt t t')
    {c : BlockCheckpointRow} :
    c ∈ t'.blockCheckpoint ↔
      c ∈ t.blockCheckpoint ∨ c = checkpointRow id source block observedAt := by
  rw [Table.mem_def, ha.checkpoint, List.mem_append, List.mem_singleton]; rfl

/-- An operation after `applyBlock`: an old one, or one included under the new checkpoint. -/
theorem Applied.operation_cases (ha : Applied source block id observedAt t t') {op : OperationRow}
    (hop : op ∈ t'.operation) :
    op ∈ t.operation ∨ op.checkpointId = id ∧ op.state = .included := by
  obtain ⟨mid, -, hmid, -, -, hstored⟩ := ha.stored
  obtain ⟨ops, hrows, hops⟩ := hstored.operation
  rw [Table.mem_def, hrows, hmid] at hop
  rcases List.mem_append.mp hop with hop | hop
  · exact .inl hop
  · exact .inr (hops op hop)

theorem Applied.mem_operation (ha : Applied source block id observedAt t t') {op : OperationRow}
    (hop : op ∈ t.operation) : op ∈ t'.operation := by
  obtain ⟨mid, -, hmid, -, -, hstored⟩ := ha.stored
  exact hstored.mem_operation (hmid ▸ hop)

theorem Applied.event_cases (ha : Applied source block id observedAt t t') {e : MatchEventRow}
    (he : e ∈ t'.matchEvent) :
    e ∈ t.matchEvent ∨ e.operationState = .included ∧
      ∃ op ∈ t'.operation, op.id = e.operationId ∧ op.checkpointId = id ∧ op.state = .included := by
  obtain ⟨mid, -, -, hmid, -, hstored⟩ := ha.stored
  rcases hstored.event e he with he | he
  · exact .inl (hmid ▸ he)
  · exact .inr he

theorem Applied.kept (ha : Applied source block id observedAt t t') {e : MatchEventRow}
    (he : e ∈ t.matchEvent) (hs : e.operationState ≠ .reverted) : e ∈ t'.matchEvent := by
  obtain ⟨mid, -, -, hmid, -, hstored⟩ := ha.stored
  exact hstored.kept e (hmid ▸ he) hs

theorem Applied.frozen (ha : Applied source block id observedAt t t') : Frozen t t' where
  checkpoint c hc _ := ha.mem_checkpoint.mpr (.inl hc)
  operation op hop _ := ha.mem_operation hop
  event e he hs := ha.kept he (by simp [hs])

theorem Chained.apply (h : Chained source t) (ha : Applied source block id observedAt t t') :
    Chained source t' where
  exists_checkpoint n h1 h2 := by
    rw [ha.processed, ha.number] at h2
    by_cases hn : n ≤ lastProcessed source t
    · obtain ⟨c, hc, hrest⟩ := h.exists_checkpoint n h1 hn
      exact ⟨c, ha.mem_checkpoint.mpr (.inl hc), hrest⟩
    · refine ⟨_, ha.mem_checkpoint.mpr (.inr rfl), ⟨rfl, by simp [checkpointRow]⟩, ?_⟩
      change block.number = n
      rw [ha.number]; omega
  unique_checkpoint c hc d hd hcur hdur heq := by
    rcases ha.mem_checkpoint.mp hc with hc | rfl <;> rcases ha.mem_checkpoint.mp hd with hd | rfl
    · exact h.unique_checkpoint c hc d hd hcur hdur heq
    · exact absurd ⟨hcur, heq⟩ (ha.fresh_height c hc)
    · exact absurd ⟨hdur, heq.symm⟩ (ha.fresh_height d hd)
    · rfl
  in_range c hc hcur := by
    rw [ha.processed, ha.number]
    rcases ha.mem_checkpoint.mp hc with hc | rfl
    · have := h.in_range c hc hcur
      omega
    · change 1 ≤ block.number ∧ block.number ≤ _
      rw [ha.number]; omega
  linked c hc d hd hcur hdur heq := by
    rcases ha.mem_checkpoint.mp hc with hc | rfl <;> rcases ha.mem_checkpoint.mp hd with hd | rfl
    · exact h.linked c hc d hd hcur hdur heq
    · -- `c` is the checkpoint at the cursor, whose id the block names as its parent
      have hn : c.blockNumber = lastProcessed source t := by
        have : block.number = c.blockNumber + 1 := heq
        have := ha.number
        omega
      have hparent := ha.parent c ((currentCheckpointRow_eq_some h).mpr ⟨hc, hcur, hn⟩)
      simp [checkpointRow, hparent]
    · have hle := (h.in_range d hd hdur).2
      have : d.blockNumber = block.number + 1 := heq
      have := ha.number
      omega
    · have : block.number = block.number + 1 := heq
      omega

/-- A block keeps the finality of operations and events in agreement. -/
theorem FinalityAgrees.apply (h : FinalityAgrees source t)
    (ha : Applied source block id observedAt t t') : FinalityAgrees source t' where
  irreversible_le c hc hsource hs := by
    rw [ha.irreversible]
    rcases ha.mem_checkpoint.mp hc with hc | rfl
    · exact h.irreversible_le c hc hsource hs
    · cases hs
  operation_state op hop := by
    rcases ha.operation_cases hop with hop | ⟨hid, hs⟩
    · obtain ⟨c, hc, hrest⟩ := h.operation_state op hop
      exact ⟨c, ha.mem_checkpoint.mpr (.inl hc), hrest⟩
    · exact ⟨_, ha.mem_checkpoint.mpr (.inr rfl), hid.symm, hs.symm⟩
  event_state e he := by
    rcases ha.event_cases he with he | ⟨hs, op, hop, hid, -, hops⟩
    · obtain ⟨op, hop, hrest⟩ := h.event_state e he
      exact ⟨op, ha.mem_operation hop, hrest⟩
    · exact ⟨op, hop, hid, hops.trans hs.symm⟩

theorem Consistent.apply (h : Consistent source t) (ha : Applied source block id observedAt t t') :
    Consistent source t' where
  toChained := h.toChained.apply ha
  irreversible_iff c hc hcur := by
    rw [ha.irreversible]
    rcases ha.mem_checkpoint.mp hc with hc | rfl
    · exact h.irreversible_iff c hc hcur
    · have := h.irreversible_le
      have hn := ha.number
      simp only [checkpointRow, reduceCtorEq, false_iff]
      omega
  irreversible_le := by
    rw [ha.irreversible, ha.processed, ha.number]
    exact le_trans h.irreversible_le (Nat.le_succ _)
  operation_state := (h.finalityAgrees.apply ha).operation_state
  event_state := (h.finalityAgrees.apply ha).event_state

end Apply

/-! ### Joins over heights -/

/-- The join of an operation with its checkpoint, once the checkpoint is known. -/
theorem onHeights_iff {heights : ℕ → Bool} {op : OperationRow} {c : BlockCheckpointRow}
    (hc : c ∈ t.blockCheckpoint) (hid : c.id = op.checkpointId) :
    onHeights t source heights op ↔ c.source = source ∧ heights c.blockNumber = true := by
  have hfind : t.blockCheckpoint.find? op.checkpointId = some c := Table.find?_eq_some.mpr ⟨hc, hid⟩
  simp [onHeights, hfind]

/-- The join of an event with its operation, once the operation is known. -/
theorem eventOnHeights_iff {heights : ℕ → Bool} {e : MatchEventRow} {op : OperationRow}
    (hop : op ∈ t.operation) (hid : op.id = e.operationId) :
    eventOnHeights t source heights e ↔ onHeights t source heights op := by
  have hfind : t.operation.find? e.operationId = some op := Table.find?_eq_some.mpr ⟨hop, hid⟩
  simp [eventOnHeights, hfind]

/-! ### `revertAfter` -/

section Revert

variable {ancestorBlock : ℕ} {time : Timestamp}

/-- The current checkpoints after a revert: the old ones up to the ancestor. -/
theorem mem_revertedTables {c : BlockCheckpointRow} :
    (c ∈ (revertedTables source ancestorBlock time t).blockCheckpoint ∧ c.Current source) ↔
      c ∈ t.blockCheckpoint ∧ c.Current source ∧ c.blockNumber ≤ ancestorBlock := by
  constructor
  · rintro ⟨hc, hcur⟩
    rcases Table.mem_modify_cases hc with ⟨d, -, -, rfl⟩ | ⟨hc, hnot⟩
    · exact absurd rfl hcur.2
    · refine ⟨hc, hcur, ?_⟩
      by_contra hlt
      exact hnot ⟨hcur.1, not_le.mp hlt, hcur.2⟩
  · rintro ⟨hc, hcur, hle⟩
    refine ⟨Table.mem_modify_of_not hc ?_, hcur⟩
    rintro ⟨-, hlt, -⟩
    exact absurd hle (not_le.mpr hlt)

theorem lastProcessed_revertedTables {row : SyncCursorRow}
    (hrow : t.syncCursor.find? source = some row) :
    lastProcessed source (revertedTables source ancestorBlock time t) = ancestorBlock := by
  rw [lastProcessed, revertedTables, modifyCursor_find?, hrow]; rfl

theorem lastIrreversible_revertedTables :
    lastIrreversible source (revertedTables source ancestorBlock time t) =
      lastIrreversible source t := by
  rw [lastIrreversible, revertedTables, modifyCursor_find?, lastIrreversible]
  cases t.syncCursor.find? source <;> rfl

/-- A revert that does not move the cursor up leaves a chain that ends at the ancestor. -/
theorem Chained.revert (h : Chained source t) {row : SyncCursorRow}
    (hrow : t.syncCursor.find? source = some row) (hle : ancestorBlock ≤ lastProcessed source t) :
    Chained source (revertedTables source ancestorBlock time t) where
  exists_checkpoint n h1 h2 := by
    rw [lastProcessed_revertedTables hrow] at h2
    obtain ⟨c, hc, hcur, hn⟩ := h.exists_checkpoint n h1 (h2.trans hle)
    have hkept : c ∈ (revertedTables source ancestorBlock time t).blockCheckpoint ∧ c.Current source :=
      mem_revertedTables.mpr ⟨hc, hcur, hn.trans_le h2⟩
    exact ⟨c, hkept.1, hkept.2, hn⟩
  unique_checkpoint c hc d hd hcur hdur heq := by
    obtain ⟨hc, -, -⟩ := mem_revertedTables.mp ⟨hc, hcur⟩
    obtain ⟨hd, -, -⟩ := mem_revertedTables.mp ⟨hd, hdur⟩
    exact h.unique_checkpoint c hc d hd hcur hdur heq
  in_range c hc hcur := by
    obtain ⟨hc, -, hle⟩ := mem_revertedTables.mp ⟨hc, hcur⟩
    rw [lastProcessed_revertedTables hrow]
    exact ⟨(h.in_range c hc hcur).1, hle⟩
  linked c hc d hd hcur hdur heq := by
    obtain ⟨hc, -, -⟩ := mem_revertedTables.mp ⟨hc, hcur⟩
    obtain ⟨hd, -, -⟩ := mem_revertedTables.mp ⟨hd, hdur⟩
    exact h.linked c hc d hd hcur hdur heq

/-- An operation above an ancestor that is not below the irreversible height is not irreversible. -/
theorem FinalityAgrees.not_irreversible (h : FinalityAgrees source t)
    (hguard : lastIrreversible source t ≤ ancestorBlock) {op : OperationRow} (hop : op ∈ t.operation)
    (habove : onHeights t source (ancestorBlock < ·) op) : op.state ≠ .irreversible := by
  intro hs
  obtain ⟨c, hc, hid, hcs⟩ := h.operation_state op hop
  obtain ⟨hsource, hlt⟩ := (onHeights_iff hc hid).mp habove
  have hle := h.irreversible_le c hc hsource (hcs.trans hs)
  simp only [decide_eq_true_eq] at hlt
  omega

/-- A revert keeps the finality of operations and events in agreement. -/
theorem FinalityAgrees.revert (h : FinalityAgrees source t)
    (hguard : lastIrreversible source t ≤ ancestorBlock) :
    FinalityAgrees source (revertedTables source ancestorBlock time t) where
  irreversible_le c hc hsource hs := by
    rw [lastIrreversible_revertedTables]
    rcases Table.mem_modify_cases hc with ⟨d, -, -, rfl⟩ | ⟨hc, -⟩
    · cases hs
    · exact h.irreversible_le c hc hsource hs
  operation_state op' hop' := by
    rcases Table.mem_modify_cases hop' with ⟨op, hop, ⟨habove, hs⟩, rfl⟩ | ⟨hop, hnot⟩
    · obtain ⟨c, hc, hid, hcs⟩ := h.operation_state op hop
      obtain ⟨hsource, hlt⟩ := (onHeights_iff hc hid).mp habove
      exact ⟨c.revert time,
        Table.mem_modify_of hc ⟨hsource, by simpa using hlt, by rw [hcs]; exact hs⟩, hid, rfl⟩
    · obtain ⟨c, hc, hid, hcs⟩ := h.operation_state op' hop
      refine ⟨c, Table.mem_modify_of_not hc ?_, hid, hcs⟩
      rintro ⟨hsource, hlt, hs⟩
      exact hnot ⟨(onHeights_iff hc hid).mpr ⟨hsource, by simpa using hlt⟩, hcs ▸ hs⟩
  event_state e' he' := by
    rcases Table.mem_modify_cases he' with ⟨e, he, ⟨habove, hs⟩, rfl⟩ | ⟨he, hnot⟩
    · obtain ⟨op, hop, hid, hops⟩ := h.event_state e he
      have hon := (eventOnHeights_iff hop hid).mp habove
      exact ⟨op.revert time, Table.mem_modify_of hop ⟨hon, by simp [hops, hs]⟩, hid, rfl⟩
    · obtain ⟨op, hop, hid, hops⟩ := h.event_state e' he
      refine ⟨op, Table.mem_modify_of_not hop ?_, hid, hops⟩
      rintro ⟨hon, hs⟩
      -- a bound operation above the ancestor is included, and then so is its event
      have hinc : op.state = .included := by
        cases hstate : op.state with
        | included => rfl
        | irreversible => exact absurd hstate (h.not_irreversible hguard hop hon)
        | reverted => exact absurd hstate hs
      exact hnot ⟨(eventOnHeights_iff hop hid).mpr hon, hops ▸ hinc⟩

theorem Consistent.revert (h : Consistent source t) {row : SyncCursorRow}
    (hrow : t.syncCursor.find? source = some row)
    (hguard : lastIrreversible source t ≤ ancestorBlock)
    (hle : ancestorBlock ≤ lastProcessed source t) :
    Consistent source (revertedTables source ancestorBlock time t) where
  toChained := h.toChained.revert hrow hle
  irreversible_iff c hc hcur := by
    obtain ⟨hc, -, -⟩ := mem_revertedTables.mp ⟨hc, hcur⟩
    rw [lastIrreversible_revertedTables]
    exact h.irreversible_iff c hc hcur
  irreversible_le := by
    rw [lastIrreversible_revertedTables, lastProcessed_revertedTables hrow]
    exact hguard
  operation_state := (h.finalityAgrees.revert hguard).operation_state
  event_state := (h.finalityAgrees.revert hguard).event_state

theorem FinalityAgrees.frozen_revert (h : FinalityAgrees source t)
    (hguard : lastIrreversible source t ≤ ancestorBlock) :
    Frozen t (revertedTables source ancestorBlock time t) where
  checkpoint c hc hs := by
    refine Table.mem_modify_of_not hc ?_
    rintro ⟨hsource, hlt, -⟩
    have := h.irreversible_le c hc hsource hs
    omega
  operation op hop hs := by
    refine Table.mem_modify_of_not hop ?_
    rintro ⟨hon, -⟩
    exact h.not_irreversible hguard hop hon hs
  event e he hs := by
    refine Table.mem_modify_of_not he ?_
    rintro ⟨-, hinc⟩
    rw [hs] at hinc; cases hinc

end Revert

/-! ### `finalizeThrough` -/

section Finalize

variable {blockNumber : ℕ} {time : Timestamp}

@[simp] theorem finalizedCheckpoint_blockNumber (c : BlockCheckpointRow) :
    (finalizedCheckpoint source blockNumber time c).blockNumber = c.blockNumber :=
  Table.updated_eq (fun _ => rfl) c

@[simp] theorem finalizedCheckpoint_blockId (c : BlockCheckpointRow) :
    (finalizedCheckpoint source blockNumber time c).blockId = c.blockId :=
  Table.updated_eq (fun _ => rfl) c

@[simp] theorem finalizedCheckpoint_previousBlockId (c : BlockCheckpointRow) :
    (finalizedCheckpoint source blockNumber time c).previousBlockId = c.previousBlockId :=
  Table.updated_eq (fun _ => rfl) c

@[simp] theorem finalizedCheckpoint_source (c : BlockCheckpointRow) :
    (finalizedCheckpoint source blockNumber time c).source = c.source :=
  Table.updated_eq (fun _ => rfl) c

theorem finalizedCheckpoint_state (c : BlockCheckpointRow) :
    (finalizedCheckpoint source blockNumber time c).state =
      if c.source = source ∧ c.blockNumber ≤ blockNumber ∧ c.state = .included then .irreversible
      else c.state := by
  unfold finalizedCheckpoint Table.updated
  split <;> rfl

@[simp] theorem finalizedCheckpoint_current (c : BlockCheckpointRow) :
    (finalizedCheckpoint source blockNumber time c).Current source ↔ c.Current source := by
  unfold BlockCheckpointRow.Current
  rw [finalizedCheckpoint_source, finalizedCheckpoint_state]
  split
  · rename_i hp; simp [hp.2.2]
  · rfl

theorem mem_finalizedTables {c' : BlockCheckpointRow} :
    c' ∈ (finalizedTables source blockNumber time t).blockCheckpoint ↔
      ∃ c ∈ t.blockCheckpoint, finalizedCheckpoint source blockNumber time c = c' :=
  Table.mem_modify

theorem lastProcessed_finalizedTables :
    lastProcessed source (finalizedTables source blockNumber time t) = lastProcessed source t := by
  rw [lastProcessed, finalizedTables, modifyCursor_find?, lastProcessed]
  cases t.syncCursor.find? source <;> rfl

theorem lastIrreversible_finalizedTables {row : SyncCursorRow}
    (hrow : t.syncCursor.find? source = some row) :
    lastIrreversible source (finalizedTables source blockNumber time t) =
      max (lastIrreversible source t) blockNumber := by
  rw [lastIrreversible, finalizedTables, modifyCursor_find?, lastIrreversible, hrow]; rfl

theorem Chained.finalize (h : Chained source t) :
    Chained source (finalizedTables source blockNumber time t) where
  exists_checkpoint n h1 h2 := by
    rw [lastProcessed_finalizedTables] at h2
    obtain ⟨c, hc, hcur, hn⟩ := h.exists_checkpoint n h1 h2
    exact ⟨_, mem_finalizedTables.mpr ⟨c, hc, rfl⟩, by simpa using hcur, by simpa using hn⟩
  unique_checkpoint c' hc' d' hd' hcur hdur heq := by
    obtain ⟨c, hc, rfl⟩ := mem_finalizedTables.mp hc'
    obtain ⟨d, hd, rfl⟩ := mem_finalizedTables.mp hd'
    rw [h.unique_checkpoint c hc d hd (by simpa using hcur) (by simpa using hdur)
      (by simpa using heq)]
  in_range c' hc' hcur := by
    obtain ⟨c, hc, rfl⟩ := mem_finalizedTables.mp hc'
    rw [lastProcessed_finalizedTables]
    simpa using h.in_range c hc (by simpa using hcur)
  linked c' hc' d' hd' hcur hdur heq := by
    obtain ⟨c, hc, rfl⟩ := mem_finalizedTables.mp hc'
    obtain ⟨d, hd, rfl⟩ := mem_finalizedTables.mp hd'
    simpa using h.linked c hc d hd (by simpa using hcur) (by simpa using hdur) (by simpa using heq)

theorem FinalityAgrees.finalize (h : FinalityAgrees source t) {row : SyncCursorRow}
    (hrow : t.syncCursor.find? source = some row) :
    FinalityAgrees source (finalizedTables source blockNumber time t) where
  irreversible_le c hc hsource hs := by
    rw [lastIrreversible_finalizedTables hrow, le_max_iff]
    rcases Table.mem_modify_cases hc with ⟨d, -, ⟨-, hn, -⟩, rfl⟩ | ⟨hc, -⟩
    · exact .inr hn
    · exact .inl (h.irreversible_le c hc hsource hs)
  operation_state op' hop' := by
    rcases Table.mem_modify_cases hop' with ⟨op, hop, ⟨hon, hs⟩, rfl⟩ | ⟨hop, hnot⟩
    · obtain ⟨c, hc, hid, hcs⟩ := h.operation_state op hop
      obtain ⟨hsource, hn⟩ := (onHeights_iff hc hid).mp hon
      exact ⟨c.finalize time,
        Table.mem_modify_of hc ⟨hsource, by simpa using hn, by rw [hcs]; exact hs⟩, hid, rfl⟩
    · obtain ⟨c, hc, hid, hcs⟩ := h.operation_state op' hop
      refine ⟨c, Table.mem_modify_of_not hc ?_, hid, hcs⟩
      rintro ⟨hsource, hn, hs⟩
      exact hnot ⟨(onHeights_iff hc hid).mpr ⟨hsource, by simpa using hn⟩, hcs ▸ hs⟩
  event_state e' he' := by
    rcases Table.mem_modify_cases he' with ⟨e, he, ⟨hon, hs⟩, rfl⟩ | ⟨he, hnot⟩
    · obtain ⟨op, hop, hid, hops⟩ := h.event_state e he
      have hon := (eventOnHeights_iff hop hid).mp hon
      exact ⟨op.finalize time, Table.mem_modify_of hop ⟨hon, hops.trans hs⟩, hid, rfl⟩
    · obtain ⟨op, hop, hid, hops⟩ := h.event_state e' he
      refine ⟨op, Table.mem_modify_of_not hop ?_, hid, hops⟩
      rintro ⟨hon, hs⟩
      exact hnot ⟨(eventOnHeights_iff hop hid).mpr hon, hops ▸ hs⟩

theorem Consistent.finalize (h : Consistent source t) {row : SyncCursorRow}
    (hrow : t.syncCursor.find? source = some row) (hle : blockNumber ≤ lastProcessed source t) :
    Consistent source (finalizedTables source blockNumber time t) where
  toChained := h.toChained.finalize
  irreversible_iff c' hc' hcur := by
    obtain ⟨c, hc, rfl⟩ := mem_finalizedTables.mp hc'
    have hcur : c.Current source := by simpa using hcur
    have hiff := h.irreversible_iff c hc hcur
    rw [lastIrreversible_finalizedTables hrow, finalizedCheckpoint_state,
      finalizedCheckpoint_blockNumber, le_max_iff]
    split
    · rename_i hp; simp [hp.2.1]
    · rename_i hp
      rw [hiff, iff_self_or]
      intro hn
      cases hs : c.state with
      | included => exact absurd ⟨hcur.1, hn, hs⟩ hp
      | irreversible => exact hiff.mp hs
      | reverted => exact absurd hs hcur.2
  irreversible_le := by
    rw [lastIrreversible_finalizedTables hrow, lastProcessed_finalizedTables]
    exact max_le h.irreversible_le hle
  operation_state := (h.finalityAgrees.finalize hrow).operation_state
  event_state := (h.finalityAgrees.finalize hrow).event_state

theorem frozen_finalize : Frozen t (finalizedTables source blockNumber time t) where
  checkpoint c hc hs := by
    refine Table.mem_modify_of_not hc ?_
    rintro ⟨-, -, hinc⟩
    rw [hs] at hinc; cases hinc
  operation op hop hs := by
    refine Table.mem_modify_of_not hop ?_
    rintro ⟨-, hinc⟩
    rw [hs] at hinc; cases hinc
  event e he hs := by
    refine Table.mem_modify_of_not he ?_
    rintro ⟨-, hinc⟩
    rw [hs] at hinc; cases hinc

end Finalize

/-! ### The calls -/

section Calls

variable {R : Runtime} {db db' : Db}

theorem Consistent.applyBlock {block : HafBlock} {decisions : List OperationDecision}
    {ids : ℕ → Uuid} {observedAt : Timestamp} (h : Consistent source db.chain)
    (hok : applyBlock R source block decisions ids observedAt db = .ok db') :
    Consistent source db'.chain ∧ Frozen db.chain db'.chain := by
  obtain ⟨ha, -, -⟩ := applyBlock_spec hok
  exact ⟨h.apply ha, ha.frozen⟩

/-- A revert keeps the invariant when its ancestor is not above the cursor it finds. -/
theorem Consistent.revertAfter {ancestorBlock : ℕ} {time : Timestamp}
    (h : Consistent source db.chain) (hle : ancestorBlock ≤ lastProcessed source db.chain)
    (hok : revertAfter R source ancestorBlock time db = .ok db') :
    Consistent source db'.chain ∧ Frozen db.chain db'.chain := by
  obtain ⟨hguard, rfl⟩ := revertAfter_spec hok
  exact ⟨h.ensureCursor.revert ensureCursor_find? (by simpa using hguard) (by simpa using hle),
    frozen_ensureCursor.trans (h.ensureCursor.finalityAgrees.frozen_revert (by simpa using hguard))⟩

theorem Consistent.finalizeThrough {blockNumber : ℕ} {ids : ℕ → Uuid} {time : Timestamp}
    (h : Consistent source db.chain)
    (hok : finalizeThrough R source blockNumber ids time db = .ok db') :
    Consistent source db'.chain ∧ Frozen db.chain db'.chain := by
  obtain ⟨hle, hchain, -⟩ := finalizeThrough_spec hok
  rw [hchain]
  exact ⟨h.ensureCursor.finalize ensureCursor_find? (by simpa using hle),
    frozen_ensureCursor.trans frozen_finalize⟩

end Calls

end

end HiveChameleon.Projector
