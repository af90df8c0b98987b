import HiveChameleon.Projector.Store

/-!
# Projector.StoreSpec — what a successful store call did

One specification per statement and per store call, read off the definitions once: the guards that
held and the tables that resulted.  Later modules use these and do not unfold the store.
-/

namespace HiveChameleon.Projector

open Gateway Lib

/-! ### The cursor -/

/-- `last_processed_block` of a source, zero before its first row. -/
def lastProcessed (source : String) (t : ChainTables) : ℕ :=
  ((t.syncCursor.find? source).map (·.lastProcessedBlock)).getD 0

/-- `last_irreversible_block` of a source, zero before its first row. -/
def lastIrreversible (source : String) (t : ChainTables) : ℕ :=
  ((t.syncCursor.find? source).map (·.lastIrreversibleBlock)).getD 0

section Cursor

variable {source : String} {t : ChainTables}

@[simp] theorem ensureCursor_blockCheckpoint :
    (ensureCursor source t).blockCheckpoint = t.blockCheckpoint := by
  unfold ensureCursor; split <;> rfl

@[simp] theorem ensureCursor_operation : (ensureCursor source t).operation = t.operation := by
  unfold ensureCursor; split <;> rfl

@[simp] theorem ensureCursor_matchEvent : (ensureCursor source t).matchEvent = t.matchEvent := by
  unfold ensureCursor; split <;> rfl

/-- The row that `lockCursor` leaves for the source. -/
theorem ensureCursor_find? :
    (ensureCursor source t).syncCursor.find? source =
      some ((t.syncCursor.find? source).getD ⟨source, 0, 0⟩) := by
  unfold ensureCursor
  cases hins : t.syncCursor.insert? ⟨source, 0, 0⟩ with
  | none =>
    obtain ⟨row, hmem, hkey⟩ := Table.insert?_eq_none.mp hins
    have hfind : t.syncCursor.find? source = some row := Table.find?_eq_some.mpr ⟨hmem, hkey⟩
    simp only [hfind, Option.getD_some]
  | some table =>
    obtain ⟨hall, hrows⟩ := Table.insert?_eq_some.mp hins
    have hfind : t.syncCursor.find? source = none := Table.find?_eq_none.mpr hall
    simp only [hfind, Option.getD_none]
    refine Table.find?_eq_some.mpr ⟨?_, rfl⟩
    rw [Table.mem_def, hrows]; simp

@[simp] theorem lastProcessed_ensureCursor :
    lastProcessed source (ensureCursor source t) = lastProcessed source t := by
  unfold lastProcessed; rw [ensureCursor_find?]
  cases t.syncCursor.find? source <;> rfl

@[simp] theorem lastIrreversible_ensureCursor :
    lastIrreversible source (ensureCursor source t) = lastIrreversible source t := by
  unfold lastIrreversible; rw [ensureCursor_find?]
  cases t.syncCursor.find? source <;> rfl

theorem currentCheckpointRow_congr {t' : ChainTables} (h : t'.blockCheckpoint = t.blockCheckpoint)
    (n : ℕ) : currentCheckpointRow t' source n = currentCheckpointRow t source n := by
  unfold currentCheckpointRow; rw [h]

theorem lockCursor_eq_ok {t' : ChainTables} {cursor : ProjectionCursor} :
    lockCursor source t = .ok (t', cursor) ↔
      t' = ensureCursor source t ∧
        cursor = ⟨source, lastProcessed source t,
          (currentCheckpointRow t source (lastProcessed source t)).map (·.blockId),
          lastIrreversible source t⟩ := by
  have hrow : (ensureCursor source t).syncCursor.find? source =
      some ((t.syncCursor.find? source).getD ⟨source, 0, 0⟩) := ensureCursor_find?
  have hsource : ((t.syncCursor.find? source).getD ⟨source, 0, 0⟩).source = source := by
    cases hfind : t.syncCursor.find? source with
    | none => rfl
    | some row => exact (Table.find?_eq_some.mp hfind).2
  have hlast : ((t.syncCursor.find? source).getD ⟨source, 0, 0⟩).lastProcessedBlock =
      lastProcessed source t := by
    unfold lastProcessed; cases t.syncCursor.find? source <;> rfl
  have hirr : ((t.syncCursor.find? source).getD ⟨source, 0, 0⟩).lastIrreversibleBlock =
      lastIrreversible source t := by
    unfold lastIrreversible; cases t.syncCursor.find? source <;> rfl
  simp only [lockCursor, hrow, Except.ok.injEq, Prod.mk.injEq, cursorFromRow, hsource, hlast, hirr,
    currentCheckpointRow_congr ensureCursor_blockCheckpoint, eq_comm (b := t'),
    eq_comm (b := cursor)]

/-- The effect of `UPDATE sync_cursor`, and the height check it passed. -/
theorem updateCursor_eq_ok {set : Table.Assignment SyncCursorRow.source} {t' : ChainTables} :
    updateCursor source set t = .ok t' ↔
      (∀ row, t.syncCursor.find? source = some row →
        (set row).lastIrreversibleBlock ≤ (set row).lastProcessedBlock) ∧
      t' = { t with syncCursor := t.syncCursor.modify (·.source = source) set } := by
  simp only [updateCursor, bind_eq_ok, Table.update_eq_ok, require_eq_ok, pure_eq_ok,
    Table.find?_eq_some]
  constructor
  · rintro ⟨table, ⟨hcheck, rfl⟩, rfl⟩
    refine ⟨fun row hrow => ?_, rfl⟩
    exact hcheck row hrow.1 hrow.2
  · rintro ⟨hcheck, rfl⟩
    exact ⟨_, ⟨fun row hmem hs => hcheck row ⟨hmem, hs⟩, rfl⟩, rfl⟩

theorem modifyCursor_find? {set : Table.Assignment SyncCursorRow.source} :
    (t.syncCursor.modify (·.source = source) set).find? source =
      (t.syncCursor.find? source).map set := by
  rw [Table.find?_modify]
  cases hfind : t.syncCursor.find? source with
  | none => rfl
  | some row =>
    have hs : row.source = source := (Table.find?_eq_some.mp hfind).2
    simp only [Option.map_some, Table.updated_of (p := fun r : SyncCursorRow => r.source = source) hs]

theorem commit_eq_ok {game : GameTables} {v : ViewTables} {deferred : List DeferredTrigger}
    {db : Db} :
    commit game t v deferred = .ok db ↔
      (∀ d ∈ deferred, d.check t v = .ok ()) ∧ db = ⟨t, v, game⟩ := by
  simp only [commit, bind_eq_ok, exists_unit, checkAll_eq_ok, pure_eq_ok, eq_comm (a := db)]

end Cursor

/-! ### Statements -/

section Statements

variable {R : Runtime} {tx tx' : ChainTx}

theorem updateMatchEvents_eq_ok {p : MatchEventRow → Prop} [DecidablePred p]
    {set : Table.Assignment MatchEventRow.eventUuid} :
    updateMatchEvents R p set tx = .ok tx' ↔
      (∀ e ∈ tx.chain.matchEvent, p e →
        hcValidateMatchEventUpdate R tx.chain e (set e) = .ok () ∧
          matchEventChecks (set e) = .ok ()) ∧
      tx' = ⟨{ tx.chain with matchEvent := tx.chain.matchEvent.modify p set },
        tx.deferred ++ (tx.chain.matchEvent.rows.filter fun e => p e).flatMap fun e =>
          [.operationMatchEventState (set e).operationId, .matchEventResultHeads e.eventUuid]⟩ := by
  simp only [updateMatchEvents, bind_eq_ok, exists_unit, Table.update_eq_ok, pure_eq_ok]
  constructor
  · rintro ⟨table, ⟨hcheck, rfl⟩, rfl⟩; exact ⟨hcheck, rfl⟩
  · rintro ⟨hcheck, rfl⟩; exact ⟨_, ⟨hcheck, rfl⟩, rfl⟩

theorem updateOperations_eq_ok {p : OperationRow → Prop} [DecidablePred p]
    {set : Table.Assignment OperationRow.id} :
    updateOperations p set tx = .ok tx' ↔
      (∀ op ∈ tx.chain.operation, p op →
        hcValidateOperationUpdate op (set op) = .ok () ∧ operationChecks (set op) = .ok ()) ∧
      tx' = ⟨{ tx.chain with operation := tx.chain.operation.modify p set },
        tx.deferred ++ (tx.chain.operation.rows.filter fun op => p op).flatMap fun op =>
          [.checkpointOperationState op.checkpointId, .operationMatchEventState op.id]⟩ := by
  simp only [updateOperations, bind_eq_ok, exists_unit, Table.update_eq_ok, pure_eq_ok]
  constructor
  · rintro ⟨table, ⟨hcheck, rfl⟩, rfl⟩; exact ⟨hcheck, rfl⟩
  · rintro ⟨hcheck, rfl⟩; exact ⟨_, ⟨hcheck, rfl⟩, rfl⟩

theorem updateCheckpoints_eq_ok {p : BlockCheckpointRow → Prop} [DecidablePred p]
    {set : Table.Assignment BlockCheckpointRow.id} :
    updateCheckpoints p set tx = .ok tx' ↔
      (∀ c ∈ tx.chain.blockCheckpoint, p c →
        hcValidateCheckpointMutation c (set c) = .ok () ∧
          stateEvidence (set c).state (set c).irreversibleAt (set c).revertedAt) ∧
      tx' = ⟨{ tx.chain with blockCheckpoint := tx.chain.blockCheckpoint.modify p set },
        tx.deferred ++ (tx.chain.blockCheckpoint.rows.filter fun c => p c).map fun c =>
          .checkpointOperationState c.id⟩ := by
  simp only [updateCheckpoints, bind_eq_ok, exists_unit, Table.update_eq_ok, pure_eq_ok,
    require_eq_ok]
  constructor
  · rintro ⟨table, ⟨hcheck, rfl⟩, rfl⟩; exact ⟨hcheck, rfl⟩
  · rintro ⟨hcheck, rfl⟩; exact ⟨_, ⟨hcheck, rfl⟩, rfl⟩

theorem insertCheckpoint_eq_ok {row : BlockCheckpointRow} (h : insertCheckpoint row tx = .ok tx') :
    (∀ c ∈ tx.chain.blockCheckpoint, ¬ (c.source = row.source ∧ c.blockId = row.blockId)) ∧
    (∀ c ∈ tx.chain.blockCheckpoint,
      ¬ (c.Current row.source ∧ c.blockNumber = row.blockNumber)) ∧
    (∀ c ∈ tx.chain.blockCheckpoint, c.id ≠ row.id) ∧
    ∃ table, tx'.chain = { tx.chain with blockCheckpoint := table } ∧
      table.rows = tx.chain.blockCheckpoint.rows ++ [row] := by
  simp only [insertCheckpoint, bind_eq_ok, exists_unit, require_eq_ok, pure_eq_ok,
    Table.insert_eq_ok] at h
  obtain ⟨-, hid, hheight, table, ⟨hkey, hrows⟩, rfl⟩ := h
  exact ⟨hid, hheight, hkey, table, rfl, hrows⟩

theorem insertOperation_eq_ok {row : OperationRow} (h : insertOperation row tx = .ok tx') :
    (∃ c, tx.chain.blockCheckpoint.find? row.checkpointId = some c ∧ c.state ≠ .reverted ∧
      c.blockNumber = row.blockNumber ∧ c.blockId = row.blockId ∧
      c.blockTimestamp = row.blockTimestamp) ∧
    (∀ op ∈ tx.chain.operation, op.id ≠ row.id) ∧
    ∃ table, tx'.chain = { tx.chain with operation := table } ∧
      table.rows = tx.chain.operation.rows ++ [row] := by
  simp only [insertOperation, bind_eq_ok, exists_unit, require_eq_ok, pure_eq_ok,
    Table.insert_eq_ok] at h
  obtain ⟨-, hev, -, -, -, table, ⟨hkey, hrows⟩, rfl⟩ := h
  refine ⟨?_, hkey, table, rfl, hrows⟩
  unfold hcValidateOperationInsert at hev
  split at hev
  · cases hev
  · rename_i c hc
    exact ⟨c, hc, by simpa using hev⟩

end Statements

/-! ### `applyBlock` -/

/-- The unique key of `match_event` on its operation. -/
def OperationKey (t : ChainTables) : Prop :=
  ∀ e ∈ t.matchEvent, ∀ e' ∈ t.matchEvent, e.operationId = e'.operationId → e = e'

/-- What storing the decisions of a block under the checkpoint `cp` does to the tables: operations
are appended as included, and an event that was not reverted stays as it is. -/
structure Stored (cp : Uuid) (t t' : ChainTables) : Prop where
  blockCheckpoint : t'.blockCheckpoint = t.blockCheckpoint
  syncCursor : t'.syncCursor = t.syncCursor
  operation : ∃ ops, t'.operation.rows = t.operation.rows ++ ops ∧
    ∀ op ∈ ops, op.checkpointId = cp ∧ op.state = .included
  event : ∀ e ∈ t'.matchEvent, e ∈ t.matchEvent ∨
    e.operationState = .included ∧
      ∃ op ∈ t'.operation, op.id = e.operationId ∧ op.checkpointId = cp ∧ op.state = .included
  kept : ∀ e ∈ t.matchEvent, e.operationState ≠ .reverted → e ∈ t'.matchEvent
  evidence : ∀ e ∈ t'.matchEvent,
    e ∈ t.matchEvent ∨ stateEvidence e.operationState e.irreversibleAt e.revertedAt
  operationKey : OperationKey t → OperationKey t'

namespace Stored

variable {cp : Uuid} {t t' t'' : ChainTables}

theorem refl (cp : Uuid) (t : ChainTables) : Stored cp t t where
  blockCheckpoint := rfl
  syncCursor := rfl
  operation := ⟨[], by simp, by simp⟩
  event := fun _ he => .inl he
  kept := fun _ he _ => he
  evidence := fun _ he => .inl he
  operationKey := id

theorem mem_operation (h : Stored cp t t') {op : OperationRow} (hop : op ∈ t.operation) :
    op ∈ t'.operation := by
  obtain ⟨ops, hrows, -⟩ := h.operation
  rw [Table.mem_def, hrows]
  exact List.mem_append_left _ hop

theorem trans (h : Stored cp t t') (h' : Stored cp t' t'') : Stored cp t t'' where
  blockCheckpoint := h'.blockCheckpoint.trans h.blockCheckpoint
  syncCursor := h'.syncCursor.trans h.syncCursor
  operation := by
    obtain ⟨ops, hrows, hops⟩ := h.operation
    obtain ⟨ops', hrows', hops'⟩ := h'.operation
    refine ⟨ops ++ ops', by rw [hrows', hrows, List.append_assoc], fun op hop => ?_⟩
    rcases List.mem_append.mp hop with hop | hop
    · exact hops op hop
    · exact hops' op hop
  event := fun e he => by
    rcases h'.event e he with he | he
    · rcases h.event e he with he | ⟨hstate, op, hop, hrest⟩
      · exact .inl he
      · exact .inr ⟨hstate, op, h'.mem_operation hop, hrest⟩
    · exact .inr he
  kept := fun e he hstate => h'.kept e (h.kept e he hstate) hstate
  evidence := fun e he => by
    rcases h'.evidence e he with he | he
    · exact h.evidence e he
    · exact .inr he
  operationKey := fun hkey => h'.operationKey (h.operationKey hkey)

end Stored

section Apply

variable {R : Runtime} {tx tx' : ChainTx}

theorem insertOperation_stored {row : OperationRow} (hstate : row.state = .included)
    (h : insertOperation row tx = .ok tx') :
    Stored row.checkpointId tx.chain tx'.chain ∧ row ∈ tx'.chain.operation := by
  obtain ⟨-, -, table, hchain, hrows⟩ := insertOperation_eq_ok h
  rw [hchain]
  refine ⟨⟨rfl, rfl, ⟨[row], hrows, by simp [hstate]⟩, fun e he => .inl he, fun e he _ => he,
    fun e he => .inl he, id⟩, ?_⟩
  change row ∈ table
  rw [Table.mem_def, hrows]; simp

theorem replayMatchEvent_stored {eventUuid operationId cp : Uuid} {includedAt : Timestamp}
    {op : OperationRow} (hop : op ∈ tx.chain.operation) (hid : op.id = operationId)
    (hcp : op.checkpointId = cp) (hstate : op.state = .included)
    (h : replayMatchEvent R eventUuid operationId includedAt tx = .ok tx') :
    Stored cp tx.chain tx'.chain := by
  simp only [replayMatchEvent, bind_eq_ok, exists_unit, require_eq_ok] at h
  obtain ⟨hfree, h⟩ := h
  obtain ⟨-, rfl⟩ := updateMatchEvents_eq_ok.mp h
  refine ⟨rfl, rfl, ⟨[], by simp, by simp⟩, fun e he => ?_, fun e he hne => ?_, fun e he => ?_,
    fun hkey e he e' he' heq => ?_⟩
  · rcases Table.mem_modify_cases he with ⟨old, -, -, rfl⟩ | ⟨hold, -⟩
    · exact .inr ⟨rfl, op, hop, hid, hcp, hstate⟩
    · exact .inl hold
  · refine Table.mem_modify_of_not he ?_
    exact fun hp => hne hp.2
  · rcases Table.mem_modify_cases he with ⟨old, -, -, rfl⟩ | ⟨hold, -⟩
    · exact .inr ⟨rfl, rfl⟩
    · exact .inl hold
  · -- the new operation was bound to no other event
    have hreplayed : ∀ a ∈ tx.chain.matchEvent, ∀ b ∈ tx.chain.matchEvent,
        a.eventUuid = eventUuid → b.operationId = operationId → a = b := fun a ha b hb hu ho =>
      Table.eq_of_key ha hb (hu.trans ((hfree b hb).resolve_right fun hn => hn ho).symm)
    rcases Table.mem_modify_cases he with ⟨a, ha, hpa, rfl⟩ | ⟨ha, hpa⟩ <;>
      rcases Table.mem_modify_cases he' with ⟨b, hb, hpb, rfl⟩ | ⟨hb, hpb⟩
    · rw [Table.eq_of_key ha hb (hpa.1.trans hpb.1.symm)]
    · exact absurd (hreplayed a ha e' hb hpa.1 heq.symm ▸ hpa) hpb
    · exact absurd (hreplayed b hb e ha hpb.1 heq ▸ hpb) hpa
    · exact hkey e ha e' hb heq

theorem stateEvidence_of_checks {e : MatchEventRow} (h : matchEventChecks e = .ok ()) :
    stateEvidence e.operationState e.irreversibleAt e.revertedAt := by
  simp only [matchEventChecks, bind_eq_ok, exists_unit, require_eq_ok] at h
  exact h.2.2.2.1

theorem insertMatchEvent_stored {row : MatchEventRow} {cp : Uuid} {op : OperationRow}
    (hop : op ∈ tx.chain.operation) (hid : op.id = row.operationId) (hcp : op.checkpointId = cp)
    (hstate : op.state = .included) (hrow : row.operationState = .included)
    (h : insertMatchEvent R row tx = .ok tx') : Stored cp tx.chain tx'.chain := by
  simp only [insertMatchEvent, bind_eq_ok, exists_unit] at h
  obtain ⟨-, hchecks, h⟩ := h
  split at h
  · obtain rfl := pure_eq_ok.mp h
    exact .refl _ _
  · rename_i hconflict
    simp only [bind_eq_ok, Table.insert_eq_ok, pure_eq_ok] at h
    obtain ⟨table, ⟨-, hrows⟩, rfl⟩ := h
    refine ⟨rfl, rfl, ⟨[], by simp, by simp⟩, fun e he => ?_, fun e he _ => ?_, fun e he => ?_,
      fun hkey e he e' he' heq => ?_⟩
    · change e ∈ table at he
      rw [Table.mem_def, hrows] at he
      rcases List.mem_append.mp he with he | he
      · exact .inl he
      · rw [List.mem_singleton.mp he]
        exact .inr ⟨hrow, op, hop, hid, hcp, hstate⟩
    · change e ∈ table
      rw [Table.mem_def, hrows]
      exact List.mem_append_left _ he
    · change e ∈ table at he
      rw [Table.mem_def, hrows] at he
      rcases List.mem_append.mp he with he | he
      · exact .inl he
      · rw [List.mem_singleton.mp he]
        exact .inr (stateEvidence_of_checks hchecks)
    · have hfree : ∀ e ∈ tx.chain.matchEvent, e.operationId ≠ row.operationId := fun e he ho =>
        hconflict (by simp only [matchEventConflict, List.any_eq_true]; exact ⟨e, he, by simp [ho]⟩)
      have hmem : ∀ e ∈ table, e ∈ tx.chain.matchEvent ∨ e = row := fun e he => by
        rw [Table.mem_def, hrows] at he
        exact (List.mem_append.mp he).imp id List.mem_singleton.mp
      rcases hmem e he with hin | hrow <;> rcases hmem e' he' with hin' | hrow'
      · exact hkey e hin e' hin' heq
      · exact absurd (hrow' ▸ heq) (hfree e hin)
      · exact absurd (hrow ▸ heq).symm (hfree e' hin')
      · rw [hrow, hrow']

theorem upsertIncludedMatchEvent_stored {operationId cp : Uuid} {event : HiveChameleonEvent}
    {time : Timestamp} {op : OperationRow} (hop : op ∈ tx.chain.operation)
    (hid : op.id = operationId) (hcp : op.checkpointId = cp) (hstate : op.state = .included)
    (h : upsertIncludedMatchEvent R operationId event time tx = .ok tx') :
    Stored cp tx.chain tx'.chain := by
  unfold upsertIncludedMatchEvent at h
  split at h
  · split at h
    · exact replayMatchEvent_stored hop hid hcp hstate h
    · simp only [bind_eq_ok] at h
      obtain ⟨start, -, stop, -, h⟩ := h
      exact insertMatchEvent_stored hop hid hcp hstate rfl h
  · obtain rfl := pure_eq_ok.mp h
    exact .refl _ _

theorem storeDecision_stored {cp operationId : Uuid} {decision : OperationDecision}
    {observedAt : Timestamp} (h : storeDecision R cp operationId decision observedAt tx = .ok tx') :
    Stored cp tx.chain tx'.chain := by
  simp only [storeDecision, bind_eq_ok] at h
  obtain ⟨mid, hins, h⟩ := h
  obtain ⟨hstored, hmem⟩ := insertOperation_stored rfl hins
  split at h
  · split at h
    · exact hstored.trans (upsertIncludedMatchEvent_stored hmem rfl rfl rfl h)
    · obtain rfl := pure_eq_ok.mp h; exact hstored
  · obtain rfl := pure_eq_ok.mp h; exact hstored

theorem storeDecisions_stored {ids : ℕ → Uuid} {cp : Uuid} {observedAt : Timestamp} :
    ∀ {decisions : List OperationDecision} {drawn : ℕ} {tx tx' : ChainTx},
      storeDecisions R ids cp observedAt drawn decisions tx = .ok tx' →
        Stored cp tx.chain tx'.chain
  | [], _, tx, tx', h => by
    obtain rfl : tx = tx' := by simpa [storeDecisions] using h
    exact .refl _ _
  | decision :: decisions, drawn, tx, tx', h => by
    simp only [storeDecisions, bind_eq_ok] at h
    obtain ⟨mid, hmid, h⟩ := h
    exact (storeDecision_stored hmid).trans (storeDecisions_stored h)

/-! #### The operations that a block adds -/

theorem insertMatchEvent_operation {row : MatchEventRow} (h : insertMatchEvent R row tx = .ok tx') :
    tx'.chain.operation = tx.chain.operation := by
  simp only [insertMatchEvent, bind_eq_ok, exists_unit] at h
  obtain ⟨-, -, h⟩ := h
  split at h
  · obtain rfl := pure_eq_ok.mp h
    rfl
  · simp only [bind_eq_ok, pure_eq_ok] at h
    obtain ⟨table, -, rfl⟩ := h
    rfl

theorem upsertIncludedMatchEvent_operation {operationId : Uuid} {event : HiveChameleonEvent}
    {time : Timestamp} (h : upsertIncludedMatchEvent R operationId event time tx = .ok tx') :
    tx'.chain.operation = tx.chain.operation := by
  unfold upsertIncludedMatchEvent at h
  split at h
  · split at h
    · simp only [replayMatchEvent, bind_eq_ok, exists_unit] at h
      obtain ⟨-, rfl⟩ := updateMatchEvents_eq_ok.mp h.2
      rfl
    · simp only [bind_eq_ok] at h
      obtain ⟨start, -, stop, -, h⟩ := h
      exact insertMatchEvent_operation h
  · obtain rfl := pure_eq_ok.mp h
    rfl

theorem storeDecision_operation {cp operationId : Uuid} {decision : OperationDecision}
    {observedAt : Timestamp} (h : storeDecision R cp operationId decision observedAt tx = .ok tx') :
    tx'.chain.operation.rows =
      tx.chain.operation.rows ++ [operationRow operationId cp decision observedAt] := by
  simp only [storeDecision, bind_eq_ok] at h
  obtain ⟨mid, hins, h⟩ := h
  obtain ⟨-, -, table, hchain, hrows⟩ := insertOperation_eq_ok hins
  have hmid : mid.chain.operation.rows =
      tx.chain.operation.rows ++ [operationRow operationId cp decision observedAt] := by
    rw [hchain]
    exact hrows
  split at h
  · split at h
    · rw [upsertIncludedMatchEvent_operation h]
      exact hmid
    · obtain rfl := pure_eq_ok.mp h
      exact hmid
  · obtain rfl := pure_eq_ok.mp h
    exact hmid

/-- An operation of the tables that a block leaves was there, or is the row of a decision. -/
theorem storeDecisions_operation {ids : ℕ → Uuid} {cp : Uuid} {observedAt : Timestamp} :
    ∀ {decisions : List OperationDecision} {drawn : ℕ} {tx tx' : ChainTx},
      storeDecisions R ids cp observedAt drawn decisions tx = .ok tx' →
        ∀ op ∈ tx'.chain.operation, op ∈ tx.chain.operation ∨
          ∃ decision ∈ decisions, ∃ id, op = operationRow id cp decision observedAt
  | [], _, tx, tx', h, op, hop => by
    obtain rfl : tx = tx' := by simpa [storeDecisions] using h
    exact .inl hop
  | decision :: decisions, drawn, tx, tx', h, op, hop => by
    simp only [storeDecisions, bind_eq_ok] at h
    obtain ⟨mid, hmid, h⟩ := h
    rcases storeDecisions_operation h op hop with hop | ⟨later, hlater, hrow⟩
    · rw [Table.mem_def, storeDecision_operation hmid] at hop
      rcases List.mem_append.mp hop with hop | hop
      · exact .inl hop
      · exact .inr ⟨decision, List.mem_cons_self, _, List.mem_singleton.mp hop⟩
    · exact .inr ⟨later, List.mem_cons_of_mem decision hlater, hrow⟩

/-- An operation is stored under a checkpoint of its own height. -/
theorem storeDecision_number {cp operationId : Uuid} {decision : OperationDecision}
    {observedAt : Timestamp} {c : BlockCheckpointRow} (hc : tx.chain.blockCheckpoint.find? cp = some c)
    (h : storeDecision R cp operationId decision observedAt tx = .ok tx') :
    decision.evidence.blockNumber = c.blockNumber := by
  simp only [storeDecision, bind_eq_ok] at h
  obtain ⟨mid, hins, -⟩ := h
  obtain ⟨⟨found, hfound, -, hnumber, -⟩, -⟩ := insertOperation_eq_ok hins
  have hsame : c = found := Option.some.inj (hc.symm.trans hfound)
  rw [hsame]
  exact hnumber.symm

/-- **The rows that a block adds**: one for each decision, in order, at the height of the block. -/
theorem storeDecisions_rows {ids : ℕ → Uuid} {cp : Uuid} {observedAt : Timestamp}
    {c : BlockCheckpointRow} :
    ∀ {decisions : List OperationDecision} {drawn : ℕ} {tx tx' : ChainTx},
      tx.chain.blockCheckpoint.find? cp = some c →
      storeDecisions R ids cp observedAt drawn decisions tx = .ok tx' →
        ∃ rows, tx'.chain.operation.rows = tx.chain.operation.rows ++ rows ∧
          List.Forall₂ (fun decision row => decision.evidence.blockNumber = c.blockNumber ∧
            ∃ id, row = operationRow id cp decision observedAt) decisions rows
  | [], _, tx, tx', _, h => by
    obtain rfl : tx = tx' := by simpa [storeDecisions] using h
    exact ⟨[], (List.append_nil _).symm, .nil⟩
  | decision :: decisions, drawn, tx, tx', hc, h => by
    simp only [storeDecisions, bind_eq_ok] at h
    obtain ⟨mid, hmid, h⟩ := h
    have hkept : mid.chain.blockCheckpoint.find? cp = some c := by
      rw [(storeDecision_stored hmid).blockCheckpoint]
      exact hc
    obtain ⟨rows, hrows, hdecisions⟩ := storeDecisions_rows hkept h
    refine ⟨operationRow (ids drawn) cp decision observedAt :: rows, ?_,
      .cons ⟨storeDecision_number hc hmid, _, rfl⟩ hdecisions⟩
    rw [hrows, storeDecision_operation hmid, List.append_assoc]
    rfl

end Apply

/-! ### The store calls -/

section Calls

variable {R : Runtime} {source : String} {db db' : Db}

/-- What a successful `applyBlock` checked and did. -/
structure Applied (source : String) (block : HafBlock) (id : Uuid) (observedAt : Timestamp)
    (t t' : ChainTables) : Prop where
  number : block.number = lastProcessed source t + 1
  parent : ∀ c, currentCheckpointRow t source (lastProcessed source t) = some c →
    c.blockId = block.previousId
  fresh_block : ∀ c ∈ t.blockCheckpoint, ¬ (c.source = source ∧ c.blockId = block.id)
  fresh_height : ∀ c ∈ t.blockCheckpoint, ¬ (c.Current source ∧ c.blockNumber = block.number)
  fresh_id : ∀ c ∈ t.blockCheckpoint, c.id ≠ id
  checkpoint : t'.blockCheckpoint.rows =
    t.blockCheckpoint.rows ++ [checkpointRow id source block observedAt]
  stored : ∃ mid : ChainTables, mid.blockCheckpoint = t'.blockCheckpoint ∧
    mid.operation = t.operation ∧ mid.matchEvent = t.matchEvent ∧
    mid.syncCursor = t'.syncCursor ∧ Stored id mid t'
  processed : lastProcessed source t' = block.number
  irreversible : lastIrreversible source t' = lastIrreversible source t

theorem lastProcessed_of_find {t : ChainTables} {row : SyncCursorRow}
    (h : t.syncCursor.find? source = some row) : lastProcessed source t = row.lastProcessedBlock := by
  simp [lastProcessed, h]

theorem lastIrreversible_of_find {t : ChainTables} {row : SyncCursorRow}
    (h : t.syncCursor.find? source = some row) :
    lastIrreversible source t = row.lastIrreversibleBlock := by
  simp [lastIrreversible, h]

theorem applyBlock_spec {block : HafBlock} {decisions : List OperationDecision} {ids : ℕ → Uuid}
    {observedAt : Timestamp} (h : applyBlock R source block decisions ids observedAt db = .ok db') :
    Applied source block (ids 0) observedAt db.chain db'.chain ∧ db'.views = db.views ∧
      db'.game = db.game := by
  simp only [applyBlock, bind_eq_ok, exists_unit, require_eq_ok, Prod.exists, lockCursor_eq_ok] at h
  obtain ⟨t, cursor, ⟨rfl, rfl⟩, hnumber, hparent, tx, hcheckpoint, tx', hstore, t', hcursor,
    hcommit⟩ := h
  obtain ⟨hblock, hheight, hid, table, hchain, hrows⟩ := insertCheckpoint_eq_ok hcheckpoint
  have hstored := storeDecisions_stored hstore
  obtain ⟨-, rfl⟩ := updateCursor_eq_ok.mp hcursor
  obtain ⟨-, rfl⟩ := commit_eq_ok.mp hcommit
  simp only [ensureCursor_blockCheckpoint] at hblock hheight hid hrows
  have hbc : tx'.chain.blockCheckpoint = table := by rw [hstored.blockCheckpoint, hchain]
  have hsc : tx'.chain.syncCursor = (ensureCursor source db.chain).syncCursor := by
    rw [hstored.syncCursor, hchain]
  have hfind : tx'.chain.syncCursor.find? source =
      some ((db.chain.syncCursor.find? source).getD ⟨source, 0, 0⟩) := by
    rw [hsc, ensureCursor_find?]
  refine ⟨⟨hnumber, fun c hc => ?_, hblock, hheight, hid, by rw [← hrows, hbc],
    ⟨{ tx.chain with syncCursor := _ }, ?_, ?_, ?_, rfl,
      { blockCheckpoint := hstored.blockCheckpoint, syncCursor := rfl
        operation := hstored.operation, event := hstored.event, kept := hstored.kept
        evidence := hstored.evidence, operationKey := hstored.operationKey }⟩, ?_, ?_⟩,
    rfl, rfl⟩
  · rw [hc] at hparent; simpa using hparent
  · rw [hchain, hbc]
  · rw [hchain]; simp
  · rw [hchain]; simp
  · rw [lastProcessed, modifyCursor_find?, hfind]; rfl
  · rw [lastIrreversible, modifyCursor_find?, hfind]
    unfold lastIrreversible
    cases db.chain.syncCursor.find? source <;> rfl

/-- An operation after `applyBlock` was there, or is the row of a decision under the new
checkpoint. -/
theorem applyBlock_operation {block : HafBlock} {decisions : List OperationDecision} {ids : ℕ → Uuid}
    {observedAt : Timestamp} (h : applyBlock R source block decisions ids observedAt db = .ok db') :
    ∀ op ∈ db'.chain.operation, op ∈ db.chain.operation ∨
      ∃ decision ∈ decisions, ∃ id, op = operationRow id (ids 0) decision observedAt := by
  intro op hop
  simp only [applyBlock, bind_eq_ok, exists_unit, require_eq_ok, Prod.exists, lockCursor_eq_ok] at h
  obtain ⟨t, cursor, ⟨rfl, rfl⟩, -, -, tx, hcheckpoint, tx', hstore, t', hcursor, hcommit⟩ := h
  obtain ⟨-, -, -, table, hchain, -⟩ := insertCheckpoint_eq_ok hcheckpoint
  obtain ⟨-, rfl⟩ := updateCursor_eq_ok.mp hcursor
  obtain ⟨-, rfl⟩ := commit_eq_ok.mp hcommit
  have hstart : tx.chain.operation = db.chain.operation := by rw [hchain]; simp
  rcases storeDecisions_operation hstore op hop with hop | hrow
  · rw [hstart] at hop
    exact .inl hop
  · exact .inr hrow

/-- The operations after `applyBlock`: the old rows, and one for each decision. -/
theorem applyBlock_rows {block : HafBlock} {decisions : List OperationDecision} {ids : ℕ → Uuid}
    {observedAt : Timestamp} (h : applyBlock R source block decisions ids observedAt db = .ok db') :
    ∃ rows, db'.chain.operation.rows = db.chain.operation.rows ++ rows ∧
      List.Forall₂ (fun decision row => decision.evidence.blockNumber = block.number ∧
        ∃ id, row = operationRow id (ids 0) decision observedAt) decisions rows := by
  simp only [applyBlock, bind_eq_ok, exists_unit, require_eq_ok, Prod.exists, lockCursor_eq_ok] at h
  obtain ⟨t, cursor, ⟨rfl, rfl⟩, -, -, tx, hcheckpoint, tx', hstore, t', hcursor, hcommit⟩ := h
  obtain ⟨-, -, -, table, hchain, hrows⟩ := insertCheckpoint_eq_ok hcheckpoint
  obtain ⟨-, rfl⟩ := updateCursor_eq_ok.mp hcursor
  obtain ⟨-, rfl⟩ := commit_eq_ok.mp hcommit
  have hstart : tx.chain.operation = db.chain.operation := by rw [hchain]; simp
  have hfind : tx.chain.blockCheckpoint.find? (ids 0) =
      some (checkpointRow (ids 0) source block observedAt) := by
    refine Table.find?_eq_some.mpr ⟨?_, rfl⟩
    rw [hchain]
    show _ ∈ table.rows
    rw [hrows]
    exact List.mem_append_right _ (List.mem_singleton_self _)
  have hadded := storeDecisions_rows hfind hstore
  rw [hstart] at hadded
  exact hadded

theorem revertAfter_spec {ancestorBlock : ℕ} {time : Timestamp}
    (h : revertAfter R source ancestorBlock time db = .ok db') :
    lastIrreversible source db.chain ≤ ancestorBlock ∧
      db' = ⟨revertedTables source ancestorBlock time (ensureCursor source db.chain), db.views,
        db.game⟩ := by
  simp only [revertAfter, bind_eq_ok, exists_unit, require_eq_ok, Prod.exists, lockCursor_eq_ok] at h
  obtain ⟨t, cursor, ⟨rfl, rfl⟩, hguard, tx₁, h₁, tx₂, h₂, tx₃, h₃, t', hcursor, hcommit⟩ := h
  obtain ⟨-, rfl⟩ := updateMatchEvents_eq_ok.mp h₁
  obtain ⟨-, rfl⟩ := updateOperations_eq_ok.mp h₂
  obtain ⟨-, rfl⟩ := updateCheckpoints_eq_ok.mp h₃
  obtain ⟨-, rfl⟩ := updateCursor_eq_ok.mp hcursor
  obtain ⟨-, rfl⟩ := commit_eq_ok.mp hcommit
  exact ⟨hguard, rfl⟩

theorem finalizeThrough_spec {blockNumber : ℕ} {ids : ℕ → Uuid} {time : Timestamp}
    (h : finalizeThrough R source blockNumber ids time db = .ok db') :
    blockNumber ≤ lastProcessed source db.chain ∧
      db'.chain = finalizedTables source blockNumber time (ensureCursor source db.chain) ∧
      db'.game = db.game := by
  simp only [finalizeThrough, bind_eq_ok, exists_unit, require_eq_ok, Prod.exists,
    lockCursor_eq_ok] at h
  obtain ⟨t, cursor, ⟨rfl, rfl⟩, hguard, tx₁, h₁, tx₂, h₂, tx₃, h₃, t', hcursor, vx, -, hcommit⟩ := h
  obtain ⟨-, rfl⟩ := updateMatchEvents_eq_ok.mp h₁
  obtain ⟨-, rfl⟩ := updateOperations_eq_ok.mp h₂
  obtain ⟨-, rfl⟩ := updateCheckpoints_eq_ok.mp h₃
  obtain ⟨-, rfl⟩ := updateCursor_eq_ok.mp hcursor
  obtain ⟨-, rfl⟩ := commit_eq_ok.mp hcommit
  exact ⟨hguard, rfl, rfl⟩

end Calls

end HiveChameleon.Projector
