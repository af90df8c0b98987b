import HiveChameleon.Projector.Materialize

/-!
# Projector.Store — `PostgresProjectionStore`

Every store call is one transaction: `BEGIN`, the statements in the order the source issues them,
the deferred triggers at `COMMIT`; a call that fails leaves the database as it was.  The clock and
the identifier provider are arguments (`nextUuidV7` number `k` of a call is `ids k`).
-/

namespace HiveChameleon.Projector

open Gateway Lib

/-- The chain tables inside a transaction, with the deferred triggers queued so far. -/
structure ChainTx where
  chain : ChainTables
  deferred : List DeferredTrigger

/-! ### Cursor and checkpoint reads -/

/-- The current checkpoint of a source at a height. -/
def currentCheckpointRow (t : ChainTables) (source : String) (blockNumber : ℕ) :
    Option BlockCheckpointRow :=
  t.blockCheckpoint.rows.find? fun c => c.Current source ∧ c.blockNumber = blockNumber

def initialCursor (source : String) : ProjectionCursor := ⟨source, 0, none, 0⟩

/-- The cursor row joined with the current checkpoint at its height. -/
def cursorFromRow (t : ChainTables) (row : SyncCursorRow) : ProjectionCursor where
  source := row.source
  lastProcessedBlock := row.lastProcessedBlock
  lastProcessedBlockId :=
    (currentCheckpointRow t row.source row.lastProcessedBlock).map (·.blockId)
  lastIrreversibleBlock := row.lastIrreversibleBlock

def getCursor (source : String) (db : Db) : ProjectionCursor :=
  match db.chain.syncCursor.find? source with
  | none => initialCursor source
  | some row => cursorFromRow db.chain row

def checkpointFromRow (row : BlockCheckpointRow) : BlockCheckpoint where
  number := row.blockNumber
  id := row.blockId
  previousId := row.previousBlockId.getD ""
  timestamp := row.blockTimestamp
  source := row.source
  state := row.state
  includedAt := row.observedAt
  irreversibleAt := row.irreversibleAt
  revertedAt := row.revertedAt

def getCurrentCheckpoint (source : String) (blockNumber : ℕ) (db : Db) : Option BlockCheckpoint :=
  (currentCheckpointRow db.chain source blockNumber).map checkpointFromRow

/-- `INSERT INTO sync_cursor … ON CONFLICT (source) DO NOTHING` -/
def ensureCursor (source : String) (t : ChainTables) : ChainTables :=
  match t.syncCursor.insert? ⟨source, 0, 0⟩ with
  | none => t
  | some table => { t with syncCursor := table }

def lockCursor (source : String) (t : ChainTables) :
    Except Failure (ChainTables × ProjectionCursor) :=
  let t := ensureCursor source t
  match t.syncCursor.find? source with
  | none => .error (.projector .cursorConflict "Projection cursor could not be locked")
  | some row => .ok (t, cursorFromRow t row)

/-- `UPDATE sync_cursor SET … WHERE source = …`, with the height checks of the table. -/
def updateCursor (source : String) (set : Table.Assignment SyncCursorRow.source)
    (t : ChainTables) : Except Failure ChainTables := do
  let table ← t.syncCursor.update (fun row => row.source = source) set fun _ new =>
    require (new.lastIrreversibleBlock ≤ new.lastProcessedBlock)
      (.constraint "chk_sync_cursor_irreversible_block")
  pure { t with syncCursor := table }

/-- `COMMIT`: the queued triggers run on the final tables. -/
def commit (game : GameTables) (t : ChainTables) (v : ViewTables)
    (deferred : List DeferredTrigger) : Except Failure Db := do
  checkAll (DeferredTrigger.check t v) deferred
  pure ⟨t, v, game⟩

/-! ### `applyBlock` -/

/-- `INSERT INTO block_checkpoint` -/
def insertCheckpoint (row : BlockCheckpointRow) (tx : ChainTx) : Except Failure ChainTx := do
  require (stateEvidence row.state row.irreversibleAt row.revertedAt)
    (.constraint "chk_block_checkpoint_state_evidence")
  require (∀ c ∈ tx.chain.blockCheckpoint.rows, ¬ (c.source = row.source ∧ c.blockId = row.blockId))
    (.constraint "uq_block_checkpoint_source_id")
  require (∀ c ∈ tx.chain.blockCheckpoint.rows,
      ¬ (c.Current row.source ∧ c.blockNumber = row.blockNumber))
    (.constraint "uq_block_checkpoint_current_height")
  let table ← tx.chain.blockCheckpoint.insert row (.constraint "block_checkpoint_pkey")
  pure { chain := { tx.chain with blockCheckpoint := table }
         deferred := tx.deferred ++ [.checkpointOperationState row.id] }

/-- The `CHECK` constraints of `hive_projection.operation`. -/
def operationChecks (row : OperationRow) : Except Failure Unit := do
  require (row.operationIndex < 2 ^ 31) (.raised "22003" "integer out of range")
  require (row.isVirtual ∨ row.transactionId ≠ none)
    (.constraint "chk_hive_operation_transaction_identity")
  require (row.primaryAccount.toList.map Char.toLower = row.primaryAccount.toList)
    (.constraint "chk_hive_operation_account_lower")
  require (stateEvidence row.state row.irreversibleAt row.revertedAt)
    (.constraint "chk_hive_operation_state_evidence")
  require (row.validationState = .pending ∧ row.validatedAt = none ∧ row.rejectionReason = none ∨
      row.validationState = .accepted ∧ row.validatedAt ≠ none ∧ row.rejectionReason = none ∨
      row.validationState = .rejected ∧ row.validatedAt ≠ none ∧ row.rejectionReason ≠ none)
    (.constraint "chk_hive_operation_validation_evidence")

def operationRow (id checkpointId : Uuid) (decision : OperationDecision) (observedAt : Timestamp) :
    OperationRow where
  id := id
  checkpointId := checkpointId
  sourceOperationId := decision.evidence.sourceOperationId
  transactionId := decision.evidence.transactionId
  operationIndex := decision.evidence.operationIndex
  isVirtual := decision.evidence.isVirtual
  blockNumber := decision.evidence.blockNumber
  blockId := decision.evidence.blockId
  blockTimestamp := decision.evidence.blockTimestamp
  operationType := decision.evidence.operationType
  primaryAccount := decision.evidence.primaryAccount
  requiredAuthority := decision.evidence.requiredAuthority
  applicationId := decision.evidence.applicationId
  payload := decision.evidence.payload
  state := .included
  observedAt := observedAt
  validationState := decision.validationState
  rejectionReason := decision.rejectionReason
  validatedAt := some observedAt
  irreversibleAt := none
  revertedAt := none

/-- `INSERT INTO operation`; the cast of the payload comes before the row trigger. -/
def insertOperation (row : OperationRow) (tx : ChainTx) : Except Failure ChainTx := do
  require (row.payload.isJsonb = true)
    (.raised "22P05" "unsupported Unicode escape sequence")
  hcValidateOperationInsert tx.chain row
  operationChecks row
  require (∀ op ∈ tx.chain.operation.rows,
      ¬ (op.state ≠ .reverted ∧ op.sourceOperationId = row.sourceOperationId))
    (.constraint "uq_hive_operation_current_source_id")
  require (∀ op ∈ tx.chain.operation.rows,
      ¬ (op.state ≠ .reverted ∧ row.transactionId ≠ none ∧ op.transactionId = row.transactionId ∧
        op.operationIndex = row.operationIndex))
    (.constraint "uq_hive_operation_current_tx_index")
  let table ← tx.chain.operation.insert row (.constraint "operation_pkey")
  pure { chain := { tx.chain with operation := table }
         deferred := tx.deferred ++
          [.checkpointOperationState row.checkpointId, .operationMatchEventState row.id] }

/-- The columns `matchEventFields` gives for a match event: batch id, period and result count. -/
def matchEventFields (event : HiveChameleonEvent) :
    Option Uuid × Option IsoTimestamp × Option IsoTimestamp × ℕ :=
  match event with
  | .matchResultsBatch e => (some e.batchId, some e.periodStart, some e.periodEnd, e.resultCount)
  | _ => (none, none, none, 1)

/-- A nullable `timestamptz` parameter. -/
def bindNullableTimestamptz (R : Runtime) (value : Option IsoTimestamp) :
    Except Failure (Option Timestamp) :=
  match value with
  | none => .ok none
  | some text => do
    let time ← bindTimestamptz R text
    pure (some time)

/-- The row of a match event included by an operation. -/
def matchEventRow (event : HiveChameleonEvent) (eventType : MatchEventType) (publisher : String)
    (operationId : Uuid) (periodStart periodEnd : Option Timestamp) (includedAt : Timestamp) :
    MatchEventRow where
  eventUuid := event.eventId
  batchUuid := (matchEventFields event).1
  operationId := operationId
  eventType := eventType
  schemaVersion := 1
  eventContractVersion := "match-event-1"
  publicationPeriodStart := periodStart
  publicationPeriodEnd := periodEnd
  publisherHiveAccount := publisher
  resultCount := (matchEventFields event).2.2.2
  operationState := .included
  validationState := .accepted
  rejectionReason := none
  includedAt := includedAt
  irreversibleAt := none
  revertedAt := none

/-- The `CHECK` constraints of `hive_projection.match_event`. -/
def matchEventChecks (row : MatchEventRow) : Except Failure Unit := do
  require (row.eventType = .matchResultsBatch ∧ row.batchUuid ≠ none ∧
        (∃ start, row.publicationPeriodStart = some start ∧
          ∃ stop, row.publicationPeriodEnd = some stop ∧ start ≤ stop) ∨
      row.eventType ≠ .matchResultsBatch ∧ row.batchUuid = none ∧
        row.publicationPeriodStart = none ∧ row.publicationPeriodEnd = none ∧ row.resultCount = 1)
    (.constraint "chk_match_event_shape")
  require (row.publisherHiveAccount.toList.map Char.toLower = row.publisherHiveAccount.toList)
    (.constraint "chk_match_event_publisher_lower")
  require (0 < row.resultCount) (.constraint "chk_match_event_result_count")
  require (stateEvidence row.operationState row.irreversibleAt row.revertedAt)
    (.constraint "chk_match_event_state_evidence")
  require (row.rejectionReason = none ∧
      (row.operationState = .reverted ∧ row.validationState = .reverted ∨
        row.operationState ≠ .reverted ∧ row.validationState = .accepted))
    (.constraint "chk_match_event_validation_state")

/-- `UPDATE match_event SET … WHERE …`: row trigger, checks, and the triggers it queues. -/
def updateMatchEvents (R : Runtime) (p : MatchEventRow → Prop) [DecidablePred p]
    (set : Table.Assignment MatchEventRow.eventUuid) (tx : ChainTx) : Except Failure ChainTx := do
  let table ← tx.chain.matchEvent.update p set fun old new => do
    hcValidateMatchEventUpdate R tx.chain old new
    matchEventChecks new
  pure { chain := { tx.chain with matchEvent := table }
         deferred := tx.deferred ++ (tx.chain.matchEvent.rows.filter fun e => p e).flatMap fun e =>
          [.operationMatchEventState (set e).operationId, .matchEventResultHeads e.eventUuid] }

/-- `SET` of the replay: the event is bound to a new operation as included. -/
def MatchEventRow.replay (operationId : Uuid) (includedAt : Timestamp) (e : MatchEventRow) :
    MatchEventRow :=
  { e with
    operationId := operationId
    operationState := .included
    validationState := .accepted
    rejectionReason := none
    includedAt := includedAt
    irreversibleAt := none
    revertedAt := none }

/-- The replay `UPDATE` of `upsertIncludedMatchEvent`. -/
def replayMatchEvent (R : Runtime) (eventUuid operationId : Uuid) (includedAt : Timestamp)
    (tx : ChainTx) : Except Failure ChainTx := do
  require (∀ e ∈ tx.chain.matchEvent.rows, e.eventUuid = eventUuid ∨ e.operationId ≠ operationId)
    (.constraint "match_event_operation_id_key")
  updateMatchEvents R (fun e => e.eventUuid = eventUuid ∧ e.operationState = .reverted)
    ⟨.replay operationId includedAt, fun _ => rfl⟩ tx

/-- Whether a row conflicts with a unique key of `match_event`. -/
def matchEventConflict (t : ChainTables) (row : MatchEventRow) : Prop :=
  t.matchEvent.rows.any (fun e => e.eventUuid = row.eventUuid ||
    (row.batchUuid ≠ none && e.batchUuid = row.batchUuid) ||
      e.operationId = row.operationId) = true

instance (t : ChainTables) (row : MatchEventRow) : Decidable (matchEventConflict t row) :=
  inferInstanceAs (Decidable (_ = true))

/-- `INSERT INTO match_event … ON CONFLICT DO NOTHING`: the row trigger and the checks come before
the conflict is looked for. -/
def insertMatchEvent (R : Runtime) (row : MatchEventRow) (tx : ChainTx) : Except Failure ChainTx := do
  hcValidateMatchEventInsert R tx.chain row
  matchEventChecks row
  if matchEventConflict tx.chain row then pure tx
  else do
    let table ← tx.chain.matchEvent.insert row (.constraint "match_event_pkey")
    pure { chain := { tx.chain with matchEvent := table }
           deferred := tx.deferred ++ [.operationMatchEventState row.operationId] }

def upsertIncludedMatchEvent (R : Runtime) (operationId : Uuid) (event : HiveChameleonEvent)
    (blockTimestamp : Timestamp) (tx : ChainTx) : Except Failure ChainTx :=
  match matchEventType event, eventPublisher event with
  | some eventType, some publisher =>
    if tx.chain.matchEvent.rows.any fun e =>
        e.eventUuid = event.eventId && e.operationState = .reverted then
      replayMatchEvent R event.eventId operationId blockTimestamp tx
    else do
      let periodStart ← bindNullableTimestamptz R (matchEventFields event).2.1
      let periodEnd ← bindNullableTimestamptz R (matchEventFields event).2.2.1
      insertMatchEvent R (matchEventRow event eventType publisher.name operationId periodStart
        periodEnd blockTimestamp) tx
  | _, _ => pure tx

/-- One iteration of the loop of `applyBlock`. -/
def storeDecision (R : Runtime) (checkpointId operationId : Uuid) (decision : OperationDecision)
    (observedAt : Timestamp) (tx : ChainTx) : Except Failure ChainTx := do
  let tx ← insertOperation (operationRow operationId checkpointId decision observedAt) tx
  match decision.event with
  | some event =>
    if decision.validationState = .accepted then
      upsertIncludedMatchEvent R operationId event decision.evidence.blockTimestamp tx
    else pure tx
  | none => pure tx

/-- The loop of `applyBlock`; `drawn` identifiers were drawn before. -/
def storeDecisions (R : Runtime) (ids : ℕ → Uuid) (checkpointId : Uuid) (observedAt : Timestamp) :
    ℕ → List OperationDecision → ChainTx → Except Failure ChainTx
  | _, [], tx => .ok tx
  | drawn, decision :: decisions, tx => do
    let tx ← storeDecision R checkpointId (ids drawn) decision observedAt tx
    storeDecisions R ids checkpointId observedAt (drawn + 1) decisions tx

def checkpointRow (id : Uuid) (source : String) (block : HafBlock) (observedAt : Timestamp) :
    BlockCheckpointRow where
  id := id
  source := source
  blockNumber := block.number
  blockId := block.id
  previousBlockId := some block.previousId
  blockTimestamp := block.timestamp
  state := .included
  observedAt := observedAt
  irreversibleAt := none
  revertedAt := none

def applyBlock (R : Runtime) (source : String) (block : HafBlock)
    (decisions : List OperationDecision) (ids : ℕ → Uuid) (observedAt : Timestamp) (db : Db) :
    Except Failure Db := do
  let (t, cursor) ← lockCursor source db.chain
  require (block.number = cursor.lastProcessedBlock + 1)
    (.projector .cursorConflict "Block does not immediately follow the cursor")
  require (cursor.lastProcessedBlockId = none ∨ cursor.lastProcessedBlockId = some block.previousId)
    (.projector .cursorConflict "Block parent does not match the cursor")
  let tx ← insertCheckpoint (checkpointRow (ids 0) source block observedAt) ⟨t, []⟩
  let tx ← storeDecisions R ids (ids 0) observedAt 1 decisions tx
  let t ← updateCursor source
    ⟨fun row => { row with lastProcessedBlock := block.number }, fun _ => rfl⟩ tx.chain
  commit db.game t db.views tx.deferred

/-! ### `revertAfter` and `finalizeThrough` -/

/-- `JOIN block_checkpoint … WHERE checkpoint.source = … AND <height condition>` -/
def onHeights (t : ChainTables) (source : String) (heights : ℕ → Bool) (op : OperationRow) : Prop :=
  ((t.blockCheckpoint.find? op.checkpointId).any fun c =>
    c.source = source && heights c.blockNumber) = true

instance (t : ChainTables) (source : String) (heights : ℕ → Bool) (op : OperationRow) :
    Decidable (onHeights t source heights op) := inferInstanceAs (Decidable (_ = true))

/-- The events bound to such an operation. -/
def eventOnHeights (t : ChainTables) (source : String) (heights : ℕ → Bool) (e : MatchEventRow) :
    Prop :=
  ((t.operation.find? e.operationId).any fun op => onHeights t source heights op) = true

instance (t : ChainTables) (source : String) (heights : ℕ → Bool) (e : MatchEventRow) :
    Decidable (eventOnHeights t source heights e) := inferInstanceAs (Decidable (_ = true))

/-- `UPDATE operation SET … WHERE …` -/
def updateOperations (p : OperationRow → Prop) [DecidablePred p]
    (set : Table.Assignment OperationRow.id) (tx : ChainTx) : Except Failure ChainTx := do
  let table ← tx.chain.operation.update p set fun old new => do
    hcValidateOperationUpdate old new
    operationChecks new
  pure { chain := { tx.chain with operation := table }
         deferred := tx.deferred ++ (tx.chain.operation.rows.filter fun op => p op).flatMap fun op =>
          [.checkpointOperationState op.checkpointId, .operationMatchEventState op.id] }

/-- `UPDATE block_checkpoint SET … WHERE …` -/
def updateCheckpoints (p : BlockCheckpointRow → Prop) [DecidablePred p]
    (set : Table.Assignment BlockCheckpointRow.id) (tx : ChainTx) : Except Failure ChainTx := do
  let table ← tx.chain.blockCheckpoint.update p set fun old new => do
    hcValidateCheckpointMutation old new
    require (stateEvidence new.state new.irreversibleAt new.revertedAt)
      (.constraint "chk_block_checkpoint_state_evidence")
  pure { chain := { tx.chain with blockCheckpoint := table }
         deferred := tx.deferred ++ (tx.chain.blockCheckpoint.rows.filter fun c => p c).map fun c =>
          .checkpointOperationState c.id }

def MatchEventRow.revert (time : Timestamp) (e : MatchEventRow) : MatchEventRow :=
  { e with
    operationState := .reverted, validationState := .reverted
    irreversibleAt := none, revertedAt := some time }

def MatchEventRow.finalize (time : Timestamp) (e : MatchEventRow) : MatchEventRow :=
  { e with
    operationState := .irreversible, validationState := .accepted
    irreversibleAt := some time, revertedAt := none }

def OperationRow.revert (time : Timestamp) (op : OperationRow) : OperationRow :=
  { op with state := .reverted, revertedAt := some time }

def OperationRow.finalize (time : Timestamp) (op : OperationRow) : OperationRow :=
  { op with state := .irreversible, irreversibleAt := some time }

def BlockCheckpointRow.revert (time : Timestamp) (c : BlockCheckpointRow) : BlockCheckpointRow :=
  { c with state := .reverted, revertedAt := some time }

def BlockCheckpointRow.finalize (time : Timestamp) (c : BlockCheckpointRow) : BlockCheckpointRow :=
  { c with state := .irreversible, irreversibleAt := some time }

def revertAfter (R : Runtime) (source : String) (ancestorBlock : ℕ) (revertedAt : Timestamp)
    (db : Db) : Except Failure Db := do
  let (t, cursor) ← lockCursor source db.chain
  require (cursor.lastIrreversibleBlock ≤ ancestorBlock)
    (.projector .irreversibleFork "Cannot revert an irreversible checkpoint")
  let tx ← updateMatchEvents R
    (fun e => eventOnHeights t source (ancestorBlock < ·) e ∧ e.operationState = .included)
    ⟨.revert revertedAt, fun _ => rfl⟩ ⟨t, []⟩
  let tx ← updateOperations
    (fun op => onHeights t source (ancestorBlock < ·) op ∧ op.state ≠ .reverted)
    ⟨.revert revertedAt, fun _ => rfl⟩ tx
  let tx ← updateCheckpoints
    (fun c => c.source = source ∧ ancestorBlock < c.blockNumber ∧ c.state ≠ .reverted)
    ⟨.revert revertedAt, fun _ => rfl⟩ tx
  let t ← updateCursor source
    ⟨fun row => { row with lastProcessedBlock := ancestorBlock }, fun _ => rfl⟩ tx.chain
  commit db.game t db.views tx.deferred

def finalizeThrough (R : Runtime) (source : String) (blockNumber : ℕ) (ids : ℕ → Uuid)
    (irreversibleAt : Timestamp) (db : Db) : Except Failure Db := do
  let (t, cursor) ← lockCursor source db.chain
  require (blockNumber ≤ cursor.lastProcessedBlock)
    (.projector .cursorConflict "Cannot finalize beyond the processed cursor")
  let tx ← updateMatchEvents R
    (fun e => eventOnHeights t source (· ≤ blockNumber) e ∧ e.operationState = .included)
    ⟨.finalize irreversibleAt, fun _ => rfl⟩ ⟨t, []⟩
  let tx ← updateOperations
    (fun op => onHeights t source (· ≤ blockNumber) op ∧ op.state = .included)
    ⟨.finalize irreversibleAt, fun _ => rfl⟩ tx
  let tx ← updateCheckpoints
    (fun c => c.source = source ∧ c.blockNumber ≤ blockNumber ∧ c.state = .included)
    ⟨.finalize irreversibleAt, fun _ => rfl⟩ tx
  let t ← updateCursor source
    ⟨fun row => { row with
      lastIrreversibleBlock := max row.lastIrreversibleBlock blockNumber }, fun _ => rfl⟩ tx.chain
  let vx ← materializeIrreversibleEvents R db.game t ids source blockNumber irreversibleAt
    ⟨db.views, tx.deferred, 0⟩
  commit db.game t vx.views vx.deferred

/-! ### The tables a call leaves -/

/-- The tables that `revertAfter` leaves. -/
def revertedTables (source : String) (ancestorBlock : ℕ) (time : Timestamp) (t : ChainTables) :
    ChainTables where
  blockCheckpoint := t.blockCheckpoint.modify
    (fun c => c.source = source ∧ ancestorBlock < c.blockNumber ∧ c.state ≠ .reverted)
    ⟨.revert time, fun _ => rfl⟩
  operation := t.operation.modify
    (fun op => onHeights t source (ancestorBlock < ·) op ∧ op.state ≠ .reverted)
    ⟨.revert time, fun _ => rfl⟩
  matchEvent := t.matchEvent.modify
    (fun e => eventOnHeights t source (ancestorBlock < ·) e ∧ e.operationState = .included)
    ⟨.revert time, fun _ => rfl⟩
  syncCursor := t.syncCursor.modify (·.source = source)
    ⟨fun row => { row with lastProcessedBlock := ancestorBlock }, fun _ => rfl⟩

/-- The tables that `finalizeThrough` leaves. -/
def finalizedTables (source : String) (blockNumber : ℕ) (time : Timestamp) (t : ChainTables) :
    ChainTables where
  blockCheckpoint := t.blockCheckpoint.modify
    (fun c => c.source = source ∧ c.blockNumber ≤ blockNumber ∧ c.state = .included)
    ⟨.finalize time, fun _ => rfl⟩
  operation := t.operation.modify
    (fun op => onHeights t source (· ≤ blockNumber) op ∧ op.state = .included)
    ⟨.finalize time, fun _ => rfl⟩
  matchEvent := t.matchEvent.modify
    (fun e => eventOnHeights t source (· ≤ blockNumber) e ∧ e.operationState = .included)
    ⟨.finalize time, fun _ => rfl⟩
  syncCursor := t.syncCursor.modify (·.source = source)
    ⟨fun row => { row with lastIrreversibleBlock := max row.lastIrreversibleBlock blockNumber },
      fun _ => rfl⟩

/-- The checkpoint that finalization leaves in the place of `c`. -/
def finalizedCheckpoint (source : String) (blockNumber : ℕ) (time : Timestamp)
    (c : BlockCheckpointRow) : BlockCheckpointRow :=
  Table.updated (fun c => c.source = source ∧ c.blockNumber ≤ blockNumber ∧ c.state = .included)
    (⟨.finalize time, fun _ => rfl⟩ : Table.Assignment BlockCheckpointRow.id) c

end HiveChameleon.Projector
