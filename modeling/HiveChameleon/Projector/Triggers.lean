import HiveChameleon.Projector.Tables

/-!
# Projector.Triggers — the row triggers and deferred constraint triggers of `hive_projection`

The functions of `20260716000300_domain_integrity.sql` that fire on the projector's statements,
each under its SQL name.  A `BEFORE` trigger sees the old row, the new row and the tables the
statement started from; a deferred one is queued with the row it fired for and runs at commit.
-/

namespace HiveChameleon.Projector

open Gateway Lib

/-- The finality transitions the checkpoint and operation triggers allow. -/
def finalityStep (old new : OperationState) : Prop :=
  old = new ∨ old = .included ∧ (new = .irreversible ∨ new = .reverted)

instance (old new : OperationState) : Decidable (finalityStep old new) :=
  inferInstanceAs (Decidable (_ ∨ _))

def hcValidateCheckpointMutation (old new : BlockCheckpointRow) : Except Failure Unit := do
  require (new.id = old.id ∧ new.source = old.source ∧ new.blockNumber = old.blockNumber ∧
      new.blockId = old.blockId ∧ new.previousBlockId = old.previousBlockId ∧
      new.blockTimestamp = old.blockTimestamp ∧ new.observedAt = old.observedAt)
    (.raised "55000" "block checkpoint evidence is immutable")
  require (old.state = .irreversible → new.state = .irreversible)
    (.raised "55000" "irreversible block cannot be reverted")
  require (old.state = .reverted → new.state = .reverted)
    (.raised "55000" "reverted checkpoint must remain historical")
  require (finalityStep old.state new.state)
    (.raised "55000" "invalid block checkpoint state transition")
  require (old.state = new.state →
      new.irreversibleAt = old.irreversibleAt ∧ new.revertedAt = old.revertedAt)
    (.raised "55000" "block finality evidence is immutable")

/-- The `INSERT` branch of `hc_validate_operation_evidence`. -/
def hcValidateOperationInsert (t : ChainTables) (new : OperationRow) : Except Failure Unit :=
  match t.blockCheckpoint.find? new.checkpointId with
  | none => .error (.raised "23514" "operation must match its current block checkpoint")
  | some c =>
    require (c.state ≠ .reverted ∧ c.blockNumber = new.blockNumber ∧ c.blockId = new.blockId ∧
        c.blockTimestamp = new.blockTimestamp)
      (.raised "23514" "operation must match its current block checkpoint")

/-- The `UPDATE` branch of `hc_validate_operation_evidence`. -/
def hcValidateOperationUpdate (old new : OperationRow) : Except Failure Unit := do
  require (new.id = old.id ∧ new.checkpointId = old.checkpointId ∧
      new.sourceOperationId = old.sourceOperationId ∧ new.transactionId = old.transactionId ∧
      new.operationIndex = old.operationIndex ∧ new.isVirtual = old.isVirtual ∧
      new.blockNumber = old.blockNumber ∧ new.blockId = old.blockId ∧
      new.blockTimestamp = old.blockTimestamp ∧ new.operationType = old.operationType ∧
      new.primaryAccount = old.primaryAccount ∧ new.requiredAuthority = old.requiredAuthority ∧
      new.applicationId = old.applicationId ∧ new.payload = old.payload ∧
      new.observedAt = old.observedAt)
    (.raised "55000" "raw Hive operation evidence is immutable")
  require (old.state = .irreversible → new.state = .irreversible)
    (.raised "55000" "irreversible operation cannot be reverted")
  require (old.state = .reverted → new.state = .reverted)
    (.raised "55000" "reverted operation must remain historical")
  require (finalityStep old.state new.state)
    (.raised "55000" "invalid operation finality transition")
  require (old.state = new.state →
      new.irreversibleAt = old.irreversibleAt ∧ new.revertedAt = old.revertedAt)
    (.raised "55000" "operation finality evidence is immutable")
  require (old.validationState = new.validationState ∨
      old.validationState = .pending ∧
        (new.validationState = .accepted ∨ new.validationState = .rejected))
    (.raised "55000" "operation validation decision is immutable")
  require (old.validationState = new.validationState →
      new.validatedAt = old.validatedAt ∧ new.rejectionReason = old.rejectionReason)
    (.raised "55000" "operation validation evidence is immutable")

/-! ### `hc_validate_match_event` -/

/-- `payload ->> 'json'` -/
def OperationValue.json : OperationValue → Option String
  | .customJson _ _ _ (.text json) => some json
  | _ => none

/-- `event_payload ->> 'type'`, for the match events. -/
def matchEventType : HiveChameleonEvent → Option MatchEventType
  | .matchResultsBatch _ => some .matchResultsBatch
  | .matchResultCorrected _ => some .matchResultCorrected
  | .matchResultInvalidated _ => some .matchResultInvalidated
  | .collectibleIssued _ => none
  | .collectibleRevoked _ => none

/-- `event_data ->> 'publisher'` -/
def eventPublisher : HiveChameleonEvent → Option HiveAccount
  | .matchResultsBatch e => some e.publisher
  | .matchResultCorrected e => some e.publisher
  | .matchResultInvalidated e => some e.publisher
  | .collectibleIssued _ => none
  | .collectibleRevoked _ => none

/-- The batch columns that the payload of a batch event must agree with. -/
def batchColumnsAgree (R : Runtime) (event : HiveChameleonEvent) (new : MatchEventRow) : Prop :=
  match event with
  | .matchResultsBatch e =>
    new.batchUuid = some e.batchId ∧
      R.timestamptz e.periodStart ≠ none ∧ R.timestamptz e.periodEnd ≠ none ∧
      R.timestamptz e.periodStart = new.publicationPeriodStart ∧
      R.timestamptz e.periodEnd = new.publicationPeriodEnd ∧
      e.resultCount = new.resultCount ∧ e.results.length = new.resultCount
  | _ => False

instance (R : Runtime) (event : HiveChameleonEvent) (new : MatchEventRow) :
    Decidable (batchColumnsAgree R event new) := by
  unfold batchColumnsAgree; cases event <;> infer_instance

/-- The columns of a match event agree with the accepted `custom_json` payload. -/
def payloadAgrees (R : Runtime) (payload : OperationValue) (event : HiveChameleonEvent)
    (new : MatchEventRow) : Prop :=
  match payload with
  | .customJson auths postingAuths id _ =>
    auths = [] ∧ postingAuths.map (·.name) = [new.publisherHiveAccount] ∧
      id = hiveChameleonApplicationId ∧ new.schemaVersion = 1 ∧
      event.eventId = new.eventUuid ∧ matchEventType event = some new.eventType ∧
      (eventPublisher event).map (·.name) = some new.publisherHiveAccount ∧
      (new.eventType = .matchResultsBatch → batchColumnsAgree R event new)
  | .other _ => False

instance (R : Runtime) (payload : OperationValue) (event : HiveChameleonEvent)
    (new : MatchEventRow) : Decidable (payloadAgrees R payload event new) := by
  unfold payloadAgrees; cases payload <;> infer_instance

/-- A fork replay: a reverted event is bound to another operation as included. -/
def isReplay (old new : MatchEventRow) : Prop :=
  old.operationState = .reverted ∧ new.operationState = .included ∧
    new.validationState = .accepted ∧ new.operationId ≠ old.operationId

instance (old new : MatchEventRow) : Decidable (isReplay old new) :=
  inferInstanceAs (Decidable (_ ∧ _))

/-- The operation bound before is reverted, and `op` carries the identical logical event. -/
def replayEvidence (t : ChainTables) (op : OperationRow) (old : MatchEventRow) : Prop :=
  ((t.operation.find? old.operationId).any fun oldOp =>
    oldOp.state = .reverted && op.state = .included && op.payload.json = oldOp.payload.json) = true

instance (t : ChainTables) (op : OperationRow) (old : MatchEventRow) :
    Decidable (replayEvidence t op old) := inferInstanceAs (Decidable (_ = true))

/-- The part of `hc_validate_match_event` that runs on inserts and updates alike: the operation
behind the event and the payload it carries. -/
def matchEventEvidence (R : Runtime) (t : ChainTables) (new : MatchEventRow) :
    Except Failure OperationRow :=
  let mismatch : Failure := .raised "23514"
    "match event requires an accepted posting-authority hive.chameleon operation from the same publisher"
  match t.operation.find? new.operationId with
  | none => .error mismatch
  | some op => do
    require ((op.operationType = "custom_json" ∨ op.operationType = "custom_json_operation") ∧
        op.requiredAuthority = some .posting ∧
        op.applicationId = some hiveChameleonApplicationId ∧
        op.primaryAccount = new.publisherHiveAccount ∧ op.validationState = .accepted ∧
        op.blockTimestamp = new.includedAt) mismatch
    match op.payload.json.bind R.jsonb with
    | none =>
      .error (.raised "23514" "accepted match operation must contain a JSON event string")
    | some event =>
      require (payloadAgrees R op.payload event new)
        (.raised "23514" "match event columns must agree with the accepted custom_json payload")
      pure op

/-- The `UPDATE` part of `hc_validate_match_event`; `op` is the operation of the new row. -/
def matchEventTransition (t : ChainTables) (op : OperationRow) (old new : MatchEventRow) :
    Except Failure Unit := do
  require (isReplay old new → replayEvidence t op old)
    (.raised "23514"
      "fork replay requires the identical logical event on a new accepted included operation")
  require (new.eventUuid = old.eventUuid ∧ new.batchUuid = old.batchUuid ∧
      new.eventType = old.eventType ∧ new.schemaVersion = old.schemaVersion ∧
      new.eventContractVersion = old.eventContractVersion ∧
      new.publicationPeriodStart = old.publicationPeriodStart ∧
      new.publicationPeriodEnd = old.publicationPeriodEnd ∧
      new.publisherHiveAccount = old.publisherHiveAccount ∧ new.resultCount = old.resultCount)
    (.raised "55000" "accepted match event identity and content are immutable")
  require (new.operationId ≠ old.operationId ∨ new.includedAt ≠ old.includedAt →
      isReplay old new)
    (.raised "55000" "match event operation binding changes only during fork replay")
  require (finalityStep old.operationState new.operationState ∨ isReplay old new)
    (.raised "55000" "invalid match event finality transition")
  require (old.operationState = new.operationState →
      new.irreversibleAt = old.irreversibleAt ∧ new.revertedAt = old.revertedAt)
    (.raised "55000" "match event finality evidence is immutable")

/-- `hc_validate_match_event` on `INSERT`. -/
def hcValidateMatchEventInsert (R : Runtime) (t : ChainTables) (new : MatchEventRow) :
    Except Failure Unit := do
  let _ ← matchEventEvidence R t new
  pure ()

/-- `hc_validate_match_event` on `UPDATE`. -/
def hcValidateMatchEventUpdate (R : Runtime) (t : ChainTables) (old new : MatchEventRow) :
    Except Failure Unit := do
  let op ← matchEventEvidence R t new
  matchEventTransition t op old new

/-! ### Result heads -/

/-- `SELECT … FROM match_result_change JOIN match_event`: the changes of a result whose event is
not reverted. -/
def activeChanges (t : ChainTables) (v : ViewTables) (projectedResultId : Uuid) :
    List MatchResultChangeRow :=
  v.matchResultChange.rows.filter fun change =>
    change.projectedResultId = projectedResultId &&
      (t.matchEvent.find? change.eventUuid).any (·.operationState ≠ .reverted)

def MatchChangeType.headState : MatchChangeType → MatchResultCurrentState
  | .correction => .corrected
  | .invalidation => .invalidated

/-- The `WHILE` loop of `hc_match_result_expected_head`: the head reached and how many of the
remaining changes were not traversed. -/
def traverseChanges (active : List MatchResultChangeRow) :
    ℕ → Uuid → MatchResultCurrentState → Uuid × MatchResultCurrentState × ℕ
  | 0, head, state => (head, state, 0)
  | remaining + 1, head, state =>
    match active.find? fun change => change.supersedesEventUuid = head with
    | none => (head, state, remaining + 1)
    | some change => traverseChanges active remaining change.eventUuid change.changeType.headState

/-- Whether the changes of a result form one connected chain from its initial event, with the
given head and state. -/
def hcMatchResultExpectedHead (t : ChainTables) (v : ViewTables)
    (projectedResultId initialEventId head : Uuid) (state : MatchResultCurrentState) : Prop :=
  let active := activeChanges t v projectedResultId
  traverseChanges active active.length initialEventId .current = (head, state, 0)

instance (t : ChainTables) (v : ViewTables) (projectedResultId initialEventId head : Uuid)
    (state : MatchResultCurrentState) :
    Decidable (hcMatchResultExpectedHead t v projectedResultId initialEventId head state) :=
  inferInstanceAs (Decidable (_ = _))

def headMismatch : Failure := .raised "23514"
  "projected result current pointer must equal its connected accepted change-chain head"

/-- An accepted batch event that is not reverted. -/
def acceptedBatch (e : MatchEventRow) : Prop :=
  e.eventType = .matchResultsBatch ∧ e.operationState ≠ .reverted ∧ e.validationState = .accepted

instance (e : MatchEventRow) : Decidable (acceptedBatch e) := inferInstanceAs (Decidable (_ ∧ _))

def hcAssertStoredMatchResultHead (t : ChainTables) (v : ViewTables) (projectedResultId : Uuid) :
    Except Failure Unit :=
  match v.matchResult.find? projectedResultId with
  | none => .ok ()
  | some result =>
    require ((∃ e, t.matchEvent.find? result.initialEventUuid = some e ∧ acceptedBatch e) ∧
        hcMatchResultExpectedHead t v result.id result.initialEventUuid result.currentEventUuid
          result.currentState)
      headMismatch

/-- The payload's result at a position of its batch. -/
def batchItem (R : Runtime) (t : ChainTables) (e : MatchEventRow) (position : ℕ) :
    Option MatchResult := do
  let op ← t.operation.find? e.operationId
  match ← op.payload.json.bind R.jsonb with
  | .matchResultsBatch batch => batch.results[position]?
  | _ => none

/-- The row's columns repeat the batch item. -/
def MatchResultRow.agrees (new : MatchResultRow) (item : MatchResult) : Prop :=
  item.roundId = new.roundId ∧ item.resultSchema.code = new.resultSchemaVersion ∧
    item.scoringRules.code = new.scoringRuleVersion ∧ item.map.versionId = new.mapVersionId ∧
    item.map.contentSha256.hex = new.mapContentSha256 ∧
    item.server.build = new.serverBuildVersion ∧
    item.server.protocol.code = new.matchProtocolVersion ∧
    item.resultSha256.hex = new.publicResultSha256

instance (new : MatchResultRow) (item : MatchResult) : Decidable (new.agrees item) :=
  inferInstanceAs (Decidable (_ ∧ _))

def notAcceptedBatch : Failure :=
  .raised "23514" "projected match result requires an accepted initial batch event"

/-- The event that a result row names as its initial one. -/
def initialEvent (t : ChainTables) (new : MatchResultRow) : Except Failure MatchEventRow :=
  match t.matchEvent.find? new.initialEventUuid with
  | none => .error notAcceptedBatch
  | some e => .ok e

/-- A new result starts at its initial event; an updated one keeps its initial evidence. -/
def matchResultTransition (old : Option MatchResultRow) (new : MatchResultRow) :
    Except Failure Unit :=
  match old with
  | none =>
    require (new.currentEventUuid = new.initialEventUuid ∧ new.currentState = .current)
      (.raised "23514" "new projected result must start at its initial event")
  | some old =>
    require ({ new with
        currentState := old.currentState, currentEventUuid := old.currentEventUuid
        matchedResultRevisionId := old.matchedResultRevisionId
        reconciliationState := old.reconciliationState, reconciledAt := old.reconciledAt } = old)
      (.raised "55000" "projected initial match result evidence is immutable")

def hcValidateMatchResult (R : Runtime) (t : ChainTables) (v : ViewTables)
    (old : Option MatchResultRow) (new : MatchResultRow) : Except Failure Unit := do
  let e ← initialEvent t new
  require (acceptedBatch e) notAcceptedBatch
  require ((batchItem R t e new.resultPosition).any (fun item => new.agrees item) = true)
    (.raised "23514" "projected initial result must match its accepted batch item")
  matchResultTransition old new
  require (hcMatchResultExpectedHead t v new.id new.initialEventUuid new.currentEventUuid
      new.currentState) headMismatch

/-! ### Result changes -/

/-- The lineage columns of a change repeat its event's payload. -/
def MatchResultChangeRow.lineageAgrees (new : MatchResultChangeRow) : HiveChameleonEvent → Prop
  | .matchResultCorrected e =>
    e.roundId = new.roundId ∧ e.originalBatchId = new.originalBatchUuid ∧
      e.originalEventId = new.originalEventUuid ∧ e.supersedesEventId = new.supersedesEventUuid ∧
      e.reasonCode.code = new.reasonCode
  | .matchResultInvalidated e =>
    e.roundId = new.roundId ∧ e.originalBatchId = new.originalBatchUuid ∧
      e.originalEventId = new.originalEventUuid ∧ e.supersedesEventId = new.supersedesEventUuid ∧
      e.reasonCode.code = new.reasonCode
  | _ => False

instance (new : MatchResultChangeRow) (event : HiveChameleonEvent) :
    Decidable (new.lineageAgrees event) := by
  unfold MatchResultChangeRow.lineageAgrees; cases event <;> infer_instance

/-- The replacement of a correction matches its local revision and the public replacement. -/
def replacementAgrees (game : GameTables) (new : MatchResultChangeRow)
    (r : MatchResultReplacement) (event : HiveChameleonEvent) : Prop :=
  (game.roundResultRevision.find? r.resultRevisionId).any (fun revision =>
      revision.roundId = new.roundId && revision.revisionType = .correction &&
        revision.resultSchemaVersion = r.resultSchemaVersion &&
        revision.scoringRuleVersion = r.scoringRuleVersion &&
        revision.canonicalCompleteResultSha256 = some r.publicResultSha256 &&
        revision.reasonCode = some new.reasonCode) = true ∧
    match event with
    | .matchResultCorrected e =>
      e.replacementResult.roundId = new.roundId ∧
        e.replacementResult.resultSchema.code = r.resultSchemaVersion ∧
        e.replacementResult.scoringRules.code = r.scoringRuleVersion ∧
        e.replacementResult.map.versionId = r.mapVersionId ∧
        e.replacementResult.map.contentSha256.hex = r.mapContentSha256 ∧
        e.replacementResult.server.build = r.serverBuildVersion ∧
        e.replacementResult.server.protocol.code = r.matchProtocolVersion ∧
        e.replacementResult.resultSha256.hex = r.publicResultSha256
    | _ => False

instance (game : GameTables) (new : MatchResultChangeRow) (r : MatchResultReplacement)
    (event : HiveChameleonEvent) : Decidable (replacementAgrees game new r event) := by
  unfold replacementAgrees; cases event <;> infer_instance

def MatchChangeType.expectedEventType : MatchChangeType → MatchEventType
  | .correction => .matchResultCorrected
  | .invalidation => .matchResultInvalidated

/-- The new change extends the accepted current event chain of its result. -/
def extendsChain (result : MatchResultRow) (original superseded change : MatchEventRow)
    (new : MatchResultChangeRow) : Prop :=
  result.roundId = new.roundId ∧ result.initialEventUuid = new.originalEventUuid ∧
    result.currentEventUuid = new.supersedesEventUuid ∧
    original.eventType = .matchResultsBatch ∧ original.batchUuid = some new.originalBatchUuid ∧
    original.operationState ≠ .reverted ∧ superseded.operationState ≠ .reverted ∧
    change.eventType = new.changeType.expectedEventType ∧ change.operationState ≠ .reverted ∧
    change.validationState = .accepted ∧ new.eventUuid ≠ new.supersedesEventUuid

instance (result : MatchResultRow) (original superseded change : MatchEventRow)
    (new : MatchResultChangeRow) : Decidable (extendsChain result original superseded change new) :=
  inferInstanceAs (Decidable (_ ∧ _))

def hcValidateMatchResultChange (R : Runtime) (game : GameTables) (t : ChainTables)
    (v : ViewTables) (new : MatchResultChangeRow) : Except Failure Unit := do
  let notExtending : Failure :=
    .raised "23514" "match result change must extend the accepted current event chain"
  match v.matchResult.find? new.projectedResultId, t.matchEvent.find? new.originalEventUuid,
      t.matchEvent.find? new.supersedesEventUuid, t.matchEvent.find? new.eventUuid with
  | some result, some original, some superseded, some change => do
    require (extendsChain result original superseded change new) notExtending
    require (new.supersedesEventUuid = new.originalEventUuid ∨
        v.matchResultChange.rows.any (fun previous =>
          previous.projectedResultId = new.projectedResultId &&
            previous.eventUuid = new.supersedesEventUuid) = true)
      (.raised "23514" "match result change cannot skip or cross a result chain")
    let payload := (t.operation.find? change.operationId).bind fun op => op.payload.json.bind R.jsonb
    require (∃ event, payload = some event ∧ new.lineageAgrees event)
      (.raised "23514" "match result change lineage must agree with its accepted payload")
    match new.replacement with
    | none => .ok ()
    | some r =>
      require (∃ event, payload = some event ∧ replacementAgrees game new r event)
        (.raised "23514"
          "correction projection must match its local revision and public replacement")
  | _, _, _, _ => .error notExtending

/-! ### Deferred constraint triggers -/

/-- A deferred trigger queued with the row it fired for. -/
inductive DeferredTrigger where
  | checkpointOperationState (checkpointId : Uuid)
  | operationMatchEventState (operationId : Uuid)
  | matchEventResultHeads (eventUuid : Uuid)
  | matchResultChangeHead (change : MatchResultChangeRow)
deriving DecidableEq

def hcCheckCheckpointOperationState (t : ChainTables) (checkpointId : Uuid) : Except Failure Unit :=
  match t.blockCheckpoint.find? checkpointId with
  | none => .ok ()
  | some c =>
    require (∀ op ∈ t.operation.rows, op.checkpointId = checkpointId → op.state = c.state)
      (.raised "23514" "checkpoint and operation finality states must agree at commit")

def hcCheckOperationMatchEventState (t : ChainTables) (operationId : Uuid) : Except Failure Unit :=
  match t.operation.find? operationId with
  | none => .ok ()
  | some op =>
    require (∀ e ∈ t.matchEvent.rows, e.operationId = operationId →
        op.state = e.operationState ∧ op.validationState = .accepted)
      (.raised "23514" "accepted match event and raw operation states must agree at commit")

/-- The results that an updated event belongs to: as their initial or current event, or through
one of their changes. -/
def affectedResults (v : ViewTables) (eventUuid : Uuid) : List Uuid :=
  (v.matchResult.rows.filter fun result =>
      result.initialEventUuid = eventUuid || result.currentEventUuid = eventUuid).map (·.id) ++
    (v.matchResultChange.rows.filter fun change =>
      change.eventUuid = eventUuid || change.originalEventUuid = eventUuid ||
        change.supersedesEventUuid = eventUuid).map (·.projectedResultId)

def hcCheckMatchEventResultHeads (t : ChainTables) (v : ViewTables) (eventUuid : Uuid) :
    Except Failure Unit :=
  checkAll (hcAssertStoredMatchResultHead t v) (affectedResults v eventUuid)

def hcCheckMatchResultChangeHead (v : ViewTables) (new : MatchResultChangeRow) :
    Except Failure Unit :=
  require (∃ result, v.matchResult.find? new.projectedResultId = some result ∧
      result.currentEventUuid = new.eventUuid ∧ result.currentState = new.changeType.headState)
    (.raised "23514" "projected result pointer must advance with its appended change")

/-- Runs a queued trigger on the tables at commit. -/
def DeferredTrigger.check (t : ChainTables) (v : ViewTables) : DeferredTrigger → Except Failure Unit
  | .checkpointOperationState id => hcCheckCheckpointOperationState t id
  | .operationMatchEventState id => hcCheckOperationMatchEventState t id
  | .matchEventResultHeads id => hcCheckMatchEventResultHeads t v id
  | .matchResultChangeHead change => hcCheckMatchResultChangeHead v change

end HiveChameleon.Projector
