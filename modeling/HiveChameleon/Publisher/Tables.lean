import HiveChameleon.Nakama.Database
import HiveChameleon.Projector.Tables

/-!
# Publisher.Tables — the publication outbox and what guards it

`game.match_publication_outbox` with its items and requests: rows, `CHECK` constraints, the
lifecycle trigger and the deferred triggers, from the baseline and `20260716000300`.  Rounds and
result revisions are read only.
-/

namespace HiveChameleon.Publisher

open Gateway Lib Nakama

/-- `game.match_publication_outbox_state` -/
inductive OutboxState where
  | queued | broadcast | included | irreversible | reverted | retryableFailed | terminalFailed
deriving DecidableEq, Repr

/-- The outbox state of the same name as a finality state. -/
def OutboxState.ofOperationState : Projector.OperationState → OutboxState
  | .included => .included
  | .irreversible => .irreversible
  | .reverted => .reverted

/-- The columns that stay as they are once an item was attempted. -/
structure FrozenColumns where
  eventUuid : Uuid
  batchUuid : Option Uuid
  eventType : Projector.MatchEventType
  publicationPeriodStart : Option Timestamp
  publicationPeriodEnd : Option Timestamp
  publisherHiveAccount : String
  resultCount : ℕ
  canonicalPayload : String
  payloadSha256 : String
  payloadByteCount : ℕ
  createdAt : Timestamp
deriving DecidableEq

structure OutboxRow extends FrozenColumns where
  id : Uuid
  state : OutboxState
  attemptCount : ℕ
  nextRetryAt : Option Timestamp
  lastAttemptAt : Option Timestamp
  lastFailureCode : Option String
  hiveTransactionId : Option String
  operationId : Option Uuid
  includedAt : Option Timestamp
  irreversibleAt : Option Timestamp
  revertedAt : Option Timestamp
  updatedAt : Timestamp
deriving DecidableEq

structure PublicationItemRow where
  id : Uuid
  outboxId : Uuid
  publicationRequestId : Uuid
  roundId : Uuid
  resultRevisionId : Uuid
  resultPosition : ℕ
deriving DecidableEq

structure RequestRow where
  id : Uuid
  roundId : Uuid
  resultRevisionId : Uuid
  requestType : RevisionType
  state : PublicationRequestState
  attemptCount : ℕ
  nextRetryAt : Option Timestamp
  lastAttemptAt : Option Timestamp
  lastFailureCode : Option String
  publishedAt : Option Timestamp
deriving DecidableEq

structure RevisionRef where
  id : Uuid
  roundId : Uuid
  revisionType : RevisionType
deriving DecidableEq

structure RoundRef where
  id : Uuid
  status : RoundStatus
deriving DecidableEq

structure PublicationTables where
  outbox : Table OutboxRow (·.id)
  item : Table PublicationItemRow (·.id)
  request : Table RequestRow (·.id)
  revision : Table RevisionRef (·.id)
  round : Table RoundRef (·.id)

def PublicationTables.fresh : PublicationTables := ⟨.empty, .empty, .empty, .empty, .empty⟩

inductive MatchPublisherErrorCode where
  | databaseUnavailable | invalidCandidate
deriving DecidableEq, Repr

/-- Why a call of the publication store failed. -/
inductive PublisherFailure where
  | sql (cause : SqlError)
  | publisher (code : MatchPublisherErrorCode) (message : String)
deriving DecidableEq, Repr

/-! ### Row checks and the lifecycle trigger -/

def outboxChecks (row : OutboxRow) : Except PublisherFailure Unit := do
  require (row.eventType = .matchResultsBatch ∧ row.batchUuid ≠ none ∧
        (∃ start ∈ row.publicationPeriodStart, ∃ stop ∈ row.publicationPeriodEnd, start ≤ stop) ∨
      row.eventType ≠ .matchResultsBatch ∧ row.batchUuid = none ∧
        row.publicationPeriodStart = none ∧ row.publicationPeriodEnd = none ∧ row.resultCount = 1)
    (.sql (.constraint "chk_match_outbox_event_shape"))
  require (row.publisherHiveAccount.toList.map Char.toLower = row.publisherHiveAccount.toList)
    (.sql (.constraint "chk_match_outbox_publisher_lower"))
  require (0 < row.resultCount) (.sql (.constraint "chk_match_outbox_result_count"))
  require (0 < row.payloadByteCount ∧ row.canonicalPayload.utf8ByteSize = row.payloadByteCount)
    (.sql (.constraint "chk_match_outbox_payload_size"))
  require (row.state = .included →
      row.hiveTransactionId ≠ none ∧ row.operationId ≠ none ∧ row.includedAt ≠ none)
    (.sql (.constraint "chk_match_outbox_included"))
  require (row.state = .irreversible → row.operationId ≠ none ∧ row.irreversibleAt ≠ none)
    (.sql (.constraint "chk_match_outbox_irreversible"))
  require (row.state = .reverted → row.operationId ≠ none ∧ row.revertedAt ≠ none)
    (.sql (.constraint "chk_match_outbox_reverted"))

/-- The transitions that `hc_freeze_match_outbox_payload` allows from each state. -/
def OutboxState.successors : OutboxState → List OutboxState
  | .queued =>
    [.broadcast, .retryableFailed, .included, .irreversible, .reverted, .terminalFailed]
  | .broadcast => [.retryableFailed, .included, .irreversible, .reverted, .terminalFailed]
  | .retryableFailed => [.broadcast, .included, .irreversible, .reverted, .terminalFailed]
  | .included => [.irreversible, .reverted]
  | .reverted => [.queued, .broadcast, .retryableFailed, .included, .terminalFailed]
  | .irreversible => []
  | .terminalFailed => []

def hcFreezeMatchOutboxPayload (old new : OutboxRow) : Except PublisherFailure Unit := do
  require (old.attemptCount ≤ new.attemptCount)
    (.sql (.raised "55000" "outbox attempt count cannot decrease"))
  require (old.state = new.state ∨ new.state ∈ old.state.successors)
    (.sql (.raised "55000" "invalid outbox lifecycle transition"))
  require (0 < old.attemptCount ∨ old.state ≠ .queued ∨ 0 < new.attemptCount ∨
      new.state ≠ .queued → new.id = old.id ∧ new.toFrozenColumns = old.toFrozenColumns)
    (.sql (.raised "55000" "broadcast outbox identity and canonical payload are immutable"))

/-! ### Items and requests -/

def expectedEventType : RevisionType → Projector.MatchEventType
  | .initial => .matchResultsBatch
  | .correction => .matchResultCorrected
  | .invalidation => .matchResultInvalidated

/-- The `INSERT` branch of `hc_validate_publication_item`. -/
def hcValidatePublicationItem (p : PublicationTables) (new : PublicationItemRow) :
    Except PublisherFailure Unit := do
  let disagree : PublisherFailure :=
    .sql (.raised "23514" "publication item identities or event type do not agree")
  match p.request.find? new.publicationRequestId, p.revision.find? new.resultRevisionId,
      p.outbox.find? new.outboxId with
  | some request, some revision, some outbox => do
    require (outbox.attemptCount = 0 ∧ outbox.state = .queued)
      (.sql (.raised "55000" "attempted outbox membership is immutable"))
    require (request.roundId = new.roundId ∧ request.resultRevisionId = new.resultRevisionId ∧
      revision.roundId = new.roundId ∧ outbox.eventType = expectedEventType request.requestType)
      disagree
  | _, _, _ => .error disagree

/-- `hc_validate_publication_request` on an inserted row. -/
def hcValidatePublicationRequest (p : PublicationTables) (new : RequestRow) :
    Except PublisherFailure Unit :=
  require (∃ revision ∈ p.revision.find? new.resultRevisionId,
      revision.roundId = new.roundId ∧ revision.revisionType = new.requestType)
    (.sql (.raised "23514" "publication request must match its round and revision type"))

/-- `hc_validate_publication_request` on an updated row. -/
def hcValidatePublicationRequestUpdate (p : PublicationTables) (old new : RequestRow) :
    Except PublisherFailure Unit := do
  hcValidatePublicationRequest p new
  require (new.roundId = old.roundId ∧ new.resultRevisionId = old.resultRevisionId ∧
      new.requestType = old.requestType)
    (.sql (.raised "55000" "publication request identity is immutable"))
  require (¬ (new.requestType = .initial ∧ new.state = .cancelled ∧ old.state ≠ .cancelled ∧
      (p.round.find? new.roundId).any (fun round => round.status = .completed) = true))
    (.sql (.raised "55000" "completed round must retain a noncancelled initial request"))

def requestChecks (row : RequestRow) : Except PublisherFailure Unit :=
  require (row.state = .published → row.publishedAt ≠ none)
    (.sql (.constraint "chk_match_publication_request_published"))

/-! ### Deferred constraint triggers -/

inductive DeferredPublication where
  | itemSet (outboxId : Uuid)
  | requestRoundState (request : RequestRow)
deriving DecidableEq

/-- The positions of an outbox row's items are `0 … result_count - 1`. -/
def hcCheckPublicationItemSet (p : PublicationTables) (outboxId : Uuid) :
    Except PublisherFailure Unit :=
  match p.outbox.find? outboxId with
  | none => .ok ()
  | some row =>
    let positions := (p.item.rows.filter fun item => item.outboxId = outboxId).map (·.resultPosition)
    require (positions.length = row.resultCount ∧ 0 ∈ positions ∧
        row.resultCount - 1 ∈ positions ∧ ∀ position ∈ positions, position ≤ row.resultCount - 1)
      (.sql (.raised "23514"
        "publication item positions must be contiguous and match result_count"))

def hcCheckPublicationRequestRoundState (p : PublicationTables) (new : RequestRow) :
    Except PublisherFailure Unit :=
  require (new.state = .cancelled ∨
      (p.round.find? new.roundId).all (fun round => round.status = .completed) = true)
    (.sql (.raised "23514" "active publication request requires a completed round at commit"))

def DeferredPublication.check (p : PublicationTables) :
    DeferredPublication → Except PublisherFailure Unit
  | .itemSet outboxId => hcCheckPublicationItemSet p outboxId
  | .requestRoundState request => hcCheckPublicationRequestRoundState p request

/-- The tables inside a transaction and the deferred triggers queued so far. -/
structure PublicationTx where
  tables : PublicationTables
  deferred : List DeferredPublication

/-- `COMMIT` -/
def PublicationTx.commit (tx : PublicationTx) : Except PublisherFailure PublicationTables := do
  checkAll (DeferredPublication.check tx.tables) tx.deferred
  pure tx.tables

/-! ### Statements -/

/-- `UPDATE match_publication_outbox SET … WHERE …` -/
def updateOutbox (p : OutboxRow → Prop) [DecidablePred p] (set : Table.Assignment OutboxRow.id)
    (tx : PublicationTx) : Except PublisherFailure PublicationTx := do
  let table ← tx.tables.outbox.update p set fun old new => do
    hcFreezeMatchOutboxPayload old new
    outboxChecks new
  pure { tables := { tx.tables with outbox := table }
         deferred := tx.deferred ++ (tx.tables.outbox.rows.filter fun row => p row).map fun row =>
          .itemSet row.id }

/-- `UPDATE match_publication_request SET … WHERE …` -/
def updateRequests (p : RequestRow → Prop) [DecidablePred p]
    (set : Table.Assignment RequestRow.id) (tx : PublicationTx) :
    Except PublisherFailure PublicationTx := do
  let table ← tx.tables.request.update p set fun old new => do
    hcValidatePublicationRequestUpdate tx.tables old new
    requestChecks new
  pure { tables := { tx.tables with request := table }
         deferred := tx.deferred ++ (tx.tables.request.rows.filter fun row => p row).map fun row =>
          .requestRoundState (set row) }

def insertOutbox (row : OutboxRow) (tx : PublicationTx) : Except PublisherFailure PublicationTx := do
  outboxChecks row
  require (∀ other ∈ tx.tables.outbox.rows, other.eventUuid ≠ row.eventUuid)
    (.sql (.constraint "match_publication_outbox_event_uuid_key"))
  require (∀ other ∈ tx.tables.outbox.rows,
      ¬ (row.batchUuid ≠ none ∧ other.batchUuid = row.batchUuid))
    (.sql (.constraint "match_publication_outbox_batch_uuid_key"))
  let table ← tx.tables.outbox.insert row (.sql (.constraint "match_publication_outbox_pkey"))
  pure { tables := { tx.tables with outbox := table }
         deferred := tx.deferred ++ [.itemSet row.id] }

def insertItem (row : PublicationItemRow) (tx : PublicationTx) :
    Except PublisherFailure PublicationTx := do
  hcValidatePublicationItem tx.tables row
  require (∀ other ∈ tx.tables.item.rows, other.publicationRequestId ≠ row.publicationRequestId)
    (.sql (.constraint "match_publication_item_publication_request_id_key"))
  require (∀ other ∈ tx.tables.item.rows,
      ¬ (other.outboxId = row.outboxId ∧ other.resultPosition = row.resultPosition))
    (.sql (.constraint "uq_match_publication_item_position"))
  let table ← tx.tables.item.insert row (.sql (.constraint "match_publication_item_pkey"))
  pure { tables := { tx.tables with item := table }
         deferred := tx.deferred ++ [.itemSet row.outboxId] }

end HiveChameleon.Publisher
