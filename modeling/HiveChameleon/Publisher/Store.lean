import HiveChameleon.Projector.Events
import HiveChameleon.Publisher.Tables
import Mathlib.Data.List.Sort

/-!
# Publisher.Store — `PostgresMatchPublicationStore`

Each method is one transaction on the publication tables: it returns the tables it commits, or
raises and changes nothing.  `reconcileProjectedFinality` also reads the projected events.
-/

namespace HiveChameleon.Publisher

open Gateway Lib Nakama

/-- What a batch needs of a publication candidate. -/
structure MatchPublicationCandidate where
  publicationRequestId : Uuid
  resultRevisionId : Uuid
  roundId : Uuid
deriving DecidableEq

structure FrozenMatchBatch where
  outboxId : Uuid
  eventId : Uuid
  batchId : Uuid
  canonicalPayload : String
  payloadSha256 : String
  payloadByteCount : ℕ
  publicationPeriodStart : Timestamp
  publicationPeriodEnd : Timestamp
  candidates : List MatchPublicationCandidate
deriving DecidableEq

structure MatchOutboxAttempt where
  outboxId : Uuid
  eventId : Uuid
  attemptCount : ℕ
deriving DecidableEq

/-- The runtime of the gateway and the publisher's hash of a payload. -/
structure PublisherRuntime extends Runtime where
  sha256Hex : String → String

/-! ### `freezeNextBatch` -/

def frozenOutboxRow (frozen : FrozenMatchBatch) (publisherAccount : String) (now : Timestamp) :
    OutboxRow where
  id := frozen.outboxId
  eventUuid := frozen.eventId
  batchUuid := some frozen.batchId
  eventType := .matchResultsBatch
  publicationPeriodStart := some frozen.publicationPeriodStart
  publicationPeriodEnd := some frozen.publicationPeriodEnd
  publisherHiveAccount := publisherAccount
  resultCount := frozen.candidates.length
  canonicalPayload := frozen.canonicalPayload
  payloadSha256 := frozen.payloadSha256
  payloadByteCount := frozen.payloadByteCount
  createdAt := now
  state := .queued
  attemptCount := 0
  nextRetryAt := none
  lastAttemptAt := none
  lastFailureCode := none
  hiveTransactionId := none
  operationId := none
  includedAt := none
  irreversibleAt := none
  revertedAt := none
  updatedAt := now

/-- The loop that inserts the items of a batch, from a position on. -/
def insertItems (outboxId : Uuid) (ids : ℕ → Uuid) :
    ℕ → List MatchPublicationCandidate → PublicationTx → Except PublisherFailure PublicationTx
  | _, [], tx => .ok tx
  | position, candidate :: candidates, tx => do
    let tx ← insertItem ⟨ids position, outboxId, candidate.publicationRequestId, candidate.roundId,
      candidate.resultRevisionId, position⟩ tx
    insertItems outboxId ids (position + 1) candidates tx

/-- `SET` of the requests of a frozen batch. -/
def RequestRow.batch (row : RequestRow) : RequestRow :=
  { row with state := .batched, lastFailureCode := none, nextRetryAt := none }

/-- The writes of `freezeNextBatch` for a planned batch; which candidates are read and how
`planMatchBatch` plans is left open. -/
def freezeNextBatch (frozen : FrozenMatchBatch) (publisherAccount : String) (ids : ℕ → Uuid)
    (now : Timestamp) (p : PublicationTables) : Except PublisherFailure PublicationTables := do
  let tx ← insertOutbox (frozenOutboxRow frozen publisherAccount now) ⟨p, []⟩
  let tx ← insertItems frozen.outboxId ids 0 frozen.candidates tx
  let requestIds := frozen.candidates.map (·.publicationRequestId)
  let selected := fun row : RequestRow =>
    row.id ∈ requestIds ∧ (row.state = .queued ∨ row.state = .retryableFailed)
  let updated := (tx.tables.request.rows.filter fun row => selected row).length
  let tx ← updateRequests selected ⟨.batch, fun _ => rfl⟩ tx
  require (updated = requestIds.length)
    (.publisher .databaseUnavailable "Publication requests changed while freezing a batch")
  tx.commit

/-- `deferInvalidRequest` -/
def deferInvalidRequest (publicationRequestId : Uuid) (code : String) (now retryAt : Timestamp)
    (p : PublicationTables) : Except PublisherFailure PublicationTables := do
  let tx ← updateRequests (fun row => row.id = publicationRequestId)
    ⟨fun row => { row with
      state := .retryableFailed
      attemptCount := row.attemptCount + 1
      lastAttemptAt := some now
      nextRetryAt := some retryAt
      lastFailureCode := some code }, fun _ => rfl⟩ ⟨p, []⟩
  tx.commit

/-! ### `claimNextOutbox` -/

/-- The `WHERE` of the candidate query. -/
def OutboxRow.Claimable (now : Timestamp) (row : OutboxRow) : Prop :=
  row.eventType = .matchResultsBatch ∧
    (row.state = .queued ∨ row.state = .retryableFailed ∨ row.state = .reverted) ∧
    ∀ retryAt ∈ row.nextRetryAt, retryAt ≤ now

instance (now : Timestamp) (row : OutboxRow) : Decidable (row.Claimable now) :=
  inferInstanceAs (Decidable (_ ∧ _))

/-- `ORDER BY created_at, id` -/
def claimOrder (a b : OutboxRow) : Prop :=
  a.createdAt < b.createdAt ∨ a.createdAt = b.createdAt ∧ a.id.val ≤ b.id.val

instance (a b : OutboxRow) : Decidable (claimOrder a b) := inferInstanceAs (Decidable (_ ∨ _))

/-- The row that the candidate query returns. -/
def claimCandidate (now : Timestamp) (p : PublicationTables) : Option OutboxRow :=
  ((p.outbox.rows.filter fun row => row.Claimable now).insertionSort claimOrder).head?

/-- `SET` of a claim. -/
def OutboxRow.claim (now leaseUntil : Timestamp) (row : OutboxRow) : OutboxRow :=
  { row with
    attemptCount := row.attemptCount + 1
    lastAttemptAt := some now
    nextRetryAt := some leaseUntil
    lastFailureCode := none
    updatedAt := now }

/-- The checks of `outboxAttemptFromRow`: the payload is canonical, hashes to the stored hash and is
the batch event that the row names. -/
def consistentPayload (R : PublisherRuntime) (row : OutboxRow) : Bool :=
  match parseHiveChameleonEvent R.toRuntime row.canonicalPayload with
  | .ok (.matchResultsBatch event) =>
    event.eventId = row.eventUuid && some event.batchId = row.batchUuid &&
      R.sha256Hex row.canonicalPayload = row.payloadSha256
  | _ => false

/-- `claimNextOutbox`: the attempt, when there is a row to claim. -/
def claimNextOutbox (R : PublisherRuntime) (now leaseUntil : Timestamp) (p : PublicationTables) :
    Except PublisherFailure (Option MatchOutboxAttempt × PublicationTables) :=
  match claimCandidate now p with
  | none => .ok (none, p)
  | some row => do
    let tx ← updateOutbox (fun other => other.id = row.id) ⟨.claim now leaseUntil, fun _ => rfl⟩
      ⟨p, []⟩
    require (consistentPayload R row) (.publisher .invalidCandidate
      "Frozen outbox identity, canonical payload, or hash is inconsistent")
    let p ← tx.commit
    pure (some ⟨row.id, row.eventUuid, row.attemptCount + 1⟩, p)

/-! ### The outcome of an attempt -/

/-- `SET` of `markBroadcast`. -/
def OutboxRow.markBroadcast (transactionId : String) (broadcastAt : Timestamp) (row : OutboxRow) :
    OutboxRow :=
  { row with
    state := .broadcast
    hiveTransactionId := some transactionId
    nextRetryAt := none
    lastFailureCode := none
    updatedAt := broadcastAt }

def markBroadcast (outboxId : Uuid) (transactionId : String) (broadcastAt : Timestamp)
    (p : PublicationTables) : Except PublisherFailure PublicationTables := do
  let tx ← updateOutbox (fun row => row.id = outboxId)
    ⟨.markBroadcast transactionId broadcastAt, fun _ => rfl⟩ ⟨p, []⟩
  tx.commit

/-- `SET` of `markRetryableFailure`. -/
def OutboxRow.markRetryableFailure (transactionId : Option String) (failureCode : String)
    (retryAt now : Timestamp) (row : OutboxRow) : OutboxRow :=
  { row with
    state := .retryableFailed
    hiveTransactionId := transactionId.or row.hiveTransactionId
    nextRetryAt := some retryAt
    lastFailureCode := some failureCode
    updatedAt := now }

def markRetryableFailure (outboxId : Uuid) (transactionId : Option String) (failureCode : String)
    (retryAt now : Timestamp) (p : PublicationTables) :
    Except PublisherFailure PublicationTables := do
  let tx ← updateOutbox (fun row => row.id = outboxId)
    ⟨.markRetryableFailure transactionId failureCode retryAt now, fun _ => rfl⟩ ⟨p, []⟩
  tx.commit

/-! ### `reconcileProjectedFinality` -/

/-- The projected event of an outbox row. -/
def projectedEvent (t : Projector.ChainTables) (row : OutboxRow) : Option Projector.MatchEventRow :=
  t.matchEvent.find? row.eventUuid

/-- The rows that the first statement updates. -/
def NeedsReconcile (t : Projector.ChainTables) (row : OutboxRow) : Prop :=
  (∃ e ∈ projectedEvent t row, .ofOperationState e.operationState ≠ row.state) ∧
    row.state ≠ .irreversible

instance (t : Projector.ChainTables) (row : OutboxRow) : Decidable (NeedsReconcile t row) :=
  inferInstanceAs (Decidable (_ ∧ _))

/-- `SET` of the first statement, from the joined event. -/
def OutboxRow.reconcile (t : Projector.ChainTables) (now : Timestamp) (row : OutboxRow) :
    OutboxRow :=
  match projectedEvent t row with
  | none => row
  | some e =>
    { row with
      state := .ofOperationState e.operationState
      operationId := some e.operationId
      includedAt := some e.includedAt
      irreversibleAt := e.irreversibleAt
      revertedAt := e.revertedAt
      nextRetryAt := if e.operationState = .reverted then some now else none
      updatedAt := now }

theorem OutboxRow.reconcile_id (t : Projector.ChainTables) (now : Timestamp) (row : OutboxRow) :
    (row.reconcile t now).id = row.id := by
  unfold OutboxRow.reconcile; split <;> rfl

/-- The unique key and the foreign key of `operation_id` after the first statement.  PostgreSQL
checks the key row by row; here it may clash with no other row, before or after. -/
def operationIdsFree (t : Projector.ChainTables) (now : Timestamp) (p : PublicationTables) : Prop :=
  ∀ row ∈ p.outbox.rows, NeedsReconcile t row →
    (∀ other ∈ p.outbox.rows, other.id ≠ row.id →
      (row.reconcile t now).operationId ≠ other.operationId ∧
        (row.reconcile t now).operationId ≠ (other.reconcile t now).operationId) ∧
      ∃ operationId ∈ (row.reconcile t now).operationId, (t.operation.find? operationId).isSome = true

instance (t : Projector.ChainTables) (now : Timestamp) (p : PublicationTables) :
    Decidable (operationIdsFree t now p) := by
  unfold operationIdsFree; infer_instance

/-- The requests that the second statement publishes: those of items of rows that the first one
made irreversible. -/
def publishedRequest (t : Projector.ChainTables) (now : Timestamp) (p : PublicationTables)
    (request : RequestRow) : Prop :=
  (∃ item ∈ p.item.rows, item.publicationRequestId = request.id ∧
    ∃ row ∈ p.outbox.rows, row.id = item.outboxId ∧ NeedsReconcile t row ∧
      (row.reconcile t now).state = .irreversible) ∧ request.state ≠ .published

instance (t : Projector.ChainTables) (now : Timestamp) (p : PublicationTables)
    (request : RequestRow) : Decidable (publishedRequest t now p request) := by
  unfold publishedRequest; infer_instance

/-- `SET` of the second statement. -/
def RequestRow.publish (now : Timestamp) (request : RequestRow) : RequestRow :=
  { request with state := .published, publishedAt := some now }

/-- `reconcileProjectedFinality`: the number of rows updated, and the tables.  The second statement
reads the tables as they were before the first. -/
def reconcileProjectedFinality (t : Projector.ChainTables) (now : Timestamp)
    (p : PublicationTables) : Except PublisherFailure (ℕ × PublicationTables) := do
  let changedCount := (p.outbox.rows.filter fun row => NeedsReconcile t row).length
  let tx ← updateOutbox (NeedsReconcile t) ⟨.reconcile t now, OutboxRow.reconcile_id t now⟩ ⟨p, []⟩
  require (operationIdsFree t now p)
    (.sql (.constraint "match_publication_outbox_operation_id_key"))
  let tx ← updateRequests (publishedRequest t now p) ⟨.publish now, fun _ => rfl⟩ tx
  let p ← tx.commit
  pure (changedCount, p)

/-- The tables that a reconcile transaction leaves when it commits. -/
def reconciledTables (t : Projector.ChainTables) (now : Timestamp) (p : PublicationTables) :
    PublicationTables :=
  { p with
    outbox := p.outbox.modify (NeedsReconcile t) ⟨.reconcile t now, OutboxRow.reconcile_id t now⟩
    request := p.request.modify (publishedRequest t now p) ⟨.publish now, fun _ => rfl⟩ }

end HiveChameleon.Publisher
