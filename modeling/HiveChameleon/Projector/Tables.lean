import HiveChameleon.Lib.Table
import HiveChameleon.Projector.Model

/-!
# Projector.Tables — the rows the projection store reads and writes

The tables of the schema `hive_projection`, the collectible instances, and the read-only game,
content, commerce and identity rows that materialization joins.  Monitoring columns that nothing
reads (`endpoint_url`, `health`, `created_at` and the like) are left out.
-/

namespace HiveChameleon.Projector

open Gateway Lib

/-- The shape of `chk_*_state_evidence`: which evidence times a finality state carries.  It
contains the weaker checks `chk_*_irreversible` and `chk_*_reverted`. -/
def stateEvidence (state : OperationState) (irreversibleAt revertedAt : Option Timestamp) : Prop :=
  match state with
  | .included => irreversibleAt = none ∧ revertedAt = none
  | .irreversible => irreversibleAt ≠ none ∧ revertedAt = none
  | .reverted => irreversibleAt = none ∧ revertedAt ≠ none

instance (state : OperationState) (irreversibleAt revertedAt : Option Timestamp) :
    Decidable (stateEvidence state irreversibleAt revertedAt) := by
  unfold stateEvidence; cases state <;> infer_instance

/-! ### Chain tables -/

structure BlockCheckpointRow where
  id : Uuid
  source : String
  blockNumber : ℕ
  blockId : String
  previousBlockId : Option String
  blockTimestamp : Timestamp
  state : OperationState
  observedAt : Timestamp
  irreversibleAt : Option Timestamp
  revertedAt : Option Timestamp
deriving DecidableEq

/-- Not reverted: the row belongs to the projector's current chain of `source`. -/
def BlockCheckpointRow.Current (source : String) (c : BlockCheckpointRow) : Prop :=
  c.source = source ∧ c.state ≠ .reverted

instance (source : String) (c : BlockCheckpointRow) : Decidable (c.Current source) :=
  inferInstanceAs (Decidable (_ ∧ _))

structure OperationRow where
  id : Uuid
  checkpointId : Uuid
  sourceOperationId : String
  transactionId : Option String
  operationIndex : ℕ
  isVirtual : Bool
  blockNumber : ℕ
  blockId : String
  blockTimestamp : Timestamp
  operationType : String
  primaryAccount : String
  requiredAuthority : Option Authority
  applicationId : Option String
  payload : OperationValue
  state : OperationState
  observedAt : Timestamp
  validationState : ValidationState
  rejectionReason : Option String
  validatedAt : Option Timestamp
  irreversibleAt : Option Timestamp
  revertedAt : Option Timestamp
deriving DecidableEq

/-- `hive_projection.match_event_type` -/
inductive MatchEventType where
  | matchResultsBatch | matchResultCorrected | matchResultInvalidated
deriving DecidableEq, Repr

structure MatchEventRow where
  eventUuid : Uuid
  batchUuid : Option Uuid
  operationId : Uuid
  eventType : MatchEventType
  schemaVersion : ℕ
  eventContractVersion : String
  publicationPeriodStart : Option Timestamp
  publicationPeriodEnd : Option Timestamp
  publisherHiveAccount : String
  resultCount : ℕ
  operationState : OperationState
  validationState : ValidationState
  rejectionReason : Option String
  includedAt : Timestamp
  irreversibleAt : Option Timestamp
  revertedAt : Option Timestamp
deriving DecidableEq

structure SyncCursorRow where
  source : String
  lastProcessedBlock : ℕ
  lastIrreversibleBlock : ℕ
deriving DecidableEq

structure ChainTables where
  blockCheckpoint : Table BlockCheckpointRow (·.id)
  operation : Table OperationRow (·.id)
  matchEvent : Table MatchEventRow (·.eventUuid)
  syncCursor : Table SyncCursorRow (·.source)

/-! ### Materialized views -/

/-- `hive_projection.match_result_current_state` -/
inductive MatchResultCurrentState where
  | current | corrected | invalidated
deriving DecidableEq, Repr

/-- `hive_projection.reconciliation_state` -/
inductive ReconciliationState where
  | pending | matched | divergent
deriving DecidableEq, Repr

structure MatchResultRow where
  id : Uuid
  initialEventUuid : Uuid
  resultPosition : ℕ
  roundId : Uuid
  resultSchemaVersion : String
  scoringRuleVersion : String
  mapVersionId : Uuid
  mapContentSha256 : String
  serverBuildVersion : String
  matchProtocolVersion : String
  publicResultSha256 : String
  currentState : MatchResultCurrentState
  currentEventUuid : Uuid
  matchedResultRevisionId : Option Uuid
  reconciliationState : ReconciliationState
  reconciledAt : Option Timestamp
deriving DecidableEq

/-- `hive_projection.match_change_type` -/
inductive MatchChangeType where
  | correction | invalidation
deriving DecidableEq, Repr

/-- The `replacement_*` columns of a change: all present on a correction, all null on an
invalidation (`chk_match_result_change_correction` and `_invalidation`). -/
structure MatchResultReplacement where
  resultRevisionId : Uuid
  resultSchemaVersion : String
  scoringRuleVersion : String
  mapVersionId : Uuid
  mapContentSha256 : String
  serverBuildVersion : String
  matchProtocolVersion : String
  publicResultSha256 : String
deriving DecidableEq

structure MatchResultChangeRow where
  eventUuid : Uuid
  projectedResultId : Uuid
  roundId : Uuid
  originalBatchUuid : Uuid
  originalEventUuid : Uuid
  supersedesEventUuid : Uuid
  changeType : MatchChangeType
  reasonCode : String
  replacement : Option MatchResultReplacement
deriving DecidableEq

/-- `hive_projection.collectible_event_type` -/
inductive CollectibleEventType where
  | issued | revoked
deriving DecidableEq, Repr

structure CollectibleEventRow where
  eventId : Uuid
  operationId : Uuid
  eventType : CollectibleEventType
  collectibleId : Uuid
  collectibleDefinitionId : Uuid
  ownerHiveUsername : String
  issuerHiveUsername : String
  metadataUri : String
  metadataSha256 : String
  issuanceReason : String
  paymentTransactionId : Option Uuid
  occurredAt : Timestamp
deriving DecidableEq

/-- `commerce.collectible_state`, the states materialization uses. -/
inductive CollectibleState where
  | finalized | revoked
deriving DecidableEq, Repr

structure CollectibleInstanceRow where
  id : Uuid
  collectibleDefinitionId : Uuid
  ownerPlayerId : Uuid
  issuerHiveAccount : String
  issuanceReason : String
  metadataUri : String
  metadataSha256 : String
  state : CollectibleState
  issuedEventId : Uuid
  revokedEventId : Option Uuid
  issuedHiveTransactionId : String
  issuedHiveBlockNumber : ℕ
  irreversibleAt : Option Timestamp
  revokedAt : Option Timestamp
  paymentTransactionId : Option Uuid
deriving DecidableEq

structure ViewTables where
  matchResult : Table MatchResultRow (·.id)
  matchResultChange : Table MatchResultChangeRow (·.eventUuid)
  collectibleEvent : Table CollectibleEventRow (·.eventId)
  collectibleInstance : Table CollectibleInstanceRow (·.id)

/-! ### Rows of other components that materialization reads -/

structure GameRoundRef where
  id : Uuid
  mapVersionId : Uuid
deriving DecidableEq

/-- `game.round_result_revision_type` -/
inductive RoundResultRevisionType where
  | initial | correction | invalidation
deriving DecidableEq, Repr

/-- The version columns are `varchar(32)`. -/
structure RoundResultRevisionRef where
  id : Uuid
  roundId : Uuid
  revisionNumber : ℕ
  revisionType : RoundResultRevisionType
  resultSchemaVersion : String
  scoringRuleVersion : String
  canonicalCompleteResultSha256 : Option String
  reasonCode : Option String
  schema_width : resultSchemaVersion.length ≤ 32
  scoring_width : scoringRuleVersion.length ≤ 32
deriving DecidableEq

structure MapVersionRef where
  id : Uuid
  mapId : Uuid
deriving DecidableEq

structure MapAssetRef where
  id : Uuid
  mapVersionId : Uuid
  isPackage : Bool
  sha256 : String
deriving DecidableEq

structure CollectibleDefinitionRef where
  id : Uuid
  definitionCode : String
  kind : CollectibleKind
  metadataUri : String
  metadataSha256 : String
deriving DecidableEq

structure PlayerRef where
  id : Uuid
  hiveUsername : String
  lowercase : hiveUsername.toList.map Char.toLower = hiveUsername.toList
deriving DecidableEq

structure PaymentTransactionRef where
  id : Uuid
  externalTransactionId : Option String
deriving DecidableEq

/-- Definitions and players are keyed by the unique columns that materialization looks them up by. -/
structure GameTables where
  gameRound : Table GameRoundRef (·.id)
  roundResultRevision : Table RoundResultRevisionRef (·.id)
  mapVersion : Table MapVersionRef (·.id)
  mapAsset : Table MapAssetRef (·.id)
  collectibleDefinition : Table CollectibleDefinitionRef (·.definitionCode)
  player : Table PlayerRef (·.hiveUsername)
  paymentTransaction : Table PaymentTransactionRef (·.id)

/-- The database as the projection store sees it. -/
structure Db where
  chain : ChainTables
  views : ViewTables
  game : GameTables

/-- A database before any projection. -/
def Db.fresh (game : GameTables) : Db where
  chain := ⟨Table.empty, Table.empty, Table.empty, Table.empty⟩
  views := ⟨Table.empty, Table.empty, Table.empty, Table.empty⟩
  game := game

end HiveChameleon.Projector
