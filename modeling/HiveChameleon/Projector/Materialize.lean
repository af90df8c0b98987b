import HiveChameleon.Projector.Triggers
import Mathlib.Data.List.MinMax
import Mathlib.Data.List.Sort

/-!
# Projector.Materialize — what finalized events write

`materializeIrreversibleEvents` of the projection store and the five statements it dispatches to.
They read the chain tables and the game tables and write only the views, so the functions take the
former as arguments and return the latter.
-/

namespace HiveChameleon.Projector

open Gateway Lib

/-- The views inside a transaction: the tables, the deferred triggers queued so far and how many
identifiers were drawn. -/
structure ViewTx where
  views : ViewTables
  deferred : List DeferredTrigger
  drawn : ℕ

section Materialize

variable (R : Runtime) (game : GameTables) (t : ChainTables) (ids : ℕ → Uuid)

/-- The `varchar(32)` coercion of a bound parameter.  It is folded when the statement is planned,
whatever rows its `SELECT` returns. -/
def varchar32 (value : String) : Except Failure Unit :=
  require (value.length ≤ 32) (.raised "22001" "value too long for type character varying(32)")

/-- The bound `timestamptz` parameter of a statement. -/
def bindTimestamptz (value : IsoTimestamp) : Except Failure Timestamp :=
  match R.timestamptz value with
  | none => .error (.raised "22008" "date/time field value out of range")
  | some time => .ok time

/-- The map version of an event exists locally with a package asset of the given hash. -/
def mapMatches (map : MatchResultMap) : Prop :=
  ((game.mapVersion.find? map.versionId).any fun version => version.mapId = map.mapId) = true ∧
    (game.mapAsset.rows.any fun asset =>
      asset.mapVersionId = map.versionId && asset.isPackage &&
        asset.sha256 = map.contentSha256.hex) = true

instance (map : MatchResultMap) : Decidable (mapMatches game map) :=
  inferInstanceAs (Decidable (_ ∧ _))

/-! ### Initial results -/

/-- `LEFT JOIN LATERAL`: the newest local revision with the published versions and hash. -/
def matchingRevision (result : MatchResult) : Option RoundResultRevisionRef :=
  (game.roundResultRevision.rows.filter fun revision =>
    revision.roundId = result.roundId && revision.resultSchemaVersion = result.resultSchema.code &&
      revision.scoringRuleVersion = result.scoringRules.code &&
      revision.canonicalCompleteResultSha256 = some result.resultSha256.hex).argmax
    (·.revisionNumber)

/-- Whether `local_result` has a row: a local round on this map version. -/
def hasLocalResult (result : MatchResult) : Prop :=
  ((game.gameRound.find? result.roundId).any fun round =>
    round.mapVersionId = result.map.versionId) = true ∧ mapMatches game result.map

instance (result : MatchResult) : Decidable (hasLocalResult game result) :=
  inferInstanceAs (Decidable (_ ∧ _))

def initialResultRow (id eventId : Uuid) (position : ℕ) (result : MatchResult)
    (irreversibleAt : Timestamp) : MatchResultRow where
  id := id
  initialEventUuid := eventId
  resultPosition := position
  roundId := result.roundId
  resultSchemaVersion := result.resultSchema.code
  scoringRuleVersion := result.scoringRules.code
  mapVersionId := result.map.versionId
  mapContentSha256 := result.map.contentSha256.hex
  serverBuildVersion := result.server.build
  matchProtocolVersion := result.server.protocol.code
  publicResultSha256 := result.resultSha256.hex
  currentState := .current
  currentEventUuid := eventId
  matchedResultRevisionId := (matchingRevision game result).map (·.id)
  reconciliationState := if (matchingRevision game result).isSome then .matched else .pending
  reconciledAt := if (matchingRevision game result).isSome then some irreversibleAt else none

/-- `INSERT INTO match_result … ON CONFLICT (round_id) DO NOTHING`; the row trigger fires before
the conflict is looked for. -/
def insertMatchResult (row : MatchResultRow) (vx : ViewTx) : Except Failure ViewTx := do
  hcValidateMatchResult R t vx.views none row
  if vx.views.matchResult.rows.any fun result => result.roundId = row.roundId then pure vx
  else do
    require (∀ result ∈ vx.views.matchResult.rows,
        ¬ (result.initialEventUuid = row.initialEventUuid ∧
          result.resultPosition = row.resultPosition))
      (.constraint "uq_match_result_event_position")
    let table ← vx.views.matchResult.insert row (.constraint "match_result_pkey")
    pure { vx with views := { vx.views with matchResult := table } }

def materializeInitialMatchResult (eventId : Uuid) (irreversibleAt : Timestamp) (position : ℕ)
    (result : MatchResult) (vx : ViewTx) : Except Failure ViewTx := do
  let id := ids vx.drawn
  let vx := { vx with drawn := vx.drawn + 1 }
  varchar32 result.resultSchema.code
  varchar32 result.scoringRules.code
  varchar32 result.server.protocol.code
  if hasLocalResult game result then
    insertMatchResult R t (initialResultRow game id eventId position result irreversibleAt) vx
  else pure vx

/-- The `for` loop over the results of a batch, from a position on. -/
def materializeResultsFrom (eventId : Uuid) (irreversibleAt : Timestamp) :
    ℕ → List MatchResult → ViewTx → Except Failure ViewTx
  | _, [], vx => .ok vx
  | position, result :: results, vx => do
    let vx ← materializeInitialMatchResult R game t ids eventId irreversibleAt position result vx
    materializeResultsFrom eventId irreversibleAt (position + 1) results vx

def materializeInitialMatchResults (event : MatchResultsBatch) (irreversibleAt : Timestamp)
    (vx : ViewTx) : Except Failure ViewTx :=
  materializeResultsFrom R game t ids event.eventId irreversibleAt 0 event.results vx

/-! ### Corrections and invalidations -/

/-- The projected result that a change names by round, initial and superseded event. -/
def projectedResult (v : ViewTables) (roundId originalEventId supersedesEventId : Uuid) :
    Option MatchResultRow :=
  v.matchResult.rows.find? fun result =>
    result.roundId = roundId && result.initialEventUuid = originalEventId &&
      result.currentEventUuid = supersedesEventId

/-- The newest local correction revision that a correction event publishes. -/
def correctionRevision (event : MatchResultCorrected) : Option RoundResultRevisionRef :=
  (game.roundResultRevision.rows.filter fun revision =>
    revision.roundId = event.roundId && revision.revisionType = .correction &&
      revision.reasonCode = some event.reasonCode.code &&
      revision.resultSchemaVersion = event.replacementResult.resultSchema.code &&
      revision.scoringRuleVersion = event.replacementResult.scoringRules.code &&
      revision.canonicalCompleteResultSha256 = some event.replacementResult.resultSha256.hex).argmax
    (·.revisionNumber)

/-- `INSERT INTO match_result_change … ON CONFLICT (event_uuid) DO NOTHING`; `none` when nothing
was inserted. -/
def insertMatchResultChange (row : MatchResultChangeRow) (vx : ViewTx) :
    Except Failure (Option ViewTx) := do
  hcValidateMatchResultChange R game t vx.views row
  require (row.changeType = .correction ↔ row.replacement.isSome)
    (.constraint "chk_match_result_change_correction")
  if (vx.views.matchResultChange.find? row.eventUuid).isSome then pure none
  else do
    require (∀ change ∈ vx.views.matchResultChange.rows,
        ¬ (change.roundId = row.roundId ∧ change.supersedesEventUuid = row.supersedesEventUuid))
      (.constraint "uq_match_result_change_linear")
    require (∀ r ∈ row.replacement, (game.mapVersion.find? r.mapVersionId).isSome)
      (.constraint "fk_match_change_map_version")
    let table ← vx.views.matchResultChange.insert row (.constraint "match_result_change_pkey")
    pure (some { vx with
      views := { vx.views with matchResultChange := table }
      deferred := vx.deferred ++ [.matchResultChangeHead row] })

/-- `SET` of a correction. -/
def MatchResultRow.correct (eventId revisionId : Uuid) (time : Timestamp) (result : MatchResultRow) :
    MatchResultRow :=
  { result with
    currentEventUuid := eventId
    currentState := .corrected
    matchedResultRevisionId := some revisionId
    reconciliationState := .matched
    reconciledAt := some time }

/-- `SET` of an invalidation. -/
def MatchResultRow.invalidate (eventId : Uuid) (result : MatchResultRow) : MatchResultRow :=
  { result with currentEventUuid := eventId, currentState := .invalidated }

/-- `UPDATE match_result SET … WHERE id = … AND current_event_uuid = …` -/
def advanceMatchResult (id supersedesEventId : Uuid) (set : Table.Assignment MatchResultRow.id)
    (vx : ViewTx) : Except Failure ViewTx := do
  let table ← vx.views.matchResult.update
    (fun result => result.id = id ∧ result.currentEventUuid = supersedesEventId) set
    (fun old new => hcValidateMatchResult R t vx.views (some old) new)
  pure { vx with views := { vx.views with matchResult := table } }

def correctionRow (event : MatchResultCorrected) (projectedResultId revisionId : Uuid) :
    MatchResultChangeRow where
  eventUuid := event.eventId
  projectedResultId := projectedResultId
  roundId := event.roundId
  originalBatchUuid := event.originalBatchId
  originalEventUuid := event.originalEventId
  supersedesEventUuid := event.supersedesEventId
  changeType := .correction
  reasonCode := event.reasonCode.code
  replacement := some {
    resultRevisionId := revisionId
    resultSchemaVersion := event.replacementResult.resultSchema.code
    scoringRuleVersion := event.replacementResult.scoringRules.code
    mapVersionId := event.replacementResult.map.versionId
    mapContentSha256 := event.replacementResult.map.contentSha256.hex
    serverBuildVersion := event.replacementResult.server.build
    matchProtocolVersion := event.replacementResult.server.protocol.code
    publicResultSha256 := event.replacementResult.resultSha256.hex }

/-- A parameter takes its type from where the text of its statement uses it.  PostgreSQL refuses the
statement at the first number, up to the greatest one it uses, that stands nowhere in the text. -/
def inferParameterTypes (used : List ℕ) : Except Failure Unit :=
  match (List.range' 1 (used.foldr max 0)).find? (· ∉ used) with
  | some n => .error (.raised "42P18" ("could not determine data type of parameter $" ++ toString n))
  | none => .ok ()

/-- The lookup is given the event id and the server build as `$4` and `$11`, and its text names
neither: it is refused before a row is read, and nothing after it is ever reached. -/
def materializeMatchCorrection (event : MatchResultCorrected) (irreversibleAt : Timestamp)
    (vx : ViewTx) : Except Failure ViewTx := do
  inferParameterTypes [5, 6, 7, 12, 1, 2, 3, 8, 9, 10]
  match projectedResult vx.views event.roundId event.originalEventId event.supersedesEventId,
      correctionRevision game event with
  | some projected, some revision =>
    if ¬ mapMatches game event.replacementResult.map then pure vx
    else do
      varchar32 event.replacementResult.resultSchema.code
      varchar32 event.replacementResult.scoringRules.code
      varchar32 event.replacementResult.server.protocol.code
      match ← insertMatchResultChange R game t (correctionRow event projected.id revision.id) vx with
      | none => pure vx
      | some vx =>
        advanceMatchResult R t projected.id event.supersedesEventId
          ⟨.correct event.eventId revision.id irreversibleAt, fun _ => rfl⟩ vx
  | _, _ => pure vx

/-- **No correction is materialized**: the finalization that meets one is rolled back. -/
theorem materializeMatchCorrection_eq (event : MatchResultCorrected) (irreversibleAt : Timestamp)
    (vx : ViewTx) : materializeMatchCorrection R game t event irreversibleAt vx =
      .error (.raised "42P18" "could not determine data type of parameter $4") :=
  rfl

def invalidationRow (event : MatchResultInvalidated) (projectedResultId : Uuid) :
    MatchResultChangeRow where
  eventUuid := event.eventId
  projectedResultId := projectedResultId
  roundId := event.roundId
  originalBatchUuid := event.originalBatchId
  originalEventUuid := event.originalEventId
  supersedesEventUuid := event.supersedesEventId
  changeType := .invalidation
  reasonCode := event.reasonCode.code
  replacement := none

def materializeMatchInvalidation (event : MatchResultInvalidated) (vx : ViewTx) :
    Except Failure ViewTx :=
  match projectedResult vx.views event.roundId event.originalEventId event.supersedesEventId with
  | none => pure vx
  | some projected => do
    match ← insertMatchResultChange R game t (invalidationRow event projected.id) vx with
    | none => pure vx
    | some vx =>
      advanceMatchResult R t projected.id event.supersedesEventId
        ⟨.invalidate event.eventId, fun _ => rfl⟩ vx

/-! ### Collectibles -/

/-- `INSERT INTO collectible_event … ON CONFLICT (event_id) DO NOTHING` of the rows a `SELECT`
gave; all of them carry one event id, so the first is the only one inserted. -/
def insertCollectibleEvent (rows : List CollectibleEventRow) (vx : ViewTx) :
    Except Failure (Option (CollectibleEventRow × ViewTx)) :=
  match rows with
  | [] => pure none
  | row :: _ => do
    require (row.ownerHiveUsername.toList.map Char.toLower = row.ownerHiveUsername.toList)
      (.constraint "chk_collectible_event_owner_lower")
    require (row.issuerHiveUsername.toList.map Char.toLower = row.issuerHiveUsername.toList)
      (.constraint "chk_collectible_event_issuer_lower")
    if (vx.views.collectibleEvent.find? row.eventId).isSome then pure none
    else do
      require (∀ e ∈ vx.views.collectibleEvent.rows, e.operationId ≠ row.operationId)
        (.constraint "collectible_event_operation_id_key")
      require (t.operation.find? row.operationId).isSome
        (.constraint "fk_collectible_event_operation")
      let table ← vx.views.collectibleEvent.insert row (.constraint "collectible_event_pkey")
      pure (some (row, { vx with views := { vx.views with collectibleEvent := table } }))

/-- `LEFT JOIN payment_transaction … WHERE $11 IS NULL OR payment.id IS NOT NULL`: the payments
an issuance may cite. -/
def citedPayments (event : CollectibleIssued) : List (Option Uuid) :=
  match event.paymentTxId with
  | none => [none]
  | some txId =>
    (game.paymentTransaction.rows.filter fun payment =>
      payment.externalTransactionId = some txId).map fun payment => some payment.id

def issuedEventRows (event : CollectibleIssued) (operationId : Uuid) (occurredAt : Timestamp) :
    List CollectibleEventRow :=
  match game.collectibleDefinition.find? event.definitionId, game.player.find? event.owner.name with
  | some definition, some player =>
    if definition.kind = event.kind ∧ definition.metadataUri = event.metadataUri ∧
        definition.metadataSha256 = event.metadataSha256.hex then
      (citedPayments game event).map fun payment =>
        { eventId := event.eventId
          operationId := operationId
          eventType := .issued
          collectibleId := event.collectibleId
          collectibleDefinitionId := definition.id
          ownerHiveUsername := player.hiveUsername
          issuerHiveUsername := event.issuer.name
          metadataUri := event.metadataUri
          metadataSha256 := event.metadataSha256.hex
          issuanceReason := event.reason.code
          paymentTransactionId := payment
          occurredAt := occurredAt }
    else []
  | _, _ => []

def instanceRow (event : CollectibleEventRow) (ownerPlayerId : Uuid) (transactionId : String)
    (blockNumber : ℕ) (irreversibleAt : Timestamp) : CollectibleInstanceRow where
  id := event.collectibleId
  collectibleDefinitionId := event.collectibleDefinitionId
  ownerPlayerId := ownerPlayerId
  issuerHiveAccount := event.issuerHiveUsername
  issuanceReason := event.issuanceReason
  metadataUri := event.metadataUri
  metadataSha256 := event.metadataSha256
  state := .finalized
  issuedEventId := event.eventId
  revokedEventId := none
  issuedHiveTransactionId := transactionId
  issuedHiveBlockNumber := blockNumber
  irreversibleAt := some irreversibleAt
  revokedAt := none
  paymentTransactionId := event.paymentTransactionId

/-- `INSERT INTO collectible_instance … ON CONFLICT (id) DO NOTHING` -/
def insertCollectibleInstance (row : CollectibleInstanceRow) (vx : ViewTx) :
    Except Failure ViewTx :=
  if (vx.views.collectibleInstance.find? row.id).isSome then pure vx
  else do
    require (∀ i ∈ vx.views.collectibleInstance.rows, i.issuedEventId ≠ row.issuedEventId)
      (.constraint "collectible_instance_issued_event_id_key")
    require (∀ i ∈ vx.views.collectibleInstance.rows,
        row.paymentTransactionId = none ∨ i.paymentTransactionId ≠ row.paymentTransactionId)
      (.constraint "collectible_instance_payment_transaction_id_key")
    let table ← vx.views.collectibleInstance.insert row (.constraint "collectible_instance_pkey")
    pure { vx with views := { vx.views with collectibleInstance := table } }

def materializeCollectibleIssue (operation : OperationRow) (event : CollectibleIssued)
    (irreversibleAt : Timestamp) (vx : ViewTx) : Except Failure ViewTx :=
  match operation.transactionId with
  | none => pure vx
  | some transactionId => do
    let occurredAt ← bindTimestamptz R event.occurredAt
    match ← insertCollectibleEvent t (issuedEventRows game event operation.id occurredAt) vx with
    | none => pure vx
    | some (row, vx) =>
      match game.player.find? row.ownerHiveUsername with
      | none => pure vx
      | some player =>
        insertCollectibleInstance
          (instanceRow row player.id transactionId operation.blockNumber irreversibleAt) vx

/-- The issued event of a finalized instance that a revocation names. -/
def revocableEvent (v : ViewTables) (event : CollectibleRevoked) : Option CollectibleEventRow :=
  match v.collectibleEvent.find? event.issuedEventId, v.collectibleInstance.find? event.collectibleId with
  | some issued, some inst =>
    if issued.eventType = .issued ∧ issued.collectibleId = event.collectibleId ∧
        inst.issuedEventId = issued.eventId ∧ inst.state = .finalized then some issued
    else none
  | _, _ => none

def revokedEventRows (v : ViewTables) (operation : OperationRow) (event : CollectibleRevoked)
    (occurredAt : Timestamp) : List CollectibleEventRow :=
  match revocableEvent v event with
  | none => []
  | some issued =>
    [{ issued with
        eventId := event.eventId
        operationId := operation.id
        eventType := .revoked
        issuerHiveUsername := operation.primaryAccount
        occurredAt := occurredAt }]

def materializeCollectibleRevocation (operation : OperationRow) (event : CollectibleRevoked)
    (vx : ViewTx) : Except Failure ViewTx := do
  let occurredAt ← bindTimestamptz R event.occurredAt
  match ← insertCollectibleEvent t (revokedEventRows vx.views operation event occurredAt) vx with
  | none => pure vx
  | some (_, vx) => do
    let table ← vx.views.collectibleInstance.update
      (fun i => i.id = event.collectibleId ∧ i.issuedEventId = event.issuedEventId ∧
        i.state = .finalized)
      ⟨fun i => { i with
        state := .revoked, revokedEventId := some event.eventId, revokedAt := some occurredAt },
        fun _ => rfl⟩
      (fun old new => do
        require (∀ i ∈ vx.views.collectibleInstance.rows,
            i.id = old.id ∨ i.revokedEventId ≠ new.revokedEventId)
          (.constraint "collectible_instance_revoked_event_id_key")
        require ((vx.views.collectibleEvent.find? event.eventId).any (fun e =>
            e.collectibleId = new.id && e.collectibleDefinitionId = new.collectibleDefinitionId)
              = true)
          (.constraint "fk_collectible_instance_revoked_event"))
    pure { vx with views := { vx.views with collectibleInstance := table } }

/-! ### The dispatcher -/

/-- `eventFromOperationPayload` -/
def eventFromOperationPayload (payload : OperationValue) : Except Failure HiveChameleonEvent :=
  match payload.json with
  | none =>
    .error (.projector .cursorConflict "Accepted operation payload does not contain an event string")
  | some serialized =>
    match parseHiveChameleonEvent R serialized with
    | .ok event => .ok event
    | .error code => .error (.gateway code)

/-- One iteration of the loop of `materializeIrreversibleEvents`. -/
def materializeOperation (irreversibleAt : Timestamp) (operation : OperationRow) (vx : ViewTx) :
    Except Failure ViewTx := do
  let matchEventUuid :=
    (t.matchEvent.rows.find? fun e => e.operationId = operation.id).map (·.eventUuid)
  let event ← eventFromOperationPayload R operation.payload
  match event with
  | .matchResultsBatch e =>
    if matchEventUuid ≠ some e.eventId then pure vx
    else materializeInitialMatchResults R game t ids e irreversibleAt vx
  | .matchResultCorrected e =>
    if matchEventUuid ≠ some e.eventId then pure vx
    else materializeMatchCorrection R game t e irreversibleAt vx
  | .matchResultInvalidated e =>
    if matchEventUuid ≠ some e.eventId then pure vx
    else materializeMatchInvalidation R game t e vx
  | .collectibleIssued e => materializeCollectibleIssue R game t operation e irreversibleAt vx
  | .collectibleRevoked e => materializeCollectibleRevocation R t operation e vx

def materializeOperations (irreversibleAt : Timestamp) :
    List OperationRow → ViewTx → Except Failure ViewTx
  | [], vx => .ok vx
  | operation :: operations, vx => do
    let vx ← materializeOperation R game t ids irreversibleAt operation vx
    materializeOperations irreversibleAt operations vx

/-- `ORDER BY operation.block_number, operation.operation_index, operation.id` -/
def materializationOrder (a b : OperationRow) : Prop :=
  a.blockNumber < b.blockNumber ∨ a.blockNumber = b.blockNumber ∧
    (a.operationIndex < b.operationIndex ∨ a.operationIndex = b.operationIndex ∧
      a.id.val ≤ b.id.val)

instance : DecidableRel materializationOrder := fun _ _ => inferInstanceAs (Decidable (_ ∨ _))

/-- The operations that `materializeIrreversibleEvents` selects, in the order it reads them. -/
def irreversibleOperations (source : String) (blockNumber : ℕ) (irreversibleAt : Timestamp) :
    List OperationRow :=
  (t.operation.rows.filter fun op =>
    (t.blockCheckpoint.find? op.checkpointId).any (fun c =>
        c.source = source && c.blockNumber ≤ blockNumber) &&
      op.state = .irreversible && op.irreversibleAt = some irreversibleAt &&
      op.validationState = .accepted &&
      op.applicationId = some hiveChameleonApplicationId).insertionSort materializationOrder

def materializeIrreversibleEvents (source : String) (blockNumber : ℕ) (irreversibleAt : Timestamp)
    (vx : ViewTx) : Except Failure ViewTx :=
  materializeOperations R game t ids irreversibleAt
    (irreversibleOperations t source blockNumber irreversibleAt) vx

end Materialize

end HiveChameleon.Projector
