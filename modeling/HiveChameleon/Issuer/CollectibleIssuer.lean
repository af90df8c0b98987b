import HiveChameleon.Publisher.Worker

/-!
# Issuer.CollectibleIssuer — `CollectibleIssuerService.publish` and its journal

An issue or a revocation prepares its transaction, records the intent, has the transaction signed and
broadcast, and marks the intent.  The journal is the table that the match publisher writes too.  Each
await is a step; a call of the journal may commit and still be reported as failed.
-/

namespace HiveChameleon.Issuer

open Gateway Lib Nakama Publisher

structure CollectibleSigningRecord where
  id : Uuid
  idempotencyKey : String
  operationKind : HiveChameleonEventType
  canonicalOperationHash : String
  policyVersion : String
  transactionId : String
  validatedAt : Timestamp
  expiresAt : Timestamp
deriving DecidableEq

/-- `recordPrepared`: the row it inserts. -/
def CollectibleSigningRecord.intent (record : CollectibleSigningRecord) : TransactionIntentRow where
  id := record.id
  idempotencyKey := record.idempotencyKey
  canonicalOperationHash := record.canonicalOperationHash
  allowlistPolicyVersion := record.policyVersion
  authorizationValidatedAt := record.validatedAt
  state := .awaitingSignature
  requestedAt := record.validatedAt
  expiresAt := record.expiresAt
  hiveTransactionId := some record.transactionId
  failureCode := none

/-- What the service is constructed with; a UUID is its text in the code. -/
structure IssuerConfig where
  codec : EventCodec
  sha256Hex : String → String
  authorization : OfficialServiceAuthorization
  expirationMs : ℤ
  uuidText : Uuid → String

variable (I : IssuerConfig)

/-- Where a call of `publish` stands; each stage names what is still to be awaited. -/
inductive IssuerStage where
  | idle
  | prepared (record : CollectibleSigningRecord) (event : PreparedOfficialEvent)
  | journaled (recordId : Uuid) (event : PreparedOfficialEvent)
  | signed (recordId : Uuid) (event : PreparedOfficialEvent)
  | submitted (recordId : Uuid) (event : PreparedOfficialEvent)
  | failing (recordId : Uuid) (transactionId : String) (failureCode : String)

/-- The awaits of `publish`, with the answers they get, and its crash.  `recordId` is what the provider
of ids returns, `none` when `checkedUuid` refuses it. -/
inductive IssuerAction where
  | prepare (event : I.codec.Value) (attemptNumber : ℤ)
      (chain : Except HiveGatewayError PreparedChainTransaction) (recordId : Option Uuid)
      (preparedAt : Timestamp)
  | record (outcome : CallOutcome)
  | sign (answer : Except String IsolatedSignerResponse)
  | submit (answer : Except String Unit)
  | markBroadcast (broadcastAt : Timestamp) (outcome : CallOutcome)
  | markFailed (failedAt : Timestamp) (outcome : CallOutcome)
  | crash

/-- `` `collectible:${event.event_id}:attempt:${attemptNumber}` `` -/
def idempotencyKey (event : I.codec.Value) (attemptNumber : ℤ) : String :=
  "collectible:" ++ I.uuidText (I.codec.event event).eventId ++ ":attempt:" ++ toString attemptNumber

def signingRecord (event : I.codec.Value) (attemptNumber : ℤ) (recordId : Uuid)
    (preparedAt : Timestamp) (prepared : PreparedOfficialEvent) : CollectibleSigningRecord where
  id := recordId
  idempotencyKey := idempotencyKey I event attemptNumber
  operationKind := (I.codec.event event).type
  canonicalOperationHash := prepared.canonicalOperationHash
  policyVersion := prepared.policyVersion
  transactionId := prepared.transactionId
  validatedAt := preparedAt
  expiresAt := preparedAt + I.expirationMs

/-- `publish` up to its first call of the journal; what raises before it leaves no trace. -/
def preparePublication (event : I.codec.Value) (attemptNumber : ℤ)
    (chain : Except HiveGatewayError PreparedChainTransaction) (recordId : Option Uuid)
    (preparedAt : Timestamp) : IssuerStage :=
  if attemptNumber < 1 ∨ attemptNumber > 1000000 then .idle
  else
    match prepareOfficialEvent I.sha256Hex
        ⟨idempotencyKey I event attemptNumber, I.authorization.policyVersion, event⟩ I.authorization
        chain, recordId with
    | .ok prepared, some id =>
      .prepared (signingRecord I event attemptNumber id preparedAt prepared) prepared
    | _, _ => .idle

variable {I}

/-- One await of a call of `publish`; `none` when it is not at that await. -/
def publishStep (journal : Journal) (stage : IssuerStage) :
    IssuerAction I → Option (Journal × IssuerStage)
  | .prepare event attemptNumber chain recordId preparedAt =>
    match stage with
    | .idle => some (journal, preparePublication I event attemptNumber chain recordId preparedAt)
    | _ => none
  | .record outcome =>
    match stage with
    | .prepared record event =>
      let recorded := (insertIntent record.intent journal).toOption
      match outcome with
      | .done => recorded.map fun journal => (journal, .journaled record.id event)
      | .lost => recorded.map fun journal => (journal, .idle)
      | .failed => some (journal, .idle)
    | _ => none
  | .sign answer =>
    match stage with
    | .journaled id event =>
      match answer with
      | .error code => some (journal, .failing id event.transactionId code)
      | .ok response =>
        if response.publicKey ≠ event.authorization.expectedPublicKey then
          some (journal, .failing id event.transactionId "signer_mismatch")
        else some (journal, .signed id event)
    | _ => none
  | .submit answer =>
    match stage with
    | .signed id event =>
      match answer with
      | .error code => some (journal, .failing id event.transactionId code)
      | .ok _ => some (journal, .submitted id event)
    | _ => none
  | .markBroadcast _ outcome =>
    match stage with
    | .submitted id event =>
      let raised := IssuerStage.failing id event.transactionId "publication_failed"
      match outcome with
      | .done => some (journal.markBroadcast id event.transactionId, .idle)
      | .lost => some (journal.markBroadcast id event.transactionId, raised)
      | .failed => some (journal, raised)
    | _ => none
  | .markFailed _ outcome =>
    match stage with
    | .failing id transactionId code =>
      let marked := journal.markFailed (some id) (some transactionId) (stableFailureCode code)
      match outcome with
      | .done => some (marked, .idle)
      | .lost => some (marked, .idle)
      | .failed => some (journal, .idle)
    | _ => none
  | .crash => some (journal, .idle)

end HiveChameleon.Issuer
