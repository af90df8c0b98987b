import HiveChameleon.Gateway.HiveGateway
import HiveChameleon.Publisher.Quiet

/-!
# Publisher.Worker — `publishAttempt`, its journal and its calls

A worker claims an item, prepares its transaction, records the signing attempt in the journal, has
the transaction signed, broadcasts it and marks how the attempt ended.  Each await is a step of its
own; the chain adapter and the signer answer anything, a call of the store may commit and still be
reported as failed, and a worker may stop between any two steps.
-/

namespace HiveChameleon.Publisher

open Gateway Lib Nakama

/-! ### The journal -/

structure SigningAttemptRecord where
  id : Uuid
  idempotencyKey : String
  outboxId : Uuid
  canonicalOperationHash : String
  policyVersion : String
  transactionId : String
  validatedAt : Timestamp
  expiresAt : Timestamp
deriving DecidableEq

/-- `hive_projection.transaction_state`, the states that the publisher writes. -/
inductive TransactionState where
  | awaitingSignature | broadcast | failed
deriving DecidableEq, Repr

/-- `hive_projection.transaction_intent` -/
structure TransactionIntentRow where
  id : Uuid
  idempotencyKey : String
  canonicalOperationHash : String
  allowlistPolicyVersion : String
  authorizationValidatedAt : Timestamp
  state : TransactionState
  requestedAt : Timestamp
  expiresAt : Timestamp
  hiveTransactionId : Option String
  failureCode : Option String
deriving DecidableEq

abbrev Journal := Table TransactionIntentRow (·.id)

def intentRow (record : SigningAttemptRecord) : TransactionIntentRow where
  id := record.id
  idempotencyKey := record.idempotencyKey
  canonicalOperationHash := record.canonicalOperationHash
  allowlistPolicyVersion := record.policyVersion
  authorizationValidatedAt := record.validatedAt
  state := .awaitingSignature
  requestedAt := record.validatedAt
  expiresAt := record.expiresAt
  hiveTransactionId := some record.transactionId
  failureCode := none

/-- An insert into the journal, of the publisher or of another service. -/
def insertIntent (row : TransactionIntentRow) (journal : Journal) :
    Except PublisherFailure Journal := do
  require (row.requestedAt < row.expiresAt) (.sql (.constraint "chk_transaction_intent_expiry"))
  require (∀ other ∈ journal.rows, other.idempotencyKey ≠ row.idempotencyKey)
    (.sql (.constraint "transaction_intent_idempotency_key_key"))
  journal.insert row (.sql (.constraint "transaction_intent_pkey"))

def recordSigningAttempt (record : SigningAttemptRecord) (journal : Journal) :
    Except PublisherFailure Journal :=
  insertIntent (intentRow record) journal

/-- `SET` of `markBroadcast` on the journal. -/
def TransactionIntentRow.markBroadcast (transactionId : String) (row : TransactionIntentRow) :
    TransactionIntentRow :=
  { row with state := .broadcast, hiveTransactionId := some transactionId, failureCode := none }

/-- `SET` of `markRetryableFailure` on the journal. -/
def TransactionIntentRow.markFailed (transactionId : Option String) (code : String)
    (row : TransactionIntentRow) : TransactionIntentRow :=
  { row with
    state := .failed
    hiveTransactionId := transactionId.or row.hiveTransactionId
    failureCode := some code }

/-- `UPDATE transaction_intent SET … WHERE id = …` of `markBroadcast`. -/
def Journal.markBroadcast (id : Uuid) (transactionId : String) (journal : Journal) : Journal :=
  journal.modify (fun row => row.id = id) ⟨.markBroadcast transactionId, fun _ => rfl⟩

/-- The same of `markRetryableFailure`, when there is a record. -/
def Journal.markFailed (id : Option Uuid) (transactionId : Option String) (code : String)
    (journal : Journal) : Journal :=
  journal.modify (fun row => id = some row.id) ⟨.markFailed transactionId code, fun _ => rfl⟩

/-! ### The attempt -/

/-- What a worker is configured with; a UUID is its text in the code. -/
structure WorkerConfig where
  runtime : PublisherRuntime
  codec : EventCodec
  authorization : OfficialServiceAuthorization
  transactionExpirationMs : ℤ
  claimLeaseMs : ℤ
  initialRetryBackoffMs : ℕ
  maximumRetryBackoffMs : ℕ
  uuidText : Uuid → String
  uuidText_injective : Function.Injective uuidText
  /-- The store and the gateway read payloads with one parser. -/
  reads : ∀ payload event, parseHiveChameleonEvent runtime.toRuntime payload = .ok event ↔
    ∃ data, codec.parseHiveChameleonEvent payload = .ok data ∧ codec.event data = event

variable (W : WorkerConfig)

/-- `MatchOutboxAttempt` with all that the worker reads of it. -/
structure ClaimedAttempt extends MatchOutboxAttempt where
  batchId : Uuid
  canonicalPayload : String
  event : W.codec.Value

/-- `outboxAttemptFromRow` -/
def outboxAttemptFromRow (row : OutboxRow) : Option (ClaimedAttempt W) :=
  match W.codec.parseHiveChameleonEvent row.canonicalPayload with
  | .error _ => none
  | .ok data =>
    match W.codec.event data, row.batchUuid with
    | .matchResultsBatch event, some batchId =>
      if event.eventId = row.eventUuid ∧ event.batchId = batchId ∧
          W.codec.serializeHiveChameleonEvent data = .ok row.canonicalPayload ∧
          W.runtime.sha256Hex row.canonicalPayload = row.payloadSha256 then
        some ⟨⟨row.id, row.eventUuid, row.attemptCount⟩, batchId, row.canonicalPayload, data⟩
      else none
    | _, _ => none

/-- `claimNextOutbox` with the whole attempt; `none` when it raises. -/
def claimAttempt (now : Timestamp) (p : PublicationTables) :
    Option (Option (ClaimedAttempt W) × PublicationTables) :=
  match claimCandidate now p with
  | none => some (none, p)
  | some row => do
    let tx ← (updateOutbox (fun other => other.id = row.id)
      ⟨.claim now (now + W.claimLeaseMs), fun _ => rfl⟩ ⟨p, []⟩).toOption
    let attempt ← outboxAttemptFromRow W (row.claim now (now + W.claimLeaseMs))
    let p ← tx.commit.toOption
    pure (some attempt, p)

/-- `` `match-batch:${attempt.batchId}:attempt:${attempt.attemptCount}` `` -/
def idempotencyKey (attempt : ClaimedAttempt W) : String :=
  "match-batch:" ++ W.uuidText attempt.batchId ++ ":attempt:" ++ toString attempt.attemptCount

def retryBackoff (attemptCount : ℕ) : ℕ :=
  min W.maximumRetryBackoffMs (W.initialRetryBackoffMs * 2 ^ min (attemptCount - 1) 30)

/-- `/^[a-z][a-z0-9_]{1,63}$/` or the general code. -/
def stableFailureCode (value : String) : String :=
  if (2 ≤ value.length && value.length ≤ 64 && value.toList.head?.any isLowerLetter &&
      value.toList.all fun c => isLowerLetter c || isDigit c || c == '_') = true then value
  else "publication_failed"

def signingRecord (attempt : ClaimedAttempt W) (startedAt : Timestamp) (id : Uuid)
    (prepared : PreparedOfficialEvent) : SigningAttemptRecord where
  id := id
  idempotencyKey := idempotencyKey W attempt
  outboxId := attempt.outboxId
  canonicalOperationHash := prepared.canonicalOperationHash
  policyVersion := prepared.policyVersion
  transactionId := prepared.transactionId
  validatedAt := startedAt
  expiresAt := startedAt + W.transactionExpirationMs

/-! ### The stages of `publishAttempt` -/

/-- Where a worker stands; each stage names what is still to be awaited. -/
inductive Stage where
  | idle
  | claimed (attempt : ClaimedAttempt W) (startedAt : Timestamp)
  | prepared (attempt : ClaimedAttempt W) (startedAt : Timestamp) (signingAttemptId : Uuid)
      (event : PreparedOfficialEvent)
  | journaled (attempt : ClaimedAttempt W) (signingAttemptId : Uuid) (event : PreparedOfficialEvent)
  | signed (attempt : ClaimedAttempt W) (signingAttemptId : Uuid) (event : PreparedOfficialEvent)
  | submitted (attempt : ClaimedAttempt W) (signingAttemptId : Uuid) (event : PreparedOfficialEvent)
  | failing (attempt : ClaimedAttempt W) (signingAttemptId : Option Uuid)
      (transactionId : Option String) (failureCode : String)

/-- How a call of the store ends: done, done and reported as failed, or failed. -/
inductive CallOutcome where
  | done | lost | failed
deriving DecidableEq, Repr

/-- The awaits of a worker, with the answers they get, and its crash. -/
inductive WorkerAction where
  | claim (now : Timestamp)
  | prepare (signingAttemptId : Uuid) (chain : Except HiveGatewayError PreparedChainTransaction)
  | record (outcome : CallOutcome)
  | sign (answer : Except String IsolatedSignerResponse)
  | submit (answer : Except String Unit)
  | markBroadcast (broadcastAt : Timestamp) (outcome : CallOutcome)
  | markRetryableFailure (failedAt now : Timestamp) (outcome : CallOutcome)
  | crash

/-- The joint state: the projection, the publication tables, the journal and the workers. -/
structure WorkerSys (ι : Type) where
  db : Projector.Db
  tables : PublicationTables
  journal : Journal
  stage : ι → Stage W

variable {W} {ι : Type} [DecidableEq ι]

def WorkerSys.write (S : WorkerSys W ι) (p : PublicationTables) (journal : Journal) : WorkerSys W ι :=
  { S with tables := p, journal := journal }

def WorkerSys.to (S : WorkerSys W ι) (i : ι) (stage : Stage W) : WorkerSys W ι :=
  { S with stage := Function.update S.stage i stage }

/-- `prepareOfficialEvent` and the comparison of its payload. -/
def prepareAttempt (attempt : ClaimedAttempt W) (startedAt : Timestamp) (signingAttemptId : Uuid)
    (chain : Except HiveGatewayError PreparedChainTransaction) : Stage W :=
  match prepareOfficialEvent W.runtime.sha256Hex
      ⟨idempotencyKey W attempt, W.authorization.policyVersion, attempt.event⟩ W.authorization chain with
  | .error e => .failing attempt none none e.code.text
  | .ok event =>
    if event.canonicalPayload ≠ attempt.canonicalPayload then
      .failing attempt none (some event.transactionId) "invalid_candidate"
    else .prepared attempt startedAt signingAttemptId event

/-- One await of worker `i`; `none` when it is not at that await, or when a claim raises. -/
def perform (S : WorkerSys W ι) (i : ι) : WorkerAction → Option (WorkerSys W ι)
  | .claim now =>
    match S.stage i with
    | .idle =>
      (claimAttempt W now S.tables).map fun claimed =>
        match claimed.1 with
        | none => S
        | some attempt => (S.write claimed.2 S.journal).to i (.claimed attempt now)
    | _ => none
  | .prepare signingAttemptId chain =>
    match S.stage i with
    | .claimed attempt startedAt =>
      some (S.to i (prepareAttempt attempt startedAt signingAttemptId chain))
    | _ => none
  | .record outcome =>
    match S.stage i with
    | .prepared attempt startedAt id event =>
      let raised := Stage.failing attempt none (some event.transactionId) "publication_failed"
      let recorded := recordSigningAttempt (signingRecord W attempt startedAt id event) S.journal
      match outcome with
      | .done => recorded.toOption.map fun journal =>
          (S.write S.tables journal).to i (.journaled attempt id event)
      | .lost => recorded.toOption.map fun journal => (S.write S.tables journal).to i raised
      | .failed => some (S.to i raised)
    | _ => none
  | .sign answer =>
    match S.stage i with
    | .journaled attempt id event =>
      match answer with
      | .error code => some (S.to i (.failing attempt (some id) (some event.transactionId) code))
      | .ok response =>
        if response.publicKey ≠ event.authorization.expectedPublicKey then
          some (S.to i (.failing attempt (some id) (some event.transactionId) "signer_mismatch"))
        else some (S.to i (.signed attempt id event))
    | _ => none
  | .submit answer =>
    match S.stage i with
    | .signed attempt id event =>
      match answer with
      | .error code => some (S.to i (.failing attempt (some id) (some event.transactionId) code))
      | .ok _ => some (S.to i (.submitted attempt id event))
    | _ => none
  | .markBroadcast broadcastAt outcome =>
    match S.stage i with
    | .submitted attempt id event =>
      let raised := Stage.failing attempt (some id) (some event.transactionId) "publication_failed"
      let marked := (markBroadcast attempt.outboxId event.transactionId broadcastAt
        S.tables).toOption.map fun p => S.write p (S.journal.markBroadcast id event.transactionId)
      match outcome with
      | .done => marked.map fun S => S.to i .idle
      | .lost => marked.map fun S => S.to i raised
      | .failed => some (S.to i raised)
    | _ => none
  | .markRetryableFailure failedAt now outcome =>
    match S.stage i with
    | .failing attempt id transactionId code =>
      let stableCode := stableFailureCode code
      let marked := (markRetryableFailure attempt.outboxId transactionId stableCode
        (failedAt + retryBackoff W attempt.attemptCount) now S.tables).toOption.map fun p =>
          S.write p (S.journal.markFailed id transactionId stableCode)
      match outcome with
      | .done => marked.map fun S => S.to i .idle
      | .lost => marked.map fun S => S.to i .idle
      | .failed => some (S.to i .idle)
    | _ => none
  | .crash => some (S.to i .idle)

/-! ### The workers in the publication system -/

def Stage.attempt : Stage W → Option (ClaimedAttempt W)
  | .idle => none
  | .claimed attempt _ => some attempt
  | .prepared attempt _ _ _ => some attempt
  | .journaled attempt _ _ => some attempt
  | .signed attempt _ _ => some attempt
  | .submitted attempt _ _ => some attempt
  | .failing attempt _ _ _ => some attempt

/-- The attempt that a worker at this stage holds. -/
def Stage.held (stage : Stage W) : Option MatchOutboxAttempt :=
  stage.attempt.map (·.toMatchOutboxAttempt)

/-- The publication system that the workers are part of. -/
def WorkerSys.base (S : WorkerSys W ι) : PublicationSys ι :=
  ⟨S.db, S.tables, fun i => (S.stage i).held⟩

/-- A step of the publication system that a worker makes with an attempt. -/
def ByWorker : PublicationLabel ι → Prop
  | .claim _ _ _ => True
  | .broadcast _ => True
  | .markBroadcast _ _ _ _ => True
  | .markRetryableFailure _ _ _ _ _ _ => True
  | .crash _ => True
  | _ => False

inductive WorkerLabel (ι : Type) where
  | other (l : PublicationLabel ι)
  | otherIntent (row : TransactionIntentRow)
  | worker (i : ι) (action : WorkerAction)

/-- One step: the projector, a recorded request, a freeze, a deferral or a reconcile; another
service's intent; or an await of a worker. -/
inductive WorkerStep (W : WorkerConfig) (source : String) :
    WorkerSys W ι → WorkerLabel ι → WorkerSys W ι → Prop where
  | other {S : WorkerSys W ι} {l : PublicationLabel ι} {base : PublicationSys ι} (hother : ¬ ByWorker l)
      (h : PublicationStep W.runtime source S.base l base) :
      WorkerStep W source S (.other l) { S with db := base.db, tables := base.tables }
  | otherIntent {S : WorkerSys W ι} {row : TransactionIntentRow} {journal : Journal}
      (h : insertIntent row S.journal = .ok journal) :
      WorkerStep W source S (.otherIntent row) { S with journal := journal }
  | worker {S S' : WorkerSys W ι} {i : ι} {action : WorkerAction} (h : perform S i action = some S') :
      WorkerStep W source S (.worker i action) S'

instance (l : PublicationLabel ι) : Decidable (ByWorker l) :=
  match l with
  | .claim _ _ _ => isTrue trivial
  | .broadcast _ => isTrue trivial
  | .markBroadcast _ _ _ _ => isTrue trivial
  | .markRetryableFailure _ _ _ _ _ _ => isTrue trivial
  | .crash _ => isTrue trivial
  | .projector _ => isFalse not_false
  | .request _ _ _ => isFalse not_false
  | .freeze _ _ _ _ => isFalse not_false
  | .defer _ _ _ _ => isFalse not_false
  | .reconcile _ => isFalse not_false

/-- Executes a step, the projector's with acknowledged calls at a given time. -/
def WorkerSys.exec (source : String) (time : Timestamp) (S : WorkerSys W ι) :
    WorkerLabel ι → Option (WorkerSys W ι)
  | .other l =>
    if ByWorker l then none
    else (S.base.exec W.runtime source time l).map fun base =>
      { S with db := base.db, tables := base.tables }
  | .otherIntent row => (insertIntent row S.journal).toOption.map fun journal =>
      { S with journal := journal }
  | .worker i action => perform S i action

theorem WorkerSys.exec_sound {source : String} {time : Timestamp} (S : WorkerSys W ι)
    (l : WorkerLabel ι) (S' : WorkerSys W ι) (h : S.exec source time l = some S') :
    WorkerStep W source S l S' := by
  cases l with
  | other l =>
    simp only [exec, Option.ite_none_left_eq_some, Option.map_eq_some_iff] at h
    obtain ⟨hother, base, hbase, rfl⟩ := h
    exact .other hother (PublicationSys.exec_sound _ _ _ hbase)
  | otherIntent row =>
    simp only [exec, Option.map_eq_some_iff, toOption_eq_some] at h
    obtain ⟨journal, hjournal, rfl⟩ := h
    exact .otherIntent hjournal
  | worker i action => exact .worker h

/-- A fresh database with idle workers. -/
def WorkerSys.start (W : WorkerConfig) (ι : Type) (game : Projector.GameTables) : WorkerSys W ι :=
  ⟨.fresh game, .fresh, .empty, fun _ => .idle⟩

/-! ### What an await does -/

/-- The record of the journal that the worker's attempt has, as far as the worker knows. -/
def Stage.signingAttemptId : Stage W → Option Uuid
  | .journaled _ id _ => some id
  | .signed _ id _ => some id
  | .submitted _ id _ => some id
  | .failing _ id _ _ => id
  | _ => none

/-- The action is a mark that the store commits. -/
def WorkerAction.CommitsMark : WorkerAction → Prop
  | .markBroadcast _ outcome => outcome ≠ .failed
  | .markRetryableFailure _ _ outcome => outcome ≠ .failed
  | _ => False

/-- The tables after `row` is claimed. -/
def claimedTables (W : WorkerConfig) (now : Timestamp) (row : OutboxRow) (p : PublicationTables) :
    PublicationTables :=
  let claim : Table.Assignment OutboxRow.id := ⟨.claim now (now + W.claimLeaseMs), fun _ => rfl⟩
  { p with outbox := p.outbox.modify (fun other => other.id = row.id) claim }

/-- **The outcomes of an await** of worker `i`, by what they write. -/
inductive Performed (S : WorkerSys W ι) (i : ι) : WorkerAction → WorkerSys W ι → Prop where
  | nothing {now : Timestamp} (hidle : S.stage i = .idle) : Performed S i (.claim now) S
  | claim {now : Timestamp} {row : OutboxRow} {attempt : ClaimedAttempt W}
      (hidle : S.stage i = .idle) (hrow : claimCandidate now S.tables = some row)
      (hattempt : outboxAttemptFromRow W (row.claim now (now + W.claimLeaseMs)) = some attempt)
      (hclaim : claimNextOutbox W.runtime now (now + W.claimLeaseMs) S.tables =
        .ok (some attempt.toMatchOutboxAttempt, claimedTables W now row S.tables)) :
      Performed S i (.claim now)
        ((S.write (claimedTables W now row S.tables) S.journal).to i (.claimed attempt now))
  | prepare {id : Uuid} {chain : Except HiveGatewayError PreparedChainTransaction}
      {attempt : ClaimedAttempt W} {startedAt : Timestamp} (h : S.stage i = .claimed attempt startedAt) :
      Performed S i (.prepare id chain) (S.to i (prepareAttempt attempt startedAt id chain))
  | record {outcome : CallOutcome} {attempt : ClaimedAttempt W} {startedAt : Timestamp} {id : Uuid}
      {event : PreparedOfficialEvent} {journal : Journal} {stage : Stage W}
      (h : S.stage i = .prepared attempt startedAt id event)
      (hjournal : recordSigningAttempt (signingRecord W attempt startedAt id event) S.journal =
        .ok journal)
      (hstage : outcome = .done ∧ stage = .journaled attempt id event ∨ outcome ≠ .done ∧
        ∃ transactionId code, stage = .failing attempt none transactionId code) :
      Performed S i (.record outcome) ((S.write S.tables journal).to i stage)
  | raise {action : WorkerAction} {attempt : ClaimedAttempt W} {transactionId : Option String}
      {code : String} (h : (S.stage i).attempt = some attempt) (hmark : ¬ action.CommitsMark) :
      Performed S i action
        (S.to i (.failing attempt (S.stage i).signingAttemptId transactionId code))
  | sign {answer : Except String IsolatedSignerResponse} {attempt : ClaimedAttempt W} {id : Uuid}
      {event : PreparedOfficialEvent} (h : S.stage i = .journaled attempt id event) :
      Performed S i (.sign answer) (S.to i (.signed attempt id event))
  | submit {answer : Except String Unit} {attempt : ClaimedAttempt W} {id : Uuid}
      {event : PreparedOfficialEvent} (h : S.stage i = .signed attempt id event) :
      Performed S i (.submit answer) (S.to i (.submitted attempt id event))
  | markBroadcast {broadcastAt : Timestamp} {outcome : CallOutcome} {attempt : ClaimedAttempt W}
      {id : Uuid} {event : PreparedOfficialEvent} {p : PublicationTables} {stage : Stage W}
      (h : S.stage i = .submitted attempt id event) (hcommitted : outcome ≠ .failed)
      (hp : markBroadcast attempt.outboxId event.transactionId broadcastAt S.tables = .ok p)
      (hstage : stage = .idle ∨
        ∃ transactionId code, stage = .failing attempt (some id) transactionId code) :
      Performed S i (.markBroadcast broadcastAt outcome)
        ((S.write p (S.journal.markBroadcast id event.transactionId)).to i stage)
  | markRetryableFailure {failedAt now : Timestamp} {outcome : CallOutcome}
      {attempt : ClaimedAttempt W} {id : Option Uuid} {transactionId : Option String} {code : String}
      {p : PublicationTables} (h : S.stage i = .failing attempt id transactionId code)
      (hcommitted : outcome ≠ .failed)
      (hp : markRetryableFailure attempt.outboxId transactionId (stableFailureCode code)
        (failedAt + retryBackoff W attempt.attemptCount) now S.tables = .ok p) :
      Performed S i (.markRetryableFailure failedAt now outcome)
        ((S.write p (S.journal.markFailed id transactionId (stableFailureCode code))).to i .idle)
  | drop {action : WorkerAction} (hmark : ¬ action.CommitsMark) : Performed S i action (S.to i .idle)

section Spec

variable {S S' : WorkerSys W ι} {i : ι} {source : String}

@[simp] theorem to_stage_self (stage : Stage W) : (S.to i stage).stage i = stage := by
  show Function.update S.stage i stage i = stage
  rw [Function.update_self]

theorem to_stage_of_ne {j : ι} (stage : Stage W) (hne : j ≠ i) :
    (S.to i stage).stage j = S.stage j := by
  show Function.update S.stage i stage j = S.stage j
  rw [Function.update_of_ne hne]

theorem to_base (stage : Stage W) :
    (S.to i stage).base = ⟨S.db, S.tables, Function.update S.base.held i stage.held⟩ := by
  have hheld : (fun j => ((S.to i stage).stage j).held) = Function.update S.base.held i stage.held := by
    funext j
    by_cases hj : j = i
    · subst hj
      rw [to_stage_self, Function.update_self]
    · rw [to_stage_of_ne stage hj, Function.update_of_ne hj]
      rfl
  show (⟨S.db, S.tables, fun j => ((S.to i stage).stage j).held⟩ : PublicationSys ι) = _
  rw [hheld]

theorem to_base_of_held {stage : Stage W} (h : stage.held = (S.stage i).held) :
    (S.to i stage).base = S.base := by
  rw [to_base, h]
  have hsame : Function.update S.base.held i (S.base.held i) = S.base.held :=
    Function.update_eq_self i S.base.held
  exact congrArg (fun held => (⟨S.db, S.tables, held⟩ : PublicationSys ι)) hsame

theorem outboxAttemptFromRow_eq_some {row : OutboxRow} {attempt : ClaimedAttempt W}
    (h : outboxAttemptFromRow W row = some attempt) :
    attempt.toMatchOutboxAttempt = ⟨row.id, row.eventUuid, row.attemptCount⟩ ∧
      row.batchUuid = some attempt.batchId ∧ attempt.canonicalPayload = row.canonicalPayload ∧
      W.codec.parseHiveChameleonEvent attempt.canonicalPayload = .ok attempt.event ∧
      (∃ event, W.codec.event attempt.event = .matchResultsBatch event ∧
        event.eventId = attempt.eventId ∧ event.batchId = attempt.batchId) ∧
      W.runtime.sha256Hex row.canonicalPayload = row.payloadSha256 := by
  unfold outboxAttemptFromRow at h
  split at h
  · cases h
  · rename_i data hparse
    split at h
    · rename_i event batchId hevent hbatch
      split at h
      · rename_i hsame
        obtain rfl := Option.some.inj h
        exact ⟨rfl, hbatch, rfl, hparse, ⟨event, hevent, hsame.1, hsame.2.1⟩, hsame.2.2.2⟩
      · cases h
    · cases h

theorem consistentPayload_of_attempt {row : OutboxRow} {attempt : ClaimedAttempt W}
    (h : outboxAttemptFromRow W row = some attempt) : consistentPayload W.runtime row = true := by
  obtain ⟨hattempt, hbatch, hpayload, hparse, ⟨event, hevent, heventId, hbatchId⟩, hsha⟩ :=
    outboxAttemptFromRow_eq_some h
  have hread : parseHiveChameleonEvent W.runtime.toRuntime row.canonicalPayload =
      .ok (.matchResultsBatch event) := by
    rw [W.reads, ← hpayload]
    exact ⟨attempt.event, hparse, hevent⟩
  have heventUuid : attempt.eventId = row.eventUuid := by rw [hattempt]
  unfold consistentPayload
  rw [hread]
  simp only [heventId, hbatchId, heventUuid, hbatch, hsha, decide_true, Bool.and_self]

/-- **The claim of a worker**: nothing to claim, or a row is claimed and read. -/
theorem claimAttempt_eq_some {now : Timestamp} {claimed : Option (ClaimedAttempt W)}
    {p p' : PublicationTables} (h : claimAttempt W now p = some (claimed, p')) :
    claimNextOutbox W.runtime now (now + W.claimLeaseMs) p =
        .ok (claimed.map (·.toMatchOutboxAttempt), p') ∧
      (claimed = none ∧ p' = p ∨ ∃ row attempt, claimCandidate now p = some row ∧
        claimed = some attempt ∧
        outboxAttemptFromRow W (row.claim now (now + W.claimLeaseMs)) = some attempt ∧
        p' = claimedTables W now row p) := by
  unfold claimAttempt at h
  cases hcandidate : claimCandidate now p with
  | none =>
    rw [hcandidate] at h
    obtain ⟨rfl, rfl⟩ := Prod.mk.inj (Option.some.inj h)
    exact ⟨claimNextOutbox_eq_ok.mpr (.inl ⟨hcandidate, rfl, rfl⟩), .inl ⟨rfl, rfl⟩⟩
  | some row =>
    rw [hcandidate] at h
    simp only [Option.bind_eq_bind, Option.bind_eq_some_iff, toOption_eq_some, Option.pure_def,
      Option.some.injEq, Prod.mk.injEq] at h
    obtain ⟨tx, hupdate, attempt, hattempt, q, hcommit, rfl, rfl⟩ := h
    obtain ⟨-, htables⟩ := updateOutbox_commit hupdate hcommit
    have hclaimed := consistentPayload_of_attempt hattempt
    have hconsistent : consistentPayload W.runtime row = true := hclaimed
    refine ⟨claimNextOutbox_eq_ok.mpr (.inr ⟨row, tx, hcandidate, hupdate, hconsistent, hcommit, ?_⟩),
      .inr ⟨row, attempt, rfl, rfl, hattempt, htables⟩⟩
    rw [Option.map_some, (outboxAttemptFromRow_eq_some hattempt).1]
    rfl

theorem performed_of_perform {action : WorkerAction} (h : perform S i action = some S') :
    Performed S i action S' := by
  have hraise : ∀ {attempt : ClaimedAttempt W} {id : Option Uuid} {transactionId : Option String}
      {code : String}, ¬ action.CommitsMark → (S.stage i).attempt = some attempt →
        (S.stage i).signingAttemptId = id →
        S.to i (.failing attempt id transactionId code) = S' → Performed S i action S' := by
    rintro attempt id transactionId code hmark hheld rfl rfl
    exact .raise hheld hmark
  cases action with
  | claim now =>
    simp only [perform] at h
    split at h
    · rename_i hidle
      obtain ⟨⟨claimed, p⟩, hclaimed, h⟩ := Option.map_eq_some_iff.mp h
      obtain ⟨hclaim, hcase⟩ := claimAttempt_eq_some hclaimed
      rcases hcase with ⟨rfl, rfl⟩ | ⟨row, attempt, hrow, rfl, hattempt, rfl⟩
      · obtain rfl : S = S' := h
        exact .nothing hidle
      · obtain rfl : (S.write (claimedTables W now row S.tables) S.journal).to i
          (.claimed attempt now) = S' := h
        exact .claim hidle hrow hattempt hclaim
    · cases h
  | prepare id chain =>
    simp only [perform] at h
    split at h
    · rename_i attempt startedAt hstage
      obtain rfl := Option.some.inj h
      exact .prepare hstage
    · cases h
  | record outcome =>
    simp only [perform] at h
    split at h
    · rename_i attempt startedAt id event hstage
      cases outcome with
      | done =>
        simp only [Option.map_eq_some_iff, toOption_eq_some] at h
        obtain ⟨journal, hjournal, rfl⟩ := h
        exact .record hstage hjournal (.inl ⟨rfl, rfl⟩)
      | lost =>
        simp only [Option.map_eq_some_iff, toOption_eq_some] at h
        obtain ⟨journal, hjournal, rfl⟩ := h
        exact .record hstage hjournal (.inr ⟨by decide, _, _, rfl⟩)
      | failed =>
        exact hraise not_false (by rw [hstage]; rfl) (by rw [hstage]; rfl) (Option.some.inj h)
    · cases h
  | sign answer =>
    simp only [perform] at h
    split at h
    · rename_i attempt id event hstage
      have hheld : (S.stage i).attempt = some attempt ∧ (S.stage i).signingAttemptId = some id := by
        rw [hstage]
        exact ⟨rfl, rfl⟩
      cases answer with
      | error code => exact hraise not_false hheld.1 hheld.2 (Option.some.inj h)
      | ok response =>
        simp only at h
        split at h
        · exact hraise not_false hheld.1 hheld.2 (Option.some.inj h)
        · obtain rfl := Option.some.inj h
          exact .sign hstage
    · cases h
  | submit answer =>
    simp only [perform] at h
    split at h
    · rename_i attempt id event hstage
      cases answer with
      | error code =>
        exact hraise not_false (by rw [hstage]; rfl) (by rw [hstage]; rfl) (Option.some.inj h)
      | ok done =>
        obtain rfl := Option.some.inj h
        exact .submit hstage
    · cases h
  | markBroadcast broadcastAt outcome =>
    simp only [perform] at h
    split at h
    · rename_i attempt id event hstage
      cases outcome with
      | done =>
        simp only [Option.map_map, Option.map_eq_some_iff, toOption_eq_some] at h
        obtain ⟨p, hp, rfl⟩ := h
        exact .markBroadcast hstage (by decide) hp (.inl rfl)
      | lost =>
        simp only [Option.map_map, Option.map_eq_some_iff, toOption_eq_some] at h
        obtain ⟨p, hp, rfl⟩ := h
        exact .markBroadcast hstage (by decide) hp (.inr ⟨_, _, rfl⟩)
      | failed =>
        exact hraise (fun hmark => hmark rfl) (by rw [hstage]; rfl) (by rw [hstage]; rfl)
          (Option.some.inj h)
    · cases h
  | markRetryableFailure failedAt now outcome =>
    simp only [perform] at h
    split at h
    · rename_i attempt id transactionId code hstage
      cases outcome with
      | done =>
        simp only [Option.map_map, Option.map_eq_some_iff, toOption_eq_some] at h
        obtain ⟨p, hp, rfl⟩ := h
        exact .markRetryableFailure hstage (by decide) hp
      | lost =>
        simp only [Option.map_map, Option.map_eq_some_iff, toOption_eq_some] at h
        obtain ⟨p, hp, rfl⟩ := h
        exact .markRetryableFailure hstage (by decide) hp
      | failed =>
        obtain rfl := Option.some.inj h
        exact .drop fun hmark => hmark rfl
    · cases h
  | crash =>
    obtain rfl := Option.some.inj h
    exact .drop not_false

/-- The prepared event of an attempt: its key, and the operation of the claimed payload. -/
structure PreparedFor (attempt : ClaimedAttempt W) (event : PreparedOfficialEvent) : Prop where
  key : event.idempotencyKey = idempotencyKey W attempt
  payload : event.canonicalPayload = attempt.canonicalPayload
  operation : event.canonicalOperationJson = canonicalCustomJsonOperation
    (officialOperation W.authorization.account attempt.canonicalPayload)
  hash : event.canonicalOperationHash = W.runtime.sha256Hex event.canonicalOperationJson

theorem prepareAttempt_cases (attempt : ClaimedAttempt W) (startedAt : Timestamp) (id : Uuid)
    (chain : Except HiveGatewayError PreparedChainTransaction) :
    (∃ transactionId code,
        prepareAttempt attempt startedAt id chain = .failing attempt none transactionId code) ∨
      ∃ event, prepareAttempt attempt startedAt id chain = .prepared attempt startedAt id event ∧
        PreparedFor attempt event := by
  unfold prepareAttempt
  split
  · exact .inl ⟨_, _, rfl⟩
  · rename_i event hprepared
    by_cases hsame : event.canonicalPayload = attempt.canonicalPayload
    · rw [if_neg (not_not_intro hsame)]
      obtain ⟨hkey, hoperation, hhash⟩ := prepareOfficialEvent_eq_ok hprepared
      rw [hsame] at hoperation
      exact .inr ⟨event, rfl, hkey, hsame, hoperation, hhash⟩
    · rw [if_pos hsame]
      exact .inl ⟨_, _, rfl⟩

/-- **An await is at most one step of the publication system.** -/
theorem Performed.base_run {action : WorkerAction} (h : Performed S i action S') :
    ∃ ts, Run (PublicationStep W.runtime source) S.base ts S'.base := by
  have hquiet : ∀ {stage : Stage W}, stage.held = (S.stage i).held →
      ∃ ts, Run (PublicationStep W.runtime source) S.base ts (S.to i stage).base := by
    intro stage hheld
    rw [to_base_of_held hheld]
    exact ⟨[], .refl _⟩
  cases h with
  | nothing hidle => exact ⟨[], .refl _⟩
  | @claim now row attempt hidle hrow hattempt hclaim =>
    have hheld : S.base.held i = none := by
      show (S.stage i).held = none
      rw [hidle]
      rfl
    rw [to_base]
    exact ⟨_, .single (.claim hheld hclaim)⟩
  | @prepare id chain attempt startedAt hstage =>
    refine hquiet ?_
    rw [hstage]
    rcases prepareAttempt_cases attempt startedAt id chain with
      ⟨transactionId, code, heq⟩ | ⟨event, heq, -⟩ <;> rw [heq] <;> rfl
  | @record outcome attempt startedAt id event journal stage hstage hjournal hnext =>
    have hheld : stage.held = (S.stage i).held := by
      rw [hstage]
      rcases hnext with ⟨-, rfl⟩ | ⟨-, transactionId, code, rfl⟩ <;> rfl
    exact hquiet hheld
  | raise hattempt hmark =>
    refine hquiet ?_
    unfold Stage.held
    rw [hattempt]
    rfl
  | sign hstage => exact hquiet (by rw [hstage]; rfl)
  | submit hstage => exact hquiet (by rw [hstage]; rfl)
  | @markBroadcast broadcastAt outcome attempt id event p stage hstage hcommitted hp hnext =>
    have hheld : S.base.held i = some attempt.toMatchOutboxAttempt := by
      show (S.stage i).held = _
      rw [hstage]
      rfl
    rw [to_base]
    rcases hnext with rfl | ⟨transactionId, code, rfl⟩
    · have hstep : PublicationStep W.runtime source S.base
          (.markBroadcast i event.transactionId broadcastAt true)
          ⟨S.db, p, heldAfterMark S.base.held i true⟩ := .markBroadcast hheld hp
      exact ⟨_, .single hstep⟩
    · have hsame : Function.update S.base.held i (some attempt.toMatchOutboxAttempt) = S.base.held := by
        rw [← hheld, Function.update_eq_self]
      have hstep : PublicationStep W.runtime source S.base
          (.markBroadcast i event.transactionId broadcastAt false) ⟨S.db, p, S.base.held⟩ :=
        .markBroadcast hheld hp
      rw [← hsame] at hstep
      exact ⟨_, .single hstep⟩
  | @markRetryableFailure failedAt now outcome attempt id transactionId code p hstage hcommitted hp =>
    have hheld : S.base.held i = some attempt.toMatchOutboxAttempt := by
      show (S.stage i).held = _
      rw [hstage]
      rfl
    rw [to_base]
    have hstep : PublicationStep W.runtime source S.base
        (.markRetryableFailure i transactionId (stableFailureCode code)
          (failedAt + retryBackoff W attempt.attemptCount) now true)
        ⟨S.db, p, heldAfterMark S.base.held i true⟩ := .markRetryableFailure hheld hp
    exact ⟨_, .single hstep⟩
  | drop hmark =>
    rw [to_base]
    exact ⟨_, .single .crash⟩

end Spec

end HiveChameleon.Publisher
