import HiveChameleon.Gateway.Protocol
import HiveChameleon.Lib.Table

/-!
# Provisioning.Repository — the tables of account provisioning and the calls that write them

The types of `provisioning.types.ts` and the statements of `postgres-provisioning.repository.ts`,
with the checks and unique indexes of the schema `identity`.  A call of one statement is one
function.  `saveKeys` is two, since other calls may commit between its count and its update;
`markReady` is one, since it locks the job row first and nothing else writes what it reads while
the row is locked.
-/

namespace HiveChameleon.Provisioning

open Gateway Lib

inductive HiveAuthorityRole where
  | owner | active | posting | memo
deriving DecidableEq, Repr

def authorityRoles : List HiveAuthorityRole := [.owner, .active, .posting, .memo]

inductive ProvisioningState where
  | usernameConfirmed | keysReady | accountCreationPending | accountCreated | rcDelegationPending
  | rcDelegated | ready | retryableFailed | terminalFailed
deriving DecidableEq, Repr

structure ProvisioningJob where
  externalIdentityId : Uuid
  id : Uuid
  idempotencyKey : String
  requestedHiveUsername : String
  sponsorHiveAccount : String
  sponsorPolicyVersion : String
  sponsorProgram : String
  state : ProvisioningState
deriving DecidableEq, Repr

structure CustodyKeyReference where
  authorityRole : HiveAuthorityRole
  hivePublicKey : String
  providerKeyReference : String
deriving DecidableEq, Repr

/-- Why a call failed. -/
inductive Failure where
  | error (message : String)
  | retryable (safeCode : String)
  | constraint (name : String)
  | unavailable
deriving DecidableEq, Repr

/-! ### Tables -/

structure ProvisioningRow where
  id : Uuid
  externalIdentityId : Uuid
  resultingPlayerId : Option Uuid
  idempotencyKey : String
  requestedHiveUsername : String
  state : ProvisioningState
  sponsorProgram : String
  sponsorPolicyVersion : String
  sponsorHiveAccount : String
  sponsorRequestReference : Option String
  accountCreationTransactionId : Option String
  initialRcDelegationId : Option String
  usernameConfirmedAt : Timestamp
  keysReadyAt : Option Timestamp
  accountObservedAt : Option Timestamp
  accountIrreversibleAt : Option Timestamp
  authoritiesVerifiedAt : Option Timestamp
  rcVerifiedAt : Option Timestamp
  attemptCount : ℕ
  lastAttemptAt : Option Timestamp
  nextRetryAt : Option Timestamp
  lastFailureCode : Option String
  readyAt : Option Timestamp
  updatedAt : Timestamp
  rowVersion : ℕ
deriving DecidableEq

/-- `identity.hive_control_state` -/
inductive HiveControlState where
  | externalSelfCustodial | platformCustodial | authorityClaimedRecoveryPending
  | selfCustodyComplete
deriving DecidableEq, Repr

structure PlayerRow where
  id : Uuid
  hiveUsername : String
  hiveControlState : HiveControlState
deriving DecidableEq

/-- `identity.external_identity_status` -/
inductive ExternalIdentityStatus where
  | provisioning | linked | disabled
deriving DecidableEq, Repr

/-- The provider is always `google`. -/
structure ExternalIdentityRow where
  id : Uuid
  verifiedIssuer : String
  subjectLookupHash : String
  playerId : Option Uuid
  status : ExternalIdentityStatus
  verifiedAt : Timestamp
  linkedAt : Option Timestamp
  lastAuthenticatedAt : Timestamp
  updatedAt : Timestamp
deriving DecidableEq

/-- `identity.custody_key_state` -/
inductive CustodyKeyState where
  | generated | active | destructionRequested | destroyed | abandoned
deriving DecidableEq, Repr

/-- The states that the unique indexes on keys are about. -/
def CustodyKeyState.current : CustodyKeyState → Bool
  | .generated => true
  | .active => true
  | .destructionRequested => true
  | .destroyed => false
  | .abandoned => false

structure CustodyKeyRow where
  id : Uuid
  provisioningId : Uuid
  playerId : Option Uuid
  authorityRole : HiveAuthorityRole
  hivePublicKey : String
  custodyProviderKeyReference : String
  state : CustodyKeyState
  activatedAt : Option Timestamp
  createdAt : Timestamp
deriving DecidableEq

/-- `identity.disclosure_ack_source` -/
inductive DisclosureAckSource where
  | googlePreProvisioning | directHivePreParticipation
deriving DecidableEq, Repr

structure DisclosureAcknowledgmentRow where
  id : Uuid
  disclosureVersion : String
  externalIdentityId : Option Uuid
  playerId : Option Uuid
  source : DisclosureAckSource
  acknowledgedAt : Timestamp
  playerLinkedAt : Option Timestamp
deriving DecidableEq

/-- The tables that provisioning reads and writes; `rcDelegation` holds the keys of
`hive_projection.rc_delegation`. -/
structure Db where
  provisioning : Table ProvisioningRow (·.id)
  custodyKey : Table CustodyKeyRow (·.id)
  externalIdentity : Table ExternalIdentityRow (·.id)
  player : Table PlayerRow (·.hiveUsername)
  disclosureAcknowledgment : Table DisclosureAcknowledgmentRow (·.id)
  rcDelegation : List String

/-! ### Reads -/

def mapJob (row : ProvisioningRow) : ProvisioningJob where
  externalIdentityId := row.externalIdentityId
  id := row.id
  idempotencyKey := row.idempotencyKey
  requestedHiveUsername := row.requestedHiveUsername
  sponsorHiveAccount := row.sponsorHiveAccount
  sponsorPolicyVersion := row.sponsorPolicyVersion
  sponsorProgram := row.sponsorProgram
  state := row.state

/-- `getJobForUpdate`, a plain `SELECT`. -/
def getJobForUpdate (provisioningId : Uuid) (db : Db) : Option ProvisioningJob :=
  (db.provisioning.find? provisioningId).map mapJob

/-- `getKeys`; the rows come back in some order of their roles. -/
def getKeys (provisioningId : Uuid) (db : Db) : List CustodyKeyReference :=
  (db.custodyKey.rows.filter fun key =>
    key.provisioningId = provisioningId && (key.state = .generated || key.state = .active)).map
      fun key => ⟨key.authorityRole, key.hivePublicKey, key.custodyProviderKeyReference⟩

/-! ### State transitions -/

/-- The `CHECK` constraints of `hive_account_provisioning` on a state and its evidence. -/
def provisioningChecks (row : ProvisioningRow) : Except Failure Unit := do
  require (row.state = .keysReady → row.keysReadyAt ≠ none)
    (.constraint "chk_provisioning_keys_ready")
  require (row.state = .accountCreated → row.accountObservedAt ≠ none)
    (.constraint "chk_provisioning_account_created")
  require (row.state = .rcDelegated → row.initialRcDelegationId ≠ none)
    (.constraint "chk_provisioning_rc_delegated")
  require (row.state = .ready → row.resultingPlayerId ≠ none ∧ row.keysReadyAt ≠ none ∧
      row.accountIrreversibleAt ≠ none ∧ row.authoritiesVerifiedAt ≠ none ∧
      row.initialRcDelegationId ≠ none ∧ row.rcVerifiedAt ≠ none ∧ row.readyAt ≠ none)
    (.constraint "chk_provisioning_ready")

/-- `varchar(n)` -/
def varchar (n : ℕ) (text : String) : Except Failure Unit :=
  require (text.length ≤ n) (.error "value too long for type character varying")

/-- `UPDATE hive_account_provisioning SET … WHERE id = … AND state IN (…)`; that no row matched is
not looked at. -/
def transition (provisioningId : Uuid) (states : List ProvisioningState)
    (set : Table.Assignment ProvisioningRow.id) (db : Db) : Except Failure Db := do
  let table ← db.provisioning.update (fun row => row.id = provisioningId ∧ row.state ∈ states) set
    fun _ new => provisioningChecks new
  pure { db with provisioning := table }

def markAccountCreationPending (provisioningId : Uuid) (sponsorRequestReference : String)
    (time : Timestamp) (db : Db) : Except Failure Db := do
  varchar 128 sponsorRequestReference
  transition provisioningId [.keysReady, .accountCreationPending, .retryableFailed]
    ⟨fun row => { row with
      state := .accountCreationPending
      sponsorRequestReference := row.sponsorRequestReference.or (some sponsorRequestReference)
      lastAttemptAt := some time
      attemptCount := row.attemptCount + 1
      updatedAt := time
      rowVersion := row.rowVersion + 1 }, fun _ => rfl⟩ db

def markAccountCreated (provisioningId : Uuid) (transactionId : String) (observedAt : Timestamp)
    (db : Db) : Except Failure Db := do
  varchar 128 transactionId
  transition provisioningId [.accountCreationPending, .accountCreated, .retryableFailed]
    ⟨fun row => { row with
      state := .accountCreated
      accountCreationTransactionId := row.accountCreationTransactionId.or (some transactionId)
      accountObservedAt := row.accountObservedAt.or (some observedAt)
      updatedAt := observedAt
      rowVersion := row.rowVersion + 1 }, fun _ => rfl⟩ db

def markRcDelegationPending (provisioningId : Uuid) (time : Timestamp) (db : Db) :
    Except Failure Db :=
  transition provisioningId [.accountCreated, .rcDelegationPending, .retryableFailed]
    ⟨fun row => { row with
      state := .rcDelegationPending
      updatedAt := time
      rowVersion := row.rowVersion + 1 }, fun _ => rfl⟩ db

/-- The delegation is a unique foreign key; it is only looked at when a row is updated. -/
def markRcDelegated (provisioningId : Uuid) (delegationReference : String) (time : Timestamp)
    (db : Db) : Except Failure Db := do
  require ((∃ row ∈ db.provisioning.rows, row.id = provisioningId ∧
        row.state ∈ [ProvisioningState.rcDelegationPending, .rcDelegated, .retryableFailed]) →
      delegationReference ∈ db.rcDelegation ∧
        ∀ row ∈ db.provisioning.rows, row.id ≠ provisioningId →
          row.initialRcDelegationId ≠ some delegationReference)
    (.constraint "fk_provisioning_rc_delegation")
  transition provisioningId [.rcDelegationPending, .rcDelegated, .retryableFailed]
    ⟨fun row => { row with
      state := .rcDelegated
      initialRcDelegationId := some delegationReference
      updatedAt := time
      rowVersion := row.rowVersion + 1 }, fun _ => rfl⟩ db

/-- `markRetryableFailure`.  In `$3 + interval '30 seconds'` an untyped parameter is an interval, and
PostgreSQL refuses to put the sum into a `timestamptz`: the statement fails before it looks at a row. -/
def markRetryableFailure (_provisioningId : Uuid) (_safeFailureCode : String) (_time : Timestamp)
    (_db : Db) : Except Failure Db :=
  .error (.error ("column \"next_retry_at\" is of type timestamp with time zone but expression is of " ++
    "type interval"))

/-! ### `saveKeys` -/

/-- Whether a key may stand beside the others: `uq_custody_key_current_provisioning_role`. -/
def keyRoleFree (rows : List CustodyKeyRow) (key : CustodyKeyRow) : Prop :=
  ∀ k ∈ rows, ¬ (k.state.current = true ∧ k.provisioningId = key.provisioningId ∧
    k.authorityRole = key.authorityRole)

instance (rows : List CustodyKeyRow) (key : CustodyKeyRow) : Decidable (keyRoleFree rows key) :=
  inferInstanceAs (Decidable (∀ k ∈ rows, _))

def generatedKeyRow (id provisioningId : Uuid) (key : CustodyKeyReference) (time : Timestamp) :
    CustodyKeyRow where
  id := id
  provisioningId := provisioningId
  playerId := none
  authorityRole := key.authorityRole
  hivePublicKey := key.hivePublicKey
  custodyProviderKeyReference := key.providerKeyReference
  state := .generated
  activatedAt := none
  createdAt := time

/-- The `INSERT … ON CONFLICT (custody_provider_key_reference) DO NOTHING` of each key: the rows
that the open transaction adds to `rows`. -/
def insertKeys (ids : ℕ → Uuid) (provisioningId : Uuid) (time : Timestamp) :
    ℕ → List CustodyKeyReference → List CustodyKeyRow → Except Failure (List CustodyKeyRow)
  | _, [], _ => .ok []
  | drawn, key :: keys, rows => do
    varchar 64 key.hivePublicKey
    if rows.any fun k => k.custodyProviderKeyReference = key.providerKeyReference then
      insertKeys ids provisioningId time (drawn + 1) keys rows
    else do
      require (keyRoleFree rows (generatedKeyRow (ids drawn) provisioningId key time))
        (.constraint "uq_custody_key_current_provisioning_role")
      require (∀ k ∈ rows, k.id ≠ ids drawn) (.constraint "custody_key_reference_pkey")
      let added ← insertKeys ids provisioningId time (drawn + 1) keys
        (rows ++ [generatedKeyRow (ids drawn) provisioningId key time])
      pure (generatedKeyRow (ids drawn) provisioningId key time :: added)

/-- `saveKeys` up to its count: the rows added and not yet committed. -/
def saveKeys (ids : ℕ → Uuid) (provisioningId : Uuid) (keys : List CustodyKeyReference)
    (time : Timestamp) (db : Db) : Except Failure (List CustodyKeyRow) := do
  let added ← insertKeys ids provisioningId time 0 keys db.custodyKey.rows
  require (((db.custodyKey.rows ++ added).filter fun k =>
      k.provisioningId = provisioningId && k.state = .generated).length = 4)
    (.error "Provisioning does not have exactly four generated keys.")
  pure added

/-- The rows of a transaction become visible; two transactions with one key cannot both commit. -/
def addKeys : List CustodyKeyRow → Table CustodyKeyRow (·.id) →
    Except Failure (Table CustodyKeyRow (·.id))
  | [], table => .ok table
  | key :: keys, table => do
    require (keyRoleFree table.rows key) (.constraint "uq_custody_key_current_provisioning_role")
    require (∀ k ∈ table.rows, k.custodyProviderKeyReference ≠ key.custodyProviderKeyReference)
      (.constraint "custody_key_reference_custody_provider_key_reference_key")
    let table ← table.insert key (.constraint "custody_key_reference_pkey")
    addKeys keys table

/-- The end of `saveKeys`: the update of the job, and `COMMIT`. -/
def saveKeysCommit (provisioningId : Uuid) (added : List CustodyKeyRow) (time : Timestamp)
    (db : Db) : Except Failure Db := do
  let table ← addKeys added db.custodyKey
  transition provisioningId [.usernameConfirmed, .keysReady, .retryableFailed]
    ⟨fun row => { row with
      state := .keysReady
      keysReadyAt := row.keysReadyAt.or (some time)
      updatedAt := time
      rowVersion := row.rowVersion + 1 }, fun _ => rfl⟩ { db with custodyKey := table }

/-! ### `markReady` -/

/-- `INSERT INTO player … ON CONFLICT (hive_username) DO UPDATE … RETURNING id` -/
def upsertPlayer (playerId : Uuid) (hiveUsername : String) (db : Db) :
    Except Failure (Uuid × Db) :=
  match db.player.find? hiveUsername with
  | some player => .ok (player.id, db)
  | none => do
    require (hiveUsername.toList.map Char.toLower = hiveUsername.toList)
      (.constraint "chk_player_hive_username_lower")
    require (∀ player ∈ db.player.rows, player.id ≠ playerId) (.constraint "player_pkey")
    let table ← db.player.insert ⟨playerId, hiveUsername, .platformCustodial⟩
      (.constraint "player_hive_username_key")
    pure (playerId, { db with player := table })

/-- The keys that `markReady` activates. -/
def activatable (provisioningId : Uuid) (k : CustodyKeyRow) : Prop :=
  k.provisioningId = provisioningId ∧ (k.state = .generated ∨ k.state = .active)

instance (provisioningId : Uuid) (k : CustodyKeyRow) : Decidable (activatable provisioningId k) :=
  inferInstanceAs (Decidable (_ ∧ _))

/-- `UPDATE custody_key_reference SET player_id = …, state = 'active' …` -/
def activateKeys (provisioningId playerId : Uuid) (time : Timestamp) (db : Db) :
    Except Failure Db := do
  require (∀ k ∈ db.custodyKey.rows, activatable provisioningId k → ∀ k' ∈ db.custodyKey.rows,
      ¬ activatable provisioningId k' → ¬ (k'.playerId = some playerId ∧ k'.state.current = true ∧
        k'.authorityRole = k.authorityRole))
    (.constraint "uq_custody_key_current_player_role")
  pure { db with
    custodyKey := db.custodyKey.modify (activatable provisioningId)
      ⟨fun k => { k with
        playerId := some playerId
        state := .active
        activatedAt := k.activatedAt.or (some time) }, fun _ => rfl⟩ }

/-- The update of the job in `markReady`. -/
def finishProvisioning (provisioningId playerId : Uuid) (time : Timestamp) (db : Db) :
    Except Failure Db := do
  require ((∃ row ∈ db.provisioning.rows, row.id = provisioningId ∧
        row.state ∈ [ProvisioningState.rcDelegated, .retryableFailed]) →
      ∀ row ∈ db.provisioning.rows, row.id ≠ provisioningId →
        row.resultingPlayerId ≠ some playerId)
    (.constraint "hive_account_provisioning_resulting_player_id_key")
  transition provisioningId [.rcDelegated, .retryableFailed]
    ⟨fun row => { row with
      resultingPlayerId := some playerId
      state := .ready
      accountIrreversibleAt := row.accountIrreversibleAt.or (some time)
      authoritiesVerifiedAt := row.authoritiesVerifiedAt.or (some time)
      rcVerifiedAt := row.rcVerifiedAt.or (some time)
      readyAt := row.readyAt.or (some time)
      updatedAt := time
      lastFailureCode := none
      nextRetryAt := none
      rowVersion := row.rowVersion + 1 }, fun _ => rfl⟩ db

/-- `UPDATE external_identity SET … WHERE id = … AND status = 'provisioning'` -/
def linkIdentity (externalIdentityId playerId : Uuid) (time : Timestamp) (db : Db) :
    Except Failure Db := do
  require ((∃ identity ∈ db.externalIdentity.rows, identity.id = externalIdentityId ∧
        identity.status = .provisioning) →
      ∀ identity ∈ db.externalIdentity.rows, identity.id ≠ externalIdentityId →
        identity.playerId ≠ some playerId)
    (.constraint "external_identity_player_id_key")
  pure { db with
    externalIdentity := db.externalIdentity.modify
      (fun identity => identity.id = externalIdentityId ∧ identity.status = .provisioning)
      ⟨fun identity => { identity with
        playerId := some playerId
        status := .linked
        linkedAt := identity.linkedAt.or (some time)
        updatedAt := time }, fun _ => rfl⟩ }

/-- `UPDATE public_record_disclosure_acknowledgment SET … WHERE … AND player_id IS NULL` -/
def linkAcknowledgments (externalIdentityId playerId : Uuid) (time : Timestamp) (db : Db) :
    Except Failure Db := do
  require (∀ a ∈ db.disclosureAcknowledgment.rows, ∀ b ∈ db.disclosureAcknowledgment.rows,
      a.externalIdentityId = some externalIdentityId ∧ a.playerId = none →
        ¬ (b.playerId = some playerId ∧ b.disclosureVersion = a.disclosureVersion))
    (.constraint "uq_disclosure_ack_player_version")
  pure { db with
    disclosureAcknowledgment := db.disclosureAcknowledgment.modify
      (fun row => row.externalIdentityId = some externalIdentityId ∧ row.playerId = none)
      ⟨fun row => { row with
        playerId := some playerId
        playerLinkedAt := row.playerLinkedAt.or (some time) }, fun _ => rfl⟩ }

/-- The statements of `markReady` after the early return. -/
def finalize (playerId : Uuid) (job : ProvisioningRow) (time : Timestamp) (db : Db) :
    Except Failure Db := do
  let (resultingPlayerId, db) ← upsertPlayer playerId job.requestedHiveUsername db
  let db ← activateKeys job.id resultingPlayerId time db
  let db ← finishProvisioning job.id resultingPlayerId time db
  let db ← linkIdentity job.externalIdentityId resultingPlayerId time db
  linkAcknowledgments job.externalIdentityId resultingPlayerId time db

def markReady (playerId provisioningId : Uuid) (time : Timestamp) (db : Db) : Except Failure Db :=
  match db.provisioning.find? provisioningId with
  | none => .error (.error "Provisioning job disappeared before finalization.")
  | some job => if job.state = .ready then .ok db else finalize playerId job time db

end HiveChameleon.Provisioning
