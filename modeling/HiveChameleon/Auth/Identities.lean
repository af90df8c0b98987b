import HiveChameleon.Auth.Sessions

/-!
# Auth.Identities — players, Google identities, disclosures and login challenges

The remaining statements of `postgres-auth.repository.ts`, one transaction each, over the tables of
the schema `identity`.  An id that a statement draws is an argument.
-/

namespace HiveChameleon.Auth

open Gateway Lib
open Provisioning (Failure PlayerRow ExternalIdentityRow DisclosureAcknowledgmentRow varchar)

/-- The body of an HTTP error. -/
structure HttpProblem where
  code : String
  detail : String
  status : ℕ
  title : String
deriving DecidableEq, Repr

/-! ### Tables -/

structure PublicRecordDisclosureRow where
  disclosureVersion : String
  contentSha256 : String
  effectiveAt : Timestamp
  retiredAt : Option Timestamp
deriving DecidableEq, Repr

structure HiveLoginChallengeRow where
  id : Uuid
  hiveUsername : String
  platform : ClientPlatform
  deviceSessionId : Uuid
  challengeText : String
  challengeSha256 : String
  issuedAt : Timestamp
  expiresAt : Timestamp
  consumedAt : Option Timestamp
deriving DecidableEq, Repr

/-- The tables of provisioning, with the disclosures and the login challenges. -/
structure IdentityDb extends Provisioning.Db where
  publicRecordDisclosure : Table PublicRecordDisclosureRow (·.disclosureVersion)
  hiveLoginChallenge : Table HiveLoginChallengeRow (·.id)

/-! ### Disclosures -/

/-- A disclosure in force at a time. -/
def PublicRecordDisclosureRow.InForce (row : PublicRecordDisclosureRow) (time : Timestamp) : Prop :=
  row.effectiveAt ≤ time ∧ ∀ retiredAt ∈ row.retiredAt, time < retiredAt

instance (row : PublicRecordDisclosureRow) (time : Timestamp) : Decidable (row.InForce time) :=
  inferInstanceAs (Decidable (_ ∧ _))

/-- The newest disclosure in force: `ORDER BY effective_at DESC LIMIT 1`. -/
def Current (time : Timestamp) (row : PublicRecordDisclosureRow) (db : IdentityDb) : Prop :=
  row ∈ db.publicRecordDisclosure.rows ∧ row.InForce time ∧
    ∀ other ∈ db.publicRecordDisclosure.rows, other.InForce time →
      other.effectiveAt ≤ row.effectiveAt

structure PublicRecordDisclosure where
  contentSha256 : String
  effectiveAt : Timestamp
  version : String
deriving DecidableEq, Repr

/-- What `getCurrentDisclosure` may return. -/
def getCurrentDisclosure (time : Timestamp) (db : IdentityDb) :
    Option PublicRecordDisclosure → Prop
  | some disclosure => ∃ row, Current time row db ∧
      disclosure = ⟨row.contentSha256, row.effectiveAt, row.disclosureVersion⟩
  | none => ∀ row ∈ db.publicRecordDisclosure.rows, ¬ row.InForce time

structure AcknowledgmentInput where
  acknowledgedAt : Timestamp
  contentSha256 : String
  disclosureVersion : String
  externalIdentityId : Option Uuid
  playerId : Option Uuid
deriving DecidableEq, Repr

structure DisclosureAcknowledgment where
  acknowledgedAt : Timestamp
  disclosureVersion : String
  id : Uuid
deriving DecidableEq, Repr

/-- The row that an acknowledgment inserts. -/
def AcknowledgmentInput.row (input : AcknowledgmentInput) (id : Uuid) :
    DisclosureAcknowledgmentRow where
  id := id
  disclosureVersion := input.disclosureVersion
  externalIdentityId := input.externalIdentityId
  playerId := input.playerId
  source := if input.externalIdentityId = none then .directHivePreParticipation
    else .googlePreProvisioning
  acknowledgedAt := input.acknowledgedAt
  playerLinkedAt := none

/-- The acknowledgments that the subject of a new one already has. -/
def AcknowledgmentInput.Made (input : AcknowledgmentInput) (row : DisclosureAcknowledgmentRow) :
    Prop :=
  row.disclosureVersion = input.disclosureVersion ∧
    ((input.externalIdentityId ≠ none ∧ row.externalIdentityId = input.externalIdentityId) ∨
      (input.playerId ≠ none ∧ row.playerId = input.playerId))

instance (input : AcknowledgmentInput) (row : DisclosureAcknowledgmentRow) :
    Decidable (input.Made row) :=
  inferInstanceAs (Decidable (_ ∧ _))

/-- The `CHECK` constraints and foreign keys of a new acknowledgment. -/
def acknowledgmentChecks (input : AcknowledgmentInput) (db : IdentityDb) : Except Failure Unit := do
  varchar 32 input.disclosureVersion
  require (input.externalIdentityId ≠ none ∨ input.playerId ≠ none)
    (.constraint "chk_disclosure_ack_subject")
  require (∀ id ∈ input.externalIdentityId, ∃ identity ∈ db.externalIdentity.rows, identity.id = id)
    (.constraint "fk_disclosure_ack_external")
  require (∀ id ∈ input.playerId, ∃ player ∈ db.player.rows, player.id = id)
    (.constraint "fk_disclosure_ack_player")

/-- `INSERT … ON CONFLICT DO NOTHING` of an acknowledgment. -/
def insertAcknowledgment (id : Uuid) (input : AcknowledgmentInput) (db : IdentityDb) :
    Except Failure IdentityDb := do
  acknowledgmentChecks input db
  if ∃ row ∈ db.disclosureAcknowledgment.rows, input.Made row then pure db
  else match db.disclosureAcknowledgment.insert? (input.row id) with
    | some table => pure { db with disclosureAcknowledgment := table }
    | none => pure db

/-- The first row with the least time: `ORDER BY acknowledged_at LIMIT 1`. -/
def earliest : List DisclosureAcknowledgmentRow → Option DisclosureAcknowledgmentRow
  | [] => none
  | row :: rows => match earliest rows with
    | none => some row
    | some first => if first.acknowledgedAt < row.acknowledgedAt then some first else some row

def acknowledgeCurrentDisclosure (id : Uuid) (input : AcknowledgmentInput) (db : IdentityDb) :
    Except Failure (Option DisclosureAcknowledgment × IdentityDb) :=
  if ∃ row ∈ db.publicRecordDisclosure.rows, row.disclosureVersion = input.disclosureVersion ∧
      row.contentSha256 = input.contentSha256 ∧ row.InForce input.acknowledgedAt then do
    let db ← insertAcknowledgment id input db
    pure ((earliest (db.disclosureAcknowledgment.rows.filter fun row => input.Made row)).map
      fun row => ⟨row.acknowledgedAt, row.disclosureVersion, row.id⟩, db)
  else .ok (none, db)

/-! ### Identities and players -/

def mapPlayer (row : PlayerRow) : PlayerIdentity where
  id := row.id
  hiveControlState := row.hiveControlState
  hiveUsername := row.hiveUsername

def mapStatus : Provisioning.ExternalIdentityStatus → ExternalIdentityStatus
  | .provisioning => .provisioning
  | .linked => .linked
  | .disabled => .disabled

/-- A Google identity has acknowledged a disclosure in force. -/
def disclosureAcknowledged (externalIdentityId : Uuid) (time : Timestamp) (db : IdentityDb) : Prop :=
  ∃ disclosure ∈ db.publicRecordDisclosure.rows, disclosure.InForce time ∧
    ∃ row ∈ db.disclosureAcknowledgment.rows, row.externalIdentityId = some externalIdentityId ∧
      row.disclosureVersion = disclosure.disclosureVersion

instance (externalIdentityId : Uuid) (time : Timestamp) (db : IdentityDb) :
    Decidable (disclosureAcknowledged externalIdentityId time db) :=
  inferInstanceAs (Decidable (∃ _ ∈ _, _))

/-- The row of a Google identity that signs in for the first time. -/
def newIdentity (id : Uuid) (verifiedIssuer subjectLookupHash : String) (time : Timestamp) :
    ExternalIdentityRow where
  id := id
  verifiedIssuer := verifiedIssuer
  subjectLookupHash := subjectLookupHash
  playerId := none
  status := .provisioning
  verifiedAt := time
  linkedAt := none
  lastAuthenticatedAt := time
  updatedAt := time

/-- The `SET` of the `ON CONFLICT … DO UPDATE`. -/
def authenticated (time : Timestamp) : Table.Assignment ExternalIdentityRow.id :=
  ⟨fun identity => { identity with lastAuthenticatedAt := time, updatedAt := time }, fun _ => rfl⟩

/-- The rows of one verified subject. -/
def IsSubject (verifiedIssuer subjectLookupHash : String) (identity : ExternalIdentityRow) : Prop :=
  identity.verifiedIssuer = verifiedIssuer ∧ identity.subjectLookupHash = subjectLookupHash

instance (verifiedIssuer subjectLookupHash : String) (identity : ExternalIdentityRow) :
    Decidable (IsSubject verifiedIssuer subjectLookupHash identity) :=
  inferInstanceAs (Decidable (_ ∧ _))

/-- The `SELECT` of `upsertGoogleIdentity`. -/
def identityRecord (identity : ExternalIdentityRow) (time : Timestamp) (db : IdentityDb) :
    Except Failure ExternalIdentityRecord :=
  match identity.playerId with
  | none => .ok ⟨identity.id, none, mapStatus identity.status,
      decide (disclosureAcknowledged identity.id time db)⟩
  | some playerId =>
    match db.player.rows.find? fun player => player.id = playerId with
    | none => .error (.error "Linked external identity is missing its player row.")
    | some player => .ok ⟨identity.id, some (mapPlayer player), mapStatus identity.status,
        decide (disclosureAcknowledged identity.id time db)⟩

/-- The `INSERT … ON CONFLICT … DO UPDATE … RETURNING` of a Google identity. -/
def upsertIdentity (id : Uuid) (verifiedIssuer subjectLookupHash : String) (time : Timestamp)
    (db : IdentityDb) : Except Failure (ExternalIdentityRow × IdentityDb) := do
  varchar 255 verifiedIssuer
  varchar 64 subjectLookupHash
  match db.externalIdentity.rows.find? fun identity =>
      IsSubject verifiedIssuer subjectLookupHash identity with
  | some identity => do
    require (identity.verifiedAt ≤ time) (.constraint "chk_external_identity_auth_time")
    pure (authenticated time identity, { db with
      externalIdentity := db.externalIdentity.modify
        (fun row => IsSubject verifiedIssuer subjectLookupHash row) (authenticated time) })
  | none => do
    let table ← db.externalIdentity.insert (newIdentity id verifiedIssuer subjectLookupHash time)
      (.constraint "external_identity_pkey")
    pure (newIdentity id verifiedIssuer subjectLookupHash time, { db with externalIdentity := table })

/-- `upsertGoogleIdentity`, one statement; a row that cannot be mapped is an error after it. -/
def upsertGoogleIdentity (id : Uuid) (verifiedIssuer subjectLookupHash : String) (time : Timestamp)
    (db : IdentityDb) : Except Failure (Except Failure ExternalIdentityRecord × IdentityDb) := do
  let (identity, db') ← upsertIdentity id verifiedIssuer subjectLookupHash time db
  pure (identityRecord identity time db, db')

/-- `findOrCreateDirectHivePlayer`; the conflict clause sets the username to itself. -/
def findOrCreateDirectHivePlayer (id : Uuid) (hiveUsername : String) (db : IdentityDb) :
    Except Failure (PlayerIdentity × IdentityDb) :=
  match db.player.find? hiveUsername with
  | some player => .ok (mapPlayer player, db)
  | none => do
    varchar 16 hiveUsername
    require (hiveUsername.toList.map Char.toLower = hiveUsername.toList)
      (.constraint "chk_player_hive_username_lower")
    require (∀ player ∈ db.player.rows, player.id ≠ id) (.constraint "player_pkey")
    let table ← db.player.insert ⟨id, hiveUsername, .externalSelfCustodial⟩
      (.constraint "player_hive_username_key")
    pure (⟨id, .externalSelfCustodial, hiveUsername⟩, { db with player := table })

/-! ### Login challenges -/

/-- The `CHECK` constraints of a challenge; the hash is the digest of the text. -/
def challengeChecks (sha256 : String → String) (row : HiveLoginChallengeRow) :
    Except Failure Unit := do
  varchar 16 row.hiveUsername
  require (row.hiveUsername.toList.map Char.toLower = row.hiveUsername.toList)
    (.constraint "chk_hive_login_challenge_username_lower")
  require (row.issuedAt < row.expiresAt) (.constraint "chk_hive_login_challenge_expiry")
  require (∀ consumedAt ∈ row.consumedAt, row.issuedAt ≤ consumedAt)
    (.constraint "chk_hive_login_challenge_consumed")
  require (sha256 row.challengeText = row.challengeSha256)
    (.constraint "chk_hive_login_challenge_hash")

/-- The `INSERT` of `createHiveChallenge`. -/
def createHiveChallenge (sha256 : String → String) (row : HiveLoginChallengeRow) (db : IdentityDb) :
    Except Failure IdentityDb := do
  challengeChecks sha256 row
  require (∀ other ∈ db.hiveLoginChallenge.rows, other.challengeSha256 ≠ row.challengeSha256)
    (.constraint "hive_login_challenge_challenge_sha256_key")
  let table ← db.hiveLoginChallenge.insert row (.constraint "hive_login_challenge_pkey")
  pure { db with hiveLoginChallenge := table }

/-- The `WHERE` of `consumeHiveChallenge`. -/
def Consumable (challengeId : Uuid) (hiveUsername : String) (consumedAt : Timestamp)
    (row : HiveLoginChallengeRow) : Prop :=
  row.id = challengeId ∧ row.hiveUsername = hiveUsername ∧ row.consumedAt = none ∧
    consumedAt < row.expiresAt

instance (challengeId : Uuid) (hiveUsername : String) (consumedAt : Timestamp)
    (row : HiveLoginChallengeRow) : Decidable (Consumable challengeId hiveUsername consumedAt row) :=
  inferInstanceAs (Decidable (_ ∧ _))

/-- The `SET` of `consumeHiveChallenge`. -/
def consumed (consumedAt : Timestamp) : Table.Assignment HiveLoginChallengeRow.id :=
  ⟨fun row => { row with consumedAt := some consumedAt }, fun _ => rfl⟩

def mapChallenge (row : HiveLoginChallengeRow) : HiveLoginChallengeRecord where
  challenge := row.challengeText
  expiresAt := row.expiresAt
  hiveUsername := row.hiveUsername
  id := row.id
  platform := row.platform

/-- `consumeHiveChallenge`, one `UPDATE … RETURNING`. -/
def consumeHiveChallenge (sha256 : String → String) (challengeId : Uuid) (hiveUsername : String)
    (consumedAt : Timestamp) (db : IdentityDb) :
    Except Failure (Option HiveLoginChallengeRecord × IdentityDb) := do
  let table ← db.hiveLoginChallenge.update (Consumable challengeId hiveUsername consumedAt)
    (consumed consumedAt) fun _ new => challengeChecks sha256 new
  pure ((db.hiveLoginChallenge.rows.find? fun row =>
    Consumable challengeId hiveUsername consumedAt row).map mapChallenge,
      { db with hiveLoginChallenge := table })

end HiveChameleon.Auth
