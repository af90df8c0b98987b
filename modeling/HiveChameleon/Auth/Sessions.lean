import HiveChameleon.Provisioning.Repository

/-!
# Auth.Sessions — logins, sessions and the statements that write them

What `auth.service.ts` builds for a login whose identity check succeeded, the table
`identity.auth_session` with its checks, and the statements of `createSession`, `rotateSession` and
`revokeSession` in `postgres-auth.repository.ts`.  The tokens that the service returns are left out.
-/

namespace HiveChameleon.Auth

open Gateway Lib
open Provisioning (HiveControlState)

inductive ClientPlatform where
  | webgl | windows | macos | linux
deriving DecidableEq, Repr

inductive ExternalSigningProvider where
  | keychain | hiveauth | hivesigner
deriving DecidableEq, Repr

/-- `identity.signing_provider` -/
inductive SigningProvider where
  | external (provider : ExternalSigningProvider)
  | custodialService
deriving DecidableEq, Repr

inductive AuthenticationMethod where
  | directHiveChallenge | googleOidc
deriving DecidableEq, Repr

structure PlayerIdentity where
  id : Uuid
  hiveControlState : HiveControlState
  hiveUsername : String
deriving DecidableEq, Repr

structure HiveLoginChallengeRecord where
  challenge : String
  expiresAt : Timestamp
  hiveUsername : String
  id : Uuid
  platform : ClientPlatform
deriving DecidableEq, Repr

inductive ExternalIdentityStatus where
  | provisioning | linked | disabled
deriving DecidableEq, Repr

structure ExternalIdentityRecord where
  id : Uuid
  player : Option PlayerIdentity
  status : ExternalIdentityStatus
  disclosureAcknowledged : Bool
deriving DecidableEq, Repr

structure NewSession where
  authenticationMethod : AuthenticationMethod
  custodialSigningEligible : Bool
  expiresAt : Timestamp
  externalIdentityId : Option Uuid
  hiveSigningProvider : Option SigningProvider
  id : Uuid
  issuedAt : Timestamp
  platform : ClientPlatform
  player : PlayerIdentity
  refreshTokenHash : String
deriving DecidableEq, Repr

/-! ### The service -/

/-- The configuration that `createSession` reads, within the bounds of `readInteger`. -/
structure AuthConfig where
  refreshTokenTtlSeconds : ℕ
  bounded : 3600 ≤ refreshTokenTtlSeconds ∧ refreshTokenTtlSeconds ≤ 90 * 24 * 60 * 60

/-- What a login draws: the session's id and the hash of its refresh token. -/
structure Draw where
  sessionId : Uuid
  refreshTokenHash : String
deriving DecidableEq, Repr

/-- Why a login was turned down before any session was made. -/
inductive LoginRefusal where
  | invalidHiveLogin | identityDisabled
deriving DecidableEq, Repr

namespace AuthService

variable (cfg : AuthConfig) (draw : Draw)

/-- `createSession`: what it passes to the repository. -/
def createSession (player : PlayerIdentity) (platform : ClientPlatform)
    (authenticationMethod : AuthenticationMethod) (signingProvider : Option SigningProvider)
    (externalIdentityId : Option Uuid) (custodialSigningEligible : Bool) (now : Timestamp) :
    NewSession where
  authenticationMethod := authenticationMethod
  custodialSigningEligible := custodialSigningEligible
  expiresAt := now + cfg.refreshTokenTtlSeconds * 1000
  externalIdentityId := externalIdentityId
  hiveSigningProvider := signingProvider
  id := draw.sessionId
  issuedAt := now
  platform := platform
  player := player
  refreshTokenHash := draw.refreshTokenHash

/-- `createHiveSession`, after the challenge was consumed and the signature looked at. -/
def createHiveSession (challenge : Option HiveLoginChallengeRecord) (verified : Bool)
    (player : PlayerIdentity) (signingProvider : ExternalSigningProvider) (now : Timestamp) :
    Except LoginRefusal NewSession :=
  match challenge with
  | none => .error .invalidHiveLogin
  | some challenge =>
    if verified then
      .ok (createSession cfg draw player challenge.platform .directHiveChallenge
        (some (.external signingProvider)) none false now)
    else .error .invalidHiveLogin

/-- `exchangeGoogle` for a verified identity; `none` when the identity goes to onboarding. -/
def exchangeGoogle (platform : ClientPlatform) (externalIdentity : ExternalIdentityRecord)
    (now : Timestamp) : Except LoginRefusal (Option NewSession) :=
  if externalIdentity.status = .disabled then .error .identityDisabled
  else match externalIdentity.player with
    | some player =>
      .ok (some (createSession cfg draw player platform .googleOidc (some .custodialService)
        (some externalIdentity.id) (player.hiveControlState = .platformCustodial) now))
    | none => .ok none

end AuthService

/-! ### The table -/

structure AuthSessionRow where
  id : Uuid
  playerId : Uuid
  externalIdentityId : Option Uuid
  refreshTokenHash : String
  platform : ClientPlatform
  authenticationMethod : AuthenticationMethod
  hiveSigningProvider : Option SigningProvider
  hiveControlStateAtIssue : HiveControlState
  custodialSigningEligible : Bool
  issuedAt : Timestamp
  lastUsedAt : Option Timestamp
  expiresAt : Timestamp
  revokedAt : Option Timestamp
  revocationReason : Option String
deriving DecidableEq, Repr

/-- The constraints of `auth_session`. -/
inductive AuthConstraint where
  | custodialSigner | expiry | googleIdentity | revokedTime
  | primaryKey | refreshTokenHash | oneOpenPerPlayer
deriving DecidableEq, Repr

/-- The `CHECK` constraints; a check passes when it is null. -/
def authSessionChecks (row : AuthSessionRow) : Except AuthConstraint Unit := do
  require ((row.custodialSigningEligible = true ∧
      (row.hiveSigningProvider = none ∨ row.hiveSigningProvider = some .custodialService) ∧
        row.hiveControlStateAtIssue = .platformCustodial) ∨
    (row.custodialSigningEligible = false ∧ row.hiveSigningProvider ≠ some .custodialService))
    .custodialSigner
  require (row.issuedAt < row.expiresAt) .expiry
  require (row.authenticationMethod = .googleOidc → row.externalIdentityId ≠ none) .googleIdentity
  require (∀ revokedAt ∈ row.revokedAt, row.issuedAt ≤ revokedAt) .revokedTime

abbrev SessionTable := Table AuthSessionRow (·.id)

/-- An open session of a player. -/
def AuthSessionRow.OpenFor (row : AuthSessionRow) (player : Uuid) : Prop :=
  row.playerId = player ∧ row.revokedAt = none

instance (row : AuthSessionRow) (player : Uuid) : Decidable (row.OpenFor player) :=
  inferInstanceAs (Decidable (_ ∧ _))

/-- The row that `createSession` inserts. -/
def NewSession.row (session : NewSession) : AuthSessionRow where
  id := session.id
  playerId := session.player.id
  externalIdentityId := session.externalIdentityId
  refreshTokenHash := session.refreshTokenHash
  platform := session.platform
  authenticationMethod := session.authenticationMethod
  hiveSigningProvider := session.hiveSigningProvider
  hiveControlStateAtIssue := session.player.hiveControlState
  custodialSigningEligible := session.custodialSigningEligible
  issuedAt := session.issuedAt
  lastUsedAt := none
  expiresAt := session.expiresAt
  revokedAt := none
  revocationReason := none

/-! ### The statements -/

/-- A call of the repository. -/
inductive SessionRequest where
  | createSession (session : NewSession)
  | rotateSession (currentRefreshTokenHash nextRefreshTokenHash : String) (usedAt : Timestamp)
  | revokeSession (sessionId : Uuid) (revokedAt : Timestamp) (reason : String)
deriving DecidableEq, Repr

/-- A request of the service, with the clock reading taken at its start. -/
inductive ServiceCall where
  | createHiveSession (draw : Draw) (challenge : Option HiveLoginChallengeRecord) (verified : Bool)
      (player : PlayerIdentity) (signingProvider : ExternalSigningProvider) (now : Timestamp)
  | exchangeGoogle (draw : Draw) (platform : ClientPlatform)
      (externalIdentity : ExternalIdentityRecord) (now : Timestamp)
  | refresh (currentRefreshTokenHash nextRefreshTokenHash : String) (now : Timestamp)
  | revokeSession (sessionId : Uuid) (now : Timestamp)
deriving DecidableEq, Repr

/-- The call of the repository that a request makes, if it makes one. -/
def ServiceCall.request (cfg : AuthConfig) : ServiceCall → Option SessionRequest
  | createHiveSession draw challenge verified player provider now =>
    match AuthService.createHiveSession cfg draw challenge verified player provider now with
    | .ok session => some (.createSession session)
    | .error _ => none
  | exchangeGoogle draw platform externalIdentity now =>
    match AuthService.exchangeGoogle cfg draw platform externalIdentity now with
    | .ok (some session) => some (.createSession session)
    | .ok none => none
    | .error _ => none
  | refresh current next now => some (.rotateSession current next now)
  | revokeSession sessionId now => some (.revokeSession sessionId now "player_logout")

namespace SessionRequest

/-- The `WHERE` of the first statement: the `UPDATE` of `createSession` and `revokeSession`, and
the `SELECT … FOR UPDATE` of `rotateSession`. -/
def Matches : SessionRequest → AuthSessionRow → Prop
  | createSession session, row => row.OpenFor session.player.id
  | rotateSession current _ usedAt, row =>
    row.refreshTokenHash = current ∧ row.revokedAt = none ∧ usedAt < row.expiresAt
  | revokeSession id _ _, row => row.id = id ∧ row.revokedAt = none

instance : ∀ (request : SessionRequest) (row : AuthSessionRow), Decidable (request.Matches row)
  | createSession _, _ => inferInstanceAs (Decidable (AuthSessionRow.OpenFor _ _))
  | rotateSession _ _ _, _ => inferInstanceAs (Decidable (_ ∧ _))
  | revokeSession _ _ _, _ => inferInstanceAs (Decidable (_ ∧ _))

/-- The `SET` of the transaction's `UPDATE`. -/
def assignment : SessionRequest → Table.Assignment AuthSessionRow.id
  | createSession session => ⟨fun row => { row with
      revokedAt := some session.issuedAt
      revocationReason := some "superseded_login" }, fun _ => rfl⟩
  | rotateSession _ next usedAt => ⟨fun row => { row with
      refreshTokenHash := next
      lastUsedAt := some usedAt }, fun _ => rfl⟩
  | revokeSession _ revokedAt reason => ⟨fun row => { row with
      revokedAt := some revokedAt
      revocationReason := some reason }, fun _ => rfl⟩

/-- The time that the transaction writes into `revoked_at`. -/
def revokedAt : SessionRequest → Option Timestamp
  | createSession session => some session.issuedAt
  | rotateSession _ _ _ => none
  | revokeSession _ revokedAt _ => some revokedAt

/-- The rows that a first statement finds, as its snapshot shows them. -/
def scan (request : SessionRequest) (table : SessionTable) : List Uuid :=
  (table.rows.filter fun row => request.Matches row).map (·.id)

/-- The first statement once it holds the rows `seen` of its snapshot: it goes on with those that
still match, and an `UPDATE` checks what it writes. -/
def lockRows (request : SessionRequest) (seen : List Uuid) (table : SessionTable) :
    Except AuthConstraint (List Uuid) := do
  let rows := table.rows.filter fun row => row.id ∈ seen ∧ request.Matches row
  match request with
  | rotateSession _ _ _ => pure (rows.map (·.id))
  | _ => do
    checkAll (fun row => authSessionChecks (request.assignment row)) rows
    pure (rows.map (·.id))

end SessionRequest

/-- The `INSERT` of `createSession`, in a transaction that has closed `rows`. -/
def insertSession (session : NewSession) (rows : List Uuid) (table : SessionTable) :
    Except AuthConstraint Unit := do
  authSessionChecks session.row
  require (∀ row ∈ table.rows, row.id ≠ session.id) .primaryKey
  require (∀ row ∈ table.rows, row.refreshTokenHash ≠ session.refreshTokenHash) .refreshTokenHash
  require (∀ row ∈ table.rows, row.OpenFor session.player.id → row.id ∈ rows) .oneOpenPerPlayer

/-- The `UPDATE` of `rotateSession` on the row that it holds. -/
def rotateRow (request : SessionRequest) (nextRefreshTokenHash : String) (rows : List Uuid)
    (table : SessionTable) : Except AuthConstraint Unit := do
  checkAll (fun row => authSessionChecks (request.assignment row))
    (table.rows.filter fun row => row.id ∈ rows)
  require (∀ row ∈ table.rows, row.id ∉ rows → row.refreshTokenHash ≠ nextRefreshTokenHash)
    .refreshTokenHash

namespace SessionRequest

/-- The second statement, of the two requests that have one. -/
def secondStatement (request : SessionRequest) (rows : List Uuid) (table : SessionTable) :
    Except AuthConstraint Unit :=
  match request with
  | createSession session => insertSession session rows table
  | rotateSession _ next _ => rotateRow request next rows table
  | revokeSession _ _ _ => .ok ()

/-- `COMMIT`: the new versions of the rows become visible, and the new row. -/
def commit (request : SessionRequest) (rows : List Uuid) (table : SessionTable) :
    Except AuthConstraint SessionTable :=
  match request with
  | createSession session =>
    (table.modify (fun row => row.id ∈ rows) request.assignment).insert session.row .primaryKey
  | _ => .ok (table.modify (fun row => row.id ∈ rows) request.assignment)

end SessionRequest

end HiveChameleon.Auth
