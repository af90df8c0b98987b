import HiveChameleon.Auth.Identities
import HiveChameleon.Provisioning.Service

/-!
# Provisioning.Onboarding — from a Google identity to a provisioning job

`OnboardingService` and its repository, `DisclosureService`, and the part of `exchangeGoogle` that
leads to onboarding, as programs over their ports.  The two digests, the scoped idempotency key and
the subject lookup hash, are parameters.
-/

namespace HiveChameleon.Provisioning

open Gateway Lib
open Auth (IdentityDb AcknowledgmentInput DisclosureAcknowledgment PublicRecordDisclosure
  ExternalIdentityRecord PlayerIdentity HttpProblem)

/-! ### The repository -/

structure OnboardingConfig where
  sponsorHiveAccount : String
  sponsorPolicyVersion : String
  sponsorProgram : String
deriving DecidableEq, Repr

structure ProvisioningStatus extends ProvisioningJob where
  retryAfter : Option Timestamp
  safeFailureCode : Option String
  updatedAt : Timestamp
deriving DecidableEq, Repr

def mapStatus (row : ProvisioningRow) : ProvisioningStatus where
  toProvisioningJob := mapJob row
  retryAfter := row.nextRetryAt
  safeFailureCode := row.lastFailureCode
  updatedAt := row.updatedAt

structure ConfirmInput where
  config : OnboardingConfig
  externalIdentityId : Uuid
  hiveUsername : String
  idempotencyKey : String
  now : Timestamp
deriving DecidableEq, Repr

/-- The rows of `uq_provisioning_reserved_username`. -/
def ProvisioningRow.Reserves (row : ProvisioningRow) (hiveUsername : String) : Prop :=
  row.requestedHiveUsername = hiveUsername ∧
    (row.state ≠ .terminalFailed ∨ row.accountObservedAt ≠ none)

instance (row : ProvisioningRow) (hiveUsername : String) : Decidable (row.Reserves hiveUsername) :=
  inferInstanceAs (Decidable (_ ∧ _))

def isUsernamePending (hiveUsername : String) (db : Db) : Bool :=
  db.provisioning.rows.any fun row => row.Reserves hiveUsername

def findForIdentity (externalIdentityId : Uuid) (db : Db) : Option ProvisioningStatus :=
  (db.provisioning.rows.find? fun row => row.externalIdentityId = externalIdentityId).map mapStatus

def findByIdForIdentity (provisioningId externalIdentityId : Uuid) (db : Db) :
    Option ProvisioningStatus :=
  (db.provisioning.rows.find? fun row =>
    row.id = provisioningId && row.externalIdentityId = externalIdentityId).map mapStatus

/-- The row that `confirmUsername` inserts; `createdAt` is the clock of the database. -/
def newJob (id : Uuid) (createdAt : Timestamp) (input : ConfirmInput) : ProvisioningRow where
  id := id
  externalIdentityId := input.externalIdentityId
  resultingPlayerId := none
  idempotencyKey := input.idempotencyKey
  requestedHiveUsername := input.hiveUsername
  state := .usernameConfirmed
  sponsorProgram := input.config.sponsorProgram
  sponsorPolicyVersion := input.config.sponsorPolicyVersion
  sponsorHiveAccount := input.config.sponsorHiveAccount
  sponsorRequestReference := none
  accountCreationTransactionId := none
  initialRcDelegationId := none
  usernameConfirmedAt := input.now
  keysReadyAt := none
  accountObservedAt := none
  accountIrreversibleAt := none
  authoritiesVerifiedAt := none
  rcVerifiedAt := none
  attemptCount := 0
  lastAttemptAt := none
  nextRetryAt := none
  lastFailureCode := none
  readyAt := none
  updatedAt := createdAt
  rowVersion := 1

/-- The constraints of a new job. -/
def newJobChecks (input : ConfirmInput) (db : Db) : Except Failure Unit := do
  varchar 128 input.idempotencyKey
  varchar 16 input.hiveUsername
  varchar 64 input.config.sponsorProgram
  varchar 32 input.config.sponsorPolicyVersion
  varchar 16 input.config.sponsorHiveAccount
  require (input.hiveUsername.toList.map Char.toLower = input.hiveUsername.toList)
    (.constraint "chk_provisioning_username_lower")
  require (input.config.sponsorHiveAccount.toList.map Char.toLower =
      input.config.sponsorHiveAccount.toList)
    (.constraint "chk_provisioning_sponsor_account_lower")
  require (∀ row ∈ db.provisioning.rows, row.idempotencyKey ≠ input.idempotencyKey)
    (.constraint "hive_account_provisioning_idempotency_key_key")
  require (∀ row ∈ db.provisioning.rows, ¬ row.Reserves input.hiveUsername)
    (.constraint "uq_provisioning_reserved_username")

/-- `confirmUsername`, one transaction that holds the row of the identity. -/
def confirmUsername (id : Uuid) (createdAt : Timestamp) (input : ConfirmInput) (db : Db) :
    Except Failure (ProvisioningStatus × Db) := do
  require (∃ identity ∈ db.externalIdentity.rows, identity.id = input.externalIdentityId ∧
      identity.status = .provisioning)
    (.error "Onboarding identity is not available for provisioning.")
  match db.provisioning.rows.find? fun row => row.externalIdentityId = input.externalIdentityId with
  | some current => do
    require (current.requestedHiveUsername = input.hiveUsername)
      (.error "A different permanent Hive username is already confirmed.")
    pure (mapStatus current, db)
  | none => do
    newJobChecks input db
    let table ← db.provisioning.insert (newJob id createdAt input)
      (.constraint "hive_account_provisioning_pkey")
    pure (mapStatus (newJob id createdAt input), { db with provisioning := table })

/-! ### Errors -/

inductive OnboardingError where
  | http (problem : HttpProblem)
  | failure (cause : Failure)
deriving DecidableEq, Repr

def usernameUnavailable (unavailableReason : Option String) : OnboardingError :=
  .http ⟨unavailableReason.getD "username_unavailable", "The Hive username is no longer available.",
    409, "Username unavailable"⟩

def onboardingConflict : OnboardingError :=
  .http ⟨"onboarding_conflict",
    "This onboarding identity already has a different permanent selection.", 409,
    "Onboarding conflict"⟩

def provisioningUnavailable : OnboardingError :=
  .http ⟨"provisioning_provider_unavailable",
    "Google-to-Hive provisioning is paused until approved sponsor and custody adapters are configured.",
    503, "Provisioning unavailable"⟩

def provisioningNotFound : OnboardingError :=
  .http ⟨"provisioning_not_found",
    "No provisioning operation is visible for this onboarding identity.", 404, "Not found"⟩

def disclosureUnavailable : OnboardingError :=
  .http ⟨"public_record_disclosure_unavailable",
    "The current permanent-public-record disclosure is not configured consistently.", 503,
    "Disclosure unavailable"⟩

def disclosureChanged : OnboardingError :=
  .http ⟨"disclosure_version_changed",
    "The disclosure changed before acknowledgment. Fetch and review the current version.", 409,
    "Disclosure changed"⟩

def identityDisabled : OnboardingError :=
  .http ⟨"identity_disabled", "This verified identity is disabled.", 409, "Identity disabled"⟩

/-! ### Requests -/

structure GoogleIdentity where
  issuer : String
  subject : String
deriving DecidableEq, Repr

/-- The calls of the services: the clock, the Hive and Google adapters, and the repositories. -/
inductive OnboardingRequest where
  | newDate
  | usernameExists (hiveUsername : String)
  | exchange (authorizationCode codeVerifier redirectUri : String)
  | isUsernamePending (hiveUsername : String)
  | findForIdentity (externalIdentityId : Uuid)
  | findByIdForIdentity (provisioningId externalIdentityId : Uuid)
  | confirmUsername (input : ConfirmInput)
  | getCurrentDisclosure (time : Timestamp)
  | acknowledgeCurrentDisclosure (input : AcknowledgmentInput)
  | upsertGoogleIdentity (verifiedIssuer subjectLookupHash : String) (authenticatedAt : Timestamp)
deriving DecidableEq

@[reducible] def OnboardingRequest.Response : OnboardingRequest → Type
  | .newDate => Timestamp
  | .usernameExists _ => Bool
  | .exchange _ _ _ => GoogleIdentity
  | .isUsernamePending _ => Bool
  | .findForIdentity _ => Option ProvisioningStatus
  | .findByIdForIdentity _ _ => Option ProvisioningStatus
  | .confirmUsername _ => ProvisioningStatus
  | .getCurrentDisclosure _ => Option PublicRecordDisclosure
  | .acknowledgeCurrentDisclosure _ => Option DisclosureAcknowledgment
  | .upsertGoogleIdentity _ _ _ => ExternalIdentityRecord

/-- A program of the API. -/
abbrev Onboarder (α : Type) := Prog OnboardingRequest OnboardingRequest.Response OnboardingError α

abbrev newDate : Onboarder Timestamp := Prog.request OnboardingRequest.newDate

/-! ### `OnboardingService` -/

structure Availability where
  available : Bool
  checkedAt : Timestamp
  hiveUsername : String
  unavailableReason : Option String
deriving DecidableEq, Repr

namespace OnboardingService

def checkUsername (hiveUsername : String) : Onboarder Availability := do
  let checkedAt ← newDate
  let existsOnHive ← Prog.request (OnboardingRequest.usernameExists hiveUsername)
  let pending ← Prog.request (OnboardingRequest.isUsernamePending hiveUsername)
  pure {
    available := !existsOnHive && !pending
    checkedAt := checkedAt
    hiveUsername := hiveUsername
    unavailableReason :=
      if existsOnHive then some "exists_on_hive"
      else if pending then some "pending_platform_job" else none }

def requireConfiguration : Option OnboardingConfig → Except OnboardingError OnboardingConfig
  | some config => .ok config
  | none => .error provisioningUnavailable

/-- The handler of `confirmUsername`: conflicts and unavailable services are raised again. -/
def confirmFailed : OnboardingError → Onboarder ProvisioningStatus
  | .http problem =>
    if problem.status = 409 ∨ problem.status = 503 then .throw (.http problem)
    else .throw onboardingConflict
  | .failure _ => .throw onboardingConflict

variable (scopedKey : Uuid → String → String) (config : Option OnboardingConfig)

def confirmUsername (externalIdentityId : Uuid) (hiveUsername idempotencyKey : String) :
    Onboarder ProvisioningStatus := do
  let config ← Prog.lift (requireConfiguration config)
  let availability ← checkUsername hiveUsername
  let existing ← Prog.request (OnboardingRequest.findForIdentity externalIdentityId)
  if ¬ availability.available ∧ existing.map (·.requestedHiveUsername) ≠ some hiveUsername then
    .throw (usernameUnavailable availability.unavailableReason)
  else
    (newDate >>= fun now => Prog.request (OnboardingRequest.confirmUsername {
      config := config
      externalIdentityId := externalIdentityId
      hiveUsername := hiveUsername
      idempotencyKey := scopedKey externalIdentityId idempotencyKey
      now := now })).orElse confirmFailed

def start (externalIdentityId : Uuid) : Onboarder ProvisioningStatus := do
  let _ ← Prog.lift (requireConfiguration config)
  let status ← Prog.request (OnboardingRequest.findForIdentity externalIdentityId)
  Prog.lift (status.elim (.error provisioningNotFound) .ok)

def getStatus (externalIdentityId provisioningId : Uuid) : Onboarder ProvisioningStatus := do
  let status ← Prog.request
    (OnboardingRequest.findByIdForIdentity provisioningId externalIdentityId)
  Prog.lift (status.elim (.error provisioningNotFound) .ok)

end OnboardingService

/-! ### `DisclosureService` -/

namespace DisclosureService

def expectedContentSha256 : String :=
  "64ae0b7b385c6f4c1287e25979c44fce05c51583f61f20c7bb7e31171d921cc3"

def getCurrent (now : Timestamp) : Onboarder PublicRecordDisclosure := do
  let disclosure ← Prog.request (OnboardingRequest.getCurrentDisclosure now)
  match disclosure with
  | some disclosure =>
    if disclosure.contentSha256 = expectedContentSha256 then pure disclosure
    else .throw disclosureUnavailable
  | none => .throw disclosureUnavailable

def acknowledge (contentSha256 disclosureVersion : String)
    (externalIdentityId playerId : Option Uuid) : Onboarder DisclosureAcknowledgment := do
  let now ← newDate
  if externalIdentityId = none ↔ playerId = none then
    .throw (.failure (.error "Exactly one disclosure subject is required."))
  else do
    let current ← getCurrent now
    if disclosureVersion ≠ current.version ∨ contentSha256 ≠ current.contentSha256 then
      .throw disclosureChanged
    else do
      let acknowledgment ← Prog.request (OnboardingRequest.acknowledgeCurrentDisclosure
        ⟨now, contentSha256, disclosureVersion, externalIdentityId, playerId⟩)
      Prog.lift (acknowledgment.elim (.error disclosureUnavailable) .ok)

end DisclosureService

/-! ### `exchangeGoogle` -/

inductive NextStep where
  | acknowledgeDisclosure | chooseUsername
deriving DecidableEq, Repr

/-- What an exchange leads to: a session for a player, or onboarding. -/
inductive GoogleExchange where
  | authenticated (player : PlayerIdentity) (externalIdentityId : Uuid)
  | onboarding (externalIdentityId : Uuid) (nextStep : NextStep)
deriving DecidableEq, Repr

def exchangeGoogle (subjectLookup : GoogleIdentity → String)
    (authorizationCode codeVerifier redirectUri : String) : Onboarder GoogleExchange := do
  let now ← newDate
  let identity ← Prog.request
    (OnboardingRequest.exchange authorizationCode codeVerifier redirectUri)
  let externalIdentity ← Prog.request
    (OnboardingRequest.upsertGoogleIdentity identity.issuer (subjectLookup identity) now)
  if externalIdentity.status = .disabled then .throw identityDisabled
  else match externalIdentity.player with
    | some player => pure (.authenticated player externalIdentity.id)
    | none => pure (.onboarding externalIdentity.id
        (if externalIdentity.disclosureAcknowledged then .chooseUsername else .acknowledgeDisclosure))

/-! ### The ports -/

/-- How a transaction ends for its caller: committed, refused, or with the connection lost before
or after the commit. -/
inductive StoreOutcome {α : Type} (result : Except Failure (α × IdentityDb)) (db : IdentityDb) :
    Except OnboardingError α → IdentityDb → Prop where
  | committed {a : α} {db' : IdentityDb} (h : result = .ok (a, db')) : StoreOutcome result db (.ok a) db'
  | refused {e : Failure} (h : result = .error e) :
    StoreOutcome result db (.error (.failure e)) db
  | unsent : StoreOutcome result db (.error (.failure .unavailable)) db
  | unacknowledged {a : α} {db' : IdentityDb} (h : result = .ok (a, db')) :
    StoreOutcome result db (.error (.failure .unavailable)) db'

/-- `confirmUsername` over all the tables. -/
def storeConfirmation (id : Uuid) (createdAt : Timestamp) (input : ConfirmInput) (db : IdentityDb) :
    Except Failure (ProvisioningStatus × IdentityDb) := do
  let (status, tables) ← confirmUsername id createdAt input db.toDb
  pure (status, { db with toDb := tables })

/-- How a request is answered; the clock, Hive and Google answer anything. -/
def answerOnboarding : (q : OnboardingRequest) → IdentityDb → Except OnboardingError q.Response →
    IdentityDb → Prop
  | .newDate, db, r, db' => db' = db ∧ ∃ time, r = .ok time
  | .usernameExists _, db, _, db' => db' = db
  | .exchange _ _ _, db, _, db' => db' = db
  | .isUsernamePending hiveUsername, db, r, db' => db' = db ∧
    (r = .ok (isUsernamePending hiveUsername db.toDb) ∨ r = .error (.failure .unavailable))
  | .findForIdentity externalIdentityId, db, r, db' => db' = db ∧
    (r = .ok (findForIdentity externalIdentityId db.toDb) ∨ r = .error (.failure .unavailable))
  | .findByIdForIdentity provisioningId externalIdentityId, db, r, db' => db' = db ∧
    (r = .ok (findByIdForIdentity provisioningId externalIdentityId db.toDb) ∨
      r = .error (.failure .unavailable))
  | .confirmUsername input, db, r, db' =>
    ∃ id createdAt, StoreOutcome (storeConfirmation id createdAt input db) db r db'
  | .getCurrentDisclosure time, db, r, db' => db' = db ∧
    ((∃ disclosure, r = .ok disclosure ∧ Auth.getCurrentDisclosure time db disclosure) ∨
      r = .error (.failure .unavailable))
  | .acknowledgeCurrentDisclosure input, db, r, db' =>
    ∃ id, StoreOutcome (Auth.acknowledgeCurrentDisclosure id input db) db r db'
  | .upsertGoogleIdentity issuer hash time, db, r, db' =>
    ∃ id, ∃ answer, StoreOutcome (Auth.upsertGoogleIdentity id issuer hash time db) db answer db' ∧
      r = answer.bind fun record => record.mapError .failure

theorem StoreOutcome.db_cases {α : Type} {result : Except Failure (α × IdentityDb)}
    {db db' : IdentityDb} {r : Except OnboardingError α} (h : StoreOutcome result db r db') :
    (∃ a, result = .ok (a, db')) ∨ db' = db ∧ ∃ e, r = .error e := by
  cases h with
  | committed h => exact .inl ⟨_, h⟩
  | refused h => exact .inr ⟨rfl, _, rfl⟩
  | unsent => exact .inr ⟨rfl, _, rfl⟩
  | unacknowledged h => exact .inl ⟨_, h⟩

end HiveChameleon.Provisioning
