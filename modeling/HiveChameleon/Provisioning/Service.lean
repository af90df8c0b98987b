import HiveChameleon.Lib.Prog
import HiveChameleon.Provisioning.Repository

/-!
# Provisioning.Service — `ProvisioningService.process`

The coordinator as a program over its four ports: the repository, the custody and sponsor
providers and the chain verifier.  Any number of calls run side by side on one job; each request
may fail, before or after its transaction committed, and each call may stop anywhere.
-/

namespace HiveChameleon.Provisioning

open Gateway Lib

structure ClaimedAccount where
  requestReference : String
  transactionId : String
deriving DecidableEq, Repr

structure Verification where
  accountIrreversible : Bool
  authoritiesMatch : Bool
  initialResourceCreditsReady : Bool
deriving DecidableEq, Repr

/-- The public key of each role. -/
abbrev KeyMap := List (HiveAuthorityRole × String)

/-- The calls `process` makes. -/
inductive Request where
  | getJobForUpdate (provisioningId : Uuid)
  | getKeys (provisioningId : Uuid)
  | saveKeys (provisioningId : Uuid) (keys : List CustodyKeyReference) (time : Timestamp)
  | saveKeysCommit (provisioningId : Uuid) (added : List CustodyKeyRow) (time : Timestamp)
  | markAccountCreationPending (provisioningId : Uuid) (sponsorRequestReference : String)
      (time : Timestamp)
  | markAccountCreated (provisioningId : Uuid) (transactionId : String) (observedAt : Timestamp)
  | markRcDelegationPending (provisioningId : Uuid) (time : Timestamp)
  | markRcDelegated (provisioningId : Uuid) (delegationReference : String) (time : Timestamp)
  | markReady (provisioningId : Uuid) (time : Timestamp)
  | markRetryableFailure (provisioningId : Uuid) (safeFailureCode : String) (time : Timestamp)
  | generateAuthorityKeys (idempotencyKey : String) (provisioningId : Uuid)
      (roles : List HiveAuthorityRole)
  | createClaimedAccount (idempotencyKey : String) (keys : KeyMap) (policyVersion : String)
      (sponsorHiveAccount username : String)
  | delegateInitialResourceCredits (idempotencyKey policyVersion sponsorHiveAccount : String)
      (username : String)
  | verifyReady (expectedKeys : KeyMap) (sponsorHiveAccount username : String)
deriving DecidableEq

/-- What each call returns. -/
@[reducible] def Request.Response : Request → Type
  | .getJobForUpdate _ => Option ProvisioningJob
  | .getKeys _ => List CustodyKeyReference
  | .saveKeys _ _ _ => List CustodyKeyRow
  | .saveKeysCommit _ _ _ => Unit
  | .markAccountCreationPending _ _ _ => Unit
  | .markAccountCreated _ _ _ => Unit
  | .markRcDelegationPending _ _ => Unit
  | .markRcDelegated _ _ _ => Unit
  | .markReady _ _ => Unit
  | .markRetryableFailure _ _ _ => Unit
  | .generateAuthorityKeys _ _ _ => List CustodyKeyReference
  | .createClaimedAccount _ _ _ _ _ => ClaimedAccount
  | .delegateInitialResourceCredits _ _ _ _ => String
  | .verifyReady _ _ _ => Verification

/-- A program of the coordinator. -/
abbrev Provisioner (α : Type) := Prog Request Request.Response Failure α

/-! The four ports: `ProvisioningRepository`, `CustodyProvisioningProvider`,
`SignupSponsorProvider` and `ProvisioningChainVerifier`. -/

namespace Repository

abbrev getJobForUpdate (provisioningId : Uuid) : Provisioner (Option ProvisioningJob) :=
  Prog.request (Request.getJobForUpdate provisioningId)

abbrev getKeys (provisioningId : Uuid) : Provisioner (List CustodyKeyReference) :=
  Prog.request (Request.getKeys provisioningId)

abbrev insertKeys (provisioningId : Uuid) (keys : List CustodyKeyReference) (time : Timestamp) :
    Provisioner (List CustodyKeyRow) :=
  Prog.request (Request.saveKeys provisioningId keys time)

abbrev commitKeys (provisioningId : Uuid) (added : List CustodyKeyRow) (time : Timestamp) :
    Provisioner Unit :=
  Prog.request (Request.saveKeysCommit provisioningId added time)

/-- `saveKeys`, one transaction in two steps. -/
def saveKeys (provisioningId : Uuid) (keys : List CustodyKeyReference) (time : Timestamp) :
    Provisioner Unit := do
  let added ← insertKeys provisioningId keys time
  commitKeys provisioningId added time

abbrev markAccountCreationPending (provisioningId : Uuid) (sponsorRequestReference : String)
    (time : Timestamp) : Provisioner Unit :=
  Prog.request (Request.markAccountCreationPending provisioningId sponsorRequestReference time)

abbrev markAccountCreated (provisioningId : Uuid) (transactionId : String)
    (observedAt : Timestamp) : Provisioner Unit :=
  Prog.request (Request.markAccountCreated provisioningId transactionId observedAt)

abbrev markRcDelegationPending (provisioningId : Uuid) (time : Timestamp) : Provisioner Unit :=
  Prog.request (Request.markRcDelegationPending provisioningId time)

abbrev markRcDelegated (provisioningId : Uuid) (delegationReference : String) (time : Timestamp) :
    Provisioner Unit :=
  Prog.request (Request.markRcDelegated provisioningId delegationReference time)

abbrev markReady (provisioningId : Uuid) (time : Timestamp) : Provisioner Unit :=
  Prog.request (Request.markReady provisioningId time)

abbrev markRetryableFailure (provisioningId : Uuid) (safeFailureCode : String) (time : Timestamp) :
    Provisioner Unit :=
  Prog.request (Request.markRetryableFailure provisioningId safeFailureCode time)

end Repository

namespace Custody

abbrev generateAuthorityKeys (idempotencyKey : String) (provisioningId : Uuid)
    (roles : List HiveAuthorityRole) : Provisioner (List CustodyKeyReference) :=
  Prog.request (Request.generateAuthorityKeys idempotencyKey provisioningId roles)

end Custody

namespace Sponsor

abbrev createClaimedAccount (idempotencyKey : String) (keys : KeyMap) (policyVersion : String)
    (sponsorHiveAccount username : String) : Provisioner ClaimedAccount :=
  Prog.request (Request.createClaimedAccount idempotencyKey keys policyVersion sponsorHiveAccount
    username)

abbrev delegateInitialResourceCredits (idempotencyKey policyVersion sponsorHiveAccount : String)
    (username : String) : Provisioner String :=
  Prog.request (Request.delegateInitialResourceCredits idempotencyKey policyVersion
    sponsorHiveAccount username)

end Sponsor

namespace Chain

abbrev verifyReady (expectedKeys : KeyMap) (sponsorHiveAccount username : String) :
    Provisioner Verification :=
  Prog.request (Request.verifyReady expectedKeys sponsorHiveAccount username)

end Chain

/-! ### The program -/

/-- The loop of `keyMap` over the keys. -/
def keyMapFrom (entries : KeyMap) : List CustodyKeyReference → Except Failure KeyMap
  | [] => .ok entries
  | key :: keys => do
    require (key.authorityRole ∉ entries.map (·.1) ∧ key.hivePublicKey ≠ "" ∧
        key.providerKeyReference ≠ "")
      (.error "Custody provider returned an invalid authority-key set.")
    keyMapFrom (entries ++ [(key.authorityRole, key.hivePublicKey)]) keys

def keyMap (keys : List CustodyKeyReference) : Except Failure KeyMap := do
  let entries ← keyMapFrom [] keys
  require (∀ role ∈ authorityRoles, role ∈ entries.map (·.1))
    (.error "Custody provider did not generate every required authority role.")
  pure entries

def ensureKeys (job : ProvisioningJob) (now : Timestamp) :
    Provisioner (List CustodyKeyReference) := do
  let existing ← Repository.getKeys job.id
  if existing.length = authorityRoles.length then do
    let _ ← Prog.lift (keyMap existing)
    pure existing
  else if existing.length ≠ 0 then
    .throw (.error "Provisioning has an incomplete custody-key set.")
  else do
    let generated ←
      Custody.generateAuthorityKeys (job.idempotencyKey ++ ":keys") job.id authorityRoles
    let _ ← Prog.lift (keyMap generated)
    Repository.saveKeys job.id generated now
    pure generated

/-- The states from which the account is created. -/
def accountStates : List ProvisioningState :=
  [.usernameConfirmed, .keysReady, .accountCreationPending, .retryableFailed]

def createAccount (job : ProvisioningJob) (keys : KeyMap) (now : Timestamp) : Provisioner Unit := do
  let account ← Sponsor.createClaimedAccount (job.idempotencyKey ++ ":account") keys
    job.sponsorPolicyVersion job.sponsorHiveAccount job.requestedHiveUsername
  Repository.markAccountCreationPending job.id account.requestReference now
  let accountVerification ←
    Chain.verifyReady keys job.sponsorHiveAccount job.requestedHiveUsername
  if ¬ (accountVerification.accountIrreversible ∧ accountVerification.authoritiesMatch) then
    .throw (.retryable "hive_account_confirmation_pending")
  else Repository.markAccountCreated job.id account.transactionId now

def delegateCredits (job : ProvisioningJob) (now : Timestamp) : Provisioner Unit := do
  Repository.markRcDelegationPending job.id now
  let delegationReference ← Sponsor.delegateInitialResourceCredits
    (job.idempotencyKey ++ ":initial-rc") job.sponsorPolicyVersion job.sponsorHiveAccount
    job.requestedHiveUsername
  Repository.markRcDelegated job.id delegationReference now

/-- The `try` block of `process`. -/
def attempt (job : ProvisioningJob) (now : Timestamp) : Provisioner ProvisioningJob := do
  let keyReferences ← ensureKeys job now
  let keys ← Prog.lift (keyMap keyReferences)
  (if job.state ∈ accountStates then createAccount job keys now else pure ())
  (if job.state ≠ .rcDelegated then delegateCredits job now else pure ())
  let verification ← Chain.verifyReady keys job.sponsorHiveAccount job.requestedHiveUsername
  if ¬ (verification.accountIrreversible ∧ verification.authoritiesMatch ∧
      verification.initialResourceCreditsReady) then
    .throw (.retryable "hive_confirmation_pending")
  else do
    Repository.markReady job.id now
    pure { job with state := .ready }

def safeCode : Failure → String
  | .retryable code => code
  | _ => "provisioning_provider_unavailable"

/-- The `catch` block: the failure is recorded and raised again. -/
def recordFailure (job : ProvisioningJob) (now : Timestamp) (error : Failure) :
    Provisioner ProvisioningJob := do
  Repository.markRetryableFailure job.id (safeCode error) now
  .throw error

/-- `ProvisioningService.process` -/
def process (provisioningId : Uuid) (now : Timestamp) : Provisioner ProvisioningJob := do
  let found ← Repository.getJobForUpdate provisioningId
  match found with
  | none => .throw (.error "Provisioning job does not exist.")
  | some job =>
    if job.state = .ready ∨ job.state = .terminalFailed then pure job
    else (attempt job now).orElse (recordFailure job now)

/-! ### The ports -/

/-- How a transaction ends for its caller: committed, refused, or with the connection lost before
or after the commit. -/
inductive CallOutcome (result : Except Failure Db) (db : Db) : Except Failure Unit → Db → Prop where
  | committed {db' : Db} (h : result = .ok db') : CallOutcome result db (.ok ()) db'
  | refused {e : Failure} (h : result = .error e) : CallOutcome result db (.error e) db
  | unsent : CallOutcome result db (.error .unavailable) db
  | unacknowledged {db' : Db} (h : result = .ok db') :
    CallOutcome result db (.error .unavailable) db'

/-- How a request is answered.  A provider answers anything and leaves the database alone. -/
def answer : (q : Request) → Db → Except Failure q.Response → Db → Prop
  | .getJobForUpdate id, db, r, db' =>
    db' = db ∧ (r = .ok (getJobForUpdate id db) ∨ r = .error .unavailable)
  | .getKeys id, db, r, db' =>
    db' = db ∧ ((∃ keys, r = .ok keys ∧ keys.Perm (getKeys id db)) ∨ r = .error .unavailable)
  | .saveKeys id keys time, db, r, db' =>
    db' = db ∧ ((∃ ids, r = saveKeys ids id keys time db) ∨ r = .error .unavailable)
  | .saveKeysCommit id added time, db, r, db' =>
    CallOutcome (saveKeysCommit id added time db) db r db'
  | .markAccountCreationPending id reference time, db, r, db' =>
    CallOutcome (markAccountCreationPending id reference time db) db r db'
  | .markAccountCreated id transactionId time, db, r, db' =>
    CallOutcome (markAccountCreated id transactionId time db) db r db'
  | .markRcDelegationPending id time, db, r, db' =>
    CallOutcome (markRcDelegationPending id time db) db r db'
  | .markRcDelegated id reference time, db, r, db' =>
    CallOutcome (markRcDelegated id reference time db) db r db'
  | .markReady id time, db, r, db' =>
    ∃ playerId, CallOutcome (markReady playerId id time db) db r db'
  | .markRetryableFailure id code time, db, r, db' =>
    CallOutcome (markRetryableFailure id code time db) db r db'
  | .generateAuthorityKeys _ _ _, db, _, db' => db' = db
  | .createClaimedAccount _ _ _ _ _, db, _, db' => db' = db
  | .delegateInitialResourceCredits _ _ _ _, db, _, db' => db' = db
  | .verifyReady _ _ _, db, _, db' => db' = db

theorem CallOutcome.db_cases {result : Except Failure Db} {db db' : Db} {r : Except Failure Unit}
    (h : CallOutcome result db r db') :
    result = .ok db' ∨ db' = db ∧ ∃ e, r = .error e := by
  cases h with
  | committed h => exact .inl h
  | refused h => exact .inr ⟨rfl, _, rfl⟩
  | unsent => exact .inr ⟨rfl, _, rfl⟩
  | unacknowledged h => exact .inl h

end HiveChameleon.Provisioning
