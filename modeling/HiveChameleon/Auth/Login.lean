import HiveChameleon.Auth.Identities
import HiveChameleon.Auth.SessionSafety
import HiveChameleon.Gateway.WaxChain
import HiveChameleon.Lib.PrefixCode
import HiveChameleon.Lib.Prog
import HiveChameleon.Provisioning.Onboarding
import Mathlib.Data.PNat.Basic

/-!
# Auth.Login — logins with Hive and with Google, from their request to their session

`createHiveChallenge`, `createHiveSession` and `exchangeGoogle` of `auth.service.ts`, with the posting
authority check of `hive-posting-authority.verifier.ts`, side by side on any number of connections.
Between two awaits of a login the others go on, and a login can stop at any of them.  What Hive
nodes and Google answer is part of a step; the digests and the recovery of keys are parameters.
-/

namespace HiveChameleon.Auth

open Gateway Lib
open Provisioning (GoogleIdentity ProvisioningRow CustodyKeyRow DisclosureAcknowledgmentRow)

/-! ### Texts -/

/-- The last `width` hexadecimal digits. -/
def hexDigits : ℕ → ℕ → List Char
  | 0, _ => []
  | width + 1, n => hexDigits width (n / 16) ++ [hexDigit (n % 16)]

def uuidText (id : Uuid) : String :=
  let digits := hexDigits 32 id.val
  String.ofList (digits.take 8 ++ '-' :: (digits.drop 8).take 4 ++ '-' :: (digits.drop 12).take 4 ++
    '-' :: (digits.drop 16).take 4 ++ '-' :: digits.drop 20)

/-- The last `width` decimal digits. -/
def decimalDigits : ℕ → ℕ → List Char
  | 0, _ => []
  | width + 1, n => decimalDigits width (n / 10) ++ [Char.ofNat (48 + n % 10)]

/-- Year, month and day of a number of days since 1970-01-01, in the Gregorian calendar. -/
def civilDate (days : ℤ) : ℤ × ℕ × ℕ :=
  let shifted := days + 719468
  let era := shifted / 146097
  let dayOfEra := (shifted % 146097).toNat
  let yearOfEra := (dayOfEra - dayOfEra / 1460 + dayOfEra / 36524 - dayOfEra / 146096) / 365
  let dayOfYear := dayOfEra - (365 * yearOfEra + yearOfEra / 4 - yearOfEra / 100)
  let shiftedMonth := (5 * dayOfYear + 2) / 153
  let month := if shiftedMonth < 10 then shiftedMonth + 3 else shiftedMonth - 9
  (yearOfEra + era * 400 + if month ≤ 2 then 1 else 0, month,
    dayOfYear - (153 * shiftedMonth + 2) / 5 + 1)

/-- `Date.prototype.toISOString` -/
def toISOString (time : Timestamp) : String :=
  let (year, month, day) := civilDate (time / 86400000)
  let ms := (time % 86400000).toNat
  let yearText := if 0 ≤ year ∧ year ≤ 9999 then decimalDigits 4 year.natAbs
    else (if year < 0 then '-' else '+') :: decimalDigits 6 year.natAbs
  String.ofList (yearText ++ '-' :: decimalDigits 2 month ++ '-' :: decimalDigits 2 day ++
    'T' :: decimalDigits 2 (ms / 3600000) ++ ':' :: decimalDigits 2 (ms / 60000 % 60) ++
      ':' :: decimalDigits 2 (ms / 1000 % 60) ++ '.' :: decimalDigits 3 (ms % 1000) ++ ['Z'])

example : toISOString 1752662400007 = "2025-07-16T10:40:00.007Z" := by decide +kernel

/-! ### Challenges -/

/-- The configuration that logins read, and what stands for code outside of the repository. -/
structure LoginConfig where
  auth : AuthConfig
  audience : String
  challengeTtlSeconds : ℕ
  sha256 : String → String
  /-- The HMAC of issuer and subject under `identityLookupKey`. -/
  subjectLookupHash : GoogleIdentity → String
  wax : Wax

/-- What `createHiveChallenge` draws; the nonce is 32 random bytes in base64url. -/
structure ChallengeDraw where
  id : Uuid
  deviceSessionId : Uuid
  nonce : String
deriving DecidableEq, Repr

variable (cfg : LoginConfig)

def challengeText (draw : ChallengeDraw) (hiveUsername : String) (now : Timestamp) : String :=
  "\n".intercalate ["Hive Chameleon login", "audience:" ++ cfg.audience,
    "account:" ++ hiveUsername, "device_session:" ++ uuidText draw.deviceSessionId,
    "nonce:" ++ draw.nonce, "issued_at:" ++ toISOString now,
    "expires_at:" ++ toISOString (now + cfg.challengeTtlSeconds * 1000)]

/-- The row that `createHiveChallenge` of the service inserts. -/
def newChallenge (draw : ChallengeDraw) (hiveUsername : String) (platform : ClientPlatform)
    (now : Timestamp) : HiveLoginChallengeRow where
  id := draw.id
  hiveUsername := hiveUsername
  platform := platform
  deviceSessionId := draw.deviceSessionId
  challengeText := challengeText cfg draw hiveUsername now
  challengeSha256 := cfg.sha256 (challengeText cfg draw hiveUsername now)
  issuedAt := now
  expiresAt := now + cfg.challengeTtlSeconds * 1000
  consumedAt := none

/-! ### The posting authority check -/

/-- The posting authority of an account as `authoritySchema` hands it on: an answer with a weight or a
threshold that is not positive is no account. -/
structure HiveAccount where
  accountAuths : List (String × ℕ+)
  keyAuths : List (String × ℕ+)
  weightThreshold : ℕ+
deriving DecidableEq

/-- `hiveUnavailable()` -/
inductive HiveUnavailable where
  | hiveUnavailable
deriving DecidableEq, Repr

/-- The request `fetchAccount`, with the name of the account. -/
abbrev AccountCheck (α : Type) := Prog String (fun _ => Option HiveAccount) HiveUnavailable α

/-- What a Hive node answered. -/
abbrev AccountAnswer := Except HiveUnavailable (Option HiveAccount)

/-- The weight of a key in an authority. -/
def directWeight (recoveredKey : String) (account : HiveAccount) : ℕ :=
  ((account.keyAuths.filter fun auth => auth.1 = recoveredKey).map fun auth => (auth.2 : ℕ)).sum

/-- Tries the nested accounts whose weight suffices, in their order. -/
def anyNested (check : String → AccountCheck Bool) (threshold : ℕ+) :
    List (String × ℕ+) → AccountCheck Bool
  | [] => pure false
  | (nestedAccount, outerWeight) :: rest =>
    if outerWeight ≥ threshold then do
      if ← check nestedAccount then pure true else anyNested check threshold rest
    else anyNested check threshold rest

/-- `keyCanSatisfyPostingAuthority`, with the number of levels left: `3 - depth`. -/
def keyCanSatisfyPostingAuthority (recoveredKey : String) :
    (levels : ℕ) → (visited : List String) → (accountName : String) → AccountCheck Bool
  | 0, _, _ => pure false
  | levels + 1, visited, accountName =>
    if accountName ∈ visited then pure false
    else do
      match ← Prog.request accountName with
      | none => pure false
      | some account =>
        if directWeight recoveredKey account ≥ account.weightThreshold then pure true
        else
          anyNested (keyCanSatisfyPostingAuthority recoveredKey levels (accountName :: visited))
            account.weightThreshold account.accountAuths

/-- The key that signed a challenge; `none` where `verify` catches an error. -/
def recoverSigner (challenge signature : String) : Option String :=
  match validateHiveCompactSignature signature with
  | .error _ => none
  | .ok _ => cfg.wax.getPublicKeyFromSignature (cfg.sha256 challenge) signature

/-- `verify` -/
def verify (challenge hiveUsername signature : String) : AccountCheck Bool :=
  match recoverSigner cfg challenge signature with
  | none => pure false
  | some recoveredKey => keyCanSatisfyPostingAuthority recoveredKey 3 [] hiveUsername

/-! ### Logins under way -/

/-- The arguments of `createHiveSession`. -/
structure HiveLogin where
  challengeId : Uuid
  hiveUsername : String
  signature : String
  signingProvider : ExternalSigningProvider
  now : Timestamp
deriving DecidableEq, Repr

/-- What `exchangeGoogle` keeps of its arguments. -/
structure GoogleLogin where
  platform : ClientPlatform
  now : Timestamp
deriving DecidableEq, Repr

/-- Where a login stands: what it waits for, and what it has learned. -/
inductive Attempt where
  | idle
  | consuming (login : HiveLogin)
  | verifying (login : HiveLogin) (challenge : HiveLoginChallengeRecord)
      (answers : List AccountAnswer)
  | hivePlayer (login : HiveLogin) (challenge : HiveLoginChallengeRecord)
      (answers : List AccountAnswer) (player : PlayerIdentity)
  | exchanging (login : GoogleLogin)
  | identifying (login : GoogleLogin) (identity : GoogleIdentity)
  | identified (login : GoogleLogin) (identity : GoogleIdentity) (record : ExternalIdentityRecord)

/-- The call of the repository that a login ends in. -/
def Attempt.call (draw : Draw) : Attempt → Option ServiceCall
  | hivePlayer login challenge _ player =>
    some (.createHiveSession draw (some challenge) true player login.signingProvider login.now)
  | identified login _ record => some (.exchangeGoogle draw login.platform record login.now)
  | idle => none
  | consuming _ => none
  | verifying _ _ _ => none
  | exchanging _ => none
  | identifying _ _ => none

/-- Tables, open transactions, and the login of each connection. -/
structure LoginSystem (ι : Type) where
  identity : IdentityDb
  auth : AuthSystem ι
  attempts : ι → Attempt

/-- A write of another service to the schema `identity`: `markReady` of provisioning, or one that
leaves players, Google identities and challenges alone. -/
inductive OtherWrite where
  | markReady (playerId provisioningId : Uuid) (time : Timestamp)
  | elsewhere (provisioning : Table ProvisioningRow (·.id)) (custodyKey : Table CustodyKeyRow (·.id))
      (disclosureAcknowledgment : Table DisclosureAcknowledgmentRow (·.id))
      (rcDelegation : List String)
      (publicRecordDisclosure : Table PublicRecordDisclosureRow (·.disclosureVersion))

def OtherWrite.apply (db : IdentityDb) : OtherWrite → Option IdentityDb
  | markReady playerId provisioningId time =>
    match Provisioning.markReady playerId provisioningId time db.toDb with
    | .ok db' => some { db with toDb := db' }
    | .error _ => none
  | elsewhere provisioning custodyKey disclosureAcknowledgment rcDelegation publicRecordDisclosure =>
    some { db with
      provisioning, custodyKey, disclosureAcknowledgment, rcDelegation, publicRecordDisclosure }

inductive LoginLabel (ι : Type) where
  | createHiveChallenge (draw : ChallengeDraw) (hiveUsername : String) (platform : ClientPlatform)
      (now : Timestamp)
  | start (i : ι) (attempt : Attempt)
  | consume (i : ι)
  | fetched (i : ι) (answer : AccountAnswer)
  | findOrCreatePlayer (i : ι) (playerId : Uuid)
  | exchanged (i : ι) (identity : GoogleIdentity)
  | upsertIdentity (i : ι) (id : Uuid)
  | createSession (i : ι) (draw : Draw)
  | other (i : ι) (call : ServiceCall)
  | transaction (i : ι) (event : AuthEvent)
  | fail (i : ι)
  | write (change : OtherWrite)

/-- A login that has just come in. -/
def Attempt.Fresh : Attempt → Prop
  | consuming _ => True
  | exchanging _ => True
  | idle => False
  | verifying _ _ _ => False
  | hivePlayer _ _ _ _ => False
  | identifying _ _ => False
  | identified _ _ _ => False

instance : ∀ attempt : Attempt, Decidable attempt.Fresh
  | .consuming _ => isTrue trivial
  | .exchanging _ => isTrue trivial
  | .idle => isFalse id
  | .verifying _ _ _ => isFalse id
  | .hivePlayer _ _ _ _ => isFalse id
  | .identifying _ _ => isFalse id
  | .identified _ _ _ => isFalse id

/-- A call that is not a login: a refresh or a logout. -/
def ServiceCall.NoLogin : ServiceCall → Prop
  | refresh _ _ _ => True
  | revokeSession _ _ => True
  | createHiveSession _ _ _ _ _ _ => False
  | exchangeGoogle _ _ _ _ => False

instance : ∀ call : ServiceCall, Decidable call.NoLogin
  | .refresh _ _ _ => isTrue trivial
  | .revokeSession _ _ => isTrue trivial
  | .createHiveSession _ _ _ _ _ _ => isFalse id
  | .exchangeGoogle _ _ _ _ => isFalse id

def AuthEvent.ends : AuthEvent → Bool
  | statement => false
  | commit => true
  | abort _ => true

section Steps

variable {ι : Type} [DecidableEq ι]

namespace LoginSystem

/-- The login of connection `i` gets to a stage. -/
def moved (S : LoginSystem ι) (i : ι) (attempt : Attempt) : LoginSystem ι :=
  { S with attempts := Function.update S.attempts i attempt }

/-- The login of connection `i` gets to a stage, with a statement's effect. -/
def wrote (S : LoginSystem ι) (i : ι) (db : IdentityDb) (attempt : Attempt) : LoginSystem ι :=
  { S with identity := db, attempts := Function.update S.attempts i attempt }

@[simp] theorem wrote_identity (S : LoginSystem ι) (i : ι) (db : IdentityDb) (attempt : Attempt) :
    (S.wrote i db attempt).identity = db := rfl

@[simp] theorem wrote_attempts (S : LoginSystem ι) (i : ι) (db : IdentityDb) (attempt : Attempt) :
    (S.wrote i db attempt).attempts = Function.update S.attempts i attempt := rfl

end LoginSystem

/-- `consumeHiveChallenge` of the login on connection `i`; without a challenge the login fails. -/
def consumeStep (S : LoginSystem ι) (i : ι) (login : HiveLogin) : LoginSystem ι :=
  match consumeHiveChallenge cfg.sha256 login.challengeId login.hiveUsername login.now S.identity with
  | .ok (some challenge, db) => S.wrote i db (.verifying login challenge [])
  | .ok (none, db) => S.wrote i db .idle
  | .error _ => S.moved i .idle

/-- The answer of a Hive node to the account that the check asks for. -/
def fetchedStep (S : LoginSystem ι) (i : ι) (login : HiveLogin)
    (challenge : HiveLoginChallengeRecord) (answers : List AccountAnswer) (answer : AccountAnswer) :
    Option (LoginSystem ι) :=
  match (verify cfg challenge.challenge login.hiveUsername login.signature).feed answers with
  | .call _ _ => some (S.moved i (.verifying login challenge (answers ++ [answer])))
  | .ret _ => none
  | .throw _ => none

/-- `findOrCreateDirectHivePlayer`, when the check has succeeded. -/
def findOrCreateStep (S : LoginSystem ι) (i : ι) (login : HiveLogin)
    (challenge : HiveLoginChallengeRecord) (answers : List AccountAnswer) (playerId : Uuid) :
    Option (LoginSystem ι) :=
  match (verify cfg challenge.challenge login.hiveUsername login.signature).feed answers with
  | .ret true =>
    match findOrCreateDirectHivePlayer playerId login.hiveUsername S.identity with
    | .ok (player, db) => some (S.wrote i db (.hivePlayer login challenge answers player))
    | .error _ => none
  | .ret false => none
  | .call _ _ => none
  | .throw _ => none

/-- `upsertGoogleIdentity` of the login on connection `i`. -/
def upsertStep (S : LoginSystem ι) (i : ι) (login : GoogleLogin) (identity : GoogleIdentity)
    (id : Uuid) : Option (LoginSystem ι) :=
  match upsertGoogleIdentity id identity.issuer (cfg.subjectLookupHash identity) login.now S.identity with
  | .ok (.ok record, db) => some (S.wrote i db (.identified login identity record))
  | .ok (.error _, db) => some (S.wrote i db .idle)
  | .error _ => none

variable [Fintype ι]

/-- Takes one step. -/
def performLogin (S : LoginSystem ι) : LoginLabel ι → Option (LoginSystem ι)
  | .createHiveChallenge draw hiveUsername platform now =>
    match createHiveChallenge cfg.sha256 (newChallenge cfg draw hiveUsername platform now) S.identity with
    | .ok db => some { S with identity := db }
    | .error _ => none
  | .start i attempt =>
    match S.attempts i with
    | .idle => if S.auth.requests i = none ∧ attempt.Fresh then some (S.moved i attempt) else none
    | _ => none
  | .consume i =>
    match S.attempts i with
    | .consuming login => some (consumeStep cfg S i login)
    | _ => none
  | .fetched i answer =>
    match S.attempts i with
    | .verifying login challenge answers => fetchedStep cfg S i login challenge answers answer
    | _ => none
  | .findOrCreatePlayer i playerId =>
    match S.attempts i with
    | .verifying login challenge answers => findOrCreateStep cfg S i login challenge answers playerId
    | _ => none
  | .exchanged i identity =>
    match S.attempts i with
    | .exchanging login => some (S.moved i (.identifying login identity))
    | _ => none
  | .upsertIdentity i id =>
    match S.attempts i with
    | .identifying login identity => upsertStep cfg S i login identity id
    | _ => none
  | .createSession i draw =>
    match (S.attempts i).call draw with
    | some call => (perform cfg.auth S.auth (.start i call)).map fun auth => { S with auth := auth }
    | none => none
  | .other i call =>
    match S.attempts i with
    | .idle =>
      if call.NoLogin then
        (perform cfg.auth S.auth (.start i call)).map fun auth => { S with auth := auth }
      else none
    | _ => none
  | .transaction i event =>
    (perform cfg.auth S.auth (.step i event)).map fun auth =>
      if event.ends then { S.moved i .idle with auth := auth } else { S with auth := auth }
  | .fail i => some { S.moved i .idle with auth := S.auth.finish i S.auth.authSession }
  | .write change => (change.apply S.identity).map fun db => { S with identity := db }

/-- One step of logins, refreshes and logouts. -/
def LoginStep (S : LoginSystem ι) (l : LoginLabel ι) (S' : LoginSystem ι) : Prop :=
  performLogin cfg S l = some S'

end Steps

end HiveChameleon.Auth
