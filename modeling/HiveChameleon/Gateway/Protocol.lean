import Mathlib.Algebra.Order.Ring.Nat
import Mathlib.Data.Int.Notation
import Mathlib.Data.List.Basic

/-!
# Gateway.Protocol — the Hive Chameleon events and their parser

The event types of `packages/hive-gateway/src/protocol`, restricted to the fields that the
projector and the publisher read.  A value that the schema constrains carries the constraint, so
that an event of the type is an event the schema accepts.  What the JavaScript runtime and
PostgreSQL do with texts (`JSON.parse`, `::jsonb`, `::timestamptz`, `Date.parse`) is a parameter.
-/

namespace HiveChameleon.Gateway

/-- A UUID; the value orders as its lowercase text does. -/
structure Uuid where
  val : ℕ
deriving DecidableEq, Repr

/-- An instant, as PostgreSQL and `Date` keep it. -/
abbrev Timestamp := ℤ

/-- A string of JavaScript by its code points: a text, or one in which a surrogate stands alone. The
point `inr n` is the surrogate `0xD800 + n`, a leading one below `0xDC00`. -/
inductive JsString where
  | text (chars : String)
  | lone (points : List (Char ⊕ Fin 2048)) (surrogate : ∃ p ∈ points, p.isRight = true)
      (unpaired : points.IsChain fun p q => ∀ m n, p = .inr m → q = .inr n → 1024 ≤ m.val ∨ n.val < 1024)
deriving DecidableEq

instance : Coe String JsString := ⟨.text⟩

/-- Whether a `jsonb` can hold a string: it has no NUL character and no lone surrogate. -/
def JsString.isJsonb : JsString → Bool
  | .text chars => !chars.toList.contains (Char.ofNat 0)
  | .lone .. => false

def hiveChameleonApplicationId : String := "hive.chameleon"

def hiveChameleonMaxPayloadBytes : ℕ := 6 * 1024

/-! ### `common.ts` -/

def isLowerLetter (c : Char) : Bool := 'a' ≤ c && c ≤ 'z'

def isDigit (c : Char) : Bool := '0' ≤ c && c ≤ '9'

/-- `/^[a-z][a-z0-9-]*[a-z0-9]$/` with at least three characters and no `--`. -/
def hiveAccountSegment (segment : List Char) : Bool :=
  3 ≤ segment.length &&
    segment.head?.any isLowerLetter &&
    segment.getLast?.any (fun c => isLowerLetter c || isDigit c) &&
    segment.all (fun c => isLowerLetter c || isDigit c || c == '-') &&
    (segment.zip segment.tail).all (fun p => p != ('-', '-'))

def hiveAccountSchema (account : String) : Bool :=
  3 ≤ account.length && account.length ≤ 16 &&
    account.toList.map Char.toLower == account.toList &&
    (account.toList.splitOn '.').all hiveAccountSegment

/-- `/^[a-z][a-z0-9_-]{1,63}$/` -/
def controlledCodeSchema (code : String) : Bool :=
  2 ≤ code.length && code.length ≤ 64 &&
    code.toList.head?.any isLowerLetter &&
    code.toList.all fun c => isLowerLetter c || isDigit c || c == '_' || c == '-'

/-- `/^[0-9a-f]{64}$/` -/
def sha256Schema (sha : String) : Bool :=
  sha.length == 64 && sha.toList.all fun c => isDigit c || ('a' ≤ c && c ≤ 'f')

structure HiveAccount where
  name : String
  normalized : hiveAccountSchema name = true
deriving DecidableEq

structure ControlledCode where
  code : String
  controlled : controlledCodeSchema code = true
deriving DecidableEq

structure Sha256 where
  hex : String
  lowercase : sha256Schema hex = true
deriving DecidableEq

/-- A text that `isoTimestampSchema` accepts. -/
structure IsoTimestamp where
  text : String
deriving DecidableEq, Repr

/-! ### `match.ts` -/

structure MatchResultMap where
  mapId : Uuid
  versionId : Uuid
  contentSha256 : Sha256
deriving DecidableEq

structure MatchResultServer where
  build : String
  protocol : ControlledCode
  build_length : 1 ≤ build.length ∧ build.length ≤ 64
deriving DecidableEq

structure MatchResult where
  roundId : Uuid
  resultSchema : ControlledCode
  scoringRules : ControlledCode
  map : MatchResultMap
  server : MatchResultServer
  resultSha256 : Sha256
deriving DecidableEq

structure MatchResultsBatch where
  eventId : Uuid
  occurredAt : IsoTimestamp
  batchId : Uuid
  periodStart : IsoTimestamp
  periodEnd : IsoTimestamp
  publisher : HiveAccount
  resultCount : ℕ
  results : List MatchResult
  count_eq : resultCount = results.length
  count_bounds : 1 ≤ results.length ∧ results.length ≤ 20
  rounds_nodup : (results.map (·.roundId)).Nodup
deriving DecidableEq

structure MatchResultCorrected where
  eventId : Uuid
  occurredAt : IsoTimestamp
  roundId : Uuid
  originalBatchId : Uuid
  originalEventId : Uuid
  supersedesEventId : Uuid
  publisher : HiveAccount
  reasonCode : ControlledCode
  replacementResult : MatchResult
  same_round : replacementResult.roundId = roundId
deriving DecidableEq

structure MatchResultInvalidated where
  eventId : Uuid
  occurredAt : IsoTimestamp
  roundId : Uuid
  originalBatchId : Uuid
  originalEventId : Uuid
  supersedesEventId : Uuid
  publisher : HiveAccount
  reasonCode : ControlledCode
deriving DecidableEq

/-! ### `collectible.ts` -/

inductive CollectibleKind where
  | badge | weaponSkin | characterMaterial | lobbyEmote | profileFrame | victoryEffect
deriving DecidableEq, Repr

structure CollectibleIssued where
  eventId : Uuid
  occurredAt : IsoTimestamp
  collectibleId : Uuid
  definitionId : String
  kind : CollectibleKind
  owner : HiveAccount
  issuer : HiveAccount
  reason : ControlledCode
  metadataUri : String
  metadataSha256 : Sha256
  paymentTxId : Option String
deriving DecidableEq

structure CollectibleRevoked where
  eventId : Uuid
  occurredAt : IsoTimestamp
  collectibleId : Uuid
  issuedEventId : Uuid
  reasonCode : ControlledCode
deriving DecidableEq

/-! ### `events.ts` -/

inductive HiveChameleonEvent where
  | matchResultsBatch (e : MatchResultsBatch)
  | matchResultCorrected (e : MatchResultCorrected)
  | matchResultInvalidated (e : MatchResultInvalidated)
  | collectibleIssued (e : CollectibleIssued)
  | collectibleRevoked (e : CollectibleRevoked)
deriving DecidableEq

namespace HiveChameleonEvent

def eventId : HiveChameleonEvent → Uuid
  | matchResultsBatch e => e.eventId
  | matchResultCorrected e => e.eventId
  | matchResultInvalidated e => e.eventId
  | collectibleIssued e => e.eventId
  | collectibleRevoked e => e.eventId

def occurredAt : HiveChameleonEvent → IsoTimestamp
  | matchResultsBatch e => e.occurredAt
  | matchResultCorrected e => e.occurredAt
  | matchResultInvalidated e => e.occurredAt
  | collectibleIssued e => e.occurredAt
  | collectibleRevoked e => e.occurredAt

end HiveChameleonEvent

inductive HiveGatewayErrorCode where
  | invalidAuthorization | invalidEvent | invalidOperation | invalidSignature
  | idempotencyConflict | idempotencyUnavailable | nonCanonicalPayload | payloadTooLarge
  | policyDenied | signerUnavailable | signerMismatch | transactionMismatch
deriving DecidableEq, Repr

def HiveGatewayErrorCode.text : HiveGatewayErrorCode → String
  | invalidAuthorization => "invalid_authorization"
  | invalidEvent => "invalid_event"
  | invalidOperation => "invalid_operation"
  | invalidSignature => "invalid_signature"
  | idempotencyConflict => "idempotency_conflict"
  | idempotencyUnavailable => "idempotency_unavailable"
  | nonCanonicalPayload => "non_canonical_payload"
  | payloadTooLarge => "payload_too_large"
  | policyDenied => "policy_denied"
  | signerUnavailable => "signer_unavailable"
  | signerMismatch => "signer_mismatch"
  | transactionMismatch => "transaction_mismatch"

/-- What the JavaScript runtime and PostgreSQL make of texts. -/
structure Runtime where
  /-- `JSON.parse` and the event schema's `safeParse`. -/
  safeParse : String → Option HiveChameleonEvent
  /-- Whether `canonicalJson` of the parsed event gives the text back. -/
  isCanonical : String → Bool
  /-- The event that `text::jsonb` reads, `none` when the cast fails (as it does on `\u0000`). -/
  jsonb : String → Option HiveChameleonEvent
  /-- `text::timestamptz`, `none` when the cast fails. -/
  timestamptz : IsoTimestamp → Option Timestamp
  dateParse : IsoTimestamp → Timestamp
  /-- The code that a string with a lone surrogate is refused with.  It is no canonical text:
  `JSON.stringify` writes such a surrogate as an escape. -/
  refusal : JsString → HiveGatewayErrorCode
  /-- Both read the same JSON text. -/
  jsonb_eq : ∀ {text e e'}, safeParse text = some e → jsonb text = some e' → e' = e
  /-- The period of a batch that the schema accepts ends after it starts. -/
  period_le : ∀ {text batch start stop}, safeParse text = some (.matchResultsBatch batch) →
    timestamptz batch.periodStart = some start → timestamptz batch.periodEnd = some stop →
      start ≤ stop

def parseHiveChameleonEvent (R : Runtime) (payload : String) :
    Except HiveGatewayErrorCode HiveChameleonEvent :=
  if payload.utf8ByteSize > hiveChameleonMaxPayloadBytes then .error .payloadTooLarge
  else
    match R.safeParse payload with
    | none => .error .invalidEvent
    | some event => if R.isCanonical payload then .ok event else .error .nonCanonicalPayload

theorem safeParse_of_parse {R : Runtime} {payload : String} {e : HiveChameleonEvent}
    (h : parseHiveChameleonEvent R payload = .ok e) : R.safeParse payload = some e := by
  unfold parseHiveChameleonEvent at h
  split at h
  · cases h
  · split at h
    · cases h
    · rename_i e' he'
      split at h
      · cases h; exact he'
      · cases h

end HiveChameleon.Gateway
