import HiveChameleon.Gateway.Protocol
import HiveChameleon.Lib.PrefixCode
import HiveChameleon.Lib.Table

/-!
# Gateway.Policy — what an official service may publish

`packages/hive-gateway/src/policy.ts` with the parts of `contracts.ts` and `protocol/events.ts` that
it reads: the authorization of an event by the tuple of a trusted policy, and the `custom_json`
operation that publishes it.  `JSON.parse`, the event schema and `canonicalize` on event values are
parameters; the canonical text of an operation is written out.
-/

namespace HiveChameleon.Gateway

open Lib

structure HiveGatewayError where
  code : HiveGatewayErrorCode
  message : String
deriving DecidableEq, Repr

/-! ### `contracts.ts` -/

inductive HiveAuthority where
  | active | owner | posting
deriving DecidableEq, Repr

inductive OfficialServiceRole where
  | collectibleIssuer | matchPublisher | rcSupport | treasury
deriving DecidableEq, Repr

def OfficialServiceRole.text : OfficialServiceRole → String
  | collectibleIssuer => "collectible_issuer"
  | matchPublisher => "match_publisher"
  | rcSupport => "rc_support"
  | treasury => "treasury"

/-- The `mode` of an `AuthorizationContext`. -/
inductive AuthorizationMode where
  | officialService | custodialPlayer | externalPlayer
deriving DecidableEq, Repr

structure OfficialServiceAuthorization where
  mode : AuthorizationMode
  role : OfficialServiceRole
  account : String
  authority : HiveAuthority
  expectedPublicKey : String
  signerKeyReference : String
  policyVersion : String
deriving DecidableEq

structure HiveCustomJsonOperation where
  requiredAuths : List String
  requiredPostingAuths : List String
  id : String
  json : String
deriving DecidableEq

/-! ### `events.ts` -/

inductive HiveChameleonEventFamily where
  | collectible | match_
deriving DecidableEq, Repr

def HiveChameleonEventFamily.text : HiveChameleonEventFamily → String
  | collectible => "collectible"
  | match_ => "match"

/-- The `type` of an event. -/
inductive HiveChameleonEventType where
  | matchResultsBatch | matchResultCorrected | matchResultInvalidated
  | collectibleIssued | collectibleRevoked
deriving DecidableEq, Repr

def HiveChameleonEvent.type : HiveChameleonEvent → HiveChameleonEventType
  | matchResultsBatch _ => .matchResultsBatch
  | matchResultCorrected _ => .matchResultCorrected
  | matchResultInvalidated _ => .matchResultInvalidated
  | collectibleIssued _ => .collectibleIssued
  | collectibleRevoked _ => .collectibleRevoked

def eventFamily (event : HiveChameleonEvent) : HiveChameleonEventFamily :=
  match event.type with
  | .matchResultsBatch | .matchResultCorrected | .matchResultInvalidated => .match_
  | .collectibleIssued | .collectibleRevoked => .collectible

/-- JavaScript values, the event schema on them, and `canonicalize`. -/
structure EventCodec where
  Value : Type
  parseJson : String → Option Value
  /-- The `data` of `hiveChameleonEventSchema.safeParse`. -/
  safeParse : Value → Option Value
  canonicalJson : Value → String
  /-- What a value that the schema accepted holds. -/
  event : Value → HiveChameleonEvent

namespace EventCodec

variable (C : EventCodec)

def assertPayloadSize (payload : String) : Except HiveGatewayError Unit :=
  require (payload.utf8ByteSize ≤ hiveChameleonMaxPayloadBytes)
    ⟨.payloadTooLarge, "Hive Chameleon payload exceeds 6 KiB"⟩

def schemaError : HiveGatewayError :=
  ⟨.invalidEvent, "Hive Chameleon event schema validation failed"⟩

def serializeHiveChameleonEvent (value : C.Value) : Except HiveGatewayError String :=
  match C.safeParse value with
  | none => .error schemaError
  | some data => do
    assertPayloadSize (C.canonicalJson data)
    pure (C.canonicalJson data)

def parseHiveChameleonEvent (payload : String) : Except HiveGatewayError C.Value := do
  assertPayloadSize payload
  match C.parseJson payload with
  | none => .error ⟨.invalidEvent, "Payload is not valid JSON"⟩
  | some value =>
    match C.safeParse value with
    | none => .error schemaError
    | some data => do
      require (C.canonicalJson data = payload) ⟨.nonCanonicalPayload,
        "Hive Chameleon payload must use its canonical JSON representation"⟩
      pure data

theorem serializeHiveChameleonEvent_eq_ok {value : C.Value} {payload : String} :
    C.serializeHiveChameleonEvent value = .ok payload ↔
      ∃ data, C.safeParse value = some data ∧ C.canonicalJson data = payload ∧
        payload.utf8ByteSize ≤ hiveChameleonMaxPayloadBytes := by
  rw [serializeHiveChameleonEvent]
  cases C.safeParse value with
  | none => simp
  | some data =>
    simp only [assertPayloadSize, bind_eq_ok, exists_unit, require_eq_ok, pure_eq_ok,
      Option.some.injEq, exists_eq_left']
    constructor
    · rintro ⟨hsize, rfl⟩
      exact ⟨rfl, hsize⟩
    · rintro ⟨rfl, hsize⟩
      exact ⟨hsize, rfl⟩

theorem parseHiveChameleonEvent_eq_ok {payload : String} {data : C.Value} :
    C.parseHiveChameleonEvent payload = .ok data ↔
      payload.utf8ByteSize ≤ hiveChameleonMaxPayloadBytes ∧
        (∃ value, C.parseJson payload = some value ∧ C.safeParse value = some data) ∧
        C.canonicalJson data = payload := by
  simp only [parseHiveChameleonEvent, assertPayloadSize, bind_eq_ok, exists_unit, require_eq_ok]
  cases C.parseJson payload with
  | none => simp
  | some value =>
    cases hdata : C.safeParse value with
    | none => simp [hdata]
    | some data' =>
      simp only [bind_eq_ok, exists_unit, require_eq_ok, pure_eq_ok, Option.some.injEq,
        exists_eq_left', hdata]
      constructor
      · rintro ⟨hsize, hcanonical, rfl⟩; exact ⟨hsize, rfl, hcanonical⟩
      · rintro ⟨hsize, rfl, hcanonical⟩; exact ⟨hsize, hcanonical, rfl⟩

end EventCodec

/-- The parser of the projector reads the same events, for a runtime that reads values as `C` does. -/
theorem parse_of_codec (C : EventCodec) (R : Runtime)
    (hparse : ∀ text, R.safeParse text = ((C.parseJson text).bind C.safeParse).map C.event)
    (hcanonical : ∀ text, R.isCanonical text = true ↔
      ∃ data, (C.parseJson text).bind C.safeParse = some data ∧ C.canonicalJson data = text)
    (payload : String) (event : HiveChameleonEvent) :
    Gateway.parseHiveChameleonEvent R payload = .ok event ↔
      ∃ data, C.parseHiveChameleonEvent payload = .ok data ∧ C.event data = event := by
  simp only [EventCodec.parseHiveChameleonEvent_eq_ok, Gateway.parseHiveChameleonEvent, hparse]
  by_cases hsize : payload.utf8ByteSize > hiveChameleonMaxPayloadBytes
  · rw [if_pos hsize]
    have hnot : ¬ payload.utf8ByteSize ≤ hiveChameleonMaxPayloadBytes := by omega
    simp [hnot]
  · rw [if_neg hsize]
    have hle : payload.utf8ByteSize ≤ hiveChameleonMaxPayloadBytes := by omega
    cases hvalue : C.parseJson payload with
    | none => simp
    | some value =>
      cases hdata : C.safeParse value with
      | none => simp [hdata]
      | some data =>
        have hiff : R.isCanonical payload = true ↔ C.canonicalJson data = payload := by
          rw [hcanonical, hvalue, Option.bind_some, hdata]
          simp
        by_cases hc : C.canonicalJson data = payload <;> simp [hle, hdata, hiff, hc]

/-! ### `policy.ts` -/

/-- The `length` of a JavaScript string. -/
def utf16Length (text : String) : ℕ :=
  (text.toList.map fun c => if c.toNat < 65536 then 1 else 2).sum

/-- `/^[a-z0-9][a-z0-9._-]{0,31}$/` -/
def policyVersionSchema (version : String) : Bool :=
  1 ≤ version.length && version.length ≤ 32 &&
    version.toList.head?.any (fun c => isLowerLetter c || isDigit c) &&
    version.toList.all fun c => isLowerLetter c || isDigit c || c == '.' || c == '_' || c == '-'

/-- `/^[A-Za-z0-9._:-]+$/` with 8 to 128 characters. -/
def idempotencyKeySchema (key : String) : Bool :=
  8 ≤ key.length && key.length ≤ 128 &&
    key.toList.all fun c => isLowerLetter c || ('A' ≤ c && c ≤ 'Z') || isDigit c || c == '.' ||
      c == '_' || c == ':' || c == '-'

def keyReferenceSchema (reference : String) : Bool :=
  1 ≤ utf16Length reference && utf16Length reference ≤ 256

def publicKeySchema (key : String) : Bool := 16 ≤ utf16Length key && utf16Length key ≤ 128

structure OfficialEventIntent (C : EventCodec) where
  idempotencyKey : String
  policyVersion : String
  event : C.Value

variable {C : EventCodec}

def assertAuthorizationShape (intent : OfficialEventIntent C)
    (authorization : OfficialServiceAuthorization) : Except HiveGatewayError Unit := do
  require ((idempotencyKeySchema intent.idempotencyKey && policyVersionSchema intent.policyVersion &&
      policyVersionSchema authorization.policyVersion && hiveAccountSchema authorization.account &&
      publicKeySchema authorization.expectedPublicKey &&
      keyReferenceSchema authorization.signerKeyReference) = true)
    ⟨.invalidAuthorization, "Authorization metadata is invalid"⟩
  require (intent.policyVersion = authorization.policyVersion)
    ⟨.policyDenied, "Intent and signer policy versions differ"⟩

def assertPayloadAccount (event : HiveChameleonEvent) (account : String) :
    Except HiveGatewayError Unit :=
  let publisher : HiveGatewayError :=
    ⟨.policyDenied, "Match publisher does not match signing account"⟩
  match event with
  | .matchResultsBatch e => require (e.publisher.name = account) publisher
  | .matchResultCorrected e => require (e.publisher.name = account) publisher
  | .matchResultInvalidated e => require (e.publisher.name = account) publisher
  | .collectibleIssued e =>
    require (e.issuer.name = account)
      ⟨.policyDenied, "Collectible issuer does not match signing account"⟩
  | .collectibleRevoked _ => .ok ()

/-- The role that publishes a family of events. -/
def expectedRole : HiveChameleonEventFamily → OfficialServiceRole
  | .match_ => .matchPublisher
  | .collectible => .collectibleIssuer

/-- The operation that publishes a payload under one posting authority. -/
def officialOperation (account canonicalPayload : String) : HiveCustomJsonOperation where
  requiredAuths := []
  requiredPostingAuths := [account]
  id := hiveChameleonApplicationId
  json := canonicalPayload

def authorizeOfficialEvent (intent : OfficialEventIntent C)
    (authorization : OfficialServiceAuthorization) :
    Except HiveGatewayError (HiveCustomJsonOperation × String) := do
  assertAuthorizationShape intent authorization
  require (authorization.mode = .officialService ∧ authorization.authority = .posting)
    ⟨.invalidAuthorization, "Official application events require posting authority"⟩
  let family := eventFamily (C.event intent.event)
  require (authorization.role = expectedRole family)
    ⟨.policyDenied, "Service role " ++ authorization.role.text ++ " cannot publish " ++
      family.text ++ " events"⟩
  assertPayloadAccount (C.event intent.event) authorization.account
  let canonicalPayload ← C.serializeHiveChameleonEvent intent.event
  pure (officialOperation authorization.account canonicalPayload, canonicalPayload)

theorem authorizeOfficialEvent_eq_ok_iff {intent : OfficialEventIntent C}
    {authorization : OfficialServiceAuthorization} {operation : HiveCustomJsonOperation}
    {canonicalPayload : String} :
    authorizeOfficialEvent intent authorization = .ok (operation, canonicalPayload) ↔
      assertAuthorizationShape intent authorization = .ok () ∧
        (authorization.mode = .officialService ∧ authorization.authority = .posting) ∧
        authorization.role = expectedRole (eventFamily (C.event intent.event)) ∧
        assertPayloadAccount (C.event intent.event) authorization.account = .ok () ∧
        C.serializeHiveChameleonEvent intent.event = .ok canonicalPayload ∧
        operation = officialOperation authorization.account canonicalPayload := by
  simp only [authorizeOfficialEvent, bind_eq_ok, exists_unit, require_eq_ok, pure_eq_ok,
    Prod.mk.injEq]
  constructor
  · rintro ⟨hshape, hmode, hrole, haccount, payload, hpayload, rfl, rfl⟩
    exact ⟨hshape, hmode, hrole, haccount, hpayload, rfl⟩
  · rintro ⟨hshape, hmode, hrole, haccount, hpayload, rfl⟩
    exact ⟨hshape, hmode, hrole, haccount, canonicalPayload, hpayload, rfl, rfl⟩

/-- The canonical JSON of `{ type: 'custom_json_operation', value: operation }`: keys in order. -/
def canonicalCustomJsonText (operation : HiveCustomJsonOperation) : List Char :=
  "\x7b\"type\":\"custom_json_operation\",\"value\":\x7b\"id\":".toList ++
    (jsonString operation.id ++ (",\"json\":".toList ++ (jsonString operation.json ++
      (",\"required_auths\":".toList ++ (jsonArray jsonString operation.requiredAuths ++
        (",\"required_posting_auths\":".toList ++
          (jsonArray jsonString operation.requiredPostingAuths ++ "\x7d\x7d".toList)))))))

def canonicalCustomJsonOperation (operation : HiveCustomJsonOperation) : String :=
  String.ofList (canonicalCustomJsonText operation)

/-- **Equal texts are equal operations.** -/
theorem canonicalCustomJsonOperation_injective :
    Function.Injective canonicalCustomJsonOperation := by
  intro a b h
  have htext : canonicalCustomJsonText a = canonicalCustomJsonText b := by
    have h := congrArg String.toList h
    simpa only [canonicalCustomJsonOperation, String.toList_ofList] using h
  unfold canonicalCustomJsonText at htext
  have htext := List.append_cancel_left htext
  obtain ⟨hid, htext⟩ := prefixCode_jsonString a.id b.id _ _ htext
  obtain ⟨hjson, htext⟩ := prefixCode_jsonString a.json b.json _ _ (List.append_cancel_left htext)
  obtain ⟨hauths, htext⟩ := prefixCode_jsonStrings a.requiredAuths b.requiredAuths _ _
    (List.append_cancel_left htext)
  obtain ⟨hposting, -⟩ := prefixCode_jsonStrings a.requiredPostingAuths b.requiredPostingAuths _ _
    (List.append_cancel_left htext)
  cases a
  cases b
  simp_all

theorem authorizeOfficialEvent_eq_ok {intent : OfficialEventIntent C}
    {authorization : OfficialServiceAuthorization} {operation : HiveCustomJsonOperation}
    {canonicalPayload : String}
    (h : authorizeOfficialEvent intent authorization = .ok (operation, canonicalPayload)) :
    intent.policyVersion = authorization.policyVersion ∧
      authorization.mode = .officialService ∧ authorization.authority = .posting ∧
      authorization.role = expectedRole (eventFamily (C.event intent.event)) ∧
      assertPayloadAccount (C.event intent.event) authorization.account = .ok () ∧
      operation = officialOperation authorization.account canonicalPayload := by
  obtain ⟨hshape, ⟨hmode, hauthority⟩, hrole, haccount, -, hoperation⟩ :=
    authorizeOfficialEvent_eq_ok_iff.mp h
  simp only [assertAuthorizationShape, bind_eq_ok, exists_unit, require_eq_ok] at hshape
  exact ⟨hshape.2, hmode, hauthority, hrole, haccount, hoperation⟩

end HiveChameleon.Gateway
