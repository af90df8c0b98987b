import HiveChameleon.Gateway.EventEncoding
import HiveChameleon.Projector.Validator

/-!
# Projector.SignerAgreement — signer and indexer

The gateway decides by a trusted policy what it signs, the projector by its allow lists what it indexes.
An authorized operation in a block is accepted, and an accepted operation is one that a policy of its
signer would have authorized.
-/

namespace HiveChameleon.Projector

open Gateway Lib

/-! ### The runtime of the projector -/

section

variable (J : JsRuntime)

/-- The value that `JSON.parse` and the schema make of a text. -/
def acceptedValue (text : String) : Option Json :=
  (jsonParse J.numberText text).bind (EventSchema.hiveChameleonEventSchema J).parse

/-- What PostgreSQL makes of texts; both read the same JSON. -/
structure PostgresTexts where
  jsonb : String → Option HiveChameleonEvent
  timestamptz : IsoTimestamp → Option Timestamp
  /-- The code that a string with a lone surrogate is refused with. -/
  refusal : JsString → HiveGatewayErrorCode
  jsonb_eq : ∀ {text e e'}, (acceptedValue J text).map (eventOf J) = some e → jsonb text = some e' →
    e' = e
  /-- Both order the texts of instants alike. -/
  timestamptz_le : ∀ {start stop time time'}, J.dateParse start.text < J.dateParse stop.text →
    timestamptz start = some time → timestamptz stop = some time' → time ≤ time'

variable {J}

/-- The runtime that reads values as the codec of the gateway does. -/
def PostgresTexts.runtime (P : PostgresTexts J) : Runtime where
  safeParse text := (acceptedValue J text).map (eventOf J)
  isCanonical text := (acceptedValue J text).any fun data => canonicalJson data == text
  jsonb := P.jsonb
  timestamptz := P.timestamptz
  dateParse time := J.dateParse time.text
  refusal := P.refusal
  jsonb_eq := P.jsonb_eq
  period_le h hstart hend := by
    obtain ⟨data, hdata, hevent⟩ := Option.map_eq_some_iff.mp h
    obtain ⟨value, -, hvalue⟩ := Option.bind_eq_some_iff.mp hdata
    obtain ⟨again, hagain, -⟩ := isEvent_of_parse hvalue
    have hread := readEvent_of_parse hagain
    rw [hevent] at hread
    exact P.timestamptz_le (EventSchema.period_lt_of_read hagain hread) hstart hend

theorem parse_runtime (P : PostgresTexts J) (payload : String) (event : HiveChameleonEvent) :
    parseHiveChameleonEvent P.runtime payload = .ok event ↔
      ∃ data, (hiveCodec J).parseHiveChameleonEvent payload = .ok data ∧ eventOf J data = event := by
  refine parse_of_codec (hiveCodec J) P.runtime (fun text => rfl) (fun text => ?_) payload event
  have hcanonical : P.runtime.isCanonical text =
      (acceptedValue J text).any fun data => canonicalJson data == text := rfl
  rw [hcanonical, Option.any_eq_true]
  exact exists_congr fun data => and_congr_right fun _ => beq_iff_eq

end

/-! ### `official-signer-policy.ts` -/

def policyKey (policyVersion : String) (role : OfficialServiceRole) : String :=
  policyVersion ++ ("\x00" ++ role.text)

structure StaticOfficialSignerPolicy where
  entries : List (String × OfficialServiceAuthorization)

/-- The loop of the constructor. -/
def addAuthorizations (entries : List (String × OfficialServiceAuthorization)) :
    List OfficialServiceAuthorization →
      Except HiveGatewayError (List (String × OfficialServiceAuthorization))
  | [] => .ok entries
  | authorization :: authorizations =>
    let key := policyKey authorization.policyVersion authorization.role
    if (entries.lookup key).isSome then
      .error ⟨.invalidAuthorization, "Signer policy contains a duplicate role and version"⟩
    else addAuthorizations ((key, authorization) :: entries) authorizations

/-- The constructor. -/
def StaticOfficialSignerPolicy.create (authorizations : List OfficialServiceAuthorization) :
    Except HiveGatewayError StaticOfficialSignerPolicy := do
  require (authorizations.length ≠ 0) ⟨.invalidAuthorization, "Signer policy must not be empty"⟩
  let entries ← addAuthorizations [] authorizations
  pure ⟨entries⟩

def StaticOfficialSignerPolicy.resolve (policy : StaticOfficialSignerPolicy) (policyVersion : String)
    (role : OfficialServiceRole) : Option OfficialServiceAuthorization :=
  policy.entries.lookup (policyKey policyVersion role)

theorem StaticOfficialSignerPolicy.create_single (authorization : OfficialServiceAuthorization) :
    ∃ policy, StaticOfficialSignerPolicy.create [authorization] = .ok policy ∧
      policy.resolve authorization.policyVersion authorization.role = some authorization := by
  refine ⟨⟨[(policyKey authorization.policyVersion authorization.role, authorization)]⟩, rfl, ?_⟩
  rw [StaticOfficialSignerPolicy.resolve, List.lookup_cons, beq_self_eq_true]

/-! ### Agreement -/

/-- The indexer takes events of the family from the account. -/
def AllowListed (policy : HiveEventValidationPolicy) (family : HiveChameleonEventFamily)
    (account : String) : Prop :=
  match family with
  | .match_ => policy.matchPublishers.contains account = true
  | .collectible => policy.collectibleIssuers.contains account = true

/-- The authorization binds the account to the family, and its metadata are well formed. -/
structure Binds (authorization : OfficialServiceAuthorization) (family : HiveChameleonEventFamily)
    (account : String) : Prop where
  mode : authorization.mode = .officialService
  authority : authorization.authority = .posting
  role : authorization.role = expectedRole family
  account : authorization.account = account
  policyVersion : policyVersionSchema authorization.policyVersion = true
  publicKey : publicKeySchema authorization.expectedPublicKey = true
  keyReference : keyReferenceSchema authorization.signerKeyReference = true

/-- The value that a block has for an operation: its accounts are Hive accounts. -/
def Reconstructs (operation : HiveCustomJsonOperation) (value : OperationValue) : Prop :=
  ∃ auths postingAuths, value = .customJson auths postingAuths operation.id (.text operation.json) ∧
    auths.map (·.name) = operation.requiredAuths ∧
    postingAuths.map (·.name) = operation.requiredPostingAuths

section

variable {policy : HiveEventValidationPolicy} {event : HiveChameleonEvent} {account : String}

theorem isSignerAllowed_iff : isSignerAllowed policy event account = true ↔
    AllowListed policy (eventFamily event) account ∧ assertPayloadAccount event account = .ok () := by
  cases event with
  | matchResultsBatch e =>
    rw [isSignerAllowed, Bool.and_eq_true, beq_iff_eq, assertPayloadAccount, require_eq_ok]
    rfl
  | matchResultCorrected e =>
    rw [isSignerAllowed, Bool.and_eq_true, beq_iff_eq, assertPayloadAccount, require_eq_ok]
    rfl
  | matchResultInvalidated e =>
    rw [isSignerAllowed, Bool.and_eq_true, beq_iff_eq, assertPayloadAccount, require_eq_ok]
    rfl
  | collectibleIssued e =>
    rw [isSignerAllowed, Bool.and_eq_true, beq_iff_eq, assertPayloadAccount, require_eq_ok]
    rfl
  | collectibleRevoked e =>
    exact ⟨fun h => ⟨h, rfl⟩, fun h => h.1⟩

theorem reconstructs_official {account payload : String} {value : OperationValue} :
    Reconstructs (officialOperation account payload) value ↔
      ∃ signer : HiveAccount, signer.name = account ∧
        value = .customJson [] [signer] hiveChameleonApplicationId (.text payload) := by
  constructor
  · rintro ⟨auths, postingAuths, rfl, hauths, hposting⟩
    obtain rfl := List.map_eq_nil_iff.mp hauths
    obtain ⟨signer, rfl, hname⟩ := List.map_eq_singleton_iff.mp hposting
    exact ⟨signer, hname, rfl⟩
  · rintro ⟨signer, rfl, rfl⟩
    exact ⟨[], [signer], rfl, rfl, rfl⟩

end

section

variable {J : JsRuntime} {P : PostgresTexts J} {policy : HiveEventValidationPolicy}
  {operation : HafOperation} {block : HafBlock} {decision : OperationDecision}
  {intent : OfficialEventIntent (hiveCodec J)} {authorization : OfficialServiceAuthorization}
  {signed : HiveCustomJsonOperation} {payload : String}

theorem parse_signed (h : (hiveCodec J).serializeHiveChameleonEvent intent.event = .ok payload) :
    parseHiveChameleonEvent P.runtime payload = .ok (eventOf J intent.event) :=
  (parse_runtime P payload _).mpr (parse_of_serialize h)

theorem accepts_of_authorized
    (hauthorized : authorizeOfficialEvent intent authorization = .ok (signed, payload))
    (hallowed : AllowListed policy (eventFamily (eventOf J intent.event)) authorization.account)
    (htype : operation.operationType = "custom_json_operation")
    (hvirtual : operation.isVirtual = false) (hvalue : Reconstructs signed operation.value)
    (htime : J.dateParse (eventOf J intent.event).occurredAt.text - policy.maximumFutureClockSkewMs ≤
      block.timestamp) :
    ∃ signer : HiveAccount, signer.name = authorization.account ∧
      Accepts P.runtime policy operation block signer payload (eventOf J intent.event) := by
  obtain ⟨-, -, -, haccount, hpayload, rfl⟩ := authorizeOfficialEvent_eq_ok_iff.mp hauthorized
  obtain ⟨signer, hname, hoperation⟩ := reconstructs_official.mp hvalue
  refine ⟨signer, hname, htype, hvirtual, hoperation, parse_signed hpayload, ?_, ?_⟩
  · rw [hname]
    exact isSignerAllowed_iff.mpr ⟨hallowed, haccount⟩
  · show J.dateParse (eventOf J intent.event).occurredAt.text ≤ _
    omega

theorem authorized_of_accepts {signer : HiveAccount} {event : HiveChameleonEvent}
    (h : Accepts P.runtime policy operation block signer payload event) :
    ∃ value : Json, (hiveCodec J).parseHiveChameleonEvent payload = .ok value ∧
      eventOf J value = event ∧ AllowListed policy (eventFamily event) signer.name ∧
      ∀ (key : String) (authorization : OfficialServiceAuthorization),
        idempotencyKeySchema key = true → Binds authorization (eventFamily event) signer.name →
        authorizeOfficialEvent (C := hiveCodec J) ⟨key, authorization.policyVersion, value⟩
          authorization = .ok (officialOperation signer.name payload, payload) := by
  obtain ⟨value, hvalue, hevent⟩ := (parse_runtime P payload event).mp h.parse
  obtain ⟨hallowed, haccount⟩ := isSignerAllowed_iff.mp h.allowed
  refine ⟨value, hvalue, hevent, hallowed, fun key authorization hkey hbinds => ?_⟩
  have hserialize := serialize_parse hvalue
  have hcodec : (hiveCodec J).event value = event := hevent
  refine authorizeOfficialEvent_eq_ok_iff.mpr ⟨?_, ⟨hbinds.mode, hbinds.authority⟩, ?_, ?_,
    hserialize, ?_⟩
  · have hvalid : hiveAccountSchema authorization.account = true := by
      rw [hbinds.account]
      exact signer.normalized
    refine bind_eq_ok.mpr ⟨(), require_eq_ok.mpr ?_, require_eq_ok.mpr rfl⟩
    rw [hkey, hbinds.policyVersion, hvalid, hbinds.publicKey, hbinds.keyReference]
    rfl
  · rw [hcodec, hbinds.role]
  · rw [hcodec, hbinds.account]
    exact haccount
  · rw [hbinds.account]

theorem accepts_of_accepted (h : validate P.runtime policy operation block = some decision)
    (haccepted : decision.validationState = .accepted) :
    ∃ signer json event, Accepts P.runtime policy operation block signer json event ∧
      decision.event = some event := by
  rcases validate_cases h with ⟨signer, json, event, haccepts⟩ | ⟨hrejected, -, -⟩
  · rw [haccepts.validate, Option.some.injEq] at h
    refine ⟨signer, json, event, haccepts, ?_⟩
    rw [← h]
  · rw [hrejected] at haccepted
    cases haccepted

end

/-- A policy entry of an account for a family. -/
def authorizationOf (family : HiveChameleonEventFamily) (account : String) :
    OfficialServiceAuthorization where
  mode := .officialService
  role := expectedRole family
  account := account
  authority := .posting
  expectedPublicKey := "STM1111111111111111111111111111111114T1Anm"
  signerKeyReference := "official"
  policyVersion := "v1"

theorem binds_authorizationOf (family : HiveChameleonEventFamily) (account : String) :
    Binds (authorizationOf family account) family account where
  mode := rfl
  authority := rfl
  role := rfl
  account := rfl
  policyVersion := show policyVersionSchema "v1" = true by decide
  publicKey := show publicKeySchema "STM1111111111111111111111111111111114T1Anm" = true by decide
  keyReference := show keyReferenceSchema "official" = true by decide

/-- **Signer and indexer agree.**  An operation that the gateway authorized for an account, in a block
whose time is not before the event's less the permitted skew, is accepted by an indexer that lists the
account for the family.  An operation that the indexer accepts is authorized under every policy that
binds its signer to the family, and there is such a policy. -/
theorem signer_and_indexer_agree (J : JsRuntime) (P : PostgresTexts J)
    (policy : HiveEventValidationPolicy) (operation : HafOperation) (block : HafBlock) :
    (∀ (intent : OfficialEventIntent (hiveCodec J)) (authorization : OfficialServiceAuthorization)
        (signed : HiveCustomJsonOperation) (payload : String),
      authorizeOfficialEvent intent authorization = .ok (signed, payload) →
      AllowListed policy (eventFamily (eventOf J intent.event)) authorization.account →
      operation.operationType = "custom_json_operation" → operation.isVirtual = false →
      Reconstructs signed operation.value →
      J.dateParse (eventOf J intent.event).occurredAt.text - policy.maximumFutureClockSkewMs ≤
        block.timestamp →
      ∃ decision, validate P.runtime policy operation block = some decision ∧
        decision.validationState = .accepted ∧ decision.event = some (eventOf J intent.event)) ∧
    ∀ decision, validate P.runtime policy operation block = some decision →
      decision.validationState = .accepted →
      ∃ (value : Json) (account payload : String),
        decision.event = some (eventOf J value) ∧
        AllowListed policy (eventFamily (eventOf J value)) account ∧
        Reconstructs (officialOperation account payload) operation.value ∧
        (∀ (key : String) (authorization : OfficialServiceAuthorization),
          idempotencyKeySchema key = true →
          Binds authorization (eventFamily (eventOf J value)) account →
          authorizeOfficialEvent (C := hiveCodec J) ⟨key, authorization.policyVersion, value⟩
            authorization = .ok (officialOperation account payload, payload)) ∧
        ∃ (key : String) (authorization : OfficialServiceAuthorization)
            (signerPolicy : StaticOfficialSignerPolicy),
          idempotencyKeySchema key = true ∧
          Binds authorization (eventFamily (eventOf J value)) account ∧
          StaticOfficialSignerPolicy.create [authorization] = .ok signerPolicy ∧
          signerPolicy.resolve authorization.policyVersion authorization.role =
            some authorization := by
  constructor
  · intro intent authorization signed payload hauthorized hallowed htype hvirtual hvalue htime
    obtain ⟨signer, -, haccepts⟩ :=
      accepts_of_authorized (P := P) hauthorized hallowed htype hvirtual hvalue htime
    exact ⟨_, haccepts.validate, rfl, rfl⟩
  · intro decision hdecision haccepted
    obtain ⟨signer, json, event, haccepts, hevent⟩ := accepts_of_accepted hdecision haccepted
    obtain ⟨value, -, rfl, hallowed, hauthorized⟩ := authorized_of_accepts haccepts
    have hbinds := binds_authorizationOf (eventFamily (eventOf J value)) signer.name
    obtain ⟨signerPolicy, hcreate, hresolve⟩ := StaticOfficialSignerPolicy.create_single
      (authorizationOf (eventFamily (eventOf J value)) signer.name)
    exact ⟨value, signer.name, json, hevent, hallowed,
      reconstructs_official.mpr ⟨signer, rfl, haccepts.value⟩, hauthorized,
      "official-event-1", _, signerPolicy, by decide, hbinds, hcreate, hresolve⟩

/-! ### A revocation -/

def exampleTexts : PostgresTexts exampleJs where
  jsonb text := (acceptedValue exampleJs text).map (eventOf exampleJs)
  timestamptz _ := some 1767225600000
  refusal _ := .nonCanonicalPayload
  jsonb_eq h h' := Option.some.inj (h'.symm.trans h)
  timestamptz_le _ hstart hend := (Option.some.inj (hstart.symm.trans hend)).le

def revocationIntent : OfficialEventIntent (hiveCodec exampleJs) where
  idempotencyKey := "revocation:1"
  policyVersion := "v1"
  event := exampleRevocation

theorem authorize_revocationIntent :
    authorizeOfficialEvent revocationIntent (authorizationOf .collectible "chameleon") =
      .ok (officialOperation "chameleon" (canonicalJson exampleRevocation),
        canonicalJson exampleRevocation) := by
  refine authorizeOfficialEvent_eq_ok_iff.mpr ⟨?_, ⟨rfl, rfl⟩, rfl, rfl,
    serialize_exampleRevocation, rfl⟩
  exact bind_eq_ok.mpr ⟨(), require_eq_ok.mpr (by decide), require_eq_ok.mpr rfl⟩

/-- The issuer's revocation, signed and put into a block of its time. -/
theorem signer_and_indexer_agree_revocation :
    ∃ decision, validate exampleTexts.runtime ⟨[], ["chameleon"], 300000⟩
        ⟨"operation", some "transaction", 0, false, 100, 1767225600000, "custom_json_operation",
          .customJson [] [⟨"chameleon", by decide⟩] hiveChameleonApplicationId
            (canonicalJson exampleRevocation)⟩
        ⟨100, "block", "previous", 1767225600000⟩ = some decision ∧
      decision.validationState = .accepted ∧
      decision.event = some (eventOf exampleJs exampleRevocation) :=
  (signer_and_indexer_agree exampleJs exampleTexts ⟨[], ["chameleon"], 300000⟩ _ _).1
    revocationIntent (authorizationOf .collectible "chameleon") _ _ authorize_revocationIntent rfl
    rfl rfl (reconstructs_official.mpr ⟨⟨"chameleon", by decide⟩, rfl, rfl⟩) (by decide)

end HiveChameleon.Projector
