import HiveChameleon.Gateway.WaxChain
import HiveChameleon.Lib.Prog

/-!
# Gateway.Signer — `PolicyEnforcingSignerBoundary`

A signing request is checked against its transaction, its payload and the trusted policy; then the
idempotency ledger and the signature provider are called.  `sign` is the program of these calls, each
of them an await that may fail.  Whatever they answer, the provider is asked only to sign the digest
of a transaction that publishes the payload as the policy allows.
-/

namespace HiveChameleon.Gateway

open Lib

structure IsolatedSignerRequest where
  idempotencyKey : String
  policyVersion : String
  role : OfficialServiceRole
  account : String
  authority : HiveAuthority
  expectedPublicKey : String
  signerKeyReference : String
  eventFamily : HiveChameleonEventFamily
  eventType : HiveChameleonEventType
  canonicalPayload : String
  canonicalOperationJson : String
  canonicalOperationHash : String
  unsignedTransactionJson : String
  signatureDigest : String
  transactionId : String
deriving DecidableEq

structure IsolatedSignerResponse where
  signature : String
  publicKey : String
deriving DecidableEq

structure SignerIdempotencyBinding where
  idempotencyKey : String
  policyVersion : String
  role : OfficialServiceRole
  account : String
  authority : HiveAuthority
  expectedPublicKey : String
  signerKeyReference : String
  canonicalOperationJson : String
  canonicalOperationHash : String
  signatureDigest : String
  transactionId : String
deriving DecidableEq

inductive SignerIdempotencyAcquisition where
  | acquired (leaseId : String)
  | conflict
  | replay (response : IsolatedSignerResponse)
deriving DecidableEq

/-- The argument of `signDigest`. -/
structure SignDigestRequest where
  idempotencyKey : String
  signerKeyReference : String
  signatureDigest : String
  expectedPublicKey : String
deriving DecidableEq

/-- The calls of the ledger and of the provider. -/
inductive SignerCall where
  | acquire (binding : SignerIdempotencyBinding)
  | complete (binding : SignerIdempotencyBinding) (leaseId : String)
      (response : IsolatedSignerResponse)
  | abort (binding : SignerIdempotencyBinding) (leaseId : String)
  | signDigest (request : SignDigestRequest)
deriving DecidableEq

@[reducible] def SignerCall.Response : SignerCall → Type
  | acquire _ => SignerIdempotencyAcquisition
  | complete _ _ _ => Unit
  | abort _ _ => Unit
  | signDigest _ => String

abbrev Signing (α : Type) := Prog SignerCall SignerCall.Response HiveGatewayError α

/-- What the boundary is built with; `policy` is the trusted `OfficialSignerPolicy`. -/
structure SignerBoundary where
  codec : EventCodec
  wax : Wax
  policy : String → OfficialServiceRole → Option OfficialServiceAuthorization
  sha256Hex : String → String

def idempotencyBinding (request : IsolatedSignerRequest) : SignerIdempotencyBinding where
  idempotencyKey := request.idempotencyKey
  policyVersion := request.policyVersion
  role := request.role
  account := request.account
  authority := request.authority
  expectedPublicKey := request.expectedPublicKey
  signerKeyReference := request.signerKeyReference
  canonicalOperationJson := request.canonicalOperationJson
  canonicalOperationHash := request.canonicalOperationHash
  signatureDigest := request.signatureDigest
  transactionId := request.transactionId

def matchesTrustedAuthorization (request : IsolatedSignerRequest)
    (authorization : OfficialServiceAuthorization) : Prop :=
  authorization.mode = .officialService ∧ authorization.role = request.role ∧
    authorization.account = request.account ∧ authorization.authority = request.authority ∧
    authorization.expectedPublicKey = request.expectedPublicKey ∧
    authorization.signerKeyReference = request.signerKeyReference ∧
    authorization.policyVersion = request.policyVersion

instance (request : IsolatedSignerRequest) (authorization : OfficialServiceAuthorization) :
    Decidable (matchesTrustedAuthorization request authorization) :=
  inferInstanceAs (Decidable (_ ∧ _))

section

variable (B : SignerBoundary) (request : IsolatedSignerRequest)

/-- The checks of `sign` on the transaction. -/
def assertTransaction (inspected : InspectedChainTransaction) : Except HiveGatewayError Unit := do
  require (inspected.isSigned = false)
    ⟨.transactionMismatch, "Signer boundary accepts unsigned transactions only"⟩
  require (inspected.signatureDigest = request.signatureDigest ∧
      inspected.transactionId = request.transactionId ∧
      inspected.canonicalOperationJson = request.canonicalOperationJson ∧
      B.sha256Hex inspected.canonicalOperationJson = request.canonicalOperationHash)
    ⟨.transactionMismatch, "Signer request does not match its WAX transaction"⟩

/-- The checks of `sign` on the event, the policy and the reconstructed operation. -/
def assertPolicy (event : B.codec.Value) : Except HiveGatewayError Unit := do
  require ((B.codec.event event).type = request.eventType)
    ⟨.transactionMismatch, "Signer event type does not match payload"⟩
  require (eventFamily (B.codec.event event) = request.eventFamily)
    ⟨.transactionMismatch, "Signer event family does not match payload"⟩
  let denied : HiveGatewayError :=
    ⟨.policyDenied, "Signer request does not match an approved official signer policy"⟩
  match B.policy request.policyVersion request.role with
  | none => .error denied
  | some authorization => do
    require (matchesTrustedAuthorization request authorization) denied
    let (operation, canonicalPayload) ← authorizeOfficialEvent
      ⟨request.idempotencyKey, request.policyVersion, event⟩ authorization
    require (canonicalCustomJsonOperation operation = request.canonicalOperationJson ∧
        canonicalPayload = request.canonicalPayload)
      ⟨.policyDenied, "Signer policy reconstructed a different operation"⟩

/-- Everything that `sign` checks before it calls the ledger. -/
def assertRequest : Except HiveGatewayError Unit := do
  let inspected ← inspectTransaction B.wax request.unsignedTransactionJson
  assertTransaction B request inspected
  let event ← B.codec.parseHiveChameleonEvent request.canonicalPayload
  assertPolicy B request event

def assertSignerResponse (response : IsolatedSignerResponse) : Except HiveGatewayError Unit := do
  require (response.publicKey = request.expectedPublicKey)
    ⟨.signerMismatch, "Signer returned an unexpected public key"⟩
  assertSignatureMatchesPublicKey B.wax request.signatureDigest response.signature
    request.expectedPublicKey

def signDigestRequest : SignDigestRequest where
  idempotencyKey := request.idempotencyKey
  signerKeyReference := request.signerKeyReference
  signatureDigest := request.signatureDigest
  expectedPublicKey := request.expectedPublicKey

/-- `sign` once the response is there: its completion in the ledger. -/
def completeSigning (leaseId : String) (response : IsolatedSignerResponse) :
    Signing IsolatedSignerResponse :=
  .call (.complete (idempotencyBinding request) leaseId response) fun
    | .ok () => .ret response
    | .error _ => .throw ⟨.idempotencyUnavailable,
        "Signed response could not be durably completed; reservation retained for reconciliation"⟩

/-- `sign` under a lease: the call of the provider.  A failed call may have signed. -/
def signUnderLease (leaseId : String) : Signing IsolatedSignerResponse :=
  .call (.signDigest (signDigestRequest request)) fun
    | .ok signature =>
      let response := ⟨signature, request.expectedPublicKey⟩
      (Prog.lift (assertSignerResponse B request response)).bind fun _ =>
        completeSigning request leaseId response
    | .error _ => .throw ⟨.idempotencyUnavailable,
        "Signer outcome is unresolved; idempotency reservation retained for reconciliation"⟩

/-- `sign` after its checks: `acquireIdempotency` and what follows from its answer. -/
def acquireAndSign : Signing IsolatedSignerResponse :=
  .call (.acquire (idempotencyBinding request)) fun
    | .ok (.acquired leaseId) => signUnderLease B request leaseId
    | .ok .conflict => .throw ⟨.idempotencyConflict,
        "Signer idempotency key is already bound to a different request"⟩
    | .ok (.replay response) =>
      (Prog.lift (assertSignerResponse B request response)).bind fun _ => .ret response
    | .error _ => .throw ⟨.idempotencyUnavailable, "Signer idempotency ledger is unavailable"⟩

def sign : Signing IsolatedSignerResponse :=
  (Prog.lift (assertRequest B request)).bind fun _ => acquireAndSign B request

end

/-! ### What the provider is asked to sign -/

/-- **A sanctioned call of the provider**: it signs the digest of a transaction whose only operation is
the `custom_json` that publishes the payload, under the posting authority of the account that the
trusted policy binds to the role of the payload's family, with the key that this policy names. -/
structure Sanctioned (B : SignerBoundary) (request : IsolatedSignerRequest)
    (call : SignDigestRequest) : Prop where
  sanction : ∃ (tx : B.wax.Transaction) (event : B.codec.Value)
    (authorization : OfficialServiceAuthorization),
    B.wax.createTransactionFromJson request.unsignedTransactionJson = some tx ∧
    B.wax.signatures tx = [] ∧
    B.codec.parseHiveChameleonEvent request.canonicalPayload = .ok event ∧
    B.policy request.policyVersion request.role = some authorization ∧
    authorization.mode = .officialService ∧ authorization.authority = .posting ∧
    authorization.role = expectedRole (eventFamily (B.codec.event event)) ∧
    assertPayloadAccount (B.codec.event event) authorization.account = .ok () ∧
    B.wax.operations tx =
      [.customJson ⟨[], [authorization.account], "hive.chameleon", request.canonicalPayload⟩] ∧
    call = ⟨request.idempotencyKey, authorization.signerKeyReference, B.wax.sigDigest tx,
      authorization.expectedPublicKey⟩

section

variable {B : SignerBoundary} {request : IsolatedSignerRequest}

theorem assertTransaction_eq_ok {inspected : InspectedChainTransaction}
    (h : assertTransaction B request inspected = .ok ()) :
    inspected.isSigned = false ∧ inspected.signatureDigest = request.signatureDigest ∧
      inspected.transactionId = request.transactionId ∧
      inspected.canonicalOperationJson = request.canonicalOperationJson ∧
      B.sha256Hex inspected.canonicalOperationJson = request.canonicalOperationHash := by
  simpa only [assertTransaction, bind_eq_ok, exists_unit, require_eq_ok] using h

theorem assertPolicy_eq_ok {event : B.codec.Value} (h : assertPolicy B request event = .ok ()) :
    (B.codec.event event).type = request.eventType ∧
      eventFamily (B.codec.event event) = request.eventFamily ∧
      ∃ authorization, B.policy request.policyVersion request.role = some authorization ∧
        matchesTrustedAuthorization request authorization ∧
        authorization.authority = .posting ∧
        authorization.role = expectedRole (eventFamily (B.codec.event event)) ∧
        assertPayloadAccount (B.codec.event event) authorization.account = .ok () ∧
        canonicalCustomJsonOperation (officialOperation authorization.account
          request.canonicalPayload) = request.canonicalOperationJson := by
  simp only [assertPolicy, bind_eq_ok, exists_unit, require_eq_ok] at h
  obtain ⟨htype, hfamily, h⟩ := h
  refine ⟨htype, hfamily, ?_⟩
  cases hpolicy : B.policy request.policyVersion request.role with
  | none => rw [hpolicy] at h; cases h
  | some authorization =>
    rw [hpolicy] at h
    simp only [bind_eq_ok, exists_unit, require_eq_ok, Prod.exists] at h
    obtain ⟨hmatch, operation, canonicalPayload, hauthorized, hoperation, rfl⟩ := h
    obtain ⟨-, -, hauthority, hrole, haccount, rfl⟩ := authorizeOfficialEvent_eq_ok hauthorized
    exact ⟨authorization, rfl, hmatch, hauthority, hrole, haccount, hoperation⟩

theorem sanctioned_of_assertRequest (hwax : B.wax.Faithful)
    (h : assertRequest B request = .ok ()) : Sanctioned B request (signDigestRequest request) := by
  simp only [assertRequest, bind_eq_ok, exists_unit] at h
  obtain ⟨inspected, hinspected, htransaction, event, hevent, hpolicy⟩ := h
  obtain ⟨tx, htx, hoperations, hsigned, hdigest, -, hcanonical⟩ :=
    inspectTransaction_eq_ok hwax hinspected
  obtain ⟨hunsigned, hsame, -, hjson, -⟩ := assertTransaction_eq_ok htransaction
  obtain ⟨-, -, authorization, hauthorization, hmatch, hauthority, hrole, haccount, hexpected⟩ :=
    assertPolicy_eq_ok hpolicy
  obtain ⟨hmode, -, -, -, hkey, hreference, -⟩ := hmatch
  -- both texts are the canonical JSON of an operation, so the operations agree
  have hoperation : inspected.operation =
      officialOperation authorization.account request.canonicalPayload := by
    apply canonicalCustomJsonOperation_injective
    rw [← hcanonical, hjson, hexpected]
  refine ⟨tx, event, authorization, htx, hsigned hunsigned, hevent, hauthorization, hmode, hauthority,
    hrole, haccount, ?_, ?_⟩
  · rw [hoperations, hoperation]; rfl
  · rw [signDigestRequest, ← hkey, ← hreference, ← hsame, hdigest]

theorem not_makes_completeSigning {leaseId : String} {response : IsolatedSignerResponse}
    {call : SignDigestRequest} :
    ¬ (completeSigning request leaseId response).Makes (.signDigest call) := by
  rw [completeSigning, Prog.makes_call]
  rintro (h | ⟨r, h⟩)
  · cases h
  · cases r with
    | ok _ => exact Prog.not_makes_ret h
    | error _ => exact Prog.not_makes_throw h

/-- The only provider call of `sign` is the one built from the request. -/
theorem makes_acquireAndSign {call : SignDigestRequest}
    (h : (acquireAndSign B request).Makes (.signDigest call)) : call = signDigestRequest request := by
  rw [acquireAndSign, Prog.makes_call] at h
  rcases h with h | ⟨r, h⟩
  · cases h
  cases r with
  | error _ => exact absurd h Prog.not_makes_throw
  | ok acquisition =>
    cases acquisition with
    | conflict => exact absurd h Prog.not_makes_throw
    | replay response =>
      obtain ⟨-, -, h⟩ := Prog.makes_lift_bind.mp h
      exact absurd h Prog.not_makes_ret
    | acquired leaseId =>
      have h : (signUnderLease B request leaseId).Makes (.signDigest call) := h
      rw [signUnderLease, Prog.makes_call] at h
      rcases h with h | ⟨r, h⟩
      · exact (SignerCall.signDigest.inj h).symm
      cases r with
      | error _ => exact absurd h Prog.not_makes_throw
      | ok signature =>
        obtain ⟨-, -, h⟩ := Prog.makes_lift_bind.mp h
        exact absurd h not_makes_completeSigning

/-- **The signer signs sanctioned transactions only**: whatever the ledger and the provider answer,
every call of the provider is sanctioned, and a request that sanctions no call ends with an error
before any of them is called. -/
theorem signer_signs_only_sanctioned (B : SignerBoundary) (hwax : B.wax.Faithful)
    (request : IsolatedSignerRequest) :
    (∀ call, (sign B request).Makes (.signDigest call) → Sanctioned B request call) ∧
      ((∀ call, ¬ Sanctioned B request call) → ∃ e, sign B request = .throw e) := by
  constructor
  · intro call h
    obtain ⟨_, hchecked, h⟩ := Prog.makes_lift_bind.mp h
    rw [makes_acquireAndSign h]
    exact sanctioned_of_assertRequest hwax hchecked
  · intro hnone
    cases hchecked : assertRequest B request with
    | ok _ => exact absurd (sanctioned_of_assertRequest hwax hchecked) (hnone _)
    | error e => exact ⟨e, by rw [sign, hchecked]; rfl⟩

end

/-! ### A revocation that is signed -/

/-- The parts of the payload's text. -/
def revokedTexts : List String :=
  ["\x7b\"data\":\x7b\"collectible_id\":\"01910000-0000-7000-8000-000000000001\",",
   "\"issued_event_id\":\"01910000-0000-7000-8000-000000000002\",",
   "\"reason_code\":\"fraud\"\x7d,\"event_id\":\"01910000-0000-7000-8000-000000000003\",",
   "\"occurred_at\":\"2026-07-11T12:00:00Z\",\"type\":\"collectible_revoked\",\"v\":1\x7d"]

@[irreducible] def revokedPayload : String := revokedTexts.foldr (· ++ ·) ""

def revokedEvent : HiveChameleonEvent :=
  .collectibleRevoked
    { eventId := ⟨0x01910000000070008000000000000003⟩
      occurredAt := ⟨"2026-07-11T12:00:00Z"⟩
      collectibleId := ⟨0x01910000000070008000000000000001⟩
      issuedEventId := ⟨0x01910000000070008000000000000002⟩
      reasonCode := ⟨"fraud", by decide⟩ }

def issuerAuthorization : OfficialServiceAuthorization where
  mode := .officialService
  role := .collectibleIssuer
  account := "issuer"
  authority := .posting
  expectedPublicKey := "STM6issuerissuerissuer"
  signerKeyReference := "kms/issuer"
  policyVersion := "v1"

def revokedOperation : HiveCustomJsonOperation := officialOperation "issuer" revokedPayload

/-- The JSON of the unsigned transaction. -/
def revokedTransaction : Json :=
  .object [("operations", .array [.object [("type", .string "custom_json_operation"),
    ("value", .object [("required_auths", .array []),
      ("required_posting_auths", .array [.string "issuer"]), ("id", .string "hive.chameleon"),
      ("json", .string revokedPayload)])]]), ("signatures", .array [])]

def exampleDigest : String := "00000000000000000000000000000000000000000000000000000000000000aa"

/-- WAX and the event schema on that one transaction and payload. -/
abbrev exampleBoundary : SignerBoundary where
  codec :=
    { Value := HiveChameleonEvent
      parseJson := fun text => if text = revokedPayload then some revokedEvent else none
      safeParse := fun value => some value
      canonicalJson := fun _ => revokedPayload
      event := id }
  wax :=
    { Transaction := Unit
      createTransactionFromJson := fun text => if text = "transaction" then some () else none
      operations := fun _ => [.customJson revokedOperation]
      signatures := fun _ => []
      sigDigest := fun _ => exampleDigest
      id := fun _ => "00aa"
      toApi := fun _ => "transaction"
      parseApi := fun _ => some revokedTransaction
      getPublicKeyFromSignature := fun _ _ => some "STM6issuerissuerissuer" }
  policy := fun version role =>
    if version = "v1" ∧ role = .collectibleIssuer then some issuerAuthorization else none
  sha256Hex := fun _ => exampleDigest

def revokedRequest : IsolatedSignerRequest where
  idempotencyKey := "revocation:1"
  policyVersion := "v1"
  role := .collectibleIssuer
  account := "issuer"
  authority := .posting
  expectedPublicKey := "STM6issuerissuerissuer"
  signerKeyReference := "kms/issuer"
  eventFamily := .collectible
  eventType := .collectibleRevoked
  canonicalPayload := revokedPayload
  canonicalOperationJson := canonicalCustomJsonOperation revokedOperation
  canonicalOperationHash := exampleDigest
  unsignedTransactionJson := "transaction"
  signatureDigest := exampleDigest
  transactionId := "00aa"

theorem exampleBoundary_faithful : exampleBoundary.wax.Faithful := by
  have henvelope : transactionEnvelopeSchema revokedTransaction =
      some ([.object [("type", .string "custom_json_operation"),
        ("value", .object [("required_auths", .array []),
          ("required_posting_auths", .array [.string "issuer"]), ("id", .string "hive.chameleon"),
          ("json", .string revokedPayload)])]], []) := rfl
  constructor
  · intro tx json operations signatures hjson h
    obtain rfl := Option.some.inj hjson
    rw [henvelope] at h
    obtain ⟨rfl, rfl⟩ := Prod.mk.inj (Option.some.inj h)
    refine .cons (fun shown hshown => ?_) .nil
    obtain rfl : revokedOperation = shown := Option.some.inj hshown
    rfl
  · intro tx json operations signatures hjson h
    obtain rfl := Option.some.inj hjson
    rw [henvelope] at h
    exact (Prod.mk.inj (Option.some.inj h)).2

theorem revokedPayload_size : revokedPayload.utf8ByteSize ≤ hiveChameleonMaxPayloadBytes := by
  have hsum : ∀ texts : List String, (∀ text ∈ texts, text.utf8ByteSize ≤ 100) →
      (texts.foldr (· ++ ·) "").utf8ByteSize ≤ 100 * texts.length := by
    intro texts htexts
    induction texts with
    | nil => simp
    | cons text texts ih =>
      have hfirst := htexts text (List.mem_cons_self ..)
      have hrest := ih fun other hother => htexts other (List.mem_cons_of_mem _ hother)
      rw [List.foldr_cons, String.utf8ByteSize_append, List.length_cons]
      omega
  have hparts : ∀ text ∈ revokedTexts, text.utf8ByteSize ≤ 100 := by decide +kernel
  have hsize := hsum revokedTexts hparts
  have hlength : revokedTexts.length = 4 := rfl
  rw [revokedPayload, hiveChameleonMaxPayloadBytes]
  omega

theorem parse_revokedPayload :
    exampleBoundary.codec.parseHiveChameleonEvent revokedPayload = .ok revokedEvent := by
  rw [EventCodec.parseHiveChameleonEvent_eq_ok]
  exact ⟨revokedPayload_size, ⟨revokedEvent, if_pos rfl, rfl⟩, rfl⟩

theorem serialize_revokedEvent :
    exampleBoundary.codec.serializeHiveChameleonEvent revokedEvent = .ok revokedPayload :=
  bind_eq_ok.mpr ⟨(), require_eq_ok.mpr revokedPayload_size, rfl⟩

theorem authorize_revokedEvent :
    authorizeOfficialEvent (C := exampleBoundary.codec) ⟨"revocation:1", "v1", revokedEvent⟩
      issuerAuthorization = .ok (revokedOperation, revokedPayload) := by
  have hshape : assertAuthorizationShape (C := exampleBoundary.codec)
      ⟨"revocation:1", "v1", revokedEvent⟩ issuerAuthorization = .ok () :=
    bind_eq_ok.mpr ⟨(), require_eq_ok.mpr (by decide), rfl⟩
  exact bind_eq_ok.mpr ⟨(), hshape, bind_eq_ok.mpr ⟨(), rfl, bind_eq_ok.mpr ⟨(), rfl,
    bind_eq_ok.mpr ⟨(), rfl, bind_eq_ok.mpr ⟨revokedPayload, serialize_revokedEvent, rfl⟩⟩⟩⟩⟩

theorem assertRequest_revokedRequest : assertRequest exampleBoundary revokedRequest = .ok () := by
  have hinspect : inspectTransaction exampleBoundary.wax "transaction" = .ok
      ⟨"transaction", exampleDigest, "00aa", canonicalCustomJsonOperation revokedOperation,
        revokedOperation, false⟩ := rfl
  have htransaction : assertTransaction exampleBoundary revokedRequest
      ⟨"transaction", exampleDigest, "00aa", canonicalCustomJsonOperation revokedOperation,
        revokedOperation, false⟩ = .ok () :=
    bind_eq_ok.mpr ⟨(), rfl, require_eq_ok.mpr ⟨rfl, rfl, rfl, rfl⟩⟩
  have hreconstructed : require (canonicalCustomJsonOperation revokedOperation =
      revokedRequest.canonicalOperationJson ∧ revokedPayload = revokedRequest.canonicalPayload)
      (⟨.policyDenied, "Signer policy reconstructed a different operation"⟩ : HiveGatewayError) =
        .ok () := require_eq_ok.mpr ⟨rfl, rfl⟩
  have hpolicy : assertPolicy exampleBoundary revokedRequest revokedEvent = .ok () :=
    bind_eq_ok.mpr ⟨(), rfl, bind_eq_ok.mpr ⟨(), rfl,
      bind_eq_ok.mpr ⟨(), require_eq_ok.mpr (by decide),
        bind_eq_ok.mpr ⟨_, authorize_revokedEvent, hreconstructed⟩⟩⟩⟩
  exact bind_eq_ok.mpr ⟨_, hinspect, bind_eq_ok.mpr ⟨(), htransaction,
    bind_eq_ok.mpr ⟨_, parse_revokedPayload, hpolicy⟩⟩⟩

/-- The revocation passes every check, and its call of the provider is sanctioned. -/
theorem signer_signs_only_sanctioned_revocation :
    Sanctioned exampleBoundary revokedRequest (signDigestRequest revokedRequest) := by
  refine (signer_signs_only_sanctioned exampleBoundary exampleBoundary_faithful revokedRequest).1 _ ?_
  rw [sign, Prog.makes_lift_bind]
  refine ⟨(), assertRequest_revokedRequest, ?_⟩
  exact .later (.ok (.acquired "lease-1")) .now

end HiveChameleon.Gateway
