import HiveChameleon.Gateway.Signer

/-!
# Gateway.HiveGateway — `gateway.ts`, the preparation and the signing request of an official event

The chain adapter prepares the transaction of the authorized operation; what it answers is an
argument.  The request to the signer is read off the prepared event.
-/

namespace HiveChameleon.Gateway

open Lib

structure PreparedChainTransaction where
  unsignedTransactionJson : String
  signatureDigest : String
  transactionId : String
  canonicalOperationJson : String
deriving DecidableEq

structure PreparedOfficialEvent extends PreparedChainTransaction where
  idempotencyKey : String
  policyVersion : String
  eventFamily : HiveChameleonEventFamily
  eventType : HiveChameleonEventType
  canonicalPayload : String
  canonicalOperationHash : String
  authorization : OfficialServiceAuthorization
deriving DecidableEq

section

variable {C : EventCodec} (sha256Hex : String → String) (intent : OfficialEventIntent C)
variable (authorization : OfficialServiceAuthorization)

/-- `prepareOfficialEvent`, from what `chain.prepareCustomJson` answers. -/
def prepareOfficialEvent (chain : Except HiveGatewayError PreparedChainTransaction) :
    Except HiveGatewayError PreparedOfficialEvent := do
  let authorized ← authorizeOfficialEvent intent authorization
  let canonicalOperationJson := canonicalCustomJsonOperation authorized.1
  let prepared ← chain
  require (prepared.canonicalOperationJson = canonicalOperationJson)
    ⟨.transactionMismatch, "WAX prepared a different operation"⟩
  pure { prepared with
    idempotencyKey := intent.idempotencyKey
    policyVersion := intent.policyVersion
    eventFamily := eventFamily (C.event intent.event)
    eventType := (C.event intent.event).type
    canonicalPayload := authorized.2
    canonicalOperationHash := sha256Hex canonicalOperationJson
    authorization := authorization }

/-- The request that `broadcastOfficialEvent` sends to the signer. -/
def signerRequest (prepared : PreparedOfficialEvent) : IsolatedSignerRequest where
  idempotencyKey := prepared.idempotencyKey
  policyVersion := prepared.policyVersion
  role := prepared.authorization.role
  account := prepared.authorization.account
  authority := prepared.authorization.authority
  expectedPublicKey := prepared.authorization.expectedPublicKey
  signerKeyReference := prepared.authorization.signerKeyReference
  eventFamily := prepared.eventFamily
  eventType := prepared.eventType
  canonicalPayload := prepared.canonicalPayload
  canonicalOperationJson := prepared.canonicalOperationJson
  canonicalOperationHash := prepared.canonicalOperationHash
  unsignedTransactionJson := prepared.unsignedTransactionJson
  signatureDigest := prepared.signatureDigest
  transactionId := prepared.transactionId

variable {sha256Hex intent authorization}

/-- The prepared event carries the key of the intent and the operation of its payload. -/
theorem prepareOfficialEvent_eq_ok {chain : Except HiveGatewayError PreparedChainTransaction}
    {prepared : PreparedOfficialEvent}
    (h : prepareOfficialEvent sha256Hex intent authorization chain = .ok prepared) :
    prepared.idempotencyKey = intent.idempotencyKey ∧
      prepared.canonicalOperationJson = canonicalCustomJsonOperation
        (officialOperation authorization.account prepared.canonicalPayload) ∧
      prepared.canonicalOperationHash = sha256Hex prepared.canonicalOperationJson := by
  simp only [prepareOfficialEvent, bind_eq_ok, exists_unit, require_eq_ok, pure_eq_ok] at h
  obtain ⟨authorized, hauthorized, answer, -, hsame, rfl⟩ := h
  obtain ⟨-, -, -, -, -, hoperation⟩ := authorizeOfficialEvent_eq_ok hauthorized
  refine ⟨rfl, ?_, ?_⟩
  · rw [← hoperation]
    exact hsame
  · rw [← hsame]

end

end HiveChameleon.Gateway
