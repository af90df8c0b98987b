import HiveChameleon.Gateway.Policy

/-!
# Gateway.WaxChain — the inspection of a Hive transaction

`WaxHiveChainAdapter.inspectTransaction` and `signature.ts`.  The WAX library is a parameter; what is
relied on is that the JSON it gives for a transaction shows the operations and signatures that the
transaction has.
-/

namespace HiveChameleon.Gateway

open Lib

/-! ### JSON values and the schemas of `wax-chain.ts` -/

/-- What `JSON.parse` returns; an object's keys are distinct. -/
inductive Json where
  | null
  | bool (value : Bool)
  | number (value : String)
  | string (value : String)
  | array (items : List Json)
  | object (fields : List (String × Json))

namespace Json

def asString : Json → Option String
  | string value => some value
  | _ => none

/-- `z.array(z.string())` -/
def asStrings : Json → Option (List String)
  | array items => items.mapM asString
  | _ => none

/-- `z.strictObject`: an object with these keys and no others. -/
def strictObject (keys : List String) : Json → Option (List (String × Json))
  | object fields =>
    if fields.all (fun field => keys.contains field.1) &&
      keys.all (fun key => fields.any fun field => field.1 = key) then some fields
    else none
  | _ => none

end Json

def customJsonValueSchema (value : Json) : Option HiveCustomJsonOperation := do
  let fields ← value.strictObject ["required_auths", "required_posting_auths", "id", "json"]
  let requiredAuths ← (← fields.lookup "required_auths").asStrings
  let requiredPostingAuths ← (← fields.lookup "required_posting_auths").asStrings
  let id ← (← fields.lookup "id").asString
  let json ← (← fields.lookup "json").asString
  pure ⟨requiredAuths, requiredPostingAuths, id, json⟩

/-- `z.strictObject({ type: z.literal('custom_json_operation'), value })` -/
def typedOperationSchema (value : Json) : Option HiveCustomJsonOperation := do
  let fields ← value.strictObject ["type", "value"]
  let type ← (← fields.lookup "type").asString
  if type = "custom_json_operation" then customJsonValueSchema (← fields.lookup "value") else none

/-- `z.strictObject({ custom_json: value })` -/
def keyedOperationSchema (value : Json) : Option HiveCustomJsonOperation := do
  let fields ← value.strictObject ["custom_json"]
  customJsonValueSchema (← fields.lookup "custom_json")

def apiOperationSchema (value : Json) : Option HiveCustomJsonOperation :=
  (typedOperationSchema value).or (keyedOperationSchema value)

def Json.asArray : Json → Option (List Json)
  | array items => items
  | _ => none

/-- The `operations` and `signatures` of an object; other keys pass. -/
def transactionEnvelopeSchema : Json → Option (List Json × List String)
  | .object fields => do
    let operations ← (← fields.lookup "operations").asArray
    let signatures ← (← fields.lookup "signatures").asStrings
    pure (operations, signatures)
  | _ => none

/-! ### WAX -/

/-- An operation of a Hive transaction. -/
inductive HiveOperation where
  | customJson (operation : HiveCustomJsonOperation)
  | other (kind : String)
deriving DecidableEq

/-- The WAX library. -/
structure Wax where
  Transaction : Type
  /-- `createTransactionFromJson` and `validate`; `none` when either throws. -/
  createTransactionFromJson : String → Option Transaction
  operations : Transaction → List HiveOperation
  signatures : Transaction → List String
  sigDigest : Transaction → String
  id : Transaction → String
  toApi : Transaction → String
  /-- `JSON.parse(toApi())` -/
  parseApi : Transaction → Option Json
  getPublicKeyFromSignature : String → String → Option String

/-- The JSON that WAX gives for a transaction shows its operations and its signatures. -/
structure Wax.Faithful (W : Wax) : Prop where
  operations : ∀ {tx json operations signatures}, W.parseApi tx = some json →
    transactionEnvelopeSchema json = some (operations, signatures) →
    List.Forall₂ (fun json operation => ∀ shown, apiOperationSchema json = some shown →
      operation = HiveOperation.customJson shown) operations (W.operations tx)
  signatures : ∀ {tx json operations signatures}, W.parseApi tx = some json →
    transactionEnvelopeSchema json = some (operations, signatures) → W.signatures tx = signatures

structure InspectedChainTransaction where
  unsignedTransactionJson : String
  signatureDigest : String
  transactionId : String
  canonicalOperationJson : String
  operation : HiveCustomJsonOperation
  isSigned : Bool

/-- `inspectTransaction` on the JSON of a transaction that WAX accepted. -/
def inspectJson (W : Wax) (tx : W.Transaction) (raw : Json) :
    Except HiveGatewayError InspectedChainTransaction :=
  match transactionEnvelopeSchema raw with
  | some ([json], signatures) =>
    match apiOperationSchema json with
    | none => .error ⟨.invalidOperation, "Only custom_json is supported by this gateway"⟩
    | some operation => .ok {
        unsignedTransactionJson := W.toApi tx
        signatureDigest := W.sigDigest tx
        transactionId := W.id tx
        canonicalOperationJson := canonicalCustomJsonOperation operation
        operation := operation
        isSigned := 0 < signatures.length }
  | _ => .error ⟨.invalidOperation, "Exactly one Hive operation is required"⟩

def inspectTransaction (W : Wax) (transactionJson : String) :
    Except HiveGatewayError InspectedChainTransaction :=
  match W.createTransactionFromJson transactionJson with
  | none => .error ⟨.invalidOperation, "WAX rejected the Hive transaction"⟩
  | some tx =>
    match W.parseApi tx with
    | none => .error ⟨.invalidOperation, "WAX transaction JSON could not be inspected"⟩
    | some raw => inspectJson W tx raw

/-- **What an inspection shows is what the transaction is**: one `custom_json` operation, with the
digest and the signatures of that transaction. -/
theorem inspectTransaction_eq_ok {W : Wax} (hwax : W.Faithful) {transactionJson : String}
    {inspected : InspectedChainTransaction}
    (h : inspectTransaction W transactionJson = .ok inspected) :
    ∃ tx, W.createTransactionFromJson transactionJson = some tx ∧
      W.operations tx = [.customJson inspected.operation] ∧
      (inspected.isSigned = false → W.signatures tx = []) ∧
      inspected.signatureDigest = W.sigDigest tx ∧ inspected.transactionId = W.id tx ∧
      inspected.canonicalOperationJson = canonicalCustomJsonOperation inspected.operation := by
  unfold inspectTransaction at h
  cases htx : W.createTransactionFromJson transactionJson with
  | none => rw [htx] at h; cases h
  | some tx =>
    rw [htx] at h
    refine ⟨tx, rfl, ?_⟩
    cases hraw : W.parseApi tx with
    | none => simp only [hraw] at h; cases h
    | some raw =>
      simp only [hraw, inspectJson] at h
      split at h
      · rename_i json signatures henvelope
        cases hoperation : apiOperationSchema json with
        | none => rw [hoperation] at h; cases h
        | some operation =>
          rw [hoperation] at h
          obtain rfl := Except.ok.inj h
          refine ⟨?_, fun hunsigned => ?_, rfl, rfl, rfl⟩
          · have hshown := hwax.operations hraw henvelope
            cases hops : W.operations tx with
            | nil => rw [hops] at hshown; cases hshown
            | cons first rest =>
              rw [hops] at hshown
              obtain ⟨hfirst, hrest⟩ := List.forall₂_cons.mp hshown
              rw [List.forall₂_nil_left_iff.mp hrest, hfirst operation hoperation]
          · rw [hwax.signatures hraw henvelope]
            simpa using hunsigned
      · cases h

/-! ### `signature.ts` -/

def secp256k1Order : ℕ := 0xFFFFFFFFFFFFFFFFFFFFFFFFFFFFFFFEBAAEDCE6AF48A03BBFD25E8CD0364141

def secp256k1HalfOrder : ℕ := secp256k1Order / 2

/-- `/^[0-9a-f]*$/` -/
def isLowerHex (text : List Char) : Bool := text.all fun c => isDigit c || ('a' ≤ c && c ≤ 'f')

/-- `Number.parseInt(hex, 16)` -/
def parseHex (hex : List Char) : ℕ := hex.foldl (fun n c => 16 * n + hexValue c) 0

def isGrapheneCanonicalScalar (hex : List Char) : Bool :=
  let first := parseHex (hex.take 2)
  let second := parseHex ((hex.drop 2).take 2)
  first < 128 && !(first == 0 && second < 128)

def validateHiveCompactSignature (signature : String) : Except HiveGatewayError Unit := do
  let text := signature.toList
  require (text.length = 130 ∧ isLowerHex text = true) ⟨.invalidSignature,
    "Hive compact signature must be exactly 65 lowercase hexadecimal bytes"⟩
  let header := parseHex (text.take 2)
  require (31 ≤ header ∧ header ≤ 34)
    ⟨.invalidSignature, "Hive compact signature header is invalid"⟩
  let r := (text.drop 2).take 64
  let s := (text.drop 66).take 64
  require ((isGrapheneCanonicalScalar r && isGrapheneCanonicalScalar s) = true)
    ⟨.invalidSignature, "Hive signature scalars are not compact-canonical"⟩
  require (1 ≤ parseHex s ∧ parseHex s ≤ secp256k1HalfOrder)
    ⟨.invalidSignature, "Hive signature is not normalized to low-S"⟩

def assertSignatureMatchesPublicKey (W : Wax) (signatureDigest signature expectedPublicKey : String) :
    Except HiveGatewayError Unit := do
  require (signatureDigest.toList.length = 64 ∧ isLowerHex signatureDigest.toList = true)
    ⟨.invalidSignature, "Signature digest must be 32 lowercase hex bytes"⟩
  validateHiveCompactSignature signature
  match W.getPublicKeyFromSignature signatureDigest signature with
  | none => .error ⟨.invalidSignature, "WAX could not recover the signing key"⟩
  | some recovered =>
    require (recovered = expectedPublicKey)
      ⟨.signerMismatch, "Signature did not recover the expected Hive public key"⟩

end HiveChameleon.Gateway
