import HiveChameleon.Gateway.JsonSize
import HiveChameleon.Gateway.SignerClient

/-!
# Gateway.Broadcasting — from an intent to the network

`prepareOfficialEvent` and `broadcastOfficialEvent` of `gateway.ts` with the calls that they make of
`WaxHiveChainAdapter` and of the signer's client.  What is broadcast is the authorized event under one
signature of the expected key, and a signer accepts a prepared event exactly when its own policy has the
same authorization.
-/

namespace HiveChameleon.Gateway

open Lib

/-! ### `wax-chain.ts` -/

/-- What the adapter uses of WAX besides the inspection. -/
structure WaxTransactions (W : Wax) where
  /-- `createTransactionFromJson`, without `validate`. -/
  read : String → Option W.Transaction
  /-- `validate` does not throw. -/
  validate : W.Transaction → Bool
  pushOperation : W.Transaction → HiveCustomJsonOperation → Option W.Transaction
  addSignature : W.Transaction → String → Option W.Transaction
  isSigned : W.Transaction → Bool

/-- WAX reads back what it wrote, and a signature is added to a transaction without a change of it. -/
structure WaxTransactions.Faithful {W : Wax} (T : WaxTransactions W) : Prop where
  accepts : ∀ json, W.createTransactionFromJson json = (T.read json).filter T.validate
  reread : ∀ {tx again}, T.read (W.toApi tx) = some again → again = tx
  rewrite : ∀ {json tx}, W.createTransactionFromJson json = some tx →
    W.createTransactionFromJson (W.toApi tx) = some tx
  isSigned : ∀ {tx}, T.isSigned tx = false ↔ W.signatures tx = []
  signatures : ∀ {tx signature signed}, T.addSignature tx signature = some signed →
    W.signatures signed = W.signatures tx ++ [signature]
  unchanged : ∀ {tx signature signed}, T.addSignature tx signature = some signed →
    W.operations signed = W.operations tx ∧ W.sigDigest signed = W.sigDigest tx ∧ W.id signed = W.id tx

section

variable {W : Wax} (T : WaxTransactions W)

def InspectedChainTransaction.prepared (inspected : InspectedChainTransaction) :
    PreparedChainTransaction :=
  ⟨inspected.unsignedTransactionJson, inspected.signatureDigest, inspected.transactionId,
    inspected.canonicalOperationJson⟩

def prepareCustomJson (operation : HiveCustomJsonOperation) (expirationSeconds : ℚ) :
    Gatewaying W PreparedChainTransaction :=
  (checked (require (expirationSeconds.isInt = true ∧ 10 ≤ expirationSeconds ∧
      expirationSeconds ≤ 3600)
    ⟨.invalidOperation, "Transaction expiration must be 10..3600 seconds"⟩)).bind fun _ =>
  (Prog.request (.createTransaction ("+" ++ toString expirationSeconds.num ++ "s"))).bind
    fun (transaction : W.Transaction) =>
  match (T.pushOperation transaction operation).filter T.validate with
  | none => .throw .foreign
  | some transaction =>
    checked ((inspectTransaction W (W.toApi transaction)).map InspectedChainTransaction.prepared)

def attachSignature (unsignedTransactionJson signature : String) : Except GatewayFailure String :=
  match T.read unsignedTransactionJson with
  | none => .error .foreign
  | some transaction => do
    require (T.isSigned transaction = false)
      (.gateway ⟨.transactionMismatch, "Expected an unsigned Hive transaction"⟩)
    match T.addSignature transaction signature with
    | none => .error .foreign
    | some signed => pure (W.toApi signed)

def broadcast (signedTransactionJson : String) : Gatewaying W Unit :=
  match (T.read signedTransactionJson).filter T.validate with
  | none => .throw .foreign
  | some transaction =>
    (checked (require (T.isSigned transaction = true)
      ⟨.invalidSignature, "Cannot broadcast an unsigned transaction"⟩)).bind fun _ =>
    Prog.request (GatewayCall.broadcast transaction)

/-! ### `gateway.ts` -/

structure BroadcastOfficialEventResult where
  transactionId : String
  eventType : HiveChameleonEventType
deriving DecidableEq

variable (J : JsRuntime) (sha256Hex : String → String) (client : HttpIsolatedSignerClient)
variable (intent : OfficialEventIntent (hiveCodec J)) (expirationSeconds : Option ℚ)
variable (authorization : OfficialServiceAuthorization)

/-- `prepareOfficialEvent`; what the chain answers is checked as before. -/
def prepareOnChain : Gatewaying W PreparedOfficialEvent :=
  (checked (authorizeOfficialEvent intent authorization)).bind fun authorized =>
  (prepareCustomJson T authorized.1 (expirationSeconds.getD 300)).bind fun prepared =>
  checked (prepareOfficialEvent sha256Hex intent authorization (.ok prepared))

/-- The checks of `broadcastOfficialEvent` on the signer's answer. -/
def assertSignerAnswer (W : Wax) (prepared : PreparedOfficialEvent) (response : IsolatedSignerResponse) :
    Except HiveGatewayError Unit := do
  require (response.publicKey = prepared.authorization.expectedPublicKey)
    ⟨.signerMismatch, "Signer returned an unexpected public key"⟩
  assertSignatureMatchesPublicKey W prepared.signatureDigest response.signature
    prepared.authorization.expectedPublicKey

def broadcastOfficialEvent (prepared : PreparedOfficialEvent) :
    Gatewaying W BroadcastOfficialEventResult :=
  (client.sign J (signerRequest prepared)).bind fun response =>
  (checked (assertSignerAnswer W prepared response)).bind fun _ =>
  (Prog.lift (attachSignature T prepared.unsignedTransactionJson response.signature)).bind fun signed =>
  (broadcast T signed).bind fun _ => .ret ⟨prepared.transactionId, prepared.eventType⟩

/-- Both calls, as the workers make them one after the other. -/
def publishOfficialEvent : Gatewaying W BroadcastOfficialEventResult :=
  (prepareOnChain T J sha256Hex intent expirationSeconds authorization).bind fun prepared =>
  broadcastOfficialEvent T J client prepared

end

/-! ### What the calls leave -/

/-- A prepared event is the authorized event, and its transaction holds this event alone. -/
structure Prepares (J : JsRuntime) (sha256Hex : String → String) (W : Wax)
    (intent : OfficialEventIntent (hiveCodec J)) (authorization : OfficialServiceAuthorization)
    (prepared : PreparedOfficialEvent) : Prop where
  authorized : authorizeOfficialEvent intent authorization = .ok
    (officialOperation authorization.account prepared.canonicalPayload, prepared.canonicalPayload)
  authorization_eq : prepared.authorization = authorization
  names : prepared.idempotencyKey = intent.idempotencyKey ∧ prepared.policyVersion = intent.policyVersion
  event : prepared.eventFamily = eventFamily (eventOf J intent.event) ∧
    prepared.eventType = (eventOf J intent.event).type
  operation : prepared.canonicalOperationJson = canonicalCustomJsonOperation
    (officialOperation authorization.account prepared.canonicalPayload)
  hash : prepared.canonicalOperationHash = sha256Hex prepared.canonicalOperationJson
  inspected : ∃ inspected, inspectTransaction W prepared.unsignedTransactionJson = .ok inspected ∧
    inspected.prepared = prepared.toPreparedChainTransaction
  transaction : ∃ tx, W.createTransactionFromJson prepared.unsignedTransactionJson = some tx ∧
    W.operations tx =
      [.customJson (officialOperation authorization.account prepared.canonicalPayload)] ∧
    prepared.signatureDigest = W.sigDigest tx ∧ prepared.transactionId = W.id tx

/-- The transaction is the prepared one under one signature of the expected key. -/
structure Publishes (W : Wax) (prepared : PreparedOfficialEvent) (tx : W.Transaction) : Prop where
  operations : W.operations tx = [.customJson
    (officialOperation prepared.authorization.account prepared.canonicalPayload)]
  signed : ∃ signature, W.signatures tx = [signature] ∧ validateHiveCompactSignature signature = .ok () ∧
    W.getPublicKeyFromSignature (W.sigDigest tx) signature =
      some prepared.authorization.expectedPublicKey
  digest : W.sigDigest tx = prepared.signatureDigest
  id : W.id tx = prepared.transactionId

section

variable {J : JsRuntime} {sha256Hex : String → String} {W : Wax} {T : WaxTransactions W}
variable {client : HttpIsolatedSignerClient} {intent : OfficialEventIntent (hiveCodec J)}
variable {expirationSeconds : Option ℚ} {authorization : OfficialServiceAuthorization}
variable {prepared : PreparedOfficialEvent} {trace : List (GatewayCall W)}

/-- The text of an inspection is that of the transaction that was inspected. -/
theorem inspectTransaction_text {json : String} {tx : W.Transaction}
    {inspected : InspectedChainTransaction} (htx : W.createTransactionFromJson json = some tx)
    (h : inspectTransaction W json = .ok inspected) : inspected.unsignedTransactionJson = W.toApi tx := by
  rw [inspectTransaction, htx] at h
  cases hraw : W.parseApi tx with
  | none => simp only [hraw] at h; cases h
  | some raw =>
    simp only [hraw, inspectJson] at h
    split at h
    · split at h
      · cases h
      · obtain rfl := Except.ok.inj h
        rfl
    · cases h

/-- An inspected transaction is inspected again from the text of its inspection. -/
theorem inspectTransaction_again (hT : T.Faithful) {json : String}
    {inspected : InspectedChainTransaction} (h : inspectTransaction W json = .ok inspected) :
    inspectTransaction W inspected.unsignedTransactionJson = .ok inspected := by
  cases htx : W.createTransactionFromJson json with
  | none => rw [inspectTransaction, htx] at h; cases h
  | some tx =>
    rw [inspectTransaction_text htx h, inspectTransaction, hT.rewrite htx]
    rwa [inspectTransaction, htx] at h

theorem inspectTransaction_isSigned (hwax : W.Faithful) {json : String} {tx : W.Transaction}
    {inspected : InspectedChainTransaction} (htx : W.createTransactionFromJson json = some tx)
    (h : inspectTransaction W json = .ok inspected) :
    inspected.isSigned = false ↔ W.signatures tx = [] := by
  rw [inspectTransaction, htx] at h
  cases hraw : W.parseApi tx with
  | none => simp only [hraw] at h; cases h
  | some raw =>
    simp only [hraw, inspectJson] at h
    split at h
    · rename_i json signatures henvelope
      rw [hwax.signatures hraw henvelope]
      split at h
      · cases h
      · obtain rfl := Except.ok.inj h
        simp
    · cases h

theorem ends_prepareCustomJson (hT : T.Faithful) {operation : HiveCustomJsonOperation} {seconds : ℚ}
    {outcome : Except GatewayFailure PreparedChainTransaction}
    (h : (prepareCustomJson T operation seconds).Ends trace outcome) :
    (trace = [] ∧ ∃ e, outcome = .error e) ∨
      (∃ time, trace = [.createTransaction time]) ∧ ∀ prepared, outcome = .ok prepared →
        ∃ inspected, inspectTransaction W prepared.unsignedTransactionJson = .ok inspected ∧
          inspected.prepared = prepared := by
  rcases ends_checked_bind.mp h with ⟨rfl, e, -, rfl⟩ | ⟨_, -, hafter⟩
  · exact .inl ⟨rfl, _, rfl⟩
  refine .inr ?_
  rcases Prog.ends_bind.mp hafter with ⟨e, he, rfl⟩ | ⟨created, before, rest, rfl, hcreate, hrest⟩
  · exact ⟨⟨_, Prog.ends_request.mp he⟩, fun prepared hok => by cases hok⟩
  obtain rfl := Prog.ends_request.mp hcreate
  split at hrest
  · obtain ⟨rfl, rfl⟩ := Prog.ends_throw.mp hrest
    exact ⟨⟨_, rfl⟩, fun prepared hok => by cases hok⟩
  · rename_i transaction _
    obtain ⟨rfl, rfl⟩ := ends_checked.mp hrest
    refine ⟨⟨_, rfl⟩, fun prepared hok => ?_⟩
    have hmap := mapError_eq_ok.mp hok
    cases hinspected : inspectTransaction W (W.toApi transaction) with
    | error e => rw [hinspected] at hmap; cases hmap
    | ok inspected =>
      rw [hinspected] at hmap
      obtain rfl := Except.ok.inj hmap
      exact ⟨inspected, inspectTransaction_again hT hinspected, rfl⟩

theorem prepares_of_eq_ok (hwax : W.Faithful) {inspected : InspectedChainTransaction}
    (h : prepareOfficialEvent sha256Hex intent authorization (.ok inspected.prepared) = .ok prepared)
    (hinspected : inspectTransaction W inspected.unsignedTransactionJson = .ok inspected) :
    Prepares J sha256Hex W intent authorization prepared := by
  simp only [prepareOfficialEvent, bind_eq_ok, exists_unit, require_eq_ok, pure_eq_ok] at h
  obtain ⟨⟨authorized, payload⟩, hauthorized, answer, hanswer, hsame, rfl⟩ := h
  obtain rfl := Except.ok.inj hanswer
  obtain ⟨-, -, -, -, -, rfl⟩ := authorizeOfficialEvent_eq_ok hauthorized
  obtain ⟨tx, htx, hoperations, -, hdigest, hid, hcanonical⟩ := inspectTransaction_eq_ok hwax hinspected
  -- the chain shows the canonical text of its operation, so this is the authorized one
  have hoperation : inspected.operation = officialOperation authorization.account payload := by
    apply canonicalCustomJsonOperation_injective
    rw [← hcanonical]
    exact hsame
  rw [hoperation] at hoperations
  exact ⟨hauthorized, rfl, ⟨rfl, rfl⟩, ⟨rfl, rfl⟩, hsame, by rw [← hsame], ⟨inspected, hinspected, rfl⟩,
    tx, htx, hoperations, hdigest, hid⟩

theorem ends_prepareOnChain (hwax : W.Faithful) (hT : T.Faithful)
    {outcome : Except GatewayFailure PreparedOfficialEvent}
    (h : (prepareOnChain T J sha256Hex intent expirationSeconds authorization).Ends trace outcome) :
    (trace = [] ∧ ∃ e, outcome = .error e) ∨
      (∃ time, trace = [.createTransaction time]) ∧ ∀ prepared, outcome = .ok prepared →
        Prepares J sha256Hex W intent authorization prepared := by
  rcases ends_checked_bind.mp h with ⟨rfl, e, -, rfl⟩ | ⟨authorized, -, hafter⟩
  · exact .inl ⟨rfl, _, rfl⟩
  rcases Prog.ends_bind.mp hafter with ⟨e, he, rfl⟩ | ⟨chain, before, rest, rfl, hchain, hrest⟩
  · rcases ends_prepareCustomJson hT he with ⟨rfl, -⟩ | ⟨⟨time, rfl⟩, -⟩
    · exact .inl ⟨rfl, e, rfl⟩
    · exact .inr ⟨⟨time, rfl⟩, fun prepared hok => by cases hok⟩
  · obtain ⟨rfl, rfl⟩ := ends_checked.mp hrest
    rcases ends_prepareCustomJson hT hchain with ⟨-, e, he⟩ | ⟨⟨time, rfl⟩, hprepared⟩
    · cases he
    · obtain ⟨inspected, hinspected, rfl⟩ := hprepared chain rfl
      refine .inr ⟨⟨time, rfl⟩, fun prepared hok => ?_⟩
      exact prepares_of_eq_ok hwax (mapError_eq_ok.mp hok) hinspected

theorem assertSignatureMatchesPublicKey_eq_ok {digest signature key : String}
    (h : assertSignatureMatchesPublicKey W digest signature key = .ok ()) :
    validateHiveCompactSignature signature = .ok () ∧
      W.getPublicKeyFromSignature digest signature = some key := by
  simp only [assertSignatureMatchesPublicKey, bind_eq_ok, exists_unit, require_eq_ok] at h
  obtain ⟨-, hvalid, hrecovered⟩ := h
  refine ⟨hvalid, ?_⟩
  cases hkey : W.getPublicKeyFromSignature digest signature with
  | none => rw [hkey] at hrecovered; cases hrecovered
  | some recovered =>
    rw [hkey] at hrecovered
    rw [require_eq_ok.mp hrecovered]

theorem attachSignature_eq_ok {json signature signed : String}
    (h : attachSignature T json signature = .ok signed) :
    ∃ tx signedTx, T.read json = some tx ∧ T.isSigned tx = false ∧
      T.addSignature tx signature = some signedTx ∧ signed = W.toApi signedTx := by
  rw [attachSignature] at h
  cases hread : T.read json with
  | none => rw [hread] at h; cases h
  | some tx =>
    rw [hread] at h
    simp only [bind_eq_ok, exists_unit, require_eq_ok] at h
    obtain ⟨hunsigned, h⟩ := h
    cases hadd : T.addSignature tx signature with
    | none => rw [hadd] at h; cases h
    | some signedTx =>
      rw [hadd] at h
      exact ⟨tx, signedTx, rfl, hunsigned, hadd, (Except.ok.inj h).symm⟩

theorem ends_broadcast {json : String} {outcome : Except GatewayFailure Unit}
    (h : (broadcast T json).Ends trace outcome) :
    (trace = [] ∧ ∃ e, outcome = .error e) ∨
      ∃ tx, T.read json = some tx ∧ trace = [.broadcast tx] := by
  rw [broadcast] at h
  split at h
  · obtain ⟨rfl, rfl⟩ := Prog.ends_throw.mp h
    exact .inl ⟨rfl, _, rfl⟩
  · rename_i tx htx
    rcases ends_checked_bind.mp h with ⟨rfl, e, -, rfl⟩ | ⟨_, -, hafter⟩
    · exact .inl ⟨rfl, _, rfl⟩
    · obtain rfl := Prog.ends_request.mp hafter
      exact .inr ⟨tx, (Option.filter_eq_some_iff.mp htx).1, rfl⟩

/-- A prepared transaction with the signature that was checked is the one that is published. -/
theorem publishes_of_attachSignature (hT : T.Faithful)
    (hprepares : Prepares J sha256Hex W intent authorization prepared)
    {response : IsolatedSignerResponse} (hchecked : assertSignerAnswer W prepared response = .ok ())
    {signed : String}
    (hattach : attachSignature T prepared.unsignedTransactionJson response.signature = .ok signed)
    {tx : W.Transaction} (hread : T.read signed = some tx) : Publishes W prepared tx := by
  obtain ⟨found, signedTx, hfound, hunsigned, hadd, rfl⟩ := attachSignature_eq_ok hattach
  obtain rfl := hT.reread hread
  obtain ⟨chain, hchain, hoperations, hdigest, hid⟩ := hprepares.transaction
  rw [hT.accepts] at hchain
  obtain rfl := Option.some.inj (hfound.symm.trans (Option.filter_eq_some_iff.mp hchain).1)
  obtain ⟨hsame, hsameDigest, hsameId⟩ := hT.unchanged hadd
  simp only [assertSignerAnswer, bind_eq_ok, exists_unit, require_eq_ok] at hchecked
  obtain ⟨hvalid, hrecovered⟩ := assertSignatureMatchesPublicKey_eq_ok hchecked.2
  refine ⟨?_, ⟨response.signature, ?_, hvalid, ?_⟩, ?_, ?_⟩
  · rw [hsame, hoperations, hprepares.authorization_eq]
  · rw [hT.signatures hadd, hT.isSigned.mp hunsigned, List.nil_append]
  · rw [hsameDigest, ← hdigest, hrecovered]
  · rw [hsameDigest, hdigest]
  · rw [hsameId, hid]

theorem ends_broadcastOfficialEvent (hT : T.Faithful)
    (hprepares : Prepares J sha256Hex W intent authorization prepared)
    {outcome : Except GatewayFailure BroadcastOfficialEventResult}
    (h : (broadcastOfficialEvent T J client prepared).Ends trace outcome) :
    ((trace = [.fetch (client.httpRequest (signerRequest prepared))] ∨
        trace = [.fetch (client.httpRequest (signerRequest prepared)), .responseText]) ∧
        ∃ e, outcome = .error e) ∨
      ∃ tx, trace = [.fetch (client.httpRequest (signerRequest prepared)), .responseText,
        .broadcast tx] ∧ Publishes W prepared tx ∧
        ∀ result, outcome = .ok result → result = ⟨prepared.transactionId, prepared.eventType⟩ := by
  rcases Prog.ends_bind.mp h with ⟨e, he, rfl⟩ | ⟨response, before, after, rfl, hsign, hafter⟩
  · rcases client.ends_sign he with rfl | ⟨rfl, -⟩
    · exact .inl ⟨.inr rfl, e, rfl⟩
    · exact .inl ⟨.inl rfl, e, rfl⟩
  rcases client.ends_sign hsign with rfl | ⟨-, e, he⟩
  swap
  · cases he
  rcases ends_checked_bind.mp hafter with ⟨rfl, e, -, rfl⟩ | ⟨_, hchecked, hrest⟩
  · exact .inl ⟨.inr rfl, _, rfl⟩
  rcases Prog.ends_bind.mp hrest with ⟨e, he, rfl⟩ | ⟨signed, before, last, rfl, hattach, hlast⟩
  · obtain ⟨rfl, -⟩ := Prog.ends_lift.mp he
    exact .inl ⟨.inr rfl, e, rfl⟩
  obtain ⟨rfl, hsigned⟩ := Prog.ends_lift.mp hattach
  have hpublishes : ∀ {tx}, T.read signed = some tx → Publishes W prepared tx := fun hread =>
    publishes_of_attachSignature hT hprepares hchecked hsigned.symm hread
  rcases Prog.ends_bind.mp hlast with ⟨e, he, rfl⟩ | ⟨_, before, done, rfl, hbroadcast, hdone⟩
  · rcases ends_broadcast he with ⟨rfl, -⟩ | ⟨tx, hread, rfl⟩
    · exact .inl ⟨.inr rfl, e, rfl⟩
    · exact .inr ⟨tx, rfl, hpublishes hread, fun result hok => by cases hok⟩
  · obtain ⟨rfl, rfl⟩ := Prog.ends_ret.mp hdone
    rcases ends_broadcast hbroadcast with ⟨-, e, he⟩ | ⟨tx, hread, rfl⟩
    · cases he
    · exact .inr ⟨tx, rfl, hpublishes hread, fun result hok => (Except.ok.inj hok).symm⟩

end

/-! ### A publication that gets its answers -/

section

variable {J : JsRuntime} {sha256Hex : String → String} {W : Wax} {T : WaxTransactions W}
variable {client : HttpIsolatedSignerClient} {intent : OfficialEventIntent (hiveCodec J)}
variable {expirationSeconds : Option ℚ} {authorization : OfficialServiceAuthorization}
variable {prepared : PreparedOfficialEvent}

theorem ends_checked_of_eq_ok {α : Type} {x : Except HiveGatewayError α} {a : α} (h : x = .ok a) :
    (checked x : Gatewaying W α).Ends [] (.ok a) := by
  rw [h]
  exact .ret a

theorem ends_prepareOnChain_of_answers {operation : HiveCustomJsonOperation} {payload : String}
    (hauthorized : authorizeOfficialEvent intent authorization = .ok (operation, payload))
    (hseconds : (expirationSeconds.getD 300).isInt = true ∧ 10 ≤ expirationSeconds.getD 300 ∧
      expirationSeconds.getD 300 ≤ 3600)
    {created pushed : W.Transaction}
    (hpush : (T.pushOperation created operation).filter T.validate = some pushed)
    {inspected : InspectedChainTransaction}
    (hinspect : inspectTransaction W (W.toApi pushed) = .ok inspected)
    (hprepared : prepareOfficialEvent sha256Hex intent authorization (.ok inspected.prepared) =
      .ok prepared) :
    (prepareOnChain T J sha256Hex intent expirationSeconds authorization).Ends
      [.createTransaction ("+" ++ toString (expirationSeconds.getD 300).num ++ "s")]
      (.ok prepared) := by
  refine ends_checked_bind.mpr (.inr ⟨_, hauthorized, ?_⟩)
  refine Prog.ends_bind.mpr (.inr ⟨inspected.prepared, _, [], (List.append_nil _).symm, ?_,
    ends_checked_of_eq_ok hprepared⟩)
  refine ends_checked_bind.mpr (.inr ⟨(), require_eq_ok.mpr hseconds, ?_⟩)
  refine Prog.ends_bind.mpr (.inr ⟨created, _, [], (List.append_nil _).symm,
    Prog.ends_request.mpr rfl, ?_⟩)
  simp only [hpush, hinspect]
  exact .ret _

theorem ends_broadcastOfficialEvent_of_answers {text signed : String}
    {response : IsolatedSignerResponse} {tx : W.Transaction}
    (hresponse : readSignerResponse J text = .ok response)
    (hcheck : assertSignerAnswer W prepared response = .ok ())
    (hattach : attachSignature T prepared.unsignedTransactionJson response.signature = .ok signed)
    (hread : (T.read signed).filter T.validate = some tx) (hsigned : T.isSigned tx = true) :
    (broadcastOfficialEvent T J client prepared).Ends
      [.fetch (client.httpRequest (signerRequest prepared)), .responseText, .broadcast tx]
      (.ok ⟨prepared.transactionId, prepared.eventType⟩) := by
  have hsign : (client.sign J (signerRequest prepared) : Gatewaying W _).Ends
      [.fetch (client.httpRequest (signerRequest prepared)), .responseText] (.ok response) :=
    .call (.ok ⟨200⟩) (.call (.ok text) (ends_checked_of_eq_ok hresponse))
  have hbroadcast : (broadcast T signed).Ends [.broadcast tx] (.ok ()) := by
    simp only [broadcast, hread, hsigned]
    exact .call (.ok ()) (.ret ())
  refine Prog.ends_bind.mpr (.inr ⟨response, _, _, rfl, hsign, ?_⟩)
  refine ends_checked_bind.mpr (.inr ⟨(), hcheck, ?_⟩)
  refine Prog.ends_bind.mpr (.inr ⟨signed, [], _, rfl, Prog.ends_lift.mpr ⟨rfl, hattach.symm⟩, ?_⟩)
  exact Prog.ends_bind.mpr (.inr ⟨(), [.broadcast tx], [], rfl, hbroadcast, .ret _⟩)

end

/-! ### What leaves the process -/

section

variable (J : JsRuntime) (sha256Hex : String → String) (W : Wax) (T : WaxTransactions W)
variable (client : HttpIsolatedSignerClient) (intent : OfficialEventIntent (hiveCodec J))
variable (expirationSeconds : Option ℚ) (authorization : OfficialServiceAuthorization)

/-- **The wire of a publication**: a transaction is created, the signer is asked about the prepared
event, its answer is read, and what was prepared is broadcast under the checked signature. -/
inductive Wire : List (GatewayCall W) → Prop
  | silent : Wire []
  | created {time : String} : Wire [.createTransaction time]
  | asked {time : String} {prepared : PreparedOfficialEvent}
      (hprepares : Prepares J sha256Hex W intent authorization prepared) :
      Wire [.createTransaction time, .fetch (client.httpRequest (signerRequest prepared))]
  | answered {time : String} {prepared : PreparedOfficialEvent}
      (hprepares : Prepares J sha256Hex W intent authorization prepared) :
      Wire [.createTransaction time, .fetch (client.httpRequest (signerRequest prepared)),
        .responseText]
  | broadcast {time : String} {prepared : PreparedOfficialEvent} {tx : W.Transaction}
      (hprepares : Prepares J sha256Hex W intent authorization prepared)
      (hpublishes : Publishes W prepared tx) :
      Wire [.createTransaction time, .fetch (client.httpRequest (signerRequest prepared)),
        .responseText, .broadcast tx]

/-- What holds of the calls and of the outcome of a publication. -/
structure PublicationGuarantees (trace : List (GatewayCall W))
    (outcome : Except GatewayFailure BroadcastOfficialEventResult) : Prop where
  wire : Wire J sha256Hex W client intent authorization trace
  result : ∀ result, outcome = .ok result → ∃ tx, .broadcast tx ∈ trace ∧
    result = ⟨W.id tx, (eventOf J intent.event).type⟩
  denied : ∀ e, authorizeOfficialEvent intent authorization = .error e →
    trace = [] ∧ outcome = .error (.gateway e)

/-- **Only the authorized event is published**: whatever WAX, the signer and the network answer, the
calls of a publication are those of the wire, and a publication that returns was broadcast. -/
theorem publishes_only_authorized (hwax : W.Faithful) (hT : T.Faithful)
    (trace : List (GatewayCall W)) (outcome : Except GatewayFailure BroadcastOfficialEventResult)
    (h : (publishOfficialEvent T J sha256Hex client intent expirationSeconds authorization).Ends
      trace outcome) :
    PublicationGuarantees J sha256Hex W client intent authorization trace outcome := by
  have hdenied : ∀ e, authorizeOfficialEvent intent authorization = .error e →
      trace = [] ∧ outcome = .error (.gateway e) := by
    intro e he
    rw [publishOfficialEvent, prepareOnChain, he] at h
    exact Prog.ends_throw.mp h
  rcases Prog.ends_bind.mp h with ⟨e, he, rfl⟩ | ⟨prepared, before, after, rfl, hprepare, hafter⟩
  · refine ⟨?_, (fun result hok => by cases hok), hdenied⟩
    rcases ends_prepareOnChain hwax hT he with ⟨rfl, -⟩ | ⟨⟨time, rfl⟩, -⟩
    · exact .silent
    · exact .created
  rcases ends_prepareOnChain hwax hT hprepare with ⟨-, e, he⟩ | ⟨⟨time, rfl⟩, hprepared⟩
  · cases he
  have hprepares := hprepared prepared rfl
  rcases ends_broadcastOfficialEvent hT hprepares hafter with
    ⟨rfl | rfl, e, rfl⟩ | ⟨tx, rfl, hpublishes, hresult⟩
  · exact ⟨.asked hprepares, (fun result hok => by cases hok), hdenied⟩
  · exact ⟨.answered hprepares, (fun result hok => by cases hok), hdenied⟩
  · refine ⟨.broadcast hprepares hpublishes, fun result hok => ⟨tx, by simp, ?_⟩, hdenied⟩
    rw [hresult result hok, hpublishes.id, hprepares.event.2]

end

/-! ### The signer on a prepared event -/

section

variable {J : JsRuntime} {sha256Hex : String → String} {W : Wax} {T : WaxTransactions W}
variable {intent : OfficialEventIntent (hiveCodec J)} {expirationSeconds : Option ℚ}
variable {authorization : OfficialServiceAuthorization} {prepared : PreparedOfficialEvent}
variable {policy : String → OfficialServiceRole → Option OfficialServiceAuthorization}

theorem matchesTrustedAuthorization_iff {trusted : OfficialServiceAuthorization}
    (hmode : prepared.authorization.mode = .officialService)
    (hversion : prepared.policyVersion = prepared.authorization.policyVersion) :
    matchesTrustedAuthorization (signerRequest prepared) trusted ↔ trusted = prepared.authorization := by
  constructor
  · rintro ⟨hmode', hrole, haccount, hauthority, hkey, hreference, hversion'⟩
    cases trusted
    cases hauthorization : prepared.authorization
    simp_all [signerRequest]
  · rintro rfl
    exact ⟨hmode, rfl, rfl, rfl, rfl, rfl, hversion.symm⟩

theorem assertTransaction_prepared (hprepares : Prepares J sha256Hex W intent authorization prepared)
    {inspected : InspectedChainTransaction}
    (hsame : inspected.prepared = prepared.toPreparedChainTransaction)
    (hunsigned : inspected.isSigned = false) :
    assertTransaction ⟨hiveCodec J, W, policy, sha256Hex⟩ (signerRequest prepared) inspected =
      .ok () := by
  have hdigest : inspected.signatureDigest = prepared.signatureDigest :=
    congrArg PreparedChainTransaction.signatureDigest hsame
  have hid : inspected.transactionId = prepared.transactionId :=
    congrArg PreparedChainTransaction.transactionId hsame
  have hcanonical : inspected.canonicalOperationJson = prepared.canonicalOperationJson :=
    congrArg PreparedChainTransaction.canonicalOperationJson hsame
  refine bind_eq_ok.mpr ⟨(), require_eq_ok.mpr hunsigned, require_eq_ok.mpr ?_⟩
  refine ⟨hdigest, hid, hcanonical, ?_⟩
  rw [hcanonical]
  exact hprepares.hash.symm

theorem assertPolicy_prepared (hprepares : Prepares J sha256Hex W intent authorization prepared)
    {e : Json} (he : (hiveCodec J).parseHiveChameleonEvent prepared.canonicalPayload = .ok e)
    (hevent : eventOf J e = eventOf J intent.event)
    (hpolicy : policy intent.policyVersion authorization.role = some authorization) :
    assertPolicy ⟨hiveCodec J, W, policy, sha256Hex⟩ (signerRequest prepared) e = .ok () := by
  obtain ⟨hshape, hmode, hrole, haccount, -, -⟩ :=
    authorizeOfficialEvent_eq_ok_iff.mp hprepares.authorized
  obtain ⟨hversion, -⟩ := authorizeOfficialEvent_eq_ok hprepares.authorized
  have hauthorized : authorizeOfficialEvent (C := hiveCodec J)
      ⟨prepared.idempotencyKey, prepared.policyVersion, e⟩ authorization = .ok
        (officialOperation authorization.account prepared.canonicalPayload,
          prepared.canonicalPayload) := by
    rw [authorizeOfficialEvent_eq_ok_iff, hprepares.names.1, hprepares.names.2]
    have hsame : (hiveCodec J).event e = (hiveCodec J).event intent.event := hevent
    refine ⟨hshape, hmode, ?_, ?_, serialize_parse he, rfl⟩
    · rw [hsame]; exact hrole
    · rw [hsame]; exact haccount
  have hfound : policy (signerRequest prepared).policyVersion (signerRequest prepared).role =
      some authorization := by
    show policy prepared.policyVersion prepared.authorization.role = _
    rw [hprepares.names.2, hprepares.authorization_eq, hpolicy]
  have hmatches : matchesTrustedAuthorization (signerRequest prepared) authorization := by
    rw [matchesTrustedAuthorization_iff, hprepares.authorization_eq]
    · rw [hprepares.authorization_eq, hmode.1]
    · rw [hprepares.authorization_eq, hprepares.names.2, hversion]
  refine bind_eq_ok.mpr ⟨(), require_eq_ok.mpr ?_, bind_eq_ok.mpr ⟨(), require_eq_ok.mpr ?_, ?_⟩⟩
  · show (eventOf J e).type = prepared.eventType
    rw [hevent, hprepares.event.2]
  · show eventFamily (eventOf J e) = prepared.eventFamily
    rw [hevent, hprepares.event.1]
  · simp only [hfound]
    refine bind_eq_ok.mpr ⟨(), require_eq_ok.mpr hmatches, bind_eq_ok.mpr ⟨_, hauthorized, ?_⟩⟩
    exact require_eq_ok.mpr ⟨hprepares.operation.symm, rfl⟩

/-- **A signer accepts what it trusts**: the request of a prepared event passes every check of the
signer exactly when the signer's policy has the authorization of the gateway for its role and version,
and WAX made the transaction without a signature. -/
theorem signer_accepts_iff (hwax : W.Faithful) (hT : T.Faithful) {trace : List (GatewayCall W)}
    (h : (prepareOnChain T J sha256Hex intent expirationSeconds authorization).Ends trace
      (.ok prepared)) :
    assertRequest ⟨hiveCodec J, W, policy, sha256Hex⟩ (signerRequest prepared) = .ok () ↔
      policy intent.policyVersion authorization.role = some authorization ∧
        ∀ tx, W.createTransactionFromJson prepared.unsignedTransactionJson = some tx →
          W.signatures tx = [] := by
  have hprepares : Prepares J sha256Hex W intent authorization prepared := by
    rcases ends_prepareOnChain hwax hT h with ⟨-, e, he⟩ | ⟨-, hprepared⟩
    · cases he
    · exact hprepared prepared rfl
  obtain ⟨inspected, hinspected, hsame⟩ := hprepares.inspected
  obtain ⟨hversion, hmode, -⟩ := authorizeOfficialEvent_eq_ok hprepares.authorized
  obtain ⟨-, -, -, -, hserialize, -⟩ := authorizeOfficialEvent_eq_ok_iff.mp hprepares.authorized
  obtain ⟨e, he, hevent⟩ := parse_of_serialize hserialize
  constructor
  · intro hok
    simp only [assertRequest, bind_eq_ok, exists_unit] at hok
    obtain ⟨inspected', hinspected', htransaction, e', he', hpolicy⟩ := hok
    obtain rfl := Except.ok.inj (hinspected.symm.trans hinspected')
    obtain ⟨hunsigned, -⟩ := assertTransaction_eq_ok htransaction
    obtain ⟨-, -, trusted, htrusted, hmatches, -⟩ := assertPolicy_eq_ok hpolicy
    rw [matchesTrustedAuthorization_iff, hprepares.authorization_eq] at hmatches
    · refine ⟨?_, fun tx htx => (inspectTransaction_isSigned hwax htx hinspected).mp hunsigned⟩
      rw [hmatches] at htrusted
      rw [← htrusted]
      show _ = policy prepared.policyVersion prepared.authorization.role
      rw [hprepares.names.2, hprepares.authorization_eq]
    · rw [hprepares.authorization_eq, hmode]
    · rw [hprepares.authorization_eq, hprepares.names.2, hversion]
  · rintro ⟨hpolicy, hunsigned⟩
    obtain ⟨tx, htx, -⟩ := hprepares.transaction
    have hnone := (inspectTransaction_isSigned hwax htx hinspected).mpr (hunsigned tx htx)
    exact bind_eq_ok.mpr ⟨inspected, hinspected, bind_eq_ok.mpr
      ⟨(), assertTransaction_prepared hprepares hsame hnone, bind_eq_ok.mpr
        ⟨e, he, assertPolicy_prepared hprepares he hevent hpolicy⟩⟩⟩

end

/-! ### A revocation that is broadcast -/

def exampleOperation : HiveCustomJsonOperation :=
  officialOperation "issuer" (canonicalJson exampleRevocation)

def exampleSignature : String :=
  String.ofList ('1' :: 'f' :: (List.replicate 64 ['0', '1']).flatten)

/-- The JSON of the transaction, with or without the signature. -/
def exampleApi (signed : Bool) : Json :=
  .object [("operations", .array [.object [("type", .string "custom_json_operation"),
    ("value", .object [("required_auths", .array []),
      ("required_posting_auths", .array [.string "issuer"]), ("id", .string "hive.chameleon"),
      ("json", .string (canonicalJson exampleRevocation))])]]),
    ("signatures", .array (if signed then [.string exampleSignature] else []))]

def exampleRead (text : String) : Option Bool :=
  if text = "unsigned" then some false else if text = "signed" then some true else none

/-- WAX on one transaction, which has its signature or not. -/
abbrev exampleWax : Wax where
  Transaction := Bool
  createTransactionFromJson := exampleRead
  operations := fun _ => [.customJson exampleOperation]
  signatures := fun signed => if signed then [exampleSignature] else []
  sigDigest := fun _ => exampleDigest
  id := fun _ => "00aa"
  toApi := fun signed => if signed then "signed" else "unsigned"
  parseApi := fun signed => some (exampleApi signed)
  getPublicKeyFromSignature := fun _ _ => some "STM6issuerissuerissuer"

def exampleTransactions : WaxTransactions exampleWax where
  read := exampleRead
  validate := fun _ => true
  pushOperation := fun _ operation => if operation = exampleOperation then some false else none
  addSignature := fun signed signature =>
    if signed = false ∧ signature = exampleSignature then some true else none
  isSigned := id

theorem exampleWax_faithful : exampleWax.Faithful := by
  have henvelope : ∀ signed, transactionEnvelopeSchema (exampleApi signed) =
      some ([.object [("type", .string "custom_json_operation"),
        ("value", .object [("required_auths", .array []),
          ("required_posting_auths", .array [.string "issuer"]), ("id", .string "hive.chameleon"),
          ("json", .string (canonicalJson exampleRevocation))])]],
        if signed then [exampleSignature] else []) := by
    intro signed
    cases signed <;> rfl
  constructor
  · intro tx json operations signatures hjson h
    obtain rfl := Option.some.inj hjson
    rw [henvelope] at h
    obtain ⟨rfl, rfl⟩ := Prod.mk.inj (Option.some.inj h)
    refine .cons (fun shown hshown => ?_) .nil
    obtain rfl : exampleOperation = shown := Option.some.inj hshown
    rfl
  · intro tx json operations signatures hjson h
    obtain rfl := Option.some.inj hjson
    rw [henvelope] at h
    exact (Prod.mk.inj (Option.some.inj h)).2

theorem exampleTransactions_faithful : exampleTransactions.Faithful where
  accepts json := by
    show exampleRead json = (exampleRead json).filter fun _ => true
    cases exampleRead json <;> rfl
  reread {tx again} h := by
    cases tx <;> exact (Option.some.inj h).symm
  rewrite {json tx} _ := by
    cases tx <;> rfl
  isSigned {tx} := by
    cases tx
    · exact ⟨fun _ => rfl, fun _ => rfl⟩
    · exact ⟨(fun h => by cases h), (fun h => by cases h)⟩
  signatures {tx signature signed} h := by
    obtain ⟨⟨rfl, rfl⟩, rfl⟩ : (tx = false ∧ signature = exampleSignature) ∧ true = signed := by
      simpa [exampleTransactions] using h
    rfl
  unchanged {tx signature signed} _ := ⟨rfl, rfl, rfl⟩

def exampleClient : HttpIsolatedSignerClient where
  endpoint := ⟨⟨"https:", "", "", "", "", "https://signer.example/v1/sign"⟩, by decide⟩
  bearerToken := "a-token-of-at-least-32-characters"
  timeoutMs := 5000
  token := by decide +kernel
  timeout := by decide +kernel

def exampleIntent : OfficialEventIntent (hiveCodec exampleJs) := ⟨"revocation:1", "v1", exampleRevocation⟩

def examplePrepared : PreparedOfficialEvent where
  unsignedTransactionJson := "unsigned"
  signatureDigest := exampleDigest
  transactionId := "00aa"
  canonicalOperationJson := canonicalCustomJsonOperation exampleOperation
  idempotencyKey := "revocation:1"
  policyVersion := "v1"
  eventFamily := .collectible
  eventType := .collectibleRevoked
  canonicalPayload := canonicalJson exampleRevocation
  canonicalOperationHash := exampleDigest
  authorization := issuerAuthorization

theorem authorize_exampleIntent : authorizeOfficialEvent exampleIntent issuerAuthorization =
    .ok (exampleOperation, canonicalJson exampleRevocation) := by
  have hshape : assertAuthorizationShape exampleIntent issuerAuthorization = .ok () :=
    bind_eq_ok.mpr ⟨(), require_eq_ok.mpr (by decide), rfl⟩
  exact bind_eq_ok.mpr ⟨(), hshape, bind_eq_ok.mpr ⟨(), rfl, bind_eq_ok.mpr ⟨(), rfl,
    bind_eq_ok.mpr ⟨(), rfl, bind_eq_ok.mpr ⟨_, serialize_exampleRevocation, rfl⟩⟩⟩⟩⟩

theorem ends_prepareOnChain_example :
    (prepareOnChain exampleTransactions exampleJs (fun _ => exampleDigest) exampleIntent none
      issuerAuthorization).Ends [.createTransaction "+300s"] (.ok examplePrepared) := by
  have hprepared : prepareOfficialEvent (fun _ => exampleDigest) exampleIntent issuerAuthorization
      (.ok examplePrepared.toPreparedChainTransaction) = .ok examplePrepared :=
    bind_eq_ok.mpr ⟨_, authorize_exampleIntent, bind_eq_ok.mpr ⟨_, rfl, bind_eq_ok.mpr ⟨(),
      require_eq_ok.mpr rfl, rfl⟩⟩⟩
  have hinspect : inspectTransaction exampleWax "unsigned" = .ok ⟨"unsigned", exampleDigest, "00aa",
      canonicalCustomJsonOperation exampleOperation, exampleOperation, false⟩ := rfl
  have htime : "+300s" = "+" ++ toString (300 : ℚ).num ++ "s" := by decide +kernel
  have hpush : (exampleTransactions.pushOperation false exampleOperation).filter
      exampleTransactions.validate = some false := by
    simp [exampleTransactions]
  rw [htime]
  exact ends_prepareOnChain_of_answers authorize_exampleIntent (by decide +kernel) hpush hinspect
    hprepared

/-- What a signer answers. -/
def signerResponse (signature publicKey : String) : Json :=
  .object [("publicKey", .string publicKey), ("signature", .string signature)]

/-- What fits the schema is small enough to be read, and is read back. -/
theorem read_signerResponse {J : JsRuntime} {signature publicKey : String}
    (hsignature : boundedLength 16 256 signature = true) (hkey : boundedLength 16 128 publicKey = true) :
    readSignerResponse J (canonicalJson (signerResponse signature publicKey)) =
      .ok ⟨signature, publicKey⟩ := by
  simp only [boundedLength, Bool.and_eq_true, decide_eq_true_eq] at hsignature hkey
  have hsize := utf8ByteSize_canonicalJson_le (signerResponse signature publicKey)
  have hnames : textBytes "publicKey" = 11 ∧ textBytes "signature" = 11 := ⟨rfl, rfl⟩
  have hbytes := textBytes_le signature
  have hkeyBytes := textBytes_le publicKey
  simp only [signerResponse, Json.weight, weightFields, hnames] at hsize
  have hparse : jsonParse J.numberText (canonicalJson (signerResponse signature publicKey)) =
      some (signerResponse signature publicKey) :=
    jsonParse_canonicalJson J.numberText
      ⟨(by decide : ["publicKey", "signature"].Nodup), trivial, trivial, trivial⟩
  have hschema : signerResponseSchema.parse (signerResponse signature publicKey) =
      some (.object [("signature", .string signature), ("publicKey", .string publicKey)]) := by
    simp [signerResponseSchema, signerResponse, Schema.strictObject, Schema.Known, Schema.readFields,
      Schema.required, Schema.stringOf, Schema.string, List.lookup_cons, boundedLength, hsignature, hkey]
  refine bind_eq_ok.mpr ⟨(), require_eq_ok.mpr (by unfold signerResponse; omega), ?_⟩
  simp only [hparse, hschema]
  rfl

def exampleAnswer : String :=
  canonicalJson (signerResponse exampleSignature "STM6issuerissuerissuer")

theorem read_exampleAnswer :
    readSignerResponse exampleJs exampleAnswer = .ok ⟨exampleSignature, "STM6issuerissuerissuer"⟩ :=
  read_signerResponse (by decide +kernel) (by decide)

theorem check_exampleAnswer : assertSignerAnswer exampleWax examplePrepared
    ⟨exampleSignature, "STM6issuerissuerissuer"⟩ = .ok () :=
  toOption_eq_some.mp (by decide +kernel)

/-- The calls of the example, up to the broadcast of the signed transaction. -/
def exampleTrace : List (GatewayCall exampleWax) :=
  [.createTransaction "+300s", .fetch (exampleClient.httpRequest (signerRequest examplePrepared)),
    .responseText, .broadcast true]

theorem ends_example :
    (publishOfficialEvent exampleTransactions exampleJs (fun _ => exampleDigest) exampleClient
      exampleIntent none issuerAuthorization).Ends exampleTrace
      (.ok ⟨"00aa", .collectibleRevoked⟩) := by
  refine Prog.ends_bind.mpr (.inr ⟨examplePrepared, [.createTransaction "+300s"], _, rfl,
    ends_prepareOnChain_example, ?_⟩)
  have hattach : attachSignature exampleTransactions "unsigned" exampleSignature = .ok "signed" := by
    have hadd : exampleTransactions.addSignature false exampleSignature = some true := by
      simp [exampleTransactions]
    rw [attachSignature, show exampleTransactions.read "unsigned" = some false from rfl]
    simp only [hadd]
    rfl
  exact ends_broadcastOfficialEvent_of_answers read_exampleAnswer check_exampleAnswer hattach rfl rfl

/-- The revocation is broadcast, as the wire says. -/
theorem publishes_only_authorized_revocation :
    PublicationGuarantees exampleJs (fun _ => exampleDigest) exampleWax exampleClient exampleIntent
      issuerAuthorization exampleTrace (.ok ⟨"00aa", .collectibleRevoked⟩) :=
  publishes_only_authorized exampleJs (fun _ => exampleDigest) exampleWax exampleTransactions
    exampleClient exampleIntent none issuerAuthorization exampleWax_faithful
    exampleTransactions_faithful exampleTrace _ ends_example

def examplePolicy (version : String) (role : OfficialServiceRole) :
    Option OfficialServiceAuthorization :=
  if version = "v1" ∧ role = .collectibleIssuer then some issuerAuthorization else none

/-- The signer that trusts the issuer accepts the revocation. -/
theorem signer_accepts_iff_revocation :
    assertRequest ⟨hiveCodec exampleJs, exampleWax, examplePolicy, fun _ => exampleDigest⟩
      (signerRequest examplePrepared) = .ok () :=
  (signer_accepts_iff exampleWax_faithful exampleTransactions_faithful
    ends_prepareOnChain_example).mpr ⟨rfl, fun tx htx => by
      obtain rfl : false = tx := Option.some.inj htx
      rfl⟩

end HiveChameleon.Gateway
