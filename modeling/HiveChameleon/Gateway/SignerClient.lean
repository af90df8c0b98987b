import HiveChameleon.Gateway.EventEncoding
import HiveChameleon.Gateway.HiveGateway
import HiveChameleon.Lib.Traces
import Mathlib.Algebra.Order.Field.Rat

/-!
# Gateway.SignerClient — `http-signer-client.ts`

A client can only be built for an HTTPS endpoint with a bounded token and a bounded timeout.  Its `sign`
sends one request, and what it hands on was read from the answer to this request.
-/

namespace HiveChameleon.Gateway

open Lib

/-! ### The calls that leave the process -/

/-- The argument of `fetch`. -/
structure HttpRequest where
  url : String
  method : String
  headers : List (String × String)
  body : String
  cache : String
  redirect : String
  timeoutMs : ℚ
deriving DecidableEq

structure HttpResponse where
  status : ℕ
deriving DecidableEq

def HttpResponse.ok (response : HttpResponse) : Bool := 200 ≤ response.status && response.status ≤ 299

/-- The calls of the gateway, over the transactions of WAX. -/
inductive GatewayCall (W : Wax) where
  | createTransaction (expirationTime : String)
  | fetch (request : HttpRequest)
  | responseText
  | broadcast (transaction : W.Transaction)

@[reducible] def GatewayCall.Response {W : Wax} : GatewayCall W → Type
  | createTransaction _ => W.Transaction
  | fetch _ => HttpResponse
  | responseText => String
  | broadcast _ => Unit

/-- What the gateway throws: an error of its own, or one of WAX or of the runtime. -/
inductive GatewayFailure where
  | gateway (error : HiveGatewayError)
  | foreign
deriving DecidableEq

abbrev Gatewaying (W : Wax) (α : Type) := Prog (GatewayCall W) GatewayCall.Response GatewayFailure α

/-- A check of the gateway. -/
def checked {W : Wax} {α : Type} (x : Except HiveGatewayError α) : Gatewaying W α :=
  Prog.lift (x.mapError .gateway)

/-! ### The client -/

/-- What `new URL` reads. -/
structure Url where
  protocol : String
  username : String
  password : String
  search : String
  hash : String
  /-- `toString()` -/
  text : String
deriving DecidableEq

/-- HTTPS without credentials, query, or fragment. -/
def Url.Secure (url : Url) : Prop :=
  url.protocol = "https:" ∧ url.username = "" ∧ url.password = "" ∧ url.search = "" ∧ url.hash = ""

instance (url : Url) : Decidable url.Secure := inferInstanceAs (Decidable (_ ∧ _))

def validateSignerEndpoint (newUrl : String → Option Url) (value : String) :
    Except HiveGatewayError { url : Url // url.Secure } :=
  match newUrl value with
  | none => .error ⟨.invalidAuthorization, "Signer endpoint is not a valid URL"⟩
  | some url =>
    if h : url.Secure then .ok ⟨url, h⟩
    else .error ⟨.invalidAuthorization,
      "Signer endpoint must be HTTPS without credentials, query, or fragment"⟩

structure HttpIsolatedSignerClientConfig where
  endpoint : String
  bearerToken : String
  timeoutMs : Option ℚ

structure HttpIsolatedSignerClient where
  endpoint : { url : Url // url.Secure }
  bearerToken : String
  timeoutMs : ℚ
  token : 32 ≤ utf16Length bearerToken ∧ utf16Length bearerToken ≤ 4096
  timeout : timeoutMs.isInt = true ∧ 100 ≤ timeoutMs ∧ timeoutMs ≤ 120000

/-- The constructor. -/
def HttpIsolatedSignerClient.new (newUrl : String → Option Url)
    (config : HttpIsolatedSignerClientConfig) : Except HiveGatewayError HttpIsolatedSignerClient := do
  let endpoint ← validateSignerEndpoint newUrl config.endpoint
  if htoken : 32 ≤ utf16Length config.bearerToken ∧ utf16Length config.bearerToken ≤ 4096 then
    let timeoutMs := config.timeoutMs.getD 5000
    if htimeout : timeoutMs.isInt = true ∧ 100 ≤ timeoutMs ∧ timeoutMs ≤ 120000 then
      pure ⟨endpoint, config.bearerToken, timeoutMs, htoken, htimeout⟩
    else .error ⟨.invalidAuthorization, "Signer timeout must be 100..120000 milliseconds"⟩
  else .error ⟨.invalidAuthorization, "Signer bearer token must contain 32..4096 characters"⟩

def HiveAuthority.text : HiveAuthority → String
  | active => "active"
  | owner => "owner"
  | posting => "posting"

def HiveChameleonEventType.text : HiveChameleonEventType → String
  | matchResultsBatch => "match_results_batch"
  | matchResultCorrected => "match_result_corrected"
  | matchResultInvalidated => "match_result_invalidated"
  | collectibleIssued => "collectible_issued"
  | collectibleRevoked => "collectible_revoked"

def IsolatedSignerRequest.json (request : IsolatedSignerRequest) : Json := .object [
  ("idempotencyKey", .string request.idempotencyKey),
  ("policyVersion", .string request.policyVersion),
  ("role", .string request.role.text),
  ("account", .string request.account),
  ("authority", .string request.authority.text),
  ("expectedPublicKey", .string request.expectedPublicKey),
  ("signerKeyReference", .string request.signerKeyReference),
  ("eventFamily", .string request.eventFamily.text),
  ("eventType", .string request.eventType.text),
  ("canonicalPayload", .string request.canonicalPayload),
  ("canonicalOperationJson", .string request.canonicalOperationJson),
  ("canonicalOperationHash", .string request.canonicalOperationHash),
  ("unsignedTransactionJson", .string request.unsignedTransactionJson),
  ("signatureDigest", .string request.signatureDigest),
  ("transactionId", .string request.transactionId)]

open Schema in
def signerResponseSchema : Schema := strictObject [
  ("signature", required (stringOf (boundedLength 16 256))),
  ("publicKey", required (stringOf (boundedLength 16 128)))] (by decide)

/-- The properties of what the schema hands on. -/
def asSignerResponse (value : Json) : Option IsolatedSignerResponse := do
  let signature ← value.text "signature"
  let publicKey ← value.text "publicKey"
  pure ⟨signature, publicKey⟩

section

variable (J : JsRuntime)

/-- What `sign` makes of the text of the answer. -/
def readSignerResponse (responseText : String) : Except HiveGatewayError IsolatedSignerResponse := do
  require (responseText.utf8ByteSize ≤ 16 * 1024)
    ⟨.signerMismatch, "Isolated signer response was oversized"⟩
  match jsonParse J.numberText responseText with
  | none => .error ⟨.signerMismatch, "Isolated signer returned invalid JSON"⟩
  | some responseBody =>
    match (signerResponseSchema.parse responseBody).bind asSignerResponse with
    | none => .error ⟨.signerMismatch, "Isolated signer returned an invalid response"⟩
    | some response => pure response

namespace HttpIsolatedSignerClient

variable {W : Wax} (client : HttpIsolatedSignerClient) (request : IsolatedSignerRequest)

/-- `fetch(endpoint, { method: 'POST', … })` -/
def httpRequest : HttpRequest where
  url := client.endpoint.val.text
  method := "POST"
  headers := [("accept", "application/json"), ("authorization", "Bearer " ++ client.bearerToken),
    ("content-type", "application/json")]
  body := String.ofList request.json.render
  cache := "no-store"
  redirect := "error"
  timeoutMs := client.timeoutMs

/-- A call whose failure is the signer's. -/
def ask (q : GatewayCall W) (message : String) : Gatewaying W q.Response :=
  (Prog.request q).orElse fun _ => .throw (.gateway ⟨.signerUnavailable, message⟩)

def sign : Gatewaying W IsolatedSignerResponse :=
  (ask (.fetch (client.httpRequest request)) "Isolated signer request failed").bind
    fun (response : HttpResponse) =>
  (checked (require (response.ok = true) ⟨.signerUnavailable,
    "Isolated signer rejected the request with HTTP " ++ toString response.status⟩)).bind fun _ =>
  (ask .responseText "Isolated signer response was unreadable").bind fun (text : String) =>
  checked (readSignerResponse J text)

end HttpIsolatedSignerClient

end

/-! ### The wire -/

section

variable {J : JsRuntime} {W : Wax} {α : Type} {trace : List (GatewayCall W)}

theorem ends_checked {x : Except HiveGatewayError α} {outcome : Except GatewayFailure α} :
    (checked x : Gatewaying W α).Ends trace outcome ↔ trace = [] ∧ outcome = x.mapError .gateway :=
  Prog.ends_lift

theorem ends_checked_bind {β : Type} {x : Except HiveGatewayError α} {f : α → Gatewaying W β}
    {outcome : Except GatewayFailure β} : ((checked x).bind f).Ends trace outcome ↔
      (trace = [] ∧ ∃ e, x = .error e ∧ outcome = .error (.gateway e)) ∨
        ∃ a, x = .ok a ∧ (f a).Ends trace outcome := by
  cases x with
  | error e => simp [checked, Except.mapError, Prog.lift, Prog.bind]
  | ok a => simp [checked, Except.mapError, Prog.lift, Prog.bind]

theorem mapError_eq_ok {x : Except HiveGatewayError α} {a : α} :
    x.mapError GatewayFailure.gateway = .ok a ↔ x = .ok a := by
  cases x <;> simp [Except.mapError]

namespace HttpIsolatedSignerClient

theorem ends_ask {q : GatewayCall W} {message : String} {outcome : Except GatewayFailure q.Response}
    (h : (ask q message).Ends trace outcome) : trace = [q] := by
  rcases Prog.ends_orElse.mp h with ⟨a, ha, -⟩ | ⟨e', before, after, rfl, he, hafter⟩
  · exact Prog.ends_request.mp ha
  · obtain ⟨rfl, -⟩ := Prog.ends_throw.mp hafter
    rw [List.append_nil]
    exact Prog.ends_request.mp he

/-- **The signer is asked once**: a `sign` that returns made the request and read its answer, one that
throws made at most these calls. -/
theorem ends_sign {client : HttpIsolatedSignerClient}
    {request : IsolatedSignerRequest} {outcome : Except GatewayFailure IsolatedSignerResponse}
    (h : (client.sign J request).Ends trace outcome) :
    trace = [.fetch (client.httpRequest request), .responseText] ∨
      trace = [.fetch (client.httpRequest request)] ∧ ∃ e, outcome = .error e := by
  rcases Prog.ends_bind.mp h with ⟨e, he, rfl⟩ | ⟨response, before, after, rfl, hfetch, hafter⟩
  · exact .inr ⟨ends_ask he, e, rfl⟩
  obtain rfl := ends_ask hfetch
  rcases ends_checked_bind.mp hafter with ⟨rfl, e, -, rfl⟩ | ⟨_, -, hrest⟩
  · exact .inr ⟨rfl, _, rfl⟩
  rcases Prog.ends_bind.mp hrest with ⟨e, he, rfl⟩ | ⟨text, before, last, rfl, htext, hlast⟩
  · obtain rfl := ends_ask he
    exact .inl rfl
  · obtain rfl := ends_ask htext
    obtain ⟨rfl, -⟩ := ends_checked.mp hlast
    exact .inl rfl

end HttpIsolatedSignerClient

end

end HiveChameleon.Gateway
