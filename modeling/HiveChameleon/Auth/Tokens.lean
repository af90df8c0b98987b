import HiveChameleon.Auth.Rotation
import HiveChameleon.Realtime.BridgeAssertion

/-!
# Auth.Tokens — access and onboarding tokens, and the guards that read them

`token.service.ts` signs claims under the key of the service and reads them back from a token that it is
handed; `AccessSessionGuard`, `OnboardingSessionGuard` and `DisclosurePrincipalGuard` make a principal of
them.  As long as no tag of the service is forged, a guard lets a token pass exactly when the service
issued it to that principal, for that purpose, and less than its lifetime ago.
-/

namespace HiveChameleon.Auth.Tokens

open Gateway Lib
open Realtime (base64url)

/-! ### `token.service.ts` -/

def utf8 (text : String) : List UInt8 := text.toUTF8.data.toList

/-- What the runtime and the schema library compute, as far as the tokens rely on it. -/
structure TokenRuntime where
  /-- The HMAC-SHA256 of a text under a key. -/
  hmacSha256 : List UInt8 → String → Vector UInt8 32
  /-- `Buffer.from(text, 'base64url')`, which passes over what is no letter of the alphabet. -/
  fromBase64url : String → List UInt8
  /-- `buffer.toString('utf8')` -/
  fromUtf8 : List UInt8 → String
  /-- `Number::toString` of the double that a numeral denotes, where it is no plain number. -/
  numberText : String → String
  /-- `z.string().uuid()` -/
  isUuid : String → Bool
  fromBase64url_base64url : ∀ bytes, fromBase64url (base64url bytes) = bytes
  fromUtf8_utf8 : ∀ text, fromUtf8 (utf8 text) = text
  isUuid_of_isUuidV7 : ∀ text, isUuidV7 text = true → isUuid text = true

/-- What the token service reads of a loaded configuration. -/
structure AuthConfig where
  accessTokenTtlSeconds : ℕ
  audience : String
  issuer : String
  tokenKey : List UInt8
  bounded : 60 ≤ accessTokenTtlSeconds ∧ accessTokenTtlSeconds ≤ 3600

inductive TokenType where
  | access | onboarding
deriving DecidableEq, Repr

def TokenType.text : TokenType → String
  | .access => "access"
  | .onboarding => "onboarding"

structure TokenClaims where
  aud : String
  exp : ℤ
  iat : ℤ
  iss : String
  sid : Option String
  sub : String
  typ : TokenType
deriving DecidableEq, Repr

/-- An integer in a JSON text. -/
def integerText (n : ℤ) : String :=
  String.ofList (if n < 0 then '-' :: numeral 10 n.natAbs else numeral 10 n.natAbs)

/-- `JSON.stringify` -/
def jsonStringify (v : Json) : String := String.ofList v.render

def tokenHeader : String :=
  base64url (utf8 (jsonStringify (.object [("alg", .string "HS256"), ("typ", .string "JWT")])))

/-- The object that is signed; without a session it has no `sid`. -/
def TokenClaims.json (claims : TokenClaims) : Json :=
  .object (("aud", .string claims.aud) :: ("exp", .number (integerText claims.exp)) ::
    ("iat", .number (integerText claims.iat)) :: ("iss", .string claims.iss) ::
    ((claims.sid.toList.map fun sid => ("sid", Json.string sid)) ++
      [("sub", .string claims.sub), ("typ", .string claims.typ.text)]))

/-- What `sign` is handed. -/
structure SignInput where
  expiresAt : Timestamp
  now : Timestamp
  sid : Option String
  sub : String
  typ : TokenType

/-- The first two parts of a token. -/
def signingInputOf (claims : TokenClaims) : String :=
  tokenHeader ++ "." ++ base64url (utf8 (jsonStringify claims.json))

def tokenClaims (config : AuthConfig) (input : SignInput) : TokenClaims where
  aud := config.audience
  exp := input.expiresAt / 1000
  iat := input.now / 1000
  iss := config.issuer
  sid := input.sid
  sub := input.sub
  typ := input.typ

def sign (R : TokenRuntime) (config : AuthConfig) (input : SignInput) : String :=
  let signingInput := signingInputOf (tokenClaims config input)
  signingInput ++ "." ++ base64url (R.hmacSha256 config.tokenKey signingInput).toList

structure IssuedToken where
  expiresAt : Timestamp
  token : String

def issueAccessToken (R : TokenRuntime) (config : AuthConfig) (playerId sessionId : String)
    (now : Timestamp) : IssuedToken :=
  let expiresAt := now + config.accessTokenTtlSeconds * 1000
  ⟨expiresAt, sign R config ⟨expiresAt, now, some sessionId, playerId, .access⟩⟩

def issueOnboardingToken (R : TokenRuntime) (config : AuthConfig) (externalIdentityId : String)
    (now : Timestamp) : IssuedToken :=
  let expiresAt := now + config.accessTokenTtlSeconds * 1000
  ⟨expiresAt, sign R config ⟨expiresAt, now, none, externalIdentityId, .onboarding⟩⟩

def maxSafeInteger : ℕ := 9007199254740991

/-- `z.number().int()`: an integer that a double holds without a gap next to it. -/
def asInteger (v : Json) : Option ℤ := do
  let text := (← v.asNumber).toList
  let digits := if text.head? = some '-' then text.tail else text
  let n ← parseNumeral 10 digits
  if n ≤ maxSafeInteger then some (if text.head? = some '-' then -n else n) else none

def asTokenType (v : Json) : Option TokenType := do
  let text ← v.asString
  if text = "access" then some .access else if text = "onboarding" then some .onboarding else none

def asUuid (R : TokenRuntime) (v : Json) : Option String := do
  let text ← v.asString
  if R.isUuid text then some text else none

def tokenClaimsSchema (R : TokenRuntime) : Json → Option TokenClaims
  | .object fields =>
    if fields.all fun field => ["aud", "exp", "iat", "iss", "sid", "sub", "typ"].contains field.1 then do
      let aud ← (← fields.lookup "aud").asString
      let exp ← asInteger (← fields.lookup "exp")
      let iat ← asInteger (← fields.lookup "iat")
      let iss ← (← fields.lookup "iss").asString
      let sid ← match fields.lookup "sid" with
        | none => some none
        | some v => (asUuid R v).map some
      let sub ← asUuid R (← fields.lookup "sub")
      let typ ← asTokenType (← fields.lookup "typ")
      some ⟨aud, exp, iat, iss, sid, sub, typ⟩
    else none
  | _ => none

def invalidToken : HttpProblem :=
  ⟨"invalid_session", "The session credential is missing, invalid, expired, or revoked.", 401,
    "Unauthorized"⟩

def verify (R : TokenRuntime) (config : AuthConfig) (token : String) (now : Timestamp) :
    Except HttpProblem TokenClaims :=
  match (token.toList.splitOn '.').map String.ofList with
  | [header, payload, signature] =>
    if header ≠ tokenHeader ∨ payload = "" ∨ signature = "" then .error invalidToken
    else
      let signingInput := header ++ "." ++ payload
      let supplied := R.fromBase64url signature
      let expected := (R.hmacSha256 config.tokenKey signingInput).toList
      if supplied ≠ expected then .error invalidToken
      else
        match jsonParse R.numberText (R.fromUtf8 (R.fromBase64url payload)) with
        | none => .error invalidToken
        | some parsed =>
          match tokenClaimsSchema R parsed with
          | none => .error invalidToken
          | some claims =>
            let nowSeconds := now / 1000
            if claims.iss ≠ config.issuer ∨ claims.aud ≠ config.audience ∨
                claims.iat > nowSeconds + 30 ∨ claims.exp ≤ nowSeconds then .error invalidToken
            else .ok claims
  | _ => .error invalidToken

/-- What an access token says, in the texts of the token. -/
structure AccessTokenClaims where
  playerId : String
  sessionId : String
deriving DecidableEq, Repr

structure OnboardingPrincipal where
  externalIdentityId : String
deriving DecidableEq, Repr

def verifyAccessToken (R : TokenRuntime) (config : AuthConfig) (token : String) (now : Timestamp) :
    Except HttpProblem AccessTokenClaims := do
  let claims ← verify R config token now
  match claims.typ, claims.sid with
  | .access, some sid => .ok ⟨claims.sub, sid⟩
  | _, _ => .error invalidToken

def verifyOnboardingToken (R : TokenRuntime) (config : AuthConfig) (token : String) (now : Timestamp) :
    Except HttpProblem OnboardingPrincipal := do
  let claims ← verify R config token now
  match claims.typ, claims.sid with
  | .onboarding, none => .ok ⟨claims.sub⟩
  | _, _ => .error invalidToken

/-! ### The guards -/

/-- What a guard throws: its own refusal, or what the repository threw. -/
inductive GuardError where
  | unauthorized (problem : HttpProblem)
  | raised (error : String)
deriving DecidableEq, Repr

/-- The interface `AuthRepository`, as far as the guards use it. -/
structure AuthRepository (Session : Type) where
  findActiveSession : String → Timestamp → Except String (Option Session)
  playerId : Session → String

def unauthorized {α : Type} : Except HttpProblem α → Except GuardError α
  | .ok a => .ok a
  | .error problem => .error (.unauthorized problem)

section

variable {Session : Type} (R : TokenRuntime) (config : AuthConfig) (repository : AuthRepository Session)

/-- The session of an access token, or `refusal`. -/
def sessionOf (refusal : HttpProblem) (token : String) (now checkedAt : Timestamp) :
    Except GuardError Session := do
  let claims ← unauthorized (verifyAccessToken R config token now)
  match repository.findActiveSession claims.sessionId checkedAt with
  | .error error => .error (.raised error)
  | .ok none => .error (.unauthorized refusal)
  | .ok (some session) =>
    if repository.playerId session = claims.playerId then .ok session
    else .error (.unauthorized refusal)

/-- `AccessSessionGuard.canActivate`, with the two clock readings it takes. -/
def accessSessionGuard (authorization : Option HeaderValue) (now checkedAt : Timestamp) :
    Except GuardError Session := do
  let token ← unauthorized (bearerToken authorization)
  sessionOf R config repository invalidSession token now checkedAt

/-- `OnboardingSessionGuard.canActivate` -/
def onboardingSessionGuard (authorization : Option HeaderValue) (now : Timestamp) :
    Except GuardError OnboardingPrincipal := do
  let token ← unauthorized (bearerToken authorization)
  unauthorized (verifyOnboardingToken R config token now)

def invalidPrincipal : HttpProblem :=
  ⟨"invalid_session", "The disclosure principal is invalid, expired, or revoked.", 401, "Unauthorized"⟩

/-- `DisclosurePrincipalGuard.canActivate`: a refused access token is tried as an onboarding token. -/
def disclosurePrincipalGuard (authorization : Option HeaderValue) (now : Timestamp) :
    Except GuardError (Session ⊕ OnboardingPrincipal) := do
  let token ← unauthorized (bearerToken authorization)
  match sessionOf R config repository invalidPrincipal token now now with
  | .ok session => .ok (.inl session)
  | .error (.raised error) => .error (.raised error)
  | .error (.unauthorized _) => do
    let principal ← unauthorized (verifyOnboardingToken R config token now)
    .ok (.inr principal)

end

/-! ### Issued tokens -/

/-- Whom a token is for. -/
inductive Subject where
  | access (playerId sessionId : String)
  | onboarding (externalIdentityId : String)
deriving DecidableEq, Repr

/-- A token that the service issued: for whom and when, in milliseconds. -/
structure Issue where
  subject : Subject
  issuedAt : ℤ
deriving DecidableEq, Repr

def Subject.ids : Subject → List String
  | .access playerId sessionId => [playerId, sessionId]
  | .onboarding externalIdentityId => [externalIdentityId]

/-- Ids are UUIDs as the database writes them, and the clock of the service shows a time since 1970 whose
expiry is a valid date. -/
def Issue.Valid (issue : Issue) : Prop :=
  (∀ id ∈ issue.subject.ids, isUuidV7 id = true) ∧ 0 ≤ issue.issuedAt ∧
    issue.issuedAt ≤ 8640000000000000 - 3600000

instance (issue : Issue) : Decidable issue.Valid := inferInstanceAs (Decidable (_ ∧ _ ∧ _))

section

variable (R : TokenRuntime) (config : AuthConfig)

/-- The token that the service hands out. -/
def Issue.token (issue : Issue) : String :=
  match issue.subject with
  | .access playerId sessionId => (issueAccessToken R config playerId sessionId issue.issuedAt).token
  | .onboarding externalIdentityId => (issueOnboardingToken R config externalIdentityId issue.issuedAt).token

def Issue.claims (issue : Issue) : TokenClaims :=
  let expiresAt := issue.issuedAt + config.accessTokenTtlSeconds * 1000
  match issue.subject with
  | .access playerId sessionId =>
    tokenClaims config ⟨expiresAt, issue.issuedAt, some sessionId, playerId, .access⟩
  | .onboarding externalIdentityId =>
    tokenClaims config ⟨expiresAt, issue.issuedAt, none, externalIdentityId, .onboarding⟩

def Issue.signingInput (issue : Issue) : String := signingInputOf (issue.claims config)

/-- The last part of a text is the tag of what is before it. -/
def Tagged (text input : String) : Prop :=
  ∃ signature, text = input ++ "." ++ signature ∧ '.' ∉ signature.toList ∧
    R.fromBase64url signature = (R.hmacSha256 config.tokenKey input).toList

/-- The issue's claims with their tag, in whatever spelling of the tag. -/
def Presents (token : String) (issue : Issue) : Prop := Tagged R config token (issue.signingInput config)

/-- No tag in a text was made by anyone but the service. -/
def Unforged (issued : List Issue) (text : String) : Prop :=
  ∀ input, Tagged R config text input → ∃ issue ∈ issued, issue.signingInput config = input

/-- By the second, an issue is at most 30 seconds in the future and has not expired. -/
def Live (issue : Issue) (now : Timestamp) : Prop :=
  issue.issuedAt / 1000 ≤ now / 1000 + 30 ∧
    now / 1000 < issue.issuedAt / 1000 + config.accessTokenTtlSeconds

instance (issue : Issue) (now : Timestamp) : Decidable (Live config issue now) :=
  inferInstanceAs (Decidable (_ ∧ _))

end

/-! ### The claims in their text -/

theorem isDigit_of_mem_numeral {n : ℕ} {c : Char} (h : c ∈ numeral 10 n) : isDigit c = true := by
  obtain ⟨d, hd, rfl⟩ := exists_digit_of_mem_numeral (by decide) h
  have hall : ∀ m < 10, isDigit (digitChar m) = true := by decide
  exact hall d hd

theorem head?_numeral_ne_zero {n : ℕ} (h : 0 < n) : (numeral 10 n).head? ≠ some '0' := by
  intro hhead
  have hdigits : Nat.digits 10 n ≠ [] := Nat.digits_ne_nil_iff_ne_zero.mpr (by omega)
  rw [numeral, if_neg (by omega), List.head?_map, List.head?_reverse, List.getLast?_eq_some_getLast hdigits,
    Option.map_some, Option.some.injEq] at hhead
  have hlast : (Nat.digits 10 n).getLast hdigits ≠ 0 := Nat.getLast_digit_ne_zero 10 (by omega)
  have hbound : (Nat.digits 10 n).getLast hdigits < 10 :=
    Nat.digits_lt_base (by decide) (List.getLast_mem hdigits)
  have hall : ∀ m < 10, digitChar m = '0' → m = 0 := by decide
  exact hlast (hall _ hbound hhead)

theorem isPlainNumber_numeral {n : ℕ} (h : n < 10 ^ 15) : isPlainNumber (numeral 10 n) = true := by
  have hlength := length_numeral_le (by decide) (by decide) h
  have hdigits : (numeral 10 n).all isDigit = true :=
    List.all_eq_true.mpr fun c hc => isDigit_of_mem_numeral hc
  have hhead : (numeral 10 n == ['0'] || (numeral 10 n).head?.any fun c => isDigit c && c ≠ '0') = true := by
    rcases Nat.eq_zero_or_pos n with rfl | hpos
    · rfl
    · obtain ⟨c, cs, hcons⟩ := List.exists_cons_of_ne_nil (show numeral 10 n ≠ [] from numeral_ne_nil)
      have hzero := head?_numeral_ne_zero hpos
      have hdigit := isDigit_of_mem_numeral (n := n) (c := c) (by rw [hcons]; exact List.mem_cons_self ..)
      rw [hcons, List.head?_cons] at hzero ⊢
      have hne : c ≠ '0' := fun hc => hzero (congrArg some hc)
      simp [hdigit, hne]
  rw [isPlainNumber, hhead, hdigits, Bool.true_and, Bool.true_and, decide_eq_true_eq]
  exact hlength

theorem asInteger_integerText {n : ℤ} (hlow : 0 ≤ n) (hhigh : n < 10 ^ 15) :
    asInteger (.number (integerText n)) = some n := by
  have hminus : (numeral 10 n.natAbs).head? ≠ some '-' := by
    intro h
    have hdigit := isDigit_of_mem_numeral (List.mem_of_mem_head? h)
    exact absurd hdigit (by decide)
  have hparsed := parseNumeral_numeral (n := n.natAbs) (show 2 ≤ 10 by decide) (by decide)
  have hsafe : n.natAbs ≤ maxSafeInteger := by
    rw [maxSafeInteger]
    omega
  simp only [asInteger, Json.asNumber, integerText, if_neg (not_lt.mpr hlow), String.toList_ofList, hminus,
    if_false, Option.bind_eq_bind, Option.bind_some, hparsed, if_pos hsafe, Option.some.injEq]
  omega

theorem jsonParse_jsonStringify (numberText : String → String) {v : Json} (h : v.Tidy) :
    jsonParse numberText (jsonStringify v) = some v := by
  have hread := parseValue_render numberText [] v (2 * v.render.length + 1) h (fun c hc => by cases hc) (by omega)
  rw [List.append_nil] at hread
  rw [jsonParse, jsonStringify, String.toList_ofList, hread]
  rfl

/-- What the service can sign: times since 1970, and ids in the form of the database. -/
structure TokenClaims.Sound (claims : TokenClaims) : Prop where
  exp : 0 ≤ claims.exp ∧ claims.exp < 10 ^ 15
  iat : 0 ≤ claims.iat ∧ claims.iat < 10 ^ 15
  sid : ∀ sid ∈ claims.sid, isUuidV7 sid = true
  sub : isUuidV7 claims.sub = true

theorem tidy_number {n : ℤ} (h : 0 ≤ n ∧ n < 10 ^ 15) : (Json.number (integerText n)).Tidy := by
  show isPlainNumber (integerText n).toList = true
  rw [integerText, if_neg (not_lt.mpr h.1), String.toList_ofList]
  exact isPlainNumber_numeral (by omega)

theorem TokenClaims.Sound.tidy {claims : TokenClaims} (h : claims.Sound) : claims.json.Tidy := by
  have hexp := tidy_number h.exp
  have hiat := tidy_number h.iat
  refine ⟨?_, tidyFields_iff.mpr ?_⟩
  · cases claims.sid <;> simp
  · intro field hfield
    cases hsid : claims.sid with
    | none =>
      simp only [hsid, Option.toList_none, List.map_nil, List.nil_append, List.mem_cons, List.not_mem_nil,
        or_false] at hfield
      rcases hfield with rfl | rfl | rfl | rfl | rfl | rfl
      exacts [trivial, hexp, hiat, trivial, trivial, trivial]
    | some sid =>
      simp only [hsid, Option.toList_some, List.map_cons, List.map_nil, List.cons_append, List.nil_append,
        List.mem_cons, List.not_mem_nil, or_false] at hfield
      rcases hfield with rfl | rfl | rfl | rfl | rfl | rfl | rfl
      exacts [trivial, hexp, hiat, trivial, trivial, trivial, trivial]

theorem asTokenType_text (typ : TokenType) : asTokenType (.string typ.text) = some typ := by
  cases typ <;> rfl

theorem asUuid_of_isUuidV7 {R : TokenRuntime} {id : String} (h : isUuidV7 id = true) :
    asUuid R (.string id) = some id := by
  simp only [asUuid, Json.asString, Option.bind_eq_bind, Option.bind_some, R.isUuid_of_isUuidV7 id h, if_true]

/-- **The claims are read back** from the object that was signed. -/
theorem TokenClaims.Sound.reads {R : TokenRuntime} {claims : TokenClaims} (h : claims.Sound) :
    tokenClaimsSchema R claims.json = some claims := by
  have hexp := asInteger_integerText h.exp.1 h.exp.2
  have hiat := asInteger_integerText h.iat.1 h.iat.2
  have hsub := asUuid_of_isUuidV7 (R := R) h.sub
  have htyp := asTokenType_text claims.typ
  obtain ⟨aud, exp, iat, iss, sid, sub, typ⟩ := claims
  cases sid with
  | none => simp_all [TokenClaims.json, tokenClaimsSchema, List.lookup_cons, Json.asString]
  | some sid =>
    have hsid := asUuid_of_isUuidV7 (R := R) (h.sid sid rfl)
    simp_all [TokenClaims.json, tokenClaimsSchema, List.lookup_cons, Json.asString]

/-! ### The parts of a token -/

theorem not_mem_of_mem_splitOn {sep : Char} {text part : List Char} (h : part ∈ text.splitOn sep) :
    sep ∉ part := by
  induction text generalizing part with
  | nil =>
    rw [List.splitOn_nil, List.mem_singleton] at h
    rw [h]
    exact List.not_mem_nil
  | cons c text ih =>
    obtain ⟨first, rest, hcons⟩ := List.exists_cons_of_ne_nil (List.splitOn_ne_nil sep text)
    rw [List.splitOn_cons_eq_if_modifyHead, hcons] at h
    rw [hcons] at ih
    by_cases hc : (c == sep) = true
    · rw [if_pos hc] at h
      rcases List.mem_cons.mp h with rfl | h
      · exact List.not_mem_nil
      · exact ih h
    · rw [if_neg hc, List.modifyHead_cons] at h
      rcases List.mem_cons.mp h with rfl | h
      · rw [List.mem_cons, not_or]
        exact ⟨fun heq => hc (by rw [heq, beq_self_eq_true]), ih (List.mem_cons_self ..)⟩
      · exact ih (List.mem_cons_of_mem _ h)

/-- `token.split('.')` has three parts. -/
theorem split_eq_three {token header payload signature : String} :
    (token.toList.splitOn '.').map String.ofList = [header, payload, signature] ↔
      token = header ++ "." ++ payload ++ "." ++ signature ∧ '.' ∉ header.toList ∧ '.' ∉ payload.toList ∧
        '.' ∉ signature.toList := by
  have hdot : ".".toList = ['.'] := rfl
  constructor
  · intro h
    have hparts : token.toList.splitOn '.' = [header.toList, payload.toList, signature.toList] := by
      have hlists := congrArg (List.map String.toList) h
      rw [List.map_map, show String.toList ∘ String.ofList = id from funext fun _ => String.toList_ofList,
        List.map_id] at hlists
      exact hlists
    refine ⟨?_, ?_, ?_, ?_⟩
    · have hjoined : List.intercalate ['.'] (token.toList.splitOn '.') = _ := List.intercalate_splitOn '.'
      rw [hparts] at hjoined
      rw [← String.toList_inj, ← hjoined]
      simp [String.toList_append, hdot, List.intercalate]
    all_goals
      refine not_mem_of_mem_splitOn (?_ : _ ∈ token.toList.splitOn '.')
      rw [hparts]
      simp
  · rintro ⟨rfl, hheader, hpayload, hsignature⟩
    have hlist : (header ++ "." ++ payload ++ "." ++ signature).toList =
        List.intercalate ['.'] [header.toList, payload.toList, signature.toList] := by
      simp [String.toList_append, hdot, List.intercalate]
    rw [hlist, List.splitOn_intercalate '.' (by simp [hheader, hpayload, hsignature]) (by simp)]
    simp

theorem dot_not_mem_base64url (bytes : List UInt8) : '.' ∉ (base64url bytes).toList :=
  fun h => (Realtime.plain_base64url bytes '.' h).2 rfl

section

variable {R : TokenRuntime} {config : AuthConfig} {token : String} {now : Timestamp} {claims : TokenClaims}

theorem fromBase64url_empty : R.fromBase64url "" = [] := R.fromBase64url_base64url []

/-- The window in which claims are accepted. -/
def Current (config : AuthConfig) (claims : TokenClaims) (now : Timestamp) : Prop :=
  claims.iss = config.issuer ∧ claims.aud = config.audience ∧ claims.iat ≤ now / 1000 + 30 ∧
    now / 1000 < claims.exp

/-- **What `verify` accepts**: a tag of the service over a header of its own and claims in their window. -/
theorem verify_eq_ok : verify R config token now = .ok claims ↔
    ∃ payload parsed, '.' ∉ payload.toList ∧ Tagged R config token (tokenHeader ++ "." ++ payload) ∧
      jsonParse R.numberText (R.fromUtf8 (R.fromBase64url payload)) = some parsed ∧
      tokenClaimsSchema R parsed = some claims ∧ Current config claims now := by
  constructor
  · intro h
    unfold verify at h
    split at h
    swap
    · cases h
    rename_i header payload signature hsplit
    obtain ⟨htoken, -, hpayload, hsignature⟩ := split_eq_three.mp hsplit
    dsimp only at h
    split_ifs at h with hparts htag
    push Not at hparts htag
    obtain ⟨rfl, -, -⟩ := hparts
    split at h
    · cases h
    rename_i parsed hparsed
    split at h
    · cases h
    rename_i found hfound
    split_ifs at h with hwindow
    push Not at hwindow
    obtain rfl := Except.ok.inj h
    exact ⟨payload, parsed, hpayload, ⟨signature, htoken, hsignature, htag⟩, hparsed, hfound, hwindow⟩
  · rintro ⟨payload, parsed, hpayload, ⟨signature, htoken, hsignature, htag⟩, hparsed, hfound, hcurrent⟩
    have hsplit := split_eq_three.mpr ⟨htoken, dot_not_mem_base64url _, hpayload, hsignature⟩
    have hpayload' : payload ≠ "" := by
      rintro rfl
      rw [fromBase64url_empty, show ([] : List UInt8) = utf8 "" from rfl, R.fromUtf8_utf8] at hparsed
      cases hparsed
    have hsignature' : signature ≠ "" := by
      rintro rfl
      rw [fromBase64url_empty] at htag
      have hlength := congrArg List.length htag
      rw [Vector.length_toList] at hlength
      cases hlength
    have hwindow : ¬(claims.iss ≠ config.issuer ∨ claims.aud ≠ config.audience ∨
        claims.iat > now / 1000 + 30 ∨ claims.exp ≤ now / 1000) := by
      push Not
      exact hcurrent
    simp only [verify, hsplit, ne_eq, not_true_eq_false, hpayload', hsignature', or_self, if_false, htag,
      hparsed, hfound]
    exact if_neg hwindow

end

/-! ### Verification of issued tokens -/

section

variable {R : TokenRuntime} {config : AuthConfig} {issued : List Issue} {issue : Issue} {token : String}
  {now : Timestamp}

theorem claims_times (config : AuthConfig) (issue : Issue) : (issue.claims config).iat = issue.issuedAt / 1000 ∧
    (issue.claims config).exp = issue.issuedAt / 1000 + config.accessTokenTtlSeconds := by
  have hexp : (issue.issuedAt + config.accessTokenTtlSeconds * 1000) / 1000 =
      issue.issuedAt / 1000 + config.accessTokenTtlSeconds := by omega
  rw [Issue.claims]
  cases issue.subject with
  | access playerId sessionId => exact ⟨rfl, hexp⟩
  | onboarding externalIdentityId => exact ⟨rfl, hexp⟩

theorem Issue.Valid.sound (h : issue.Valid) : (issue.claims config).Sound := by
  obtain ⟨hids, hlow, hhigh⟩ := h
  have hbounded := config.bounded
  obtain ⟨hiat, hexp⟩ := claims_times config issue
  constructor
  · rw [hexp]
    omega
  · rw [hiat]
    omega
  · rw [Issue.claims]
    cases hsubject : issue.subject with
    | access playerId sessionId =>
      rintro sid ⟨⟩
      exact hids _ (by simp [hsubject, Subject.ids])
    | onboarding externalIdentityId => rintro sid ⟨⟩
  · rw [Issue.claims]
    cases hsubject : issue.subject with
    | access playerId sessionId => exact hids _ (by simp [hsubject, Subject.ids, tokenClaims])
    | onboarding externalIdentityId => exact hids _ (by simp [hsubject, Subject.ids, tokenClaims])

theorem current_claims : Current config (issue.claims config) now ↔ Live config issue now := by
  obtain ⟨hiat, hexp⟩ := claims_times config issue
  have hnames : (issue.claims config).iss = config.issuer ∧ (issue.claims config).aud = config.audience := by
    rw [Issue.claims]
    cases issue.subject with
    | access playerId sessionId => exact ⟨rfl, rfl⟩
    | onboarding externalIdentityId => exact ⟨rfl, rfl⟩
  rw [Current, Live, hiat, hexp]
  exact ⟨fun h => h.2.2, fun h => ⟨hnames.1, hnames.2, h⟩⟩

theorem tagged_unique {input input' : String} (h : Tagged R config token input)
    (h' : Tagged R config token input') : input = input' := by
  obtain ⟨signature, rfl, hdot, -⟩ := h
  obtain ⟨signature', heq, hdot', -⟩ := h'
  have hlist := congrArg String.toList heq
  have hdotList : ".".toList = ['.'] := rfl
  rw [String.toList_append, String.toList_append, String.toList_append, String.toList_append, hdotList,
    List.append_assoc, List.append_assoc] at hlist
  -- the last dot of a text is in one place
  have hrev := congrArg List.reverse hlist
  simp only [List.reverse_append, List.reverse_cons, List.reverse_nil, List.nil_append,
    List.append_assoc] at hrev
  have hfirst := congrArg (List.splitOn '.') hrev
  rw [List.singleton_append, List.singleton_append,
    List.splitOn_append_cons_self_of_not_mem (by simpa using hdot),
    List.splitOn_append_cons_self_of_not_mem (by simpa using hdot')] at hfirst
  have hsame : signature.toList.reverse = signature'.toList.reverse := (List.cons.inj hfirst).1
  rw [hsame] at hrev
  have htails := List.append_cancel_left hrev
  exact String.toList_injective (List.reverse_injective (List.cons.inj htails).2)

theorem presents_token : Presents R config (issue.token R config) issue := by
  obtain ⟨subject, issuedAt⟩ := issue
  cases subject with
  | access playerId sessionId =>
    exact ⟨_, rfl, dot_not_mem_base64url _, R.fromBase64url_base64url _⟩
  | onboarding externalIdentityId =>
    exact ⟨_, rfl, dot_not_mem_base64url _, R.fromBase64url_base64url _⟩

theorem unforged_token (h : issue ∈ issued) : Unforged R config issued (issue.token R config) :=
  fun _ htagged => ⟨issue, h, tagged_unique presents_token htagged⟩

/-- **Claims are those of an issue**, which has not expired. -/
theorem verify_eq_ok_iff (hvalid : ∀ issue ∈ issued, issue.Valid) (hunforged : Unforged R config issued token)
    {claims : TokenClaims} : verify R config token now = .ok claims ↔
      ∃ issue ∈ issued, Presents R config token issue ∧ Live config issue now ∧
        issue.claims config = claims := by
  have hread (issue : Issue) (hissue : issue ∈ issued) :
      jsonParse R.numberText (R.fromUtf8 (R.fromBase64url
        (base64url (utf8 (jsonStringify (issue.claims config).json))))) = some (issue.claims config).json := by
    rw [R.fromBase64url_base64url, R.fromUtf8_utf8]
    exact jsonParse_jsonStringify R.numberText (hvalid issue hissue).sound.tidy
  have hschema (issue : Issue) (hissue : issue ∈ issued) :
      tokenClaimsSchema R (issue.claims config).json = some (issue.claims config) :=
    (hvalid issue hissue).sound.reads
  rw [verify_eq_ok]
  constructor
  · rintro ⟨payload, parsed, -, htagged, hparsed, hfound, hcurrent⟩
    obtain ⟨issue, hissue, hinput⟩ := hunforged _ htagged
    have hpayload : base64url (utf8 (jsonStringify (issue.claims config).json)) = payload := by
      have hlist := congrArg String.toList hinput
      rw [Issue.signingInput, signingInputOf, String.toList_append, String.toList_append (s := _ ++ _)] at hlist
      exact String.toList_injective (List.append_cancel_left hlist)
    subst hpayload
    rw [hread issue hissue] at hparsed
    obtain rfl := Option.some.inj hparsed
    rw [hschema issue hissue] at hfound
    obtain rfl := Option.some.inj hfound
    exact ⟨issue, hissue, htagged, current_claims.mp hcurrent, rfl⟩
  · rintro ⟨issue, hissue, hpresents, hlive, rfl⟩
    exact ⟨_, _, dot_not_mem_base64url _, hpresents, hread issue hissue, hschema issue hissue,
      current_claims.mpr hlive⟩

theorem verifyAccessToken_eq_ok (hvalid : ∀ issue ∈ issued, issue.Valid)
    (hunforged : Unforged R config issued token) {claims : AccessTokenClaims} :
    verifyAccessToken R config token now = .ok claims ↔
      ∃ issue ∈ issued, issue.subject = .access claims.playerId claims.sessionId ∧
        Presents R config token issue ∧ Live config issue now := by
  constructor
  · intro h
    obtain ⟨found, hfound, h⟩ := bind_eq_ok.mp h
    obtain ⟨issue, hissue, hpresents, hlive, rfl⟩ := (verify_eq_ok_iff hvalid hunforged).mp hfound
    refine ⟨issue, hissue, ?_, hpresents, hlive⟩
    obtain ⟨subject, issuedAt⟩ := issue
    cases subject with
    | access playerId sessionId =>
      obtain rfl := Except.ok.inj h
      rfl
    | onboarding externalIdentityId => cases h
  · rintro ⟨issue, hissue, hsubject, hpresents, hlive⟩
    have hfound := (verify_eq_ok_iff hvalid hunforged).mpr ⟨issue, hissue, hpresents, hlive, rfl⟩
    rw [verifyAccessToken, hfound, Issue.claims, hsubject]
    rfl

theorem verifyOnboardingToken_eq_ok (hvalid : ∀ issue ∈ issued, issue.Valid)
    (hunforged : Unforged R config issued token) {principal : OnboardingPrincipal} :
    verifyOnboardingToken R config token now = .ok principal ↔
      ∃ issue ∈ issued, issue.subject = .onboarding principal.externalIdentityId ∧
        Presents R config token issue ∧ Live config issue now := by
  constructor
  · intro h
    obtain ⟨found, hfound, h⟩ := bind_eq_ok.mp h
    obtain ⟨issue, hissue, hpresents, hlive, rfl⟩ := (verify_eq_ok_iff hvalid hunforged).mp hfound
    refine ⟨issue, hissue, ?_, hpresents, hlive⟩
    obtain ⟨subject, issuedAt⟩ := issue
    cases subject with
    | access playerId sessionId => cases h
    | onboarding externalIdentityId =>
      obtain rfl := Except.ok.inj h
      rfl
  · rintro ⟨issue, hissue, hsubject, hpresents, hlive⟩
    have hfound := (verify_eq_ok_iff hvalid hunforged).mpr ⟨issue, hissue, hpresents, hlive, rfl⟩
    rw [verifyOnboardingToken, hfound, Issue.claims, hsubject]
    rfl

end

/-! ### Requests -/

section

variable {Session : Type} {R : TokenRuntime} {config : AuthConfig} {repository : AuthRepository Session}
  {authorization : Option HeaderValue} {issued : List Issue} {issue : Issue} {now checkedAt : Timestamp}

/-- The header of a request carries a token of the issue. -/
def Bears (R : TokenRuntime) (config : AuthConfig) (authorization : Option HeaderValue) (issue : Issue) :
    Prop :=
  ∃ token, bearerToken authorization = .ok token ∧ Presents R config token issue

/-- No tag in a header was made by anyone but the service. -/
def UnforgedHeader (R : TokenRuntime) (config : AuthConfig) (issued : List Issue)
    (authorization : Option HeaderValue) : Prop :=
  ∀ token, bearerToken authorization = .ok token → Unforged R config issued token

theorem space_not_mem_base64url (bytes : List UInt8) : ' ' ∉ (base64url bytes).toList := by
  intro h
  rw [base64url, String.toList_ofList] at h
  exact Base64Url.sextet_of_mem_encode h rfl

theorem space_not_mem_token : ' ' ∉ (issue.token R config).toList := by
  have hparts : ∃ header payload signature, issue.token R config =
      base64url header ++ "." ++ base64url payload ++ "." ++ base64url signature := by
    obtain ⟨subject, issuedAt⟩ := issue
    cases subject with
    | access playerId sessionId => exact ⟨_, _, _, rfl⟩
    | onboarding externalIdentityId => exact ⟨_, _, _, rfl⟩
  obtain ⟨header, payload, signature, htoken⟩ := hparts
  have hdot : ".".toList = ['.'] := rfl
  rw [htoken]
  simp [String.toList_append, hdot, space_not_mem_base64url]

theorem bearerToken_token :
    bearerToken (some (.one ("Bearer " ++ issue.token R config))) = .ok (issue.token R config) := by
  have hbearer : "Bearer ".toList.length = 7 := rfl
  have hne : (issue.token R config).toList ≠ [] := by
    have hpresents : Presents R config (issue.token R config) issue := presents_token
    obtain ⟨signature, htoken, -⟩ := hpresents
    have hdot : ".".toList = ['.'] := rfl
    rw [htoken]
    simp [String.toList_append, hdot]
  rw [bearerToken, String.toList_append, List.take_left' hbearer, List.drop_left' hbearer,
    if_pos ⟨rfl, hne, space_not_mem_token⟩, String.ofList_toList]

theorem bears_token : Bears R config (some (.one ("Bearer " ++ issue.token R config))) issue :=
  ⟨_, bearerToken_token, presents_token⟩

theorem unauthorized_eq_ok {α : Type} {x : Except HttpProblem α} {a : α} :
    unauthorized x = .ok a ↔ x = .ok a := by
  cases x with
  | ok b => exact ⟨fun h => congrArg _ (Except.ok.inj h), fun h => congrArg _ (Except.ok.inj h)⟩
  | error problem => exact ⟨fun h => (by cases h), fun h => (by cases h)⟩

theorem sessionOf_eq_ok (refusal : HttpProblem) {token : String} {session : Session} :
    sessionOf R config repository refusal token now checkedAt = .ok session ↔
      ∃ claims, verifyAccessToken R config token now = .ok claims ∧
        repository.findActiveSession claims.sessionId checkedAt = .ok (some session) ∧
        repository.playerId session = claims.playerId := by
  simp only [sessionOf, bind_eq_ok, unauthorized_eq_ok]
  refine exists_congr fun claims => and_congr_right fun _ => ?_
  cases hfind : repository.findActiveSession claims.sessionId checkedAt with
  | error error => simp
  | ok found =>
    cases found with
    | none => simp
    | some other =>
      by_cases hplayer : repository.playerId other = claims.playerId
      · simp only [if_pos hplayer, Except.ok.injEq, Option.some.injEq]
        exact ⟨fun h => ⟨h, h ▸ hplayer⟩, fun h => h.1⟩
      · simp only [if_neg hplayer, Except.ok.injEq, Option.some.injEq, reduceCtorEq, false_iff]
        rintro ⟨rfl, h⟩
        exact hplayer h

theorem sessionOf_of_onboarding {refusal : HttpProblem} {token : String} {principal : OnboardingPrincipal}
    (h : verifyOnboardingToken R config token now = .ok principal) :
    sessionOf R config repository refusal token now checkedAt = .error (.unauthorized invalidToken) := by
  obtain ⟨claims, hclaims, h⟩ := bind_eq_ok.mp h
  have haccess : verifyAccessToken R config token now = .error invalidToken := by
    rw [verifyAccessToken, hclaims]
    cases htyp : claims.typ with
    | access =>
      rw [htyp] at h
      cases h
    | onboarding =>
      show (match claims.typ, claims.sid with
        | .access, some sid => Except.ok (⟨claims.sub, sid⟩ : AccessTokenClaims)
        | _, _ => .error invalidToken) = _
      rw [htyp]
  rw [sessionOf, haccess]
  rfl

/-- **Principals come from issued tokens.**  When no tag in the header of a request is forged, the access
guard hands on a session exactly when the header carries a token that the service issued for this session
of this player, at most its lifetime ago, and the session is still active; the onboarding guard hands on an
identity exactly when the header carries such a token for the onboarding of this identity; and the guard of
disclosures hands on what one of the two hands on.  Every token that the service hands out is carried by
the header that names it. -/
theorem principals_of_tokens (R : TokenRuntime) (config : AuthConfig) (repository : AuthRepository Session)
    (issued : List Issue) (authorization : Option HeaderValue) (now checkedAt : Timestamp)
    (hvalid : ∀ issue ∈ issued, issue.Valid) (hunforged : UnforgedHeader R config issued authorization) :
    (∀ session, accessSessionGuard R config repository authorization now checkedAt = .ok session ↔
      ∃ issue ∈ issued, ∃ sessionId, issue.subject = .access (repository.playerId session) sessionId ∧
        Bears R config authorization issue ∧ Live config issue now ∧
        repository.findActiveSession sessionId checkedAt = .ok (some session)) ∧
    (∀ principal, onboardingSessionGuard R config authorization now = .ok principal ↔
      ∃ issue ∈ issued, issue.subject = .onboarding principal.externalIdentityId ∧
        Bears R config authorization issue ∧ Live config issue now) ∧
    (∀ session, disclosurePrincipalGuard R config repository authorization now = .ok (.inl session) ↔
      accessSessionGuard R config repository authorization now now = .ok session) ∧
    (∀ principal, disclosurePrincipalGuard R config repository authorization now = .ok (.inr principal) ↔
      onboardingSessionGuard R config authorization now = .ok principal) ∧
    ∀ issue ∈ issued, Bears R config (some (.one ("Bearer " ++ issue.token R config))) issue := by
  refine ⟨fun session => ?_, fun principal => ?_, fun session => ?_, fun principal => ?_,
    fun issue _ => bears_token⟩
  · simp only [accessSessionGuard, bind_eq_ok, unauthorized_eq_ok, sessionOf_eq_ok]
    constructor
    · rintro ⟨token, htoken, claims, hclaims, hfind, hplayer⟩
      obtain ⟨issue, hissue, hsubject, hpresents, hlive⟩ :=
        (verifyAccessToken_eq_ok hvalid (hunforged token htoken)).mp hclaims
      exact ⟨issue, hissue, claims.sessionId, hplayer ▸ hsubject, ⟨token, htoken, hpresents⟩, hlive, hfind⟩
    · rintro ⟨issue, hissue, sessionId, hsubject, ⟨token, htoken, hpresents⟩, hlive, hfind⟩
      have hclaims : verifyAccessToken R config token now = .ok ⟨repository.playerId session, sessionId⟩ :=
        (verifyAccessToken_eq_ok hvalid (hunforged token htoken)).mpr ⟨issue, hissue, hsubject, hpresents, hlive⟩
      exact ⟨token, htoken, _, hclaims, hfind, rfl⟩
  · simp only [onboardingSessionGuard, bind_eq_ok, unauthorized_eq_ok]
    constructor
    · rintro ⟨token, htoken, hprincipal⟩
      obtain ⟨issue, hissue, hsubject, hpresents, hlive⟩ :=
        (verifyOnboardingToken_eq_ok hvalid (hunforged token htoken)).mp hprincipal
      exact ⟨issue, hissue, hsubject, ⟨token, htoken, hpresents⟩, hlive⟩
    · rintro ⟨issue, hissue, hsubject, ⟨token, htoken, hpresents⟩, hlive⟩
      exact ⟨token, htoken, (verifyOnboardingToken_eq_ok hvalid (hunforged token htoken)).mpr
        ⟨issue, hissue, hsubject, hpresents, hlive⟩⟩
  · simp only [disclosurePrincipalGuard, accessSessionGuard, bind_eq_ok, unauthorized_eq_ok]
    refine exists_congr fun token => and_congr_right fun _ => ?_
    rw [sessionOf_eq_ok, ← sessionOf_eq_ok invalidPrincipal]
    split
    · rename_i found hfound
      simp [hfound]
    · rename_i error hfound
      simp [hfound]
    · rename_i problem hfound
      simp [hfound]
  · simp only [disclosurePrincipalGuard, onboardingSessionGuard, bind_eq_ok, unauthorized_eq_ok]
    refine exists_congr fun token => and_congr_right fun _ => ?_
    constructor
    · intro h
      split at h
      · cases h
      · cases h
      · obtain ⟨found, hfound, h⟩ := bind_eq_ok.mp h
        obtain rfl := Sum.inr.inj (Except.ok.inj h)
        exact unauthorized_eq_ok.mp hfound
    · intro h
      rw [sessionOf_of_onboarding h, h]
      rfl

end

section

/-- The configuration of the tests of the service. -/
def exampleConfig : AuthConfig where
  accessTokenTtlSeconds := 900
  audience := "test-client"
  issuer := "test-api"
  tokenKey := List.replicate 32 1
  bounded := by decide

/-- Decoders of what the service encodes, and the keyed hash on the claims of `exampleOnboarding`. -/
def exampleRuntime : TokenRuntime where
  hmacSha256 _ _ :=
    #v[1, 5, 233, 250, 169, 77, 137, 178, 110, 211, 93, 105, 54, 99, 236, 2,
      174, 9, 240, 58, 126, 142, 133, 52, 131, 179, 8, 245, 173, 239, 90, 37]
  fromBase64url text := (Base64Url.decode text.toList).getD []
  fromUtf8 bytes := (String.fromUTF8? ⟨bytes.toArray⟩).getD ""
  numberText := id
  isUuid := isUuidV7
  fromBase64url_base64url bytes := by
    rw [base64url, String.toList_ofList, Base64Url.decode_encode]
    rfl
  fromUtf8_utf8 text := by
    have hvalid : text.toByteArray.IsValidUTF8 := text.isValidUTF8
    show (String.fromUTF8? text.toByteArray).getD "" = text
    rw [String.fromUTF8?, dif_pos hvalid]
    rfl
  isUuid_of_isUuidV7 _ h := h

/-- Every session is active and belongs to the player whose id it is. -/
def exampleRepository : AuthRepository String where
  findActiveSession sessionId _ := .ok (some sessionId)
  playerId := id

def exampleOnboarding : Issue := ⟨.onboarding "01980abc-def0-7abc-8def-0123456789ab", 1784764800000⟩

def exampleIssued : List Issue :=
  [⟨.access "01980abc-def0-7abc-8def-0123456789ab" "01980abc-def1-7abc-9def-0123456789ab", 1784764800000⟩,
    exampleOnboarding]

def exampleHeader : Option HeaderValue :=
  some (.one ("Bearer " ++ exampleOnboarding.token exampleRuntime exampleConfig))

/-- An onboarding token opens the disclosures after ten minutes; after fifteen it has expired. -/
theorem principals_of_tokens_onboarding :
    disclosurePrincipalGuard exampleRuntime exampleConfig exampleRepository exampleHeader 1784765400000 =
        .ok (.inr ⟨"01980abc-def0-7abc-8def-0123456789ab"⟩) ∧
      (∀ principal, onboardingSessionGuard exampleRuntime exampleConfig exampleHeader 1784765700000 ≠
        .ok principal) := by
  have hvalid : ∀ issue ∈ exampleIssued, issue.Valid := by decide
  have hunforged : UnforgedHeader exampleRuntime exampleConfig exampleIssued exampleHeader := by
    intro token htoken
    rw [exampleHeader, bearerToken_token] at htoken
    obtain rfl := Except.ok.inj htoken
    exact unforged_token (by decide)
  constructor
  · obtain ⟨-, honboarding, -, hdisclosure, hbears⟩ := principals_of_tokens exampleRuntime exampleConfig
      exampleRepository exampleIssued exampleHeader 1784765400000 1784765400000 hvalid hunforged
    rw [hdisclosure, honboarding]
    exact ⟨exampleOnboarding, by decide, rfl, hbears _ (by decide), by decide⟩
  · intro principal hok
    obtain ⟨-, honboarding, -⟩ := principals_of_tokens exampleRuntime exampleConfig
      exampleRepository exampleIssued exampleHeader 1784765700000 1784765700000 hvalid hunforged
    obtain ⟨issue, hissue, -, -, hlive⟩ := (honboarding principal).mp hok
    have hexpired : ∀ issue ∈ exampleIssued, ¬Live exampleConfig issue 1784765700000 := by decide
    exact hexpired issue hissue hlive

end

end HiveChameleon.Auth.Tokens
