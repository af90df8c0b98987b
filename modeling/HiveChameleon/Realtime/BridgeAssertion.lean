import HiveChameleon.Nakama.CompactUuid

/-!
# Realtime.BridgeAssertion — what the API signs and the match server verifies

`createBridgeAssertion` of the API writes six parts between dots; the verifier of the match server reads
them with decoders of its own.  For identities, a nonce and a clock that the API accepts, the verifier
reads back what was signed, in the seconds before the expiry.
-/

namespace HiveChameleon.Realtime

open Lib

/-! ### The API -/

def assertionVersion : String := "v1"
def nonceLength : ℕ := 16
def maximumAssertionLength : ℕ := 128

structure BridgePrincipal where
  authSessionId : String
  playerId : String
deriving DecidableEq, Repr

/-- A loaded configuration: its lifetime of assertions has passed the bounds of the loader. -/
structure NakamaBridgeConfig where
  assertionTtlSeconds : ℤ
  bridgeHmacKey : List UInt8
  permitted : 5 ≤ assertionTtlSeconds ∧ assertionTtlSeconds ≤ 60

/-- A `Date`: its time in milliseconds, within the range of the language; none when it is invalid. -/
structure JsDate where
  time : Option ℤ
  range : ∀ ms ∈ time, -8640000000000000 ≤ ms ∧ ms ≤ 8640000000000000

/-- `uuidV7Pattern.test(value)` -/
def isCanonicalUuidV7 (value : String) : Bool := Gateway.isUuidV7 value

/-- `Buffer.from(text, 'hex')`, which stops at the first pair that is no byte. -/
def bufferFromHex : List Char → List UInt8
  | [] => []
  | [_] => []
  | a :: b :: rest =>
    match digitBelow 16 a, digitBelow 16 b with
    | some high, some low => UInt8.ofNat (high * 16 + low) :: bufferFromHex rest
    | _, _ => []

/-- `buffer.toString('base64url')` -/
def base64url (buffer : List UInt8) : String := String.ofList (Base64Url.encode buffer)

/-- `n.toString(36)` of an integer. -/
def toString36 (n : ℤ) : String :=
  String.ofList (if n < 0 then '-' :: numeral 36 n.natAbs else numeral 36 n.natAbs)

def compactUuid (value : String) : String :=
  base64url (bufferFromHex (value.toList.filter fun c => c ≠ '-'))

/-- What the signature covers. -/
def bridgePayload (principal : BridgePrincipal) (expiresAt : ℤ) (nonce : List UInt8) : String :=
  ".".intercalate [assertionVersion, compactUuid principal.playerId, compactUuid principal.authSessionId,
    toString36 expiresAt, base64url nonce]

/-- `Math.floor(now.getTime() / 1_000) + config.assertionTtlSeconds` -/
def bridgeExpiry (config : NakamaBridgeConfig) (milliseconds : ℤ) : ℤ :=
  milliseconds / 1000 + config.assertionTtlSeconds

def createBridgeAssertion (hmac : List UInt8 → String → Vector UInt8 32) (principal : BridgePrincipal)
    (config : NakamaBridgeConfig) (now : JsDate) (nonce : List UInt8) : Except String String := do
  require (isCanonicalUuidV7 principal.playerId = true ∧ isCanonicalUuidV7 principal.authSessionId = true)
    "Realtime bridge identities must be canonical UUIDv7 values."
  match now.time with
  | none => .error "Realtime bridge clock returned an invalid date."
  | some milliseconds => do
    require (nonce.length = nonceLength) "Realtime bridge nonce must contain 16 bytes."
    let payload := bridgePayload principal (bridgeExpiry config milliseconds) nonce
    let signature := base64url (hmac config.bridgeHmacKey payload).toList
    let assertion := payload ++ "." ++ signature
    require (Gateway.utf16Length assertion ≤ maximumAssertionLength)
      "Realtime bridge assertion exceeds the Nakama custom-ID limit."
    pure assertion

/-! ### The parts -/

theorem bufferFromHex_of_hexDecode {text : List Char} {bytes : List UInt8}
    (h : Nakama.hexDecode text = some bytes) : bufferFromHex text = bytes := by
  induction text using Nakama.hexDecode.induct generalizing bytes with
  | case1 => exact Option.some.inj h
  | case2 c => cases h
  | case3 a b rest ih =>
    rw [Nakama.hexDecode] at h
    simp only [Option.bind_eq_bind, Option.bind_eq_some_iff] at h
    obtain ⟨high, hhigh, low, hlow, after, hafter, hbytes⟩ := h
    rw [bufferFromHex, hhigh, hlow, ← Option.some.inj hbytes, ih hafter]

theorem compactUuid_canonicalText (u : Nakama.UuidV7) : compactUuid u.canonicalText = u.compactText := by
  rw [compactUuid, u.filter_canonicalText, bufferFromHex_of_hexDecode (Nakama.hexDecode_hexEncode u.bytes)]
  rfl

theorem base64url_injective : Function.Injective base64url := by
  intro bytes bytes' h
  exact Base64Url.encode_injective (String.ofList_injective h)

theorem compactUuid_injective {value value' : String} (hvalue : isCanonicalUuidV7 value = true)
    (hvalue' : isCanonicalUuidV7 value' = true) (h : compactUuid value = compactUuid value') :
    value = value' := by
  obtain ⟨u, rfl⟩ := Nakama.exists_uuidV7 hvalue
  obtain ⟨w, rfl⟩ := Nakama.exists_uuidV7 hvalue'
  rw [compactUuid_canonicalText, compactUuid_canonicalText] at h
  have hbytes : u.bytes = w.bytes := base64url_injective h
  rw [Nakama.UuidV7.canonicalText, Nakama.UuidV7.canonicalText, hbytes]

theorem digitChar_of_mem_numeral {n : ℕ} {c : Char} (h : c ∈ numeral 36 n) :
    c.toNat < 128 ∧ c ≠ '.' ∧ c ≠ '-' ∧ c ≠ '+' := by
  obtain ⟨d, hd, rfl⟩ := exists_digit_of_mem_numeral (by decide) h
  have hall : ∀ m < 36, (digitChar m).toNat < 128 ∧ digitChar m ≠ '.' ∧ digitChar m ≠ '-' ∧
      digitChar m ≠ '+' := by decide
  exact hall d hd

theorem head?_numeral (n : ℕ) :
    (numeral 36 n).head? ≠ some '-' ∧ (numeral 36 n).head? ≠ some '+' := by
  constructor
  · intro h
    exact (digitChar_of_mem_numeral (List.mem_of_mem_head? h)).2.2.1 rfl
  · intro h
    exact (digitChar_of_mem_numeral (List.mem_of_mem_head? h)).2.2.2 rfl

theorem guard_bind {α : Type} {p : Prop} [Decidable p] (next : Option α) :
    ((guard p : Option Unit).bind fun _ => next) = if p then next else none := by
  by_cases hp : p
  · rw [guard, if_pos hp, if_pos hp]
    rfl
  · rw [guard, if_neg hp, if_neg hp]
    rfl

/-- **The expiry** reads back as it was written. -/
theorem parseInt36_toString36 {n : ℤ} (hlow : -(2 ^ 63) ≤ n) (hhigh : n < 2 ^ 63) :
    Nakama.parseInt36 (toString36 n) = some n := by
  have hparsed := parseNumeral_numeral (n := n.natAbs) (show 2 ≤ 36 by decide) (by decide)
  unfold Nakama.parseInt36 toString36
  simp only [String.toList_ofList, Option.bind_eq_bind, guard_bind]
  by_cases hneg : n < 0
  · simp only [if_pos hneg, List.head?_cons, true_or, if_true, List.tail_cons, hparsed, Option.bind_some]
    rw [if_pos (by omega)]
    congr 1
    omega
  · obtain ⟨hminus, hplus⟩ := head?_numeral n.natAbs
    simp only [if_neg hneg, hminus, hplus, or_self, if_false, hparsed, Option.bind_some]
    rw [if_pos (by omega)]
    congr 1
    omega

theorem toString36_injective : Function.Injective toString36 := by
  have hnumeral {m n : ℕ} (h : numeral 36 m = numeral 36 n) : m = n := by
    have hparsed := parseNumeral_numeral (n := m) (show 2 ≤ 36 by decide) (by decide)
    rw [h, parseNumeral_numeral (by decide) (by decide)] at hparsed
    exact (Option.some.inj hparsed).symm
  have hsign {m n : ℕ} (h : '-' :: numeral 36 m = numeral 36 n) : False := by
    have hhead := congrArg List.head? h
    exact (head?_numeral n).1 hhead.symm
  intro m n h
  have h := String.ofList_injective h
  split_ifs at h with hm hn hn
  · have hsame := hnumeral (List.cons.inj h).2
    omega
  · exact (hsign h).elim
  · exact (hsign h.symm).elim
  · have hsame := hnumeral h
    omega

/-! ### The payload -/

section Payload

variable {principal principal' : BridgePrincipal} {expiresAt expiresAt' : ℤ} {nonce nonce' : List UInt8}

/-- A letter of a part is an ASCII letter, and no dot. -/
def Plain (part : String) : Prop := ∀ c ∈ part.toList, c.toNat < 128 ∧ c ≠ '.'

theorem plain_base64url (bytes : List UInt8) : Plain (base64url bytes) := by
  intro c hc
  rw [base64url, String.toList_ofList] at hc
  have hsextet := Base64Url.sextet_of_mem_encode hc
  constructor
  · by_contra hhigh
    refine hsextet ?_
    have hdash : c ≠ '-' := by
      rintro rfl
      exact hhigh (by decide)
    have hbar : c ≠ '_' := by
      rintro rfl
      exact hhigh (by decide)
    rw [Base64Url.sextet, if_neg (by omega), if_neg (by omega), if_neg (by omega), if_neg hdash, if_neg hbar]
  · rintro rfl
    exact hsextet rfl

theorem plain_toString36 (n : ℤ) : Plain (toString36 n) := by
  intro c hc
  rw [toString36, String.toList_ofList] at hc
  split_ifs at hc with hneg
  · rcases List.mem_cons.mp hc with rfl | hc
    · decide
    · exact ⟨(digitChar_of_mem_numeral hc).1, (digitChar_of_mem_numeral hc).2.1⟩
  · exact ⟨(digitChar_of_mem_numeral hc).1, (digitChar_of_mem_numeral hc).2.1⟩

theorem toList_version : assertionVersion.toList = ['v', '1'] := String.toList_ofList

theorem plain_version : Plain assertionVersion := by
  rw [Plain, toList_version]
  exact List.forall_mem_cons.mpr ⟨by decide, List.forall_mem_singleton.mpr (by decide)⟩

/-- **Parts between dots**: plain parts are found again. -/
theorem splitOn_parts {parts : List String} (hparts : ∀ part ∈ parts, Plain part) (hne : parts ≠ []) :
    ((".".intercalate parts).toList.splitOn '.').map String.ofList = parts := by
  have hdot : ∀ part ∈ parts.map String.toList, '.' ∉ part := by
    intro part hpart hmem
    obtain ⟨text, htext, rfl⟩ := List.mem_map.mp hpart
    exact (hparts text htext '.' hmem).2 rfl
  have hlist : (".".intercalate parts).toList = List.intercalate ['.'] (parts.map String.toList) :=
    String.toList_intercalate
  rw [hlist, List.splitOn_intercalate '.' hdot (by simpa using hne), List.map_map]
  have hround : String.ofList ∘ String.toList = id := by
    funext text
    exact String.ofList_toList
  rw [hround, List.map_id]

theorem plain_parts (principal : BridgePrincipal) (expiresAt : ℤ) (nonce : List UInt8) :
    ∀ part ∈ [assertionVersion, compactUuid principal.playerId, compactUuid principal.authSessionId,
      toString36 expiresAt, base64url nonce], Plain part := by
  simp only [List.forall_mem_cons]
  refine ⟨plain_version, plain_base64url _, plain_base64url _, plain_toString36 _, plain_base64url _, ?_⟩
  intro part hpart
  cases hpart

/-- **No two identities share a payload.** -/
theorem bridgePayload_injective (hplayer : isCanonicalUuidV7 principal.playerId = true)
    (hplayer' : isCanonicalUuidV7 principal'.playerId = true)
    (hsession : isCanonicalUuidV7 principal.authSessionId = true)
    (hsession' : isCanonicalUuidV7 principal'.authSessionId = true)
    (h : bridgePayload principal expiresAt nonce = bridgePayload principal' expiresAt' nonce') :
    principal = principal' ∧ expiresAt = expiresAt' ∧ nonce = nonce' := by
  have hparts := splitOn_parts (plain_parts principal expiresAt nonce) (List.cons_ne_nil _ _)
  have hparts' := splitOn_parts (plain_parts principal' expiresAt' nonce') (List.cons_ne_nil _ _)
  have hsame := hparts.symm.trans ((congrArg (fun text : String =>
    (text.toList.splitOn '.').map String.ofList) h).trans hparts')
  simp only [List.cons.injEq, and_true, true_and] at hsame
  obtain ⟨hp, hs, hexpiry, hnonce⟩ := hsame
  have hp := compactUuid_injective hplayer hplayer' hp
  have hs := compactUuid_injective hsession hsession' hs
  refine ⟨?_, toString36_injective hexpiry, base64url_injective hnonce⟩
  cases principal
  cases principal'
  rw [BridgePrincipal.mk.injEq]
  exact ⟨hs, hp⟩

end Payload

/-! ### The length -/

theorem length_base64url (bytes : List UInt8) :
    (base64url bytes).toList.length = (4 * bytes.length + 2) / 3 := by
  rw [base64url, String.toList_ofList, Base64Url.length_encode]

theorem length_compactUuid {value : String} (h : isCanonicalUuidV7 value = true) :
    (compactUuid value).toList.length = 22 := by
  obtain ⟨u, rfl⟩ := Nakama.exists_uuidV7 h
  have hbytes : compactUuid u.canonicalText = base64url u.bytes := compactUuid_canonicalText u
  rw [hbytes, length_base64url, u.length]

theorem length_toString36 {n : ℤ} (h : n.natAbs < 36 ^ 9) : (toString36 n).toList.length ≤ 10 := by
  have hdigits : (numeral 36 n.natAbs).length ≤ 9 := length_numeral_le (by decide) (by decide) h
  rw [toString36, String.toList_ofList]
  split_ifs with hneg
  · rw [List.length_cons]
    omega
  · omega

theorem utf8ByteSize_plain {text : String} (h : ∀ c ∈ text.toList, c.toNat < 128) :
    text.utf8ByteSize = text.toList.length := by
  rw [← Nakama.utf8ByteSize_ascii h, String.ofList_toList]

theorem utf16Length_plain {text : String} (h : ∀ c ∈ text.toList, c.toNat < 128) :
    Gateway.utf16Length text = text.toList.length := by
  rw [Gateway.utf16Length]
  have hones : text.toList.map (fun c => if c.toNat < 65536 then 1 else 2) = text.toList.map fun _ => 1 := by
    refine List.map_inj_left.mpr fun c hc => ?_
    have hascii := h c hc
    rw [if_pos (by omega)]
  rw [hones]
  simp

section Assertion

variable (hmac : List UInt8 → String → Vector UInt8 32) (key : List UInt8) (principal : BridgePrincipal)
  (expiresAt : ℤ) (nonce : List UInt8)

theorem compactUUIDV7ToCanonical_compactUuid {value : String} (h : isCanonicalUuidV7 value = true) :
    (Nakama.bridgeVerifierWith hmac key).compactUUIDV7ToCanonical (compactUuid value) = some value := by
  obtain ⟨u, rfl⟩ := Nakama.exists_uuidV7 h
  rw [Nakama.compactUUIDV7ToCanonical_eq_some, compactUuid_canonicalText]
  exact ⟨u, rfl, rfl⟩

theorem decodeCanonical_base64url (bytes : List UInt8) :
    (Nakama.bridgeVerifierWith hmac key).decodeCanonical (base64url bytes) = some bytes :=
  Nakama.decodeCanonical_eq_some.mpr rfl

/-- The text that the API builds, before it looks at its length. -/
def signedAssertion (hmac : List UInt8 → String → Vector UInt8 32) (key : List UInt8) (payload : String) :
    String :=
  payload ++ "." ++ base64url (hmac key payload).toList

/-- The six parts of an assertion. -/
def assertionParts (hmac : List UInt8 → String → Vector UInt8 32) (key : List UInt8)
    (principal : BridgePrincipal) (expiresAt : ℤ) (nonce : List UInt8) : List String :=
  [assertionVersion, compactUuid principal.playerId, compactUuid principal.authSessionId,
    toString36 expiresAt, base64url nonce, base64url (hmac key (bridgePayload principal expiresAt nonce)).toList]

theorem signedAssertion_eq :
    signedAssertion hmac key (bridgePayload principal expiresAt nonce) =
      ".".intercalate (assertionParts hmac key principal expiresAt nonce) := rfl

theorem plain_assertionParts :
    ∀ part ∈ assertionParts hmac key principal expiresAt nonce, Plain part := by
  simp only [assertionParts, List.forall_mem_cons]
  refine ⟨plain_version, plain_base64url _, plain_base64url _, plain_toString36 _, plain_base64url _,
    plain_base64url _, ?_⟩
  intro part hpart
  cases hpart

theorem toList_assertion :
    (signedAssertion hmac key (bridgePayload principal expiresAt nonce)).toList =
      List.intercalate ['.'] ((assertionParts hmac key principal expiresAt nonce).map String.toList) := by
  rw [signedAssertion_eq]
  exact String.toList_intercalate

theorem eq_or_mem_of_mem_intersperse {α : Type*} {sep x : α} {xs : List α} (h : x ∈ xs.intersperse sep) :
    x = sep ∨ x ∈ xs := by
  induction xs with
  | nil => cases h
  | cons y ys ih =>
    cases ys with
    | nil => exact .inr h
    | cons z zs =>
      rw [List.intersperse_cons_cons, List.mem_cons, List.mem_cons] at h
      rcases h with rfl | rfl | h
      · exact .inr List.mem_cons_self
      · exact .inl rfl
      · exact (ih h).imp_right (List.mem_cons_of_mem _)

theorem ascii_assertion :
    ∀ c ∈ (signedAssertion hmac key (bridgePayload principal expiresAt nonce)).toList, c.toNat < 128 := by
  intro c hc
  rw [toList_assertion, List.intercalate, List.mem_flatten] at hc
  obtain ⟨part, hpart, hc⟩ := hc
  rcases eq_or_mem_of_mem_intersperse hpart with rfl | hpart
  · rw [List.mem_singleton.mp hc]
    decide
  · obtain ⟨text, htext, rfl⟩ := List.mem_map.mp hpart
    exact (plain_assertionParts hmac key principal expiresAt nonce text htext c hc).1

variable {principal nonce} (hplayer : isCanonicalUuidV7 principal.playerId = true)
  (hsession : isCanonicalUuidV7 principal.authSessionId = true) (hnonce : nonce.length = nonceLength)

include hplayer hsession hnonce

theorem length_assertion :
    (signedAssertion hmac key (bridgePayload principal expiresAt nonce)).toList.length =
      116 + (toString36 expiresAt).toList.length := by
  have hversion : assertionVersion.toList.length = 2 := congrArg List.length toList_version
  have hp := length_compactUuid hplayer
  have hs := length_compactUuid hsession
  have hn := length_base64url nonce
  have hmacLength := length_base64url (hmac key (bridgePayload principal expiresAt nonce)).toList
  rw [hnonce, nonceLength] at hn
  rw [Vector.length_toList] at hmacLength
  rw [toList_assertion]
  simp only [assertionParts, List.map_cons, List.map_nil, List.intercalate, List.intersperse]
  simp [hversion, hp, hs, hn, hmacLength]
  omega

/-- **The verifier reads back what was signed**, in the seconds before the expiry and in no others. -/
theorem verify_signedAssertion (hexpiry : expiresAt.natAbs < 36 ^ 9) (now : ℤ) :
    (Nakama.bridgeVerifierWith hmac key).verify now
        (signedAssertion hmac key (bridgePayload principal expiresAt nonce)) =
      if now < expiresAt ∧ expiresAt ≤ now + Nakama.bridgeMaximumTTL then
        some ⟨principal.playerId, principal.authSessionId, String.ofList (Nakama.hexEncode nonce), expiresAt⟩
      else none := by
  have hlength := length_assertion hmac key expiresAt hplayer hsession hnonce
  have hdigits := length_toString36 hexpiry
  have hbytes := utf8ByteSize_plain (ascii_assertion hmac key principal expiresAt nonce)
  have hsize : 0 < (signedAssertion hmac key (bridgePayload principal expiresAt nonce)).utf8ByteSize ∧
      (signedAssertion hmac key (bridgePayload principal expiresAt nonce)).utf8ByteSize ≤
        Nakama.bridgeMaximumLength := by
    rw [Nakama.bridgeMaximumLength]
    omega
  have hsplit := splitOn_parts (plain_assertionParts hmac key principal expiresAt nonce) (List.cons_ne_nil _ _)
  rw [← signedAssertion_eq, assertionParts] at hsplit
  have hplayerId := compactUUIDV7ToCanonical_compactUuid hmac key hplayer
  have hsessionId := compactUUIDV7ToCanonical_compactUuid hmac key hsession
  have hparse : (Nakama.bridgeVerifierWith hmac key).parseInt36 (toString36 expiresAt) = some expiresAt :=
    parseInt36_toString36 (by omega) (by omega)
  have hmac32 : (hmac key (bridgePayload principal expiresAt nonce)).toList.length = 32 := Vector.length_toList
  have hsigned : (hmac key (bridgePayload principal expiresAt nonce)).toList =
      (Nakama.bridgeVerifierWith hmac key).hmacSha256 (".".intercalate [assertionVersion,
        compactUuid principal.playerId, compactUuid principal.authSessionId, toString36 expiresAt,
        base64url nonce]) := rfl
  have hversion : assertionVersion = Nakama.bridgeAssertionVersion := rfl
  have hnonce' : nonce.length = Nakama.bridgeNonceBytes := hnonce
  rw [Nakama.BridgeVerifier.verify, hsplit]
  simp only [Option.bind_eq_bind, guard_bind, if_pos hsize, if_pos hversion, hplayerId, hsessionId, hparse,
    decodeCanonical_base64url, Option.bind_some, if_pos hnonce', if_pos hmac32, if_pos hsigned]

theorem createBridgeAssertion_eq_ok {config : NakamaBridgeConfig} {now : JsDate} {milliseconds : ℤ}
    (hclock : now.time = some milliseconds) (hexpiry : (bridgeExpiry config milliseconds).natAbs < 36 ^ 9) :
    createBridgeAssertion hmac principal config now nonce =
      .ok (signedAssertion hmac config.bridgeHmacKey
        (bridgePayload principal (bridgeExpiry config milliseconds) nonce)) := by
  have hlength := length_assertion hmac config.bridgeHmacKey (bridgeExpiry config milliseconds) hplayer hsession
    hnonce
  have hdigits := length_toString36 hexpiry
  have hunits := utf16Length_plain
    (ascii_assertion hmac config.bridgeHmacKey principal (bridgeExpiry config milliseconds) nonce)
  have hshort : Gateway.utf16Length (signedAssertion hmac config.bridgeHmacKey
      (bridgePayload principal (bridgeExpiry config milliseconds) nonce)) ≤ maximumAssertionLength := by
    rw [maximumAssertionLength]
    omega
  have hids : isCanonicalUuidV7 principal.playerId = true ∧ isCanonicalUuidV7 principal.authSessionId = true :=
    ⟨hplayer, hsession⟩
  unfold signedAssertion at hshort
  unfold createBridgeAssertion signedAssertion
  simp only [hclock, require, if_pos hids, if_pos hnonce, if_pos hshort]
  rfl

end Assertion

theorem natAbs_bridgeExpiry {config : NakamaBridgeConfig} {now : JsDate} {milliseconds : ℤ}
    (hclock : now.time = some milliseconds) : (bridgeExpiry config milliseconds).natAbs < 36 ^ 9 := by
  have hrange := now.range milliseconds hclock
  have hpermitted := config.permitted
  rw [bridgeExpiry]
  omega

/-- **Assertions across languages**: the API signs every pair of identities, nonce and valid clock within
the length that both allow; the verifier with the same key reads back exactly that, in the seconds before
the expiry and not earlier than the longest lifetime; and no other identities, expiry or nonce have the
same payload. -/
theorem assertions_agree (hmac : List UInt8 → String → Vector UInt8 32) (principal : BridgePrincipal)
    (config : NakamaBridgeConfig) (now : JsDate) (milliseconds : ℤ) (nonce : List UInt8)
    (hplayer : isCanonicalUuidV7 principal.playerId = true)
    (hsession : isCanonicalUuidV7 principal.authSessionId = true)
    (hclock : now.time = some milliseconds) (hnonce : nonce.length = nonceLength) :
    (∃ assertion signature, createBridgeAssertion hmac principal config now nonce = .ok assertion ∧
      assertion = bridgePayload principal (bridgeExpiry config milliseconds) nonce ++ "." ++ signature ∧
      Gateway.utf16Length assertion ≤ maximumAssertionLength ∧
      assertion.utf8ByteSize ≤ Nakama.bridgeMaximumLength ∧
      ∀ second, (Nakama.bridgeVerifierWith hmac config.bridgeHmacKey).verify second assertion =
        if second < bridgeExpiry config milliseconds ∧
            bridgeExpiry config milliseconds ≤ second + Nakama.bridgeMaximumTTL then
          some ⟨principal.playerId, principal.authSessionId, String.ofList (Nakama.hexEncode nonce),
            bridgeExpiry config milliseconds⟩
        else none) ∧
      ∀ principal' expiresAt expiresAt' nonce' nonce'', isCanonicalUuidV7 principal'.playerId = true →
        isCanonicalUuidV7 principal'.authSessionId = true →
        bridgePayload principal expiresAt nonce' = bridgePayload principal' expiresAt' nonce'' →
        principal = principal' ∧ expiresAt = expiresAt' ∧ nonce' = nonce'' := by
  constructor
  · have hexpiry : (bridgeExpiry config milliseconds).natAbs < 36 ^ 9 := natAbs_bridgeExpiry hclock
    have hcreated := createBridgeAssertion_eq_ok hmac hplayer hsession hnonce hclock hexpiry
    have hlength := length_assertion hmac config.bridgeHmacKey (bridgeExpiry config milliseconds) hplayer
      hsession hnonce
    have hdigits := length_toString36 hexpiry
    have hascii := ascii_assertion hmac config.bridgeHmacKey principal (bridgeExpiry config milliseconds) nonce
    refine ⟨_, _, hcreated, rfl, ?_, ?_, fun second => ?_⟩
    · rw [utf16Length_plain hascii, maximumAssertionLength]
      omega
    · rw [utf8ByteSize_plain hascii, Nakama.bridgeMaximumLength]
      omega
    · exact verify_signedAssertion hmac config.bridgeHmacKey _ hplayer hsession hnonce hexpiry second
  · intro principal' expiresAt expiresAt' nonce' nonce'' hplayer' hsession' h
    exact bridgePayload_injective hplayer hplayer' hsession hsession' h

/-- The configuration, the identities, the clock and the nonce of the contract test. -/
def contractConfig : NakamaBridgeConfig where
  assertionTtlSeconds := 30
  bridgeHmacKey := "0123456789abcdef0123456789abcdef".toList.map fun c => UInt8.ofNat c.toNat
  permitted := by decide

def contractPrincipal : BridgePrincipal where
  authSessionId := "01980abc-def1-7abc-9def-0123456789ab"
  playerId := "01980abc-def0-7abc-8def-0123456789ab"

def contractDate : JsDate where
  time := some 1800000000000
  range := by decide

def contractNonce : List UInt8 := "1234567890abcdef".toList.map fun c => UInt8.ofNat c.toNat

/-- The keyed hash on the key and the payload of the contract test. -/
def contractHmac (_key : List UInt8) (_payload : String) : Vector UInt8 32 :=
  #v[16, 28, 183, 54, 89, 207, 207, 9, 88, 218, 218, 84, 9, 242, 157, 57,
    1, 227, 27, 33, 223, 166, 193, 40, 175, 0, 189, 128, 214, 238, 68, 186]

theorem assertions_agree_contract :
    ∃ assertion signature,
      createBridgeAssertion contractHmac contractPrincipal contractConfig contractDate contractNonce =
        .ok assertion ∧
      assertion = bridgePayload contractPrincipal (bridgeExpiry contractConfig 1800000000000) contractNonce ++
        "." ++ signature ∧
      Gateway.utf16Length assertion ≤ maximumAssertionLength ∧
      assertion.utf8ByteSize ≤ Nakama.bridgeMaximumLength ∧
      ∀ second, (Nakama.bridgeVerifierWith contractHmac contractConfig.bridgeHmacKey).verify second assertion =
        if second < bridgeExpiry contractConfig 1800000000000 ∧
            bridgeExpiry contractConfig 1800000000000 ≤ second + Nakama.bridgeMaximumTTL then
          some ⟨contractPrincipal.playerId, contractPrincipal.authSessionId,
            String.ofList (Nakama.hexEncode contractNonce), bridgeExpiry contractConfig 1800000000000⟩
        else none :=
  (assertions_agree contractHmac contractPrincipal contractConfig contractDate 1800000000000 contractNonce
    (by decide) (by decide) rfl (by decide)).1

end HiveChameleon.Realtime
