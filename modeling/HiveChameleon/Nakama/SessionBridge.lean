import HiveChameleon.Lib.Optimistic
import HiveChameleon.Lib.Run
import HiveChameleon.Lib.Table
import Mathlib.Data.Int.Notation
import Mathlib.Logic.Function.Basic

/-!
# Nakama.SessionBridge — bridge assertions and the nonces they consume

The hook verifies an assertion, captures the time, and then consumes the nonce by a read-modify-write
that prunes what has expired at the captured time.  Calls interleave at every read of the clock and of
the storage.  A call that writes late finds that a later one has pruned its own nonce.
-/

namespace HiveChameleon.Nakama

open Lib

/-! ### Assertions -/

structure BridgePrincipal where
  playerId : String
  authSessionId : String
  nonceKey : String
  expiresAt : ℤ
deriving DecidableEq, Repr

/-- The decoders that the verifier calls, and the keyed hash. -/
structure BridgeVerifier where
  rawUrlDecode : String → Option (List UInt8)
  rawUrlEncode : List UInt8 → String
  parseInt36 : String → Option ℤ
  hmacSha256 : String → List UInt8

def bridgeAssertionVersion : String := "v1"
def bridgeMaximumTTL : ℤ := 60
def bridgeNonceBytes : ℕ := 16
def bridgeMaximumLength : ℕ := 128
def bridgeReplayCollection : String := "hc_bridge_replay"
def bridgeReplayMaxEntries : ℕ := 128
def bridgeReplayMaxRetries : ℕ := 5

def hexDigit (n : ℕ) : Char := if n < 10 then Char.ofNat (48 + n) else Char.ofNat (87 + n)

/-- `hex.EncodeToString` -/
def hexEncode (bytes : List UInt8) : List Char :=
  bytes.flatMap fun b => [hexDigit (b.toNat / 16), hexDigit (b.toNat % 16)]

/-- Unpadded base64url that is its own canonical spelling. -/
def BridgeVerifier.decodeCanonical (v : BridgeVerifier) (text : String) : Option (List UInt8) :=
  match v.rawUrlDecode text with
  | none => none
  | some bytes => if v.rawUrlEncode bytes = text then some bytes else none

def BridgeVerifier.compactUUIDV7ToCanonical (v : BridgeVerifier) (encoded : String) : Option String := do
  let bytes ← v.decodeCanonical encoded
  guard (bytes.length = 16)
  let version ← bytes[6]?
  let variant ← bytes[8]?
  guard (version.toNat / 16 = 7 ∧ variant.toNat / 64 = 2)
  let value := hexEncode bytes
  some (String.ofList (value.take 8 ++ '-' :: (value.drop 8).take 4 ++ '-' :: (value.drop 12).take 4 ++
    '-' :: (value.drop 16).take 4 ++ '-' :: value.drop 20))

def BridgeVerifier.verify (v : BridgeVerifier) (now : ℤ) (assertion : String) :
    Option BridgePrincipal := do
  guard (0 < assertion.utf8ByteSize ∧ assertion.utf8ByteSize ≤ bridgeMaximumLength)
  match (assertion.toList.splitOn '.').map String.ofList with
  | [version, player, authSession, expiry, nonceText, signatureText] => do
    guard (version = bridgeAssertionVersion)
    let playerId ← v.compactUUIDV7ToCanonical player
    let authSessionId ← v.compactUUIDV7ToCanonical authSession
    let expiresAt ← v.parseInt36 expiry
    guard (now < expiresAt ∧ expiresAt ≤ now + bridgeMaximumTTL)
    let nonce ← v.decodeCanonical nonceText
    guard (nonce.length = bridgeNonceBytes)
    let signature ← v.decodeCanonical signatureText
    guard (signature.length = 32)
    guard (signature = v.hmacSha256
      (".".intercalate [version, player, authSession, expiry, nonceText]))
    some ⟨playerId, authSessionId, String.ofList (hexEncode nonce), expiresAt⟩
  | _ => none

/-! ### The replay state of a session -/

/-- An entry of `bridgeReplayState.Nonces`. -/
structure BridgeNonce where
  nonceKey : String
  expiresAt : ℤ
deriving DecidableEq, Repr

abbrev BridgeReplayState := Table BridgeNonce (·.nonceKey)

/-- A storage object; the value is `none` when it is no replay state. -/
structure BridgeReplayObject where
  collection : String
  key : String
  value : Option BridgeReplayState
  version : ℕ

structure BridgeReplayWrite where
  collection : String
  key : String
  value : BridgeReplayState
  version : Option ℕ

inductive BridgeReplayError where
  | replay | capacity | ambiguous | identity | invalidState | conflict
deriving DecidableEq, Repr

/-- The state that a read found, and the version that a write expects. -/
def bridgeReplayState (objects : List BridgeReplayObject) (authSessionId : String) :
    Except BridgeReplayError (BridgeReplayState × Option ℕ) :=
  match objects with
  | [] => .ok (.empty, none)
  | [object] =>
    if object.collection ≠ bridgeReplayCollection ∨ object.key ≠ authSessionId then .error .identity
    else
      match object.value with
      | none => .error .invalidState
      | some nonces => .ok (nonces, some object.version)
  | _ => .error .ambiguous

/-- The nonces that have not expired at `now`. -/
def pruneNonces (now : ℤ) (nonces : BridgeReplayState) : BridgeReplayState :=
  nonces.filter fun nonce => now < nonce.expiresAt

def bridgeReplayWrite (objects : List BridgeReplayObject) (authSessionId nonceKey : String)
    (expiresAt now : ℤ) : Except BridgeReplayError BridgeReplayWrite := do
  let (nonces, version) ← bridgeReplayState objects authSessionId
  let nonces := pruneNonces now nonces
  require ((nonces.find? nonceKey).isNone) .replay
  require (nonces.rows.length < bridgeReplayMaxEntries) .capacity
  let nonces ← nonces.insert ⟨nonceKey, expiresAt⟩ .replay
  pure ⟨bridgeReplayCollection, authSessionId, nonces, version⟩

/-! ### Calls of the hook -/

/-- `runtime.NewError` -/
structure RuntimeError where
  message : String
  code : ℕ
deriving DecidableEq, Repr

def grpcUnavailable : ℕ := 14
def grpcUnauthenticated : ℕ := 16

def invalidBridgeCredential : RuntimeError := ⟨"invalid session bridge credential", grpcUnauthenticated⟩

def bridgeUnavailable : RuntimeError :=
  ⟨"session bridge authentication unavailable", grpcUnavailable⟩

/-- What the hook answers to an error of `consume`. -/
def consumeFailure (e : BridgeReplayError) : RuntimeError :=
  if e = .replay then invalidBridgeCredential else bridgeUnavailable

structure AuthenticateCustomRequest where
  accountId : String
  vars : List (String × String)
  username : String
  create : Bool
deriving DecidableEq, Repr

/-- The request that the hook hands on. -/
def authenticatedRequest (p : BridgePrincipal) : AuthenticateCustomRequest where
  accountId := p.playerId
  vars := [("app_auth_session_id", p.authSessionId), ("app_player_id", p.playerId),
    ("bridge_version", bridgeAssertionVersion)]
  username := String.ofList ("hc_".toList ++ p.playerId.toList.filter (· ≠ '-'))
  create := true

/-- Where a call of `beforeAuthenticateCustom` stands. -/
inductive BridgeCall where
  | ready
  | verified (p : BridgePrincipal)
  | consuming (p : BridgePrincipal) (now : ℤ) (retries : ℕ)
  | updating (p : BridgePrincipal) (now : ℤ) (retries : ℕ) (seen : Cell (Option BridgeReplayState))
  | accepted (request : AuthenticateCustomRequest)
  | refused (e : RuntimeError)

/-- An accepted assertion and the time its call had captured. -/
structure Acceptance where
  principal : BridgePrincipal
  now : ℤ

/-- The clock, the storage objects by session, the calls, and every acceptance so far. -/
structure BridgeSys (ι : Type) where
  clock : ℤ
  storage : String → Cell (Option BridgeReplayState)
  call : ι → BridgeCall
  accepted : List Acceptance

inductive BridgeLabel (ι : Type) where
  | tick (time : ℤ)
  | verify (c : ι) (accountId : Option String)
  | check (c : ι)
  | read (c : ι)
  | write (c : ι)
  | fail (c : ι)

/-- `StorageRead` of a session's object. -/
def bridgeReplayObjects (authSessionId : String) (cell : Cell (Option BridgeReplayState)) :
    List BridgeReplayObject :=
  cell.toList.map fun object => ⟨bridgeReplayCollection, authSessionId, object.value, object.version⟩

section

variable {ι : Type} [DecidableEq ι]

def BridgeSys.set (S : BridgeSys ι) (c : ι) (call : BridgeCall) : BridgeSys ι :=
  { S with call := Function.update S.call c call }

/-- A version conflict is retried, `bridgeReplayMaxRetries` times. -/
def afterConflict (p : BridgePrincipal) (now : ℤ) : ℕ → BridgeCall
  | 0 => .refused (consumeFailure .conflict)
  | retries + 1 => .consuming p now retries

/-- The update function on what was read, and the conditional write. -/
def BridgeSys.consumeWrite (S : BridgeSys ι) (c : ι) (p : BridgePrincipal) (now : ℤ) (retries : ℕ)
    (seen : Cell (Option BridgeReplayState)) : BridgeSys ι :=
  match bridgeReplayWrite (bridgeReplayObjects p.authSessionId seen) p.authSessionId p.nonceKey
      p.expiresAt now with
  | .error e => S.set c (.refused (consumeFailure e))
  | .ok w =>
    match (S.storage w.key).write w.version (some w.value) with
    | none => S.set c (afterConflict p now retries)
    | some object =>
      { S with
        storage := Function.update S.storage w.key (some object)
        call := Function.update S.call c (.accepted (authenticatedRequest p))
        accepted := S.accepted ++ [⟨p, now⟩] }

/-- One step; `none` when the label does not apply. -/
def BridgeSys.exec (v : BridgeVerifier) (S : BridgeSys ι) : BridgeLabel ι → Option (BridgeSys ι)
  | .tick time => if S.clock ≤ time then some { S with clock := time } else none
  | .verify c accountId =>
    match S.call c, accountId with
    | .ready, none => some (S.set c (.refused invalidBridgeCredential))
    | .ready, some id =>
      match v.verify S.clock id with
      | none => some (S.set c (.refused invalidBridgeCredential))
      | some p => some (S.set c (.verified p))
    | _, _ => none
  | .check c =>
    match S.call c with
    | .verified p =>
      if p.expiresAt ≤ S.clock then some (S.set c (.refused invalidBridgeCredential))
      else some (S.set c (.consuming p S.clock bridgeReplayMaxRetries))
    | _ => none
  | .read c =>
    match S.call c with
    | .consuming p now retries => some (S.set c (.updating p now retries (S.storage p.authSessionId)))
    | _ => none
  | .write c =>
    match S.call c with
    | .updating p now retries seen => some (S.consumeWrite c p now retries seen)
    | _ => none
  | .fail c =>
    match S.call c with
    | .consuming _ _ _ => some (S.set c (.refused bridgeUnavailable))
    | .updating _ _ _ _ => some (S.set c (.refused bridgeUnavailable))
    | _ => none

def BridgeStep (v : BridgeVerifier) (S : BridgeSys ι) (l : BridgeLabel ι) (S' : BridgeSys ι) : Prop :=
  S.exec v l = some S'

/-- No call has started; the storage may hold anything. -/
def BridgeSys.start (ι : Type) (clock : ℤ) (storage : String → Cell (Option BridgeReplayState)) :
    BridgeSys ι := ⟨clock, storage, fun _ => .ready, []⟩

end

end HiveChameleon.Nakama
