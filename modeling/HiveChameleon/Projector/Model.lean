import HiveChameleon.Gateway.Protocol

/-!
# Projector.Model — blocks, operations, decisions and errors of the HAF projector

The types of `workers/haf-projector/src/model.ts` and `errors.ts`.  A block timestamp is the
instant that the normalized ISO text denotes.
-/

namespace HiveChameleon.Projector

open Gateway

/-- `hive_projection.operation_state`, the finality of a projected row. -/
inductive OperationState where
  | included | irreversible | reverted
deriving DecidableEq, Repr

/-- `hive_projection.validation_state` -/
inductive ValidationState where
  | pending | accepted | rejected | reverted
deriving DecidableEq, Repr

/-- `hive_projection.authority_type`, as far as evidence uses it. -/
inductive Authority where
  | active | owner | posting
deriving DecidableEq, Repr

structure HafBlock where
  number : ℕ
  id : String
  previousId : String
  timestamp : Timestamp
deriving DecidableEq, Repr

/-- Zero is the unsynchronized sentinel; every positive height must carry its RPC block id. -/
structure HafIrreversibleBlock where
  number : ℕ
  id : Option String
deriving DecidableEq, Repr

mutual

/-- A JSON value; a number is kept as its text. -/
inductive JsonValue where
  | null
  | boolean (value : Bool)
  | number (text : String)
  | string (text : JsString)
  | array (items : JsonItems)
  | object (fields : JsonFields)

inductive JsonItems where
  | nil
  | cons (item : JsonValue) (items : JsonItems)

inductive JsonFields where
  | nil
  | cons (key : JsString) (value : JsonValue) (fields : JsonFields)

end

deriving instance DecidableEq for JsonValue, JsonItems, JsonFields

def JsonFields.find? (key : JsString) : JsonFields → Option JsonValue
  | .nil => none
  | .cons k value fields => if k = key then some value else fields.find? key

mutual

/-- Every key and every string of a value. -/
def JsonValue.texts : JsonValue → List JsString
  | .null => []
  | .boolean _ => []
  | .number _ => []
  | .string text => [text]
  | .array items => items.texts
  | .object fields => fields.texts

def JsonItems.texts : JsonItems → List JsString
  | .nil => []
  | .cons item items => item.texts ++ items.texts

def JsonFields.texts : JsonFields → List JsString
  | .nil => []
  | .cons key value fields => key :: value.texts ++ fields.texts

end

/-- The value of an operation, as the validator's two schemas tell values apart: the strict
`custom_json` object with Hive account names, or any other value. -/
inductive OperationValue where
  | customJson (requiredAuths requiredPostingAuths : List HiveAccount) (id : String)
      (json : JsString)
  | other (value : JsonValue)
deriving DecidableEq

/-- Every string that `JSON.stringify` writes a value with, its own keys apart. -/
def OperationValue.texts : OperationValue → List JsString
  | .customJson auths postingAuths id json =>
    (auths ++ postingAuths).map (fun account => .text account.name) ++ [.text id, json]
  | .other value => value.texts

/-- Whether `::jsonb` takes the text of a value. -/
def OperationValue.isJsonb (value : OperationValue) : Bool := value.texts.all (·.isJsonb)

structure HafOperation where
  sourceOperationId : String
  transactionId : Option String
  operationIndex : ℕ
  isVirtual : Bool
  blockNumber : ℕ
  timestamp : Timestamp
  operationType : String
  value : OperationValue
deriving DecidableEq

structure ProjectionCursor where
  source : String
  lastProcessedBlock : ℕ
  lastProcessedBlockId : Option String
  lastIrreversibleBlock : ℕ
deriving DecidableEq, Repr

structure BlockCheckpoint extends HafBlock where
  source : String
  state : OperationState
  includedAt : Timestamp
  irreversibleAt : Option Timestamp
  revertedAt : Option Timestamp
deriving DecidableEq, Repr

structure RawOperationEvidence where
  sourceOperationId : String
  transactionId : Option String
  operationIndex : ℕ
  isVirtual : Bool
  blockNumber : ℕ
  blockId : String
  blockTimestamp : Timestamp
  operationType : String
  primaryAccount : String
  requiredAuthority : Option Authority
  applicationId : Option String
  payload : OperationValue
deriving DecidableEq

structure OperationDecision where
  evidence : RawOperationEvidence
  validationState : ValidationState
  rejectionReason : Option String
  event : Option HiveChameleonEvent
deriving DecidableEq

inductive HafProjectorErrorCode where
  | cursorConflict | databaseUnavailable | invalidSourceResponse | irreversibleFork | reorgTooDeep
  | sourceDivergence | sourceUnavailable
deriving DecidableEq, Repr

/-- Why a call failed: an error the projector or the gateway raises, a statement PostgreSQL
refused (a raised trigger or a named constraint), or a lost connection. -/
inductive Failure where
  | projector (code : HafProjectorErrorCode) (message : String)
  | gateway (code : HiveGatewayErrorCode)
  | raised (sqlstate message : String)
  | constraint (name : String)
  | connection
deriving DecidableEq, Repr

/-- Whether the projector reported this error code. -/
def Failure.hasCode (code : HafProjectorErrorCode) : Failure → Bool
  | .projector c _ => c = code
  | _ => false

end HiveChameleon.Projector
