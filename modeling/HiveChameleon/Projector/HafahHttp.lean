import HiveChameleon.Gateway.CanonicalJson
import HiveChameleon.Gateway.EventSchemas
import HiveChameleon.Lib.Digits
import HiveChameleon.Lib.Implement
import HiveChameleon.Projector.HafahSource
import Mathlib.Algebra.Order.Field.Rat
import Std.Data.String.ToNat

/-!
# Projector.HafahHttp — `HafahHttpSource` over HTTP

The four reads of the source as programs that send requests and read JSON out of the answers.  `new URL`
and `new Date` are parameters.  A JSON number is kept as JavaScript writes it.
-/

namespace HiveChameleon.Projector

open Gateway Lib

/-! ### Reading JSON -/

/-- The number that a text is the decimal of, without superfluous zeros. -/
def decimal (text : String) : Option ℕ := text.toNat?.filter fun n => Nat.repr n = text

theorem decimal_eq_some {text : String} {n : ℕ} : decimal text = some n ↔ text = Nat.repr n := by
  rw [decimal, Option.filter_eq_some_iff, decide_eq_true_iff]
  constructor
  · exact fun h => h.2.symm
  · rintro rfl
    exact ⟨Nat.toNat?_repr n, rfl⟩

/-- `z.number().int().nonnegative()` -/
def readNatural : Json → Option ℕ
  | .number text => (decimal text).filter fun n => isBlockNumber n
  | _ => none

/-- `uint64DecimalSchema` -/
def uint64DecimalSchema : Json → Option UInt64
  | .string text => ((decimal text).filter fun n => n ≤ 18446744073709551615).map UInt64.ofNat
  | _ => none

def isHash40 (text : String) : Bool := text.length == 40 && text.toList.all isHexDigit

/-- `blockHashSchema`, and the `trx_id` of an operation. -/
def blockHashSchema : Json → Option String
  | .string text => if isHash40 text then some text else none
  | _ => none

/-- `z.string().min(1)` -/
def readNonempty : Json → Option String
  | .string text => if text = "" then none else some text
  | _ => none

/-- `z.boolean()` -/
def readBoolean : Json → Option Bool
  | .bool value => some value
  | _ => none

/-- `.nullable().optional()` -/
def nullish {α : Type} (read : Json → Option α) : Option Json → Option (Option α)
  | none => some none
  | some .null => some none
  | some value => (read value).map some

mutual

def jsonValue : Json → JsonValue
  | .null => .null
  | .bool value => .boolean value
  | .number text => .number text
  | .string text => .string (.text text)
  | .array items => .array (jsonItems items)
  | .object fields => .object (jsonFields fields)

def jsonItems : List Json → JsonItems
  | [] => .nil
  | item :: items => .cons (jsonValue item) (jsonItems items)

def jsonFields : List (String × Json) → JsonFields
  | [] => .nil
  | (key, value) :: fields => .cons (.text key) (jsonValue value) (jsonFields fields)

end

def readAccount (name : String) : Option HiveAccount :=
  if h : hiveAccountSchema name = true then some ⟨name, h⟩ else none

/-- The value of an operation, told apart as the validator's `customJsonSchema` does. -/
def operationValue (value : Json) : OperationValue :=
  match do
    let operation ← customJsonValueSchema value
    let auths ← operation.requiredAuths.mapM readAccount
    let postingAuths ← operation.requiredPostingAuths.mapM readAccount
    pure (OperationValue.customJson auths postingAuths operation.id (.text operation.json)) with
  | some operation => operation
  | none => .other (jsonValue value)

structure GlobalState where
  blockNum : ℕ
  hash : String
  prev : String
  createdAt : String

def globalStateSchema (value : Json) : Option GlobalState := do
  let blockNum ← readNatural (← value.get "block_num")
  let hash ← blockHashSchema (← value.get "hash")
  let prev ← blockHashSchema (← value.get "prev")
  let createdAt ← readNonempty (← value.get "created_at")
  pure ⟨blockNum, hash, prev, createdAt⟩

/-- An operation without a value counts as one with the value `null`. -/
def hafahOperationSchema (value : Json) : Option HafahOperation := do
  let op ← value.get "op"
  let type ← readNonempty (← op.get "type")
  let block ← readNatural (← value.get "block")
  let trxId ← nullish blockHashSchema (value.get "trx_id")
  let opPos ← readNatural (← value.get "op_pos")
  let timestamp ← readNonempty (← value.get "timestamp")
  let virtualOp ← readBoolean (← value.get "virtual_op")
  let operationId ← uint64DecimalSchema (← value.get "operation_id")
  pure ⟨type, operationValue ((op.get "value").getD .null), block, trxId, opPos, timestamp, virtualOp,
    operationId⟩

def operationsPageSchema (value : Json) : Option OperationsPage := do
  let nextBlockRangeBegin ← nullish readNatural (value.get "next_block_range_begin")
  let nextOperationBegin ← nullish uint64DecimalSchema (value.get "next_operation_begin")
  let items ← (← value.get "ops").asArray
  let ops ← items.mapM hafahOperationSchema
  pure ⟨nextBlockRangeBegin, nextOperationBegin, ops⟩

def rpcPropertiesSchema (value : Json) : Option ℕ := do
  readNatural (← (← value.get "result").get "last_irreversible_block_num")

def rpcBlockSchema (value : Json) : Option String := do
  blockHashSchema (← (← (← value.get "result").get "block").get "block_id")

/-! ### The source -/

/-- An address by its parts. -/
structure SourceUrl where
  protocol : String
  username : String
  password : String
  host : String
  pathname : String
  search : String
  hash : String
deriving DecidableEq

structure HafahHttpSourceConfig where
  sourceName : String
  hafahApiUrl : String
  hiveRpcUrl : String
  operationTypeIds : List ℚ
  pageSize : Option ℚ
  timeoutMs : Option ℚ
  allowHttpForTests : Option Bool

def validateUrl (newUrl : String → Option SourceUrl) (value : String) (allowHttp : Bool) :
    Except Failure SourceUrl :=
  match newUrl value with
  | none => .error (invalidSourceResponse "Hive source URL is invalid")
  | some url =>
    if (url.protocol = "https:" ∨ allowHttp = true ∧ url.protocol = "http:") ∧ url.username = "" ∧
        url.password = "" ∧ url.search = "" ∧ url.hash = "" then .ok url
    else .error (invalidSourceResponse
      "Source URL must use HTTPS and contain no credentials, query, or fragment")

def normalizeBaseUrl (newUrl : String → Option SourceUrl) (value : String) (allowHttp : Bool) :
    Except Failure SourceUrl := do
  let url ← validateUrl newUrl value allowHttp
  if url.pathname.toList.getLast? = some '/' then pure url
  else pure { url with pathname := url.pathname ++ "/" }

/-- `/^[a-z0-9][a-z0-9._-]{0,63}$/` -/
def isSourceName (name : String) : Bool :=
  1 ≤ name.length && name.length ≤ 64 &&
    name.toList.head?.any (fun c => isLowerLetter c || isDigit c) &&
    name.toList.all fun c => isLowerLetter c || isDigit c || c == '.' || c == '_' || c == '-'

/-- A source that the constructor let pass. -/
structure HafahHttpSource where
  sourceName : String
  apiBase : SourceUrl
  rpcUrl : SourceUrl
  operationTypeIds : List ℚ
  pageSize : ℚ
  timeoutMs : ℚ
  name : isSourceName sourceName = true
  types : operationTypeIds ≠ [] ∧ ∀ value ∈ operationTypeIds, value.isInt = true ∧ 0 ≤ value
  size : pageSize.isInt = true ∧ 1 ≤ pageSize ∧ pageSize ≤ 10000
  timeout : timeoutMs.isInt = true ∧ 100 ≤ timeoutMs ∧ timeoutMs ≤ 120000

/-- The constructor, in a process that runs in production or does not. -/
def HafahHttpSource.new (newUrl : String → Option SourceUrl) (production : Bool)
    (config : HafahHttpSourceConfig) : Except Failure HafahHttpSource := do
  require (¬ (config.allowHttpForTests = some true ∧ production = true))
    (invalidSourceResponse "Plain HTTP source overrides are disabled in production")
  let allowHttp := config.allowHttpForTests.getD false
  let apiBase ← normalizeBaseUrl newUrl config.hafahApiUrl allowHttp
  let rpcUrl ← validateUrl newUrl config.hiveRpcUrl allowHttp
  let pageSize := config.pageSize.getD 1000
  let timeoutMs := config.timeoutMs.getD 5000
  if hname : isSourceName config.sourceName = true then
    if htypes : config.operationTypeIds ≠ [] ∧
        ∀ value ∈ config.operationTypeIds, value.isInt = true ∧ 0 ≤ value then
      if hsize : pageSize.isInt = true ∧ 1 ≤ pageSize ∧ pageSize ≤ 10000 then
        if htimeout : timeoutMs.isInt = true ∧ 100 ≤ timeoutMs ∧ timeoutMs ≤ 120000 then
          pure ⟨config.sourceName, apiBase, rpcUrl, config.operationTypeIds, pageSize, timeoutMs, hname,
            htypes, hsize, htimeout⟩
        else .error (invalidSourceResponse "Hive source timeout is invalid")
      else .error (invalidSourceResponse "HAfAH page size is invalid")
    else .error (invalidSourceResponse "Operation type IDs are invalid")
  else .error (invalidSourceResponse "HAF source name is invalid")

/-! ### Requests -/

/-- The arguments of `fetch`: the address with its query, and what is posted. -/
structure SourceCall where
  url : SourceUrl
  query : List (String × String)
  method : String
  headers : List (String × String)
  body : Option Json

/-- What `fetch` resolves to, with the JSON of its body if there is one. -/
structure SourceResponse where
  ok : Bool
  status : ℕ
  json : Option Json

/-- What leaves the process: requests of the source and calls of the store. -/
inductive ProjectorCall where
  | fetch (call : SourceCall)
  | store (q : Request)

@[reducible] def ProjectorCall.Response : ProjectorCall → Type
  | fetch _ => SourceResponse
  | store q => q.Response

abbrev Networked (α : Type) := Prog ProjectorCall ProjectorCall.Response Failure α

def sourceUnavailable (message : String) : Failure := .projector .sourceUnavailable message

/-- `requestJson`; a rejection, an abort after the timeout included, is an error of the call. -/
def requestJson (call : SourceCall) : Networked Json :=
  .call (.fetch call) fun
    | .error _ => .throw (sourceUnavailable "Hive source request failed")
    | .ok response =>
      if response.ok = false then
        .throw (sourceUnavailable ("Hive source returned HTTP " ++ toString response.status))
      else
        match response.json with
        | none => .throw (sourceUnavailable "Hive source request failed")
        | some value => .ret value

/-- `new URL(path, base)`, for a base that ends in a slash. -/
def SourceUrl.child (base : SourceUrl) (path : String) : SourceUrl :=
  { base with pathname := base.pathname ++ path }

def assertBlockNumber (value : ℕ) : Except Failure Unit :=
  require (isBlockNumber value) (invalidSourceResponse "Hive block number is invalid")

/-- `blockNumber.toString(16).padStart(8, '0')` -/
def blockPrefix (blockNumber : ℕ) : List Char :=
  List.replicate (8 - (numeral 16 blockNumber).length) '0' ++ numeral 16 blockNumber

def blockIdMatchesNumber (blockId : String) (blockNumber : ℕ) : Prop :=
  blockNumber ≤ 0xffffffff ∧ blockId.toList.take 8 = blockPrefix blockNumber

instance (blockId : String) (blockNumber : ℕ) : Decidable (blockIdMatchesNumber blockId blockNumber) :=
  inferInstanceAs (Decidable (_ ∧ _))

namespace HafahHttpSource

variable (source : HafahHttpSource)

def getCall (path : String) (query : List (String × String)) : SourceCall :=
  ⟨source.apiBase.child path, query, "GET", [], none⟩

def rpcCall (method : String) (params : List (String × Json)) (id : String) : SourceCall :=
  ⟨source.rpcUrl, [], "POST", [("content-type", "application/json")],
    some (.object [("jsonrpc", .string "2.0"), ("method", .string method), ("params", .object params),
      ("id", .number id)])⟩

def headCall : SourceCall := source.getCall "headblock" []

def propertiesCall : SourceCall := source.rpcCall "database_api.get_dynamic_global_properties" [] "1"

def blockCall (blockNumber : ℕ) : SourceCall :=
  source.rpcCall "block_api.get_block" [("block_num", .number (Nat.repr blockNumber))] "2"

def stateCall (blockNumber : ℕ) : SourceCall :=
  source.getCall "global-state" [("block-num", Nat.repr blockNumber)]

/-- The operation types, as the numbers they are. -/
def operationTypes : List ℕ := source.operationTypeIds.map fun value => value.num.toNat

def pageCall (toBlock : ℕ) (key : PageKey) : SourceCall :=
  source.getCall "operations" ([
    ("from-block", Nat.repr key.pageFrom),
    ("to-block", Nat.repr toBlock),
    ("operation-types", ",".intercalate (source.operationTypes.map Nat.repr)),
    ("operation-group-type", "all"),
    ("page-size", Nat.repr source.pageSize.num.toNat),
    ("include-reversible", "true")] ++
    match key.operationBegin with
    | none => []
    | some operationBegin => [("operation-begin", Nat.repr operationBegin.toNat)])

/-! ### The reads -/

def getHeadBlockNumber : Networked ℕ := do
  let value ← requestJson source.headCall
  match readNatural value with
  | none => .throw (invalidSourceResponse "HAfAH head block response is invalid")
  | some head => pure head

def getLastIrreversibleBlock : Networked HafIrreversibleBlock := do
  let value ← requestJson source.propertiesCall
  match rpcPropertiesSchema value with
  | none => .throw (invalidSourceResponse "Hive RPC finality response is invalid")
  | some blockNumber =>
    if blockNumber = 0 then pure ⟨0, none⟩
    else do
      let blockValue ← requestJson (source.blockCall blockNumber)
      match (rpcBlockSchema blockValue).filter fun id => blockIdMatchesNumber id blockNumber with
      | none => .throw (invalidSourceResponse "Hive RPC irreversible block response is invalid")
      | some id => pure ⟨blockNumber, some id⟩

variable (parseDate : String → Option Timestamp)

def getBlock (blockNumber : ℕ) : Networked HafBlock := do
  .lift (assertBlockNumber blockNumber)
  let value ← requestJson (source.stateCall blockNumber)
  match (globalStateSchema value).filter fun state =>
      state.blockNum = blockNumber ∧ blockIdMatchesNumber state.hash blockNumber with
  | none => .throw (invalidSourceResponse "HAfAH block checkpoint response is invalid")
  | some state => do
    let timestamp ← .lift (normalizeHiveTimestamp parseDate state.createdAt)
    pure ⟨blockNumber, state.hash, state.prev, timestamp⟩

/-- The keys of a range that were not visited. -/
def unvisited (fromBlock toBlock : ℕ) (visitedPages : List PageKey) : Finset PageKey :=
  (rangeKeys fromBlock toBlock).filter (· ∉ visitedPages)

theorem unvisited_lt {fromBlock toBlock : ℕ} {visitedPages : List PageKey} {pageKey : PageKey}
    (hkey : pageKey ∈ rangeKeys fromBlock toBlock) (hnew : pageKey ∉ visitedPages) :
    (unvisited fromBlock toBlock (pageKey :: visitedPages)).card <
      (unvisited fromBlock toBlock visitedPages).card := by
  refine Finset.card_lt_card ⟨fun k hk => ?_, fun hsub => ?_⟩
  · obtain ⟨hrange, hnot⟩ := Finset.mem_filter.mp hk
    exact Finset.mem_filter.mpr ⟨hrange, fun hin => hnot (List.mem_cons_of_mem _ hin)⟩
  · have hin := hsub (Finset.mem_filter.mpr ⟨hkey, hnew⟩)
    exact (Finset.mem_filter.mp hin).2 List.mem_cons_self

/-- The page loop.  No page is asked for twice, and the pages of a range are finitely many. -/
def readOperations (fromBlock toBlock : ℕ) (visitedPages : List PageKey) (operations : List HafOperation)
    (pageKey : PageKey) (_hkey : pageKey ∈ rangeKeys fromBlock toBlock) : Networked (List HafOperation) :=
  if _hvisited : pageKey ∈ visitedPages then
    .throw (invalidSourceResponse "HAfAH pagination loop detected")
  else
    (requestJson (source.pageCall toBlock pageKey)).bind fun value =>
      match operationsPageSchema value with
      | none => .throw (invalidSourceResponse "HAfAH operations response is invalid")
      | some page =>
        (Prog.lift (addItems parseDate fromBlock toBlock operations page.ops)).bind fun operations =>
          match hnext : nextPage toBlock page with
          | none => .ret operations
          | some nextKey =>
            readOperations fromBlock toBlock (pageKey :: visitedPages) operations nextKey
              (nextPage_mem_rangeKeys hnext)
termination_by (unvisited fromBlock toBlock visitedPages).card
decreasing_by exact unvisited_lt _hkey _hvisited

def getOperations (fromBlock toBlock : ℕ) : Networked (List HafOperation) := do
  .lift (assertBlockNumber fromBlock)
  .lift (assertBlockNumber toBlock)
  .lift (require (fromBlock ≤ toBlock) (invalidSourceResponse "Operation block range is inverted"))
  let operations ← source.readOperations parseDate fromBlock toBlock [] [] ⟨fromBlock, none⟩
    (Finset.mem_insert_self _ _)
  pure (operations.insertionSort operationOrder)

/-- The requests of the projector over this source; the head and the irreversible block are read one
after the other. -/
def answering : (q : Request) → Networked q.Response
  | .getHeadAndIrreversible => do
    let head ← source.getHeadBlockNumber
    let irreversible ← source.getLastIrreversibleBlock
    pure (head, irreversible)
  | .getBlock blockNumber => source.getBlock parseDate blockNumber
  | .getOperations fromBlock toBlock => source.getOperations parseDate fromBlock toBlock
  | .getCursor => Prog.request (ProjectorCall.store .getCursor)
  | .getCurrentCheckpoint blockNumber => Prog.request (ProjectorCall.store (.getCurrentCheckpoint blockNumber))
  | .applyBlock block decisions => Prog.request (ProjectorCall.store (.applyBlock block decisions))
  | .revertAfter ancestorBlock => Prog.request (ProjectorCall.store (.revertAfter ancestorBlock))
  | .finalizeThrough blockNumber => Prog.request (ProjectorCall.store (.finalizeThrough blockNumber))

end HafahHttpSource

end HiveChameleon.Projector
