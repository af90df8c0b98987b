import HiveChameleon.Lib.Prog
import HiveChameleon.Projector.Store
import HiveChameleon.Projector.Validator

/-!
# Projector.Projector — `ForkAwareHafProjector.runOnce`

The projector as a program over its two ports, the HAF source and the projection store.  One
request is one call of a port; the two source reads that `runOnce` issues in parallel are one
request, whose handler decides when each of them is answered.
-/

namespace HiveChameleon.Projector

open Gateway Lib

/-- The calls `runOnce` makes. -/
inductive Request where
  | getCursor
  | getHeadAndIrreversible
  | getBlock (blockNumber : ℕ)
  | getOperations (fromBlock toBlock : ℕ)
  | getCurrentCheckpoint (blockNumber : ℕ)
  | applyBlock (block : HafBlock) (decisions : List OperationDecision)
  | revertAfter (ancestorBlock : ℕ)
  | finalizeThrough (blockNumber : ℕ)
deriving DecidableEq

/-- What each call returns. -/
@[reducible] def Request.Response : Request → Type
  | .getCursor => ProjectionCursor
  | .getHeadAndIrreversible => ℕ × HafIrreversibleBlock
  | .getBlock _ => HafBlock
  | .getOperations _ _ => List HafOperation
  | .getCurrentCheckpoint _ => Option BlockCheckpoint
  | .applyBlock _ _ => Unit
  | .revertAfter _ => Unit
  | .finalizeThrough _ => Unit

/-- A program of the projector. -/
abbrev Proj (α : Type) := Prog Request Request.Response Failure α

/-! The two ports, `HafSource` and `ProjectionStore`. -/

namespace Source

abbrev getHeadAndIrreversible : Proj (ℕ × HafIrreversibleBlock) :=
  Prog.request Request.getHeadAndIrreversible

abbrev getBlock (blockNumber : ℕ) : Proj HafBlock := Prog.request (Request.getBlock blockNumber)

abbrev getOperations (fromBlock toBlock : ℕ) : Proj (List HafOperation) :=
  Prog.request (Request.getOperations fromBlock toBlock)

end Source

namespace Store

abbrev getCursor : Proj ProjectionCursor := Prog.request Request.getCursor

abbrev getCurrentCheckpoint (blockNumber : ℕ) : Proj (Option BlockCheckpoint) :=
  Prog.request (Request.getCurrentCheckpoint blockNumber)

abbrev applyBlock (block : HafBlock) (decisions : List OperationDecision) : Proj Unit :=
  Prog.request (Request.applyBlock block decisions)

abbrev revertAfter (ancestorBlock : ℕ) : Proj Unit :=
  Prog.request (Request.revertAfter ancestorBlock)

abbrev finalizeThrough (blockNumber : ℕ) : Proj Unit :=
  Prog.request (Request.finalizeThrough blockNumber)

end Store

structure HafProjectorRunResult where
  appliedBlocks : ℕ
  finalizedThrough : ℕ
  revertedTo : Option ℕ
  sourceHead : ℕ
deriving DecidableEq, Repr

/-- The configuration of a `ForkAwareHafProjector`. -/
structure ProjectorConfig where
  runtime : Runtime
  policy : HiveEventValidationPolicy
  maxBlocksPerRun : ℕ := 50
  maxReorgDepth : ℕ := 200

def sourceDivergence (message : String) : Failure := .projector .sourceDivergence message

def invalidSourceResponse (message : String) : Failure := .projector .invalidSourceResponse message

def irreversibleFork (message : String) : Failure := .projector .irreversibleFork message

def sameBlock (left right : HafBlock) : Prop :=
  left.number = right.number ∧ left.id = right.id ∧ left.previousId = right.previousId ∧
    left.timestamp = right.timestamp

instance (left right : HafBlock) : Decidable (sameBlock left right) :=
  inferInstanceAs (Decidable (_ ∧ _))

/-! ### Reading a snapshot -/

/-- The loop of `readBlockSnapshot`: `count` blocks from a height on, each naming the one before it
as its parent. -/
def readBlocks (previous : Option HafBlock) : ℕ → ℕ → Proj (List HafBlock)
  | 0, _ => pure []
  | count + 1, blockNumber => do
    let block ← Source.getBlock blockNumber
    if block.number ≠ blockNumber ∨ (previous.any fun p => block.previousId ≠ p.id) = true then
      .throw (sourceDivergence "HAfAH block snapshot changed while it was being read")
    else do
      let blocks ← readBlocks (some block) count (blockNumber + 1)
      pure (block :: blocks)

def readBlockSnapshot (fromBlock toBlock : ℕ) : Proj (List HafBlock) :=
  readBlocks none (toBlock + 1 - fromBlock) fromBlock

def assertStableSnapshot (beforeOperations afterOperations : List HafBlock) :
    Except Failure Unit :=
  require (List.Forall₂ sameBlock beforeOperations afterOperations)
    (sourceDivergence "HAfAH block identities changed while operations were fetched")

/-- The operations of a range by block, in the order the source returned them. -/
def groupOperationsByBlock (operations : List HafOperation) :
    Except Failure (ℕ → List HafOperation) := do
  require (operations.map (·.sourceOperationId)).Nodup
    (invalidSourceResponse "Hive source returned a duplicate operation identity in one range")
  pure fun blockNumber => operations.filter fun operation => operation.blockNumber = blockNumber

variable (cfg : ProjectorConfig)

/-- The loop of `validateBlockOperations`. -/
def validateBlockOperationsFrom (block : HafBlock) (sourceIds : List String) :
    List HafOperation → Except Failure (List OperationDecision)
  | [] => .ok []
  | operation :: operations => do
    require (operation.blockNumber = block.number ∧ operation.timestamp = block.timestamp)
      (invalidSourceResponse "Hive operation does not match its block checkpoint")
    require (operation.sourceOperationId ∉ sourceIds)
      (invalidSourceResponse "Hive source returned a duplicate operation identity in one block")
    let decisions ← validateBlockOperationsFrom block (operation.sourceOperationId :: sourceIds)
      operations
    match validate cfg.runtime cfg.policy operation block with
    | none => pure decisions
    | some decision => pure (decision :: decisions)

def validateBlockOperations (block : HafBlock) (operations : List HafOperation) :
    Except Failure (List OperationDecision) :=
  validateBlockOperationsFrom cfg block [] operations

/-! ### Fork reconciliation -/

/-- The loop of `reconcileFork`: `remaining` heights down from `blockNumber` are still searched. -/
def reconcileFrom (cursor : ProjectionCursor) : ℕ → ℕ → Proj ℕ
  | 0, _ => .throw (.projector .reorgTooDeep "Fork exceeds the configured reconciliation depth")
  | remaining + 1, blockNumber =>
    if blockNumber = 0 then
      if 0 < cursor.lastIrreversibleBlock then
        .throw (irreversibleFork "No common ancestor exists above the irreversible cursor")
      else do
        Store.revertAfter 0
        pure 0
    else do
      let stored ← Store.getCurrentCheckpoint blockNumber
      let current ← Source.getBlock blockNumber
      if (stored.any fun c => c.id = current.id) = true then
        if blockNumber < cursor.lastIrreversibleBlock then
          .throw (irreversibleFork "Fork crosses the irreversible cursor")
        else do
          Store.revertAfter blockNumber
          pure blockNumber
      else if blockNumber ≤ cursor.lastIrreversibleBlock then
        .throw (irreversibleFork "Fork changes an irreversible block")
      else reconcileFrom cursor remaining (blockNumber - 1)

def reconcileFork (cursor : ProjectionCursor) (startHeight : ℕ) : Proj ℕ :=
  reconcileFrom cursor (startHeight - (startHeight - cfg.maxReorgDepth) + 1) startHeight

def verifyCurrentTip (cursor : ProjectionCursor) : Proj (Option ℕ) :=
  match cursor.lastProcessedBlockId with
  | none => pure none
  | some lastProcessedBlockId =>
    if cursor.lastProcessedBlock = 0 then pure none
    else do
      let current ← Source.getBlock cursor.lastProcessedBlock
      if current.id = lastProcessedBlockId then pure none
      else do
        let ancestor ← reconcileFork cfg cursor cursor.lastProcessedBlock
        pure (some ancestor)

/-! ### Applying and finalizing -/

/-- The loop over the blocks of a stable snapshot: the cursor after it, the number of blocks
applied, and the ancestor when a block did not follow the cursor. -/
def applyBlocks (operations : ℕ → List HafOperation) (cursor : ProjectionCursor)
    (appliedBlocks : ℕ) : List HafBlock → Proj (ProjectionCursor × ℕ × Option ℕ)
  | [] => pure (cursor, appliedBlocks, none)
  | block :: blocks =>
    if cursor.lastProcessedBlockId ≠ none ∧ cursor.lastProcessedBlockId ≠ some block.previousId then do
      let ancestor ← reconcileFork cfg cursor (block.number - 1)
      pure (cursor, appliedBlocks, some ancestor)
    else do
      let decisions ← .lift (validateBlockOperations cfg block (operations block.number))
      Store.applyBlock block decisions
      applyBlocks operations
        { cursor with lastProcessedBlock := block.number, lastProcessedBlockId := some block.id }
        (appliedBlocks + 1) blocks

/-- The block at the finalizable height, read again unless it is the irreversible one. -/
def finalizableBlock (hafahIrreversible : HafBlock) (irreversibleNumber finalizable : ℕ) :
    Proj HafBlock :=
  if finalizable = irreversibleNumber then pure hafahIrreversible else Source.getBlock finalizable

def assertFinalityAgreement (irreversible : HafIrreversibleBlock) (finalizable sourceHead : ℕ) :
    Proj Unit :=
  match irreversible.id with
  | none =>
    .throw (sourceDivergence "Hive RPC finality cannot be anchored to the HAfAH source head")
  | some irreversibleId =>
    if irreversible.number = 0 ∨ sourceHead < irreversible.number then
      .throw (sourceDivergence "Hive RPC finality cannot be anchored to the HAfAH source head")
    else do
      let hafahIrreversible ← Source.getBlock irreversible.number
      if hafahIrreversible.id ≠ irreversibleId then
        .throw (sourceDivergence "Hive RPC and HAfAH disagree on the irreversible block identity")
      else do
        let stored ← Store.getCurrentCheckpoint finalizable
        let current ← finalizableBlock hafahIrreversible irreversible.number finalizable
        if (stored.any fun c => sameBlock c.toHafBlock current) = true then pure ()
        else
          .throw (sourceDivergence
            "Finalizable checkpoint no longer matches the HAfAH block identity")

/-- Reads and applies the blocks between the cursor and the target height. -/
def applyThrough (cursor : ProjectionCursor) (target : ℕ) :
    Proj (ProjectionCursor × ℕ × Option ℕ) :=
  if cursor.lastProcessedBlock < target then do
    let beforeOperations ← readBlockSnapshot (cursor.lastProcessedBlock + 1) target
    let operations ← Source.getOperations (cursor.lastProcessedBlock + 1) target
    let afterOperations ← readBlockSnapshot (cursor.lastProcessedBlock + 1) target
    .lift (assertStableSnapshot beforeOperations afterOperations)
    let operationsByBlock ← .lift (groupOperationsByBlock operations)
    applyBlocks cfg operationsByBlock cursor 0 afterOperations
  else pure (cursor, 0, none)

/-- Finalizes what the source's irreversible block covers. -/
def finalizeCovered (cursor : ProjectionCursor) (sourceHead : ℕ)
    (sourceIrreversible : HafIrreversibleBlock) (appliedBlocks : ℕ) : Proj HafProjectorRunResult :=
  let finalizable := min sourceIrreversible.number cursor.lastProcessedBlock
  let result : HafProjectorRunResult :=
    ⟨appliedBlocks, max cursor.lastIrreversibleBlock finalizable, none, sourceHead⟩
  if cursor.lastIrreversibleBlock < finalizable then do
    assertFinalityAgreement sourceIrreversible finalizable sourceHead
    Store.finalizeThrough finalizable
    pure result
  else pure result

def runOnce : Proj HafProjectorRunResult := do
  let cursor ← Store.getCursor
  let (sourceHead, sourceIrreversible) ← Source.getHeadAndIrreversible
  if sourceHead < cursor.lastProcessedBlock then
    pure ⟨0, cursor.lastIrreversibleBlock, none, sourceHead⟩
  else do
    match ← verifyCurrentTip cfg cursor with
    | some ancestor => pure ⟨0, cursor.lastIrreversibleBlock, some ancestor, sourceHead⟩
    | none => do
      let target := min sourceHead (cursor.lastProcessedBlock + cfg.maxBlocksPerRun)
      let (cursor, appliedBlocks, reverted) ← applyThrough cfg cursor target
      match reverted with
      | some ancestor =>
        pure ⟨appliedBlocks, cursor.lastIrreversibleBlock, some ancestor, sourceHead⟩
      | none => finalizeCovered cursor sourceHead sourceIrreversible appliedBlocks

/-! ### The store behind the program -/

/-- How a store transaction ends for its caller: committed, refused, or with the connection lost
before or after the commit. -/
inductive CallOutcome (result : Except Failure Db) (db : Db) : Except Failure Unit → Db → Prop where
  | committed {db' : Db} (h : result = .ok db') : CallOutcome result db (.ok ()) db'
  | refused {e : Failure} (h : result = .error e) : CallOutcome result db (.error e) db
  | unsent : CallOutcome result db (.error .connection) db
  | unacknowledged {db' : Db} (h : result = .ok db') :
    CallOutcome result db (.error .connection) db'

/-- How the store answers a request; a request to the source leaves the database alone. -/
def storeAnswer (R : Runtime) (source : String) :
    (q : Request) → Db → Except Failure q.Response → Db → Prop
  | .getCursor, db, r, db' =>
    db' = db ∧ (r = .ok (getCursor source db) ∨ r = .error .connection)
  | .getCurrentCheckpoint n, db, r, db' =>
    db' = db ∧ (r = .ok (getCurrentCheckpoint source n db) ∨ r = .error .connection)
  | .applyBlock block decisions, db, r, db' =>
    ∃ ids observedAt, CallOutcome (applyBlock R source block decisions ids observedAt db) db r db'
  | .revertAfter ancestorBlock, db, r, db' =>
    ∃ revertedAt, CallOutcome (revertAfter R source ancestorBlock revertedAt db) db r db'
  | .finalizeThrough n, db, r, db' =>
    ∃ ids irreversibleAt, CallOutcome (finalizeThrough R source n ids irreversibleAt db) db r db'
  | .getHeadAndIrreversible, db, _, db' => db' = db
  | .getBlock _, db, _, db' => db' = db
  | .getOperations _ _, db, _, db' => db' = db

theorem CallOutcome.db_cases {result : Except Failure Db} {db db' : Db} {r : Except Failure Unit}
    (h : CallOutcome result db r db') : result = .ok db' ∨ db' = db ∧ ∃ e, r = .error e := by
  cases h with
  | committed h => exact .inl h
  | refused h => exact .inr ⟨rfl, _, rfl⟩
  | unsent => exact .inr ⟨rfl, _, rfl⟩
  | unacknowledged h => exact .inl h

/-! ### A source that stands still -/

/-- A source as it answers while nothing changes. -/
structure SourceSnapshot where
  head : ℕ
  irreversible : HafIrreversibleBlock
  block : ℕ → Option HafBlock
  operations : List HafOperation

/-- The snapshot of a source whose chain is `blocks`, with the given irreversible height. -/
def SourceSnapshot.ofBlocks (blocks : List HafBlock) (irreversible : ℕ)
    (operations : List HafOperation) : SourceSnapshot where
  head := blocks.length
  irreversible := ⟨irreversible, (blocks.find? (·.number = irreversible)).map (·.id)⟩
  block n := blocks.find? (·.number = n)
  operations := operations

/-- Row identifiers that the tables of a database do not use yet, when all its rows came from
calls with these identifiers. -/
def nextIds (db : Db) (k : ℕ) : Uuid :=
  ⟨db.chain.blockCheckpoint.rows.length + db.chain.operation.rows.length +
    db.views.matchResult.rows.length + k⟩

/-- The acknowledged result of a store transaction. -/
def acknowledged (result : Except Failure Db) (db : Db) : Except Failure Unit × Db :=
  match result with
  | .ok db' => (.ok (), db')
  | .error e => (.error e, db)

/-- Answers a request from a snapshot of the source and from the store at a given time. -/
def serve (R : Runtime) (source : String) (w : SourceSnapshot × Timestamp) (q : Request) (db : Db) :
    Except Failure q.Response × Db :=
  match q with
  | .getCursor => (.ok (getCursor source db), db)
  | .getCurrentCheckpoint n => (.ok (getCurrentCheckpoint source n db), db)
  | .applyBlock block decisions =>
    acknowledged (applyBlock R source block decisions (nextIds db) w.2 db) db
  | .revertAfter ancestorBlock => acknowledged (revertAfter R source ancestorBlock w.2 db) db
  | .finalizeThrough n => acknowledged (finalizeThrough R source n (nextIds db) w.2 db) db
  | .getHeadAndIrreversible => (.ok (w.1.head, w.1.irreversible), db)
  | .getBlock n =>
    match w.1.block n with
    | some block => (.ok block, db)
    | none => (.error (.projector .sourceUnavailable "Hive source returned HTTP 404"), db)
  | .getOperations fromBlock toBlock =>
    (.ok (w.1.operations.filter fun operation =>
      fromBlock ≤ operation.blockNumber ∧ operation.blockNumber ≤ toBlock), db)

theorem acknowledged_outcome (result : Except Failure Db) (db : Db) :
    CallOutcome result db (acknowledged result db).1 (acknowledged result db).2 := by
  unfold acknowledged
  split
  · exact .committed rfl
  · exact .refused rfl

theorem serve_answers (R : Runtime) (source : String) (w : SourceSnapshot × Timestamp)
    (q : Request) (db : Db) :
    storeAnswer R source q db (serve R source w q db).1 (serve R source w q db).2 := by
  cases q with
  | getCursor => exact ⟨rfl, .inl rfl⟩
  | getCurrentCheckpoint n => exact ⟨rfl, .inl rfl⟩
  | applyBlock block decisions => exact ⟨_, _, acknowledged_outcome _ _⟩
  | revertAfter ancestorBlock => exact ⟨_, acknowledged_outcome _ _⟩
  | finalizeThrough n => exact ⟨_, _, acknowledged_outcome _ _⟩
  | getHeadAndIrreversible => rfl
  | getBlock n =>
    change (serve R source w (.getBlock n) db).2 = db
    unfold serve
    dsimp only
    split <;> rfl
  | getOperations => rfl

end HiveChameleon.Projector
