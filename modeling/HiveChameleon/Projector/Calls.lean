import HiveChameleon.Lib.Run
import HiveChameleon.Projector.StoreSpec

/-!
# Projector.Calls — store calls with all their arguments, and what a finalization materializes

A call of the store either commits or fails and leaves the database as it was; between calls other
components change the game tables.  `materialized` lists the operations that a committed call
materializes, each with the views before and after it.
-/

namespace HiveChameleon.Projector

open Gateway Lib

/-- A call of the projection store, or a change of the game tables by other components. -/
inductive DbCall where
  | applyBlock (block : HafBlock) (decisions : List OperationDecision) (ids : ℕ → Uuid)
      (observedAt : Timestamp)
  | revertAfter (ancestorBlock : ℕ) (revertedAt : Timestamp)
  | finalizeThrough (blockNumber : ℕ) (ids : ℕ → Uuid) (irreversibleAt : Timestamp)
  | changeGame (game : GameTables)

section Calls

variable (R : Runtime) (source : String)

def DbCall.perform (db : Db) : DbCall → Except Failure Db
  | applyBlock block decisions ids observedAt =>
    Projector.applyBlock R source block decisions ids observedAt db
  | revertAfter ancestorBlock revertedAt => Projector.revertAfter R source ancestorBlock revertedAt db
  | finalizeThrough blockNumber ids irreversibleAt =>
    Projector.finalizeThrough R source blockNumber ids irreversibleAt db
  | changeGame game => .ok { db with game := game }

/-- A call commits, or it fails and is rolled back. -/
def CallStep (db : Db) (call : DbCall) (db' : Db) : Prop :=
  call.perform R source db = .ok db' ∨ (∃ e, call.perform R source db = .error e) ∧ db' = db

theorem MatchEventRow.finalize_key (time : Timestamp) (e : MatchEventRow) :
    (e.finalize time).eventUuid = e.eventUuid := rfl

theorem OperationRow.finalize_key (time : Timestamp) (op : OperationRow) :
    (op.finalize time).id = op.id := rfl

theorem BlockCheckpointRow.finalize_key (time : Timestamp) (c : BlockCheckpointRow) :
    (c.finalize time).id = c.id := rfl

theorem SyncCursorRow.advance_key (blockNumber : ℕ) (row : SyncCursorRow) :
    { row with lastIrreversibleBlock := max row.lastIrreversibleBlock blockNumber }.source =
      row.source := rfl

/-- `finalizeThrough` up to its materialization. -/
def finalizing (blockNumber : ℕ) (irreversibleAt : Timestamp) (db : Db) :
    Except Failure (ChainTables × List DeferredTrigger) := do
  let (t, cursor) ← lockCursor source db.chain
  require (blockNumber ≤ cursor.lastProcessedBlock)
    (.projector .cursorConflict "Cannot finalize beyond the processed cursor")
  let tx ← updateMatchEvents R
    (fun e => eventOnHeights t source (· ≤ blockNumber) e ∧ e.operationState = .included)
    ⟨.finalize irreversibleAt, MatchEventRow.finalize_key irreversibleAt⟩ ⟨t, []⟩
  let tx ← updateOperations
    (fun op => onHeights t source (· ≤ blockNumber) op ∧ op.state = .included)
    ⟨.finalize irreversibleAt, OperationRow.finalize_key irreversibleAt⟩ tx
  let tx ← updateCheckpoints
    (fun c => c.source = source ∧ c.blockNumber ≤ blockNumber ∧ c.state = .included)
    ⟨.finalize irreversibleAt, BlockCheckpointRow.finalize_key irreversibleAt⟩ tx
  let t ← updateCursor source
    ⟨fun row => { row with
      lastIrreversibleBlock := max row.lastIrreversibleBlock blockNumber },
      SyncCursorRow.advance_key blockNumber⟩ tx.chain
  pure (t, tx.deferred)

/-- `finalizeThrough` marks what it finalizes, materializes it and commits. -/
theorem finalizeThrough_eq {blockNumber : ℕ} {ids : ℕ → Uuid} {irreversibleAt : Timestamp} {db : Db} :
    finalizeThrough R source blockNumber ids irreversibleAt db =
      finalizing R source blockNumber irreversibleAt db >>= fun marked =>
        materializeIrreversibleEvents R db.game marked.1 ids source blockNumber irreversibleAt
            ⟨db.views, marked.2, 0⟩ >>= fun vx => commit db.game marked.1 vx.views vx.deferred := by
  simp only [finalizeThrough, finalizing, bind_assoc, pure_bind]

/-- The operations of a list that materialize one after the other, each with the views that it finds
and those that it leaves. -/
def materializations (game : GameTables) (t : ChainTables) (ids : ℕ → Uuid)
    (irreversibleAt : Timestamp) : List OperationRow → ViewTx → List (Transition ViewTables OperationRow)
  | [], _ => []
  | operation :: operations, vx =>
    match materializeOperation R game t ids irreversibleAt operation vx with
    | .ok vx' =>
      ⟨vx.views, operation, vx'.views⟩ :: materializations game t ids irreversibleAt operations vx'
    | .error _ => []

/-- What a call materializes when it commits. -/
def DbCall.materialized (db : Db) (call : DbCall) : List (Transition ViewTables OperationRow) :=
  match call with
  | finalizeThrough blockNumber ids irreversibleAt =>
    match Projector.finalizeThrough R source blockNumber ids irreversibleAt db,
        finalizing R source blockNumber irreversibleAt db with
    | .ok _, .ok marked =>
      materializations R db.game marked.1 ids irreversibleAt
        (irreversibleOperations marked.1 source blockNumber irreversibleAt) ⟨db.views, marked.2, 0⟩
    | _, _ => []
  | _ => []

/-- One operation materializes. -/
def MaterializeStep (game : GameTables) (t : ChainTables) (ids : ℕ → Uuid) (irreversibleAt : Timestamp)
    (v : ViewTables) (operation : OperationRow) (v' : ViewTables) : Prop :=
  ∃ vx vx', materializeOperation R game t ids irreversibleAt operation vx = .ok vx' ∧
    vx.views = v ∧ vx'.views = v'

end Calls

section Spec

variable {R : Runtime} {source : String}

theorem materializations_run {game : GameTables} {t : ChainTables} {ids : ℕ → Uuid}
    {irreversibleAt : Timestamp} : ∀ {operations : List OperationRow} {vx vx' : ViewTx},
    materializeOperations R game t ids irreversibleAt operations vx = .ok vx' →
      Run (MaterializeStep R game t ids irreversibleAt) vx.views
        (materializations R game t ids irreversibleAt operations vx) vx'.views
  | [], vx, vx', h => by
    obtain rfl : vx = vx' := by simpa [materializeOperations] using h
    exact .refl _
  | operation :: operations, vx, vx', h => by
    simp only [materializeOperations, bind_eq_ok] at h
    obtain ⟨mid, hmid, h⟩ := h
    have hstep : MaterializeStep R game t ids irreversibleAt vx.views operation mid.views :=
      ⟨vx, mid, hmid, rfl, rfl⟩
    rw [materializations, hmid]
    exact (Run.single hstep).append (materializations_run h)

/-- **The views change by materialization only**: a step leads from the views before it to those
after it through the operations that it materializes. -/
theorem CallStep.views_run {db db' : Db} {call : DbCall} (h : CallStep R source db call db') :
    ∃ t ids irreversibleAt, Run (MaterializeStep R db.game t ids irreversibleAt) db.views
      (call.materialized R source db) db'.views := by
  have hquiet : db'.views = db.views → call.materialized R source db = [] →
      ∃ t ids irreversibleAt, Run (MaterializeStep R db.game t ids irreversibleAt) db.views
        (call.materialized R source db) db'.views := by
    intro hviews hnone
    rw [hviews, hnone]
    exact ⟨db.chain, fun _ => ⟨0⟩, 0, .refl _⟩
  rcases h with hok | ⟨⟨e, herror⟩, rfl⟩
  · cases call with
    | applyBlock block decisions ids observedAt => exact hquiet (applyBlock_spec hok).2.1 rfl
    | revertAfter ancestorBlock revertedAt =>
      obtain ⟨-, rfl⟩ := revertAfter_spec hok
      exact hquiet rfl rfl
    | changeGame game =>
      obtain rfl := Except.ok.inj hok
      exact hquiet rfl rfl
    | finalizeThrough blockNumber ids irreversibleAt =>
      have hcommitted : finalizeThrough R source blockNumber ids irreversibleAt db = .ok db' := hok
      have hparts := hcommitted
      rw [finalizeThrough_eq] at hparts
      simp only [bind_eq_ok, Prod.exists] at hparts
      obtain ⟨t, deferred, hfinalizing, vx, hmaterialize, hcommit⟩ := hparts
      obtain ⟨-, rfl⟩ := commit_eq_ok.mp hcommit
      refine ⟨t, ids, irreversibleAt, ?_⟩
      have hrun := materializations_run hmaterialize
      simp only [DbCall.materialized, hcommitted, hfinalizing]
      exact hrun
  · refine hquiet rfl ?_
    cases call with
    | applyBlock block decisions ids observedAt => rfl
    | revertAfter ancestorBlock revertedAt => rfl
    | changeGame game => rfl
    | finalizeThrough blockNumber ids irreversibleAt =>
      have hfailed : finalizeThrough R source blockNumber ids irreversibleAt db' = .error e := herror
      simp only [DbCall.materialized, hfailed]

end Spec

end HiveChameleon.Projector
