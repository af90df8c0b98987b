import HiveChameleon.Projector.StoreSpec

/-!
# Projector.Failures — what the store never raises

Only one statement of the store raises `irreversible_fork`: the guard of `revertAfter`.  Each
function below fails in other ways, and so do `applyBlock`, `finalizeThrough` and a `revertAfter`
whose ancestor is not below the irreversible height.
-/

namespace HiveChameleon.Projector

open Gateway Lib

/-- The failure does not report a fork below the irreversible height. -/
def Failure.NotFork (e : Failure) : Prop := e.hasCode .irreversibleFork = false

/-- Whatever `x` fails with, it is no irreversible fork. -/
abbrev NoFork {α : Type} (x : Except Failure α) : Prop := FailsWith Failure.NotFork x

section Triggers

variable {R : Runtime} {game : GameTables} {t : ChainTables} {v : ViewTables}

theorem hcValidateCheckpointMutation_noFork (old new : BlockCheckpointRow) :
    NoFork (hcValidateCheckpointMutation old new) :=
  .seq (.require rfl) fun _ => .seq (.require rfl) fun _ => .seq (.require rfl) fun _ =>
    .seq (.require rfl) fun _ => .require rfl

theorem hcValidateOperationInsert_noFork (new : OperationRow) :
    NoFork (hcValidateOperationInsert t new) := by
  unfold hcValidateOperationInsert
  split
  · exact .error rfl
  · exact .require rfl

theorem hcValidateOperationUpdate_noFork (old new : OperationRow) :
    NoFork (hcValidateOperationUpdate old new) :=
  .seq (.require rfl) fun _ => .seq (.require rfl) fun _ => .seq (.require rfl) fun _ =>
    .seq (.require rfl) fun _ => .seq (.require rfl) fun _ => .seq (.require rfl) fun _ =>
      .require rfl

theorem matchEventEvidence_noFork (new : MatchEventRow) : NoFork (matchEventEvidence R t new) := by
  unfold matchEventEvidence
  dsimp only
  split
  · exact .error rfl
  · refine .seq (.require rfl) fun _ => ?_
    split
    · exact .error rfl
    · exact .seq (.require rfl) fun _ => .pure

theorem hcValidateMatchEventUpdate_noFork (old new : MatchEventRow) :
    NoFork (hcValidateMatchEventUpdate R t old new) :=
  .seq (matchEventEvidence_noFork new) fun _ => .seq (.require rfl) fun _ =>
    .seq (.require rfl) fun _ => .seq (.require rfl) fun _ => .seq (.require rfl) fun _ =>
      .require rfl

theorem hcValidateMatchEventInsert_noFork (new : MatchEventRow) :
    NoFork (hcValidateMatchEventInsert R t new) :=
  .seq (matchEventEvidence_noFork new) fun _ => .pure

theorem initialEvent_noFork (new : MatchResultRow) : NoFork (initialEvent t new) := by
  unfold initialEvent
  split
  · exact .error rfl
  · exact .ok

theorem matchResultTransition_noFork (old : Option MatchResultRow) (new : MatchResultRow) :
    NoFork (matchResultTransition old new) := by
  cases old with
  | none => exact .require rfl
  | some old => exact .require rfl

theorem hcValidateMatchResult_noFork (old : Option MatchResultRow) (new : MatchResultRow) :
    NoFork (hcValidateMatchResult R t v old new) :=
  .seq (initialEvent_noFork new) fun _ => .seq (.require rfl) fun _ => .seq (.require rfl) fun _ =>
    .seq (matchResultTransition_noFork old new) fun _ => .require rfl

theorem hcValidateMatchResultChange_noFork (new : MatchResultChangeRow) :
    NoFork (hcValidateMatchResultChange R game t v new) := by
  unfold hcValidateMatchResultChange
  dsimp only
  split
  · refine .seq (.require rfl) fun _ => .seq (.require rfl) fun _ => .seq (.require rfl) fun _ => ?_
    split
    · exact .ok
    · exact .require rfl
  · exact .error rfl

theorem hcAssertStoredMatchResultHead_noFork (id : Uuid) :
    NoFork (hcAssertStoredMatchResultHead t v id) := by
  unfold hcAssertStoredMatchResultHead
  split
  · exact .ok
  · exact .require rfl

theorem deferredTrigger_noFork (d : DeferredTrigger) : NoFork (d.check t v) := by
  cases d with
  | checkpointOperationState id =>
    unfold DeferredTrigger.check hcCheckCheckpointOperationState
    dsimp only
    split
    · exact .ok
    · exact .require rfl
  | operationMatchEventState id =>
    unfold DeferredTrigger.check hcCheckOperationMatchEventState
    dsimp only
    split
    · exact .ok
    · exact .require rfl
  | matchEventResultHeads id => exact .checkAll hcAssertStoredMatchResultHead_noFork _
  | matchResultChangeHead change => exact .require rfl

end Triggers

section Materialize

variable {R : Runtime} {game : GameTables} {t : ChainTables} {ids : ℕ → Uuid}
  {irreversibleAt : Timestamp}

theorem bindTimestamptz_noFork (value : IsoTimestamp) : NoFork (bindTimestamptz R value) := by
  unfold bindTimestamptz
  split
  · exact .error rfl
  · exact .ok

theorem insertMatchResult_noFork (row : MatchResultRow) (vx : ViewTx) :
    NoFork (insertMatchResult R t row vx) :=
  .seq (hcValidateMatchResult_noFork none row) fun _ => .ite .pure <|
    .seq (.require rfl) fun _ => .seq (Table.insert_failsWith rfl) fun _ => .pure

theorem materializeInitialMatchResult_noFork (eventId : Uuid) (position : ℕ) (result : MatchResult)
    (vx : ViewTx) :
    NoFork (materializeInitialMatchResult R game t ids eventId irreversibleAt position result vx) :=
  .seq (.require rfl) fun _ => .seq (.require rfl) fun _ => .seq (.require rfl) fun _ =>
    .ite (insertMatchResult_noFork _ _) .pure

theorem materializeResultsFrom_noFork (eventId : Uuid) :
    ∀ (results : List MatchResult) (position : ℕ) (vx : ViewTx),
      NoFork (materializeResultsFrom R game t ids eventId irreversibleAt position results vx)
  | [], _, _ => .ok
  | result :: results, position, vx =>
    .seq (materializeInitialMatchResult_noFork eventId position result vx) fun vx' =>
      materializeResultsFrom_noFork eventId results (position + 1) vx'

theorem insertMatchResultChange_noFork (row : MatchResultChangeRow) (vx : ViewTx) :
    NoFork (insertMatchResultChange R game t row vx) :=
  .seq (hcValidateMatchResultChange_noFork row) fun _ => .seq (.require rfl) fun _ =>
    .ite .pure <| .seq (.require rfl) fun _ => .seq (.require rfl) fun _ =>
      .seq (Table.insert_failsWith rfl) fun _ => .pure

theorem advanceMatchResult_noFork (id supersedesEventId : Uuid)
    (set : Table.Assignment MatchResultRow.id) (vx : ViewTx) :
    NoFork (advanceMatchResult R t id supersedesEventId set vx) :=
  .seq (Table.update_failsWith fun _ _ => hcValidateMatchResult_noFork _ _) fun _ => .pure

theorem materializeMatchInvalidation_noFork (event : MatchResultInvalidated) (vx : ViewTx) :
    NoFork (materializeMatchInvalidation R game t event vx) := by
  unfold materializeMatchInvalidation
  split
  · exact .pure
  · refine .seq (insertMatchResultChange_noFork _ _) fun inserted => ?_
    cases inserted with
    | none => exact .pure
    | some vx => exact advanceMatchResult_noFork _ _ _ _

theorem insertCollectibleEvent_noFork (rows : List CollectibleEventRow) (vx : ViewTx) :
    NoFork (insertCollectibleEvent t rows vx) := by
  unfold insertCollectibleEvent
  split
  · exact .pure
  · exact .seq (.require rfl) fun _ => .seq (.require rfl) fun _ => .ite .pure <|
      .seq (.require rfl) fun _ => .seq (.require rfl) fun _ =>
        .seq (Table.insert_failsWith rfl) fun _ => .pure

theorem insertCollectibleInstance_noFork (row : CollectibleInstanceRow) (vx : ViewTx) :
    NoFork (insertCollectibleInstance row vx) :=
  .ite .pure <| .seq (.require rfl) fun _ => .seq (.require rfl) fun _ =>
    .seq (Table.insert_failsWith rfl) fun _ => .pure

theorem materializeCollectibleIssue_noFork (operation : OperationRow) (event : CollectibleIssued)
    (vx : ViewTx) :
    NoFork (materializeCollectibleIssue R game t operation event irreversibleAt vx) := by
  unfold materializeCollectibleIssue
  split
  · exact .pure
  · refine .seq (bindTimestamptz_noFork _) fun _ =>
      .seq (insertCollectibleEvent_noFork _ _) fun inserted => ?_
    cases inserted with
    | none => exact .pure
    | some r =>
      dsimp only
      split
      · exact .pure
      · exact insertCollectibleInstance_noFork _ _

theorem materializeCollectibleRevocation_noFork (operation : OperationRow)
    (event : CollectibleRevoked) (vx : ViewTx) :
    NoFork (materializeCollectibleRevocation R t operation event vx) := by
  refine .seq (bindTimestamptz_noFork _) fun _ =>
    .seq (insertCollectibleEvent_noFork _ _) fun inserted => ?_
  cases inserted with
  | none => exact .pure
  | some r =>
    exact .seq (Table.update_failsWith fun _ _ => .seq (.require rfl) fun _ => .require rfl)
      fun _ => .pure

theorem eventFromOperationPayload_noFork (payload : OperationValue) :
    NoFork (eventFromOperationPayload R payload) := by
  unfold eventFromOperationPayload
  split
  · exact .error rfl
  · split
    · exact .ok
    · exact .error rfl

theorem materializeOperation_noFork (operation : OperationRow) (vx : ViewTx) :
    NoFork (materializeOperation R game t ids irreversibleAt operation vx) := by
  refine .seq (eventFromOperationPayload_noFork _) fun event => ?_
  cases event with
  | matchResultsBatch e => exact .ite .pure (materializeResultsFrom_noFork _ _ _ _)
  | matchResultCorrected e => exact .ite .pure (.error rfl)
  | matchResultInvalidated e => exact .ite .pure (materializeMatchInvalidation_noFork _ _)
  | collectibleIssued e => exact materializeCollectibleIssue_noFork _ _ _
  | collectibleRevoked e => exact materializeCollectibleRevocation_noFork _ _ _

theorem materializeOperations_noFork : ∀ (operations : List OperationRow) (vx : ViewTx),
    NoFork (materializeOperations R game t ids irreversibleAt operations vx)
  | [], _ => .ok
  | operation :: operations, vx =>
    .seq (materializeOperation_noFork operation vx) fun vx' =>
      materializeOperations_noFork operations vx'

end Materialize

section Store

variable {R : Runtime} {source : String} {db : Db} {tx : ChainTx}

theorem lockCursor_noFork (t : ChainTables) : NoFork (lockCursor source t) := by
  unfold lockCursor
  dsimp only
  split
  · exact .error rfl
  · exact .ok

theorem updateCursor_noFork (set : Table.Assignment SyncCursorRow.source) (t : ChainTables) :
    NoFork (updateCursor source set t) :=
  .seq (Table.update_failsWith fun _ _ => .require rfl) fun _ => .pure

theorem commit_noFork (game : GameTables) (t : ChainTables) (v : ViewTables)
    (deferred : List DeferredTrigger) : NoFork (commit game t v deferred) :=
  .seq (.checkAll deferredTrigger_noFork _) fun _ => .pure

theorem insertCheckpoint_noFork (row : BlockCheckpointRow) : NoFork (insertCheckpoint row tx) :=
  .seq (.require rfl) fun _ => .seq (.require rfl) fun _ => .seq (.require rfl) fun _ =>
    .seq (Table.insert_failsWith rfl) fun _ => .pure

theorem operationChecks_noFork (row : OperationRow) : NoFork (operationChecks row) :=
  .seq (.require rfl) fun _ => .seq (.require rfl) fun _ => .seq (.require rfl) fun _ =>
    .seq (.require rfl) fun _ => .require rfl

theorem insertOperation_noFork (row : OperationRow) : NoFork (insertOperation row tx) :=
  .seq (.require rfl) fun _ => .seq (hcValidateOperationInsert_noFork row) fun _ =>
    .seq (operationChecks_noFork row) fun _ => .seq (.require rfl) fun _ => .seq (.require rfl) fun _ =>
      .seq (Table.insert_failsWith rfl) fun _ => .pure

theorem bindNullableTimestamptz_noFork (value : Option IsoTimestamp) :
    NoFork (bindNullableTimestamptz R value) := by
  cases value with
  | none => exact .ok
  | some text => exact .seq (bindTimestamptz_noFork text) fun _ => .pure

theorem matchEventChecks_noFork (row : MatchEventRow) : NoFork (matchEventChecks row) :=
  .seq (.require rfl) fun _ => .seq (.require rfl) fun _ => .seq (.require rfl) fun _ =>
    .seq (.require rfl) fun _ => .require rfl

theorem updateMatchEvents_noFork (p : MatchEventRow → Prop) [DecidablePred p]
    (set : Table.Assignment MatchEventRow.eventUuid) : NoFork (updateMatchEvents R p set tx) :=
  .seq (Table.update_failsWith fun _ _ => .seq (hcValidateMatchEventUpdate_noFork _ _) fun _ =>
    matchEventChecks_noFork _) fun _ => .pure

theorem insertMatchEvent_noFork (row : MatchEventRow) : NoFork (insertMatchEvent R row tx) :=
  .seq (hcValidateMatchEventInsert_noFork row) fun _ => .seq (matchEventChecks_noFork row) fun _ =>
    .ite .pure <| .seq (Table.insert_failsWith rfl) fun _ => .pure

theorem upsertIncludedMatchEvent_noFork (operationId : Uuid) (event : HiveChameleonEvent)
    (time : Timestamp) : NoFork (upsertIncludedMatchEvent R operationId event time tx) := by
  unfold upsertIncludedMatchEvent
  split
  · exact .ite (.seq (.require rfl) fun _ => updateMatchEvents_noFork _ _) <|
      .seq (bindNullableTimestamptz_noFork _) fun _ =>
        .seq (bindNullableTimestamptz_noFork _) fun _ => insertMatchEvent_noFork _
  · exact .pure

theorem storeDecision_noFork (cp operationId : Uuid) (decision : OperationDecision)
    (observedAt : Timestamp) : NoFork (storeDecision R cp operationId decision observedAt tx) := by
  refine .seq (insertOperation_noFork _) fun tx' => ?_
  split
  · exact .ite (upsertIncludedMatchEvent_noFork _ _ _) .pure
  · exact .pure

theorem storeDecisions_noFork (ids : ℕ → Uuid) (cp : Uuid) (observedAt : Timestamp) :
    ∀ (decisions : List OperationDecision) (drawn : ℕ) (tx : ChainTx),
      NoFork (storeDecisions R ids cp observedAt drawn decisions tx)
  | [], _, _ => .ok
  | decision :: decisions, drawn, _ =>
    .seq (storeDecision_noFork cp (ids drawn) decision observedAt) fun tx' =>
      storeDecisions_noFork ids cp observedAt decisions (drawn + 1) tx'

theorem applyBlock_noFork (block : HafBlock) (decisions : List OperationDecision) (ids : ℕ → Uuid)
    (observedAt : Timestamp) : NoFork (applyBlock R source block decisions ids observedAt db) :=
  .seq (lockCursor_noFork _) fun _ => .seq (.require rfl) fun _ => .seq (.require rfl) fun _ =>
    .seq (insertCheckpoint_noFork _) fun _ => .seq (storeDecisions_noFork _ _ _ _ _ _) fun _ =>
      .seq (updateCursor_noFork _ _) fun _ => commit_noFork _ _ _ _

theorem updateOperations_noFork (p : OperationRow → Prop) [DecidablePred p]
    (set : Table.Assignment OperationRow.id) : NoFork (updateOperations p set tx) :=
  .seq (Table.update_failsWith fun _ _ => .seq (hcValidateOperationUpdate_noFork _ _) fun _ =>
    operationChecks_noFork _) fun _ => .pure

theorem updateCheckpoints_noFork (p : BlockCheckpointRow → Prop) [DecidablePred p]
    (set : Table.Assignment BlockCheckpointRow.id) : NoFork (updateCheckpoints p set tx) :=
  .seq (Table.update_failsWith fun _ _ => .seq (hcValidateCheckpointMutation_noFork _ _) fun _ =>
    .require rfl) fun _ => .pure

/-- A revert to a height that is not below the irreversible one raises no irreversible fork. -/
theorem revertAfter_noFork {ancestorBlock : ℕ} (hguard : lastIrreversible source db.chain ≤ ancestorBlock)
    (time : Timestamp) : NoFork (revertAfter R source ancestorBlock time db) := by
  refine (lockCursor_noFork _).bind ?_
  rintro ⟨t, cursor⟩ hlock
  obtain ⟨-, rfl⟩ := lockCursor_eq_ok.mp hlock
  dsimp only
  rw [require, if_pos hguard]
  exact .seq .ok fun _ => .seq (updateMatchEvents_noFork _ _) fun _ =>
    .seq (updateOperations_noFork _ _) fun _ => .seq (updateCheckpoints_noFork _ _) fun _ =>
      .seq (updateCursor_noFork _ _) fun _ => commit_noFork _ _ _ _

theorem finalizeThrough_noFork (blockNumber : ℕ) (ids : ℕ → Uuid) (time : Timestamp) :
    NoFork (finalizeThrough R source blockNumber ids time db) :=
  .seq (lockCursor_noFork _) fun _ => .seq (.require rfl) fun _ =>
    .seq (updateMatchEvents_noFork _ _) fun _ => .seq (updateOperations_noFork _ _) fun _ =>
      .seq (updateCheckpoints_noFork _ _) fun _ => .seq (updateCursor_noFork _ _) fun _ =>
        .seq (materializeOperations_noFork _ _) fun _ => commit_noFork _ _ _ _

end Store

end HiveChameleon.Projector
