import HiveChameleon.Projector.MemoryStore
import HiveChameleon.Projector.ResultChain
import HiveChameleon.Projector.Sources

/-!
# Projector.TwinStores — the test store beside the real one

The same calls on `InMemoryProjectionStore` and on `PostgresProjectionStore`.  `Mirrors` relates the
two: the checkpoints are the rows, every operation has a row of its finality, and the cursors agree.
A call keeps it as long as no stored identity comes again and the database itself refuses nothing;
outside of that the two part.
-/

namespace HiveChameleon.Projector

open Gateway Lib

structure TwinStores where
  memory : InMemoryProjectionStore
  db : Db

def TwinStores.fresh (game : GameTables) : TwinStores := ⟨.empty, Db.fresh game⟩

section Calls

variable (R : Runtime)

/-- A call on the test store. -/
def DbCall.performInMemory (source : String) (m : InMemoryProjectionStore) :
    DbCall → Except Failure Unit × InMemoryProjectionStore
  | .applyBlock block decisions _ observedAt => m.applyBlock source block decisions observedAt
  | .revertAfter ancestorBlock revertedAt => m.revertAfter source ancestorBlock revertedAt
  | .finalizeThrough blockNumber _ irreversibleAt => m.finalizeThrough source blockNumber irreversibleAt
  | .changeGame _ => (.ok (), m)

/-- The answer of the test store and what the call leaves. -/
def TwinStores.inMemory (s : TwinStores) (l : String × DbCall) :
    Except Failure Unit × InMemoryProjectionStore := l.2.performInMemory l.1 s.memory

/-- The answer of the real store and what the call leaves. -/
def TwinStores.inDatabase (s : TwinStores) (l : String × DbCall) : Except Failure Unit × Db :=
  acknowledged (l.2.perform R l.1 s.db) s.db

/-- A call for a source on both stores. -/
def TwinStep (s : TwinStores) (l : String × DbCall) (s' : TwinStores) : Prop :=
  s' = ⟨(s.inMemory l).2, (s.inDatabase R l).2⟩

end Calls

/-! ### What is compared -/

/-- Source, identity and finality of an operation. -/
structure OperationFinality where
  source : Option String
  sourceOperationId : String
  state : OperationState
  irreversibleAt : Option Timestamp
  revertedAt : Option Timestamp
deriving DecidableEq

def InMemoryProjectionStore.finality (m : InMemoryProjectionStore) : List OperationFinality :=
  m.operations.map fun stored => ⟨some stored.source, stored.evidence.sourceOperationId, stored.state,
    stored.irreversibleAt, stored.revertedAt⟩

/-- An operation row has the source of its checkpoint. -/
def operationFinality (t : ChainTables) : List OperationFinality :=
  t.operation.rows.map fun op =>
    ⟨(t.blockCheckpoint.find? op.checkpointId).map (·.source), op.sourceOperationId, op.state,
      op.irreversibleAt, op.revertedAt⟩

/-- **The two stores agree**: on every cursor, every current checkpoint and all finality. -/
structure StoresAgree (s : TwinStores) : Prop where
  cursor : ∀ source, s.memory.getCursor source = getCursor source s.db
  checkpoint : ∀ source n,
    s.memory.getCurrentCheckpoint source n = getCurrentCheckpoint source n s.db
  finality : s.memory.finality = operationFinality s.db.chain

/-- **A call is answered alike**: the same success or the same error, and an error leaves both stores
as they were. -/
structure AnsweredAlike (R : Runtime) (s : TwinStores) (l : String × DbCall) : Prop where
  outcome : (s.inMemory l).1 = (s.inDatabase R l).1
  unchanged : ∀ e, (s.inMemory l).1 = .error e →
    (s.inMemory l).2 = s.memory ∧ (s.inDatabase R l).2 = s.db

/-! ### Where they part -/

/-- A block that passes the checks of the test store carries an identity that is already stored, or
carries one twice. -/
def reusesIdentity (m : InMemoryProjectionStore) (source : String) : DbCall → Bool
  | .applyBlock block decisions _ _ =>
    (m.checkBlock source block).isOk &&
      (decisions.any (fun decision => m.hasOperation decision.evidence.sourceOperationId) ||
        !decide (decisions.map (·.evidence.sourceOperationId)).Nodup)
  | _ => false

/-- The block continues the chain at the cursor. -/
def HafBlock.follows (block : HafBlock) (cursor : ProjectionCursor) : Bool :=
  block.number = cursor.lastProcessedBlock + 1 &&
    (cursor.lastProcessedBlockId = none || cursor.lastProcessedBlockId = some block.previousId)

/-- A constraint, a trigger or the materialization refuses a block or a finalization that passes the
checks against the cursor. -/
def refusedByDatabase (R : Runtime) (db : Db) (source : String) : DbCall → Bool
  | .applyBlock block decisions ids observedAt =>
    block.follows (getCursor source db) &&
      !(applyBlock R source block decisions ids observedAt db).isOk
  | .finalizeThrough blockNumber ids irreversibleAt =>
    blockNumber ≤ (getCursor source db).lastProcessedBlock &&
      !(finalizeThrough R source blockNumber ids irreversibleAt db).isOk
  | _ => false

/-! ### The relation between the two -/

/-- An operation of the test store and its row. -/
structure OperationMirrors (t : ChainTables) (stored : StoredOperationDecision) (row : OperationRow) :
    Prop where
  checkpoint : ∃ c ∈ t.blockCheckpoint, c.id = row.checkpointId ∧ c.source = stored.source ∧
    c.blockNumber = stored.evidence.blockNumber
  identity : row.sourceOperationId = stored.evidence.sourceOperationId
  state : row.state = stored.state
  irreversibleAt : row.irreversibleAt = stored.irreversibleAt
  revertedAt : row.revertedAt = stored.revertedAt

/-- **The test store mirrors the tables.** -/
structure Mirrors (m : InMemoryProjectionStore) (t : ChainTables) : Prop where
  checkpoints : m.checkpoints = t.blockCheckpoint.rows.map checkpointFromRow
  operations : List.Forall₂ (OperationMirrors t) m.operations t.operation.rows
  cursor : ∀ source, m.getCursor source = ⟨source, lastProcessed source t,
    (m.getCurrentCheckpoint source (lastProcessed source t)).map (·.id), lastIrreversible source t⟩
  positive : ∀ c ∈ t.blockCheckpoint, 0 < c.blockNumber

section Reads

variable {m : InMemoryProjectionStore} {t : ChainTables} {source : String}

theorem mirrors_empty : Mirrors .empty ⟨Table.empty, Table.empty, Table.empty, Table.empty⟩ where
  checkpoints := rfl
  operations := .nil
  cursor _ := rfl
  positive _ hc := absurd hc Table.not_mem_empty

theorem Mirrors.getCurrentCheckpoint (h : Mirrors m t) (n : ℕ) :
    m.getCurrentCheckpoint source n = (currentCheckpointRow t source n).map checkpointFromRow := by
  unfold InMemoryProjectionStore.getCurrentCheckpoint currentCheckpointRow
  rw [h.checkpoints, List.find?_map]
  have hsame : ((fun checkpoint : BlockCheckpoint => decide (checkpoint.source = source ∧
      checkpoint.number = n ∧ checkpoint.state ≠ .reverted)) ∘ checkpointFromRow) =
        fun c => decide (c.Current source ∧ c.blockNumber = n) := by
    funext c
    refine decide_eq_decide.mpr ?_
    show c.source = source ∧ c.blockNumber = n ∧ c.state ≠ .reverted ↔
      (c.source = source ∧ c.state ≠ .reverted) ∧ c.blockNumber = n
    rw [and_assoc, and_comm (a := c.blockNumber = n)]
  rw [hsame]

theorem Mirrors.cursor_eq (h : Mirrors m t) : m.getCursor source = ⟨source, lastProcessed source t,
    (currentCheckpointRow t source (lastProcessed source t)).map (·.blockId),
    lastIrreversible source t⟩ := by
  rw [h.cursor source, h.getCurrentCheckpoint, Option.map_map]
  rfl

theorem Mirrors.getCursor {db : Db} (h : Mirrors m db.chain) :
    m.getCursor source = Projector.getCursor source db := by
  have hzero : currentCheckpointRow db.chain source 0 = none := by
    cases hrow : currentCheckpointRow db.chain source 0 with
    | none => rfl
    | some c =>
      have hmem : c ∈ db.chain.blockCheckpoint := List.mem_of_find?_eq_some hrow
      have hfound : c.Current source ∧ c.blockNumber = 0 := by simpa using List.find?_some hrow
      have hpositive := h.positive c hmem
      omega
  rw [getCursor_eq_of_none db hzero, h.cursor_eq]

theorem Mirrors.finality (h : Mirrors m t) : m.finality = operationFinality t := by
  unfold InMemoryProjectionStore.finality operationFinality
  rw [← List.forall₂_eq_eq_eq, List.forall₂_map_left_iff, List.forall₂_map_right_iff]
  refine h.operations.imp fun stored row hrow => ?_
  obtain ⟨c, hc, hid, hsource, -⟩ := hrow.checkpoint
  have hfind : t.blockCheckpoint.find? row.checkpointId = some c := Table.find?_eq_some.mpr ⟨hc, hid⟩
  rw [hfind, hrow.identity, hrow.state, hrow.irreversibleAt, hrow.revertedAt, Option.map_some, hsource]

theorem Mirrors.agree {s : TwinStores} (h : Mirrors s.memory s.db.chain) : StoresAgree s where
  cursor _ := h.getCursor
  checkpoint _ n := h.getCurrentCheckpoint n
  finality := h.finality

end Reads

theorem OperationMirrors.mono {t t' : ChainTables} {stored : StoredOperationDecision}
    {row : OperationRow} (h : OperationMirrors t stored row)
    (hkept : ∀ c ∈ t.blockCheckpoint, ∃ c' ∈ t'.blockCheckpoint, c'.id = c.id ∧ c'.source = c.source ∧
      c'.blockNumber = c.blockNumber) : OperationMirrors t' stored row where
  checkpoint := by
    obtain ⟨c, hc, hid, hsource, hnumber⟩ := h.checkpoint
    obtain ⟨c', hc', hid', hsource', hnumber'⟩ := hkept c hc
    exact ⟨c', hc', hid'.trans hid, hsource'.trans hsource, hnumber'.trans hnumber⟩
  identity := h.identity
  state := h.state
  irreversibleAt := h.irreversibleAt
  revertedAt := h.revertedAt

/-! ### `applyBlock` -/

section Apply

variable {R : Runtime} {m : InMemoryProjectionStore} {source : String} {db db' : Db} {block : HafBlock}
  {decisions : List OperationDecision} {ids : ℕ → Uuid} {observedAt : Timestamp}

theorem Mirrors.checkBlock {t' : ChainTables} {id : Uuid} (h : Mirrors m db.chain)
    (ha : Applied source block id observedAt db.chain t') : m.checkBlock source block = .ok () := by
  rw [InMemoryProjectionStore.checkBlock_eq_ok, h.cursor source]
  refine ⟨ha.number, ?_, ?_⟩
  · rw [h.getCurrentCheckpoint]
    cases hrow : currentCheckpointRow db.chain source (lastProcessed source db.chain) with
    | none => exact .inl rfl
    | some c =>
      right
      show some c.blockId = some block.previousId
      rw [ha.parent c hrow]
  · rw [h.getCurrentCheckpoint, Option.map_eq_none_iff]
    refine List.find?_eq_none.mpr fun c hc => ?_
    simpa using ha.fresh_height c hc

/-- **A block that the database takes**, on both stores. -/
theorem Mirrors.applyBlock (h : Mirrors m db.chain) (hnew : m.NewIdentities decisions)
    (hok : applyBlock R source block decisions ids observedAt db = .ok db') :
    ∃ m', m.applyBlock source block decisions observedAt = (.ok (), m') ∧ Mirrors m' db'.chain := by
  obtain ⟨ha, -, -⟩ := applyBlock_spec hok
  obtain ⟨rows, hrows, hdecisions⟩ := applyBlock_rows hok
  have hcheck := h.checkBlock ha
  have hnone := (InMemoryProjectionStore.checkBlock_eq_ok.mp hcheck).2.2
  refine ⟨_, InMemoryProjectionStore.applyBlock_new hcheck hnew, ?_⟩
  constructor
  · show m.checkpoints ++ _ = _
    rw [ha.checkpoint, h.checkpoints, List.map_append]
    rfl
  · show List.Forall₂ _ (m.operations ++ _) _
    rw [hrows]
    refine List.rel_append ?_ ?_
    · refine h.operations.imp fun stored row hrow => hrow.mono fun c hc => ?_
      exact ⟨c, ha.mem_checkpoint.mpr (.inl hc), rfl, rfl, rfl⟩
    · rw [List.forall₂_map_left_iff]
      refine hdecisions.imp fun decision row => ?_
      rintro ⟨hnumber, id, rfl⟩
      exact ⟨⟨_, ha.mem_checkpoint.mpr (.inr rfl), rfl, rfl, hnumber.symm⟩, rfl, rfl, rfl, rfl⟩
  · intro source'
    by_cases heq : source' = source
    · rw [heq, InMemoryProjectionStore.getCursor_setCursor, h.cursor source, ha.processed, ha.irreversible,
        InMemoryProjectionStore.getCurrentCheckpoint_setCursor,
        InMemoryProjectionStore.getCurrentCheckpoint_included rfl hnone]
      rfl
    · have hcursor := applyBlock_find?_of_ne heq hok
      rw [InMemoryProjectionStore.getCursor_setCursor_of_ne heq, lastProcessed_congr hcursor,
        lastIrreversible_congr hcursor, InMemoryProjectionStore.getCurrentCheckpoint_setCursor,
        InMemoryProjectionStore.getCurrentCheckpoint_included_of_ne rfl heq]
      exact h.cursor source'
  · intro c hc
    rcases ha.mem_checkpoint.mp hc with hc | rfl
    · exact h.positive c hc
    · show 0 < block.number
      have hnumber := ha.number
      omega

end Apply

/-! ### `revertAfter` and `finalizeThrough` -/

section Replace

variable {R : Runtime} {m : InMemoryProjectionStore} {t : ChainTables} {source : String} {db db' : Db}

theorem replaceWhere_checkpoints {rows : List BlockCheckpointRow} {checkpoints : List BlockCheckpoint}
    {p : BlockCheckpoint → Bool} {f : BlockCheckpoint → BlockCheckpoint} {q : BlockCheckpointRow → Prop}
    [DecidablePred q] {set : Table.Assignment BlockCheckpointRow.id}
    (h : checkpoints = rows.map checkpointFromRow) (hwhere : ∀ c, p (checkpointFromRow c) = decide (q c))
    (hset : ∀ c, f (checkpointFromRow c) = checkpointFromRow (set c)) :
    replaceWhere checkpoints p f = (rows.map (Table.updated q set)).map checkpointFromRow := by
  unfold replaceWhere
  rw [h, List.map_map, List.map_map]
  refine List.map_congr_left fun c _ => ?_
  show (if p (checkpointFromRow c) = true then _ else _) = checkpointFromRow (Table.updated q set c)
  by_cases hq : q c
  · rw [if_pos (by rw [hwhere]; exact decide_eq_true hq), Table.updated_of hq, hset]
  · rw [if_neg (by rw [hwhere]; simpa using hq), Table.updated_of_not hq]

theorem replaceWhere_operations {t' : ChainTables} {operations : List StoredOperationDecision}
    {rows : List OperationRow} {p : StoredOperationDecision → Bool}
    {f : StoredOperationDecision → StoredOperationDecision} {q : OperationRow → Prop} [DecidablePred q]
    {set : Table.Assignment OperationRow.id} (h : List.Forall₂ (OperationMirrors t) operations rows)
    (hwhere : ∀ stored row, OperationMirrors t stored row → (p stored = true ↔ q row))
    (hset : ∀ stored row, OperationMirrors t stored row → OperationMirrors t' (f stored) (set row))
    (hkept : ∀ stored row, OperationMirrors t stored row → OperationMirrors t' stored row) :
    List.Forall₂ (OperationMirrors t') (replaceWhere operations p f) (rows.map (Table.updated q set)) := by
  unfold replaceWhere
  rw [List.forall₂_map_left_iff, List.forall₂_map_right_iff]
  refine h.imp fun stored row hrow => ?_
  by_cases hq : q row
  · rw [if_pos ((hwhere stored row hrow).mpr hq), Table.updated_of hq]
    exact hset stored row hrow
  · rw [if_neg (fun hp => hq ((hwhere stored row hrow).mp hp)), Table.updated_of_not hq]
    exact hkept stored row hrow

theorem OperationMirrors.onHeights_iff {stored : StoredOperationDecision} {row : OperationRow}
    (h : OperationMirrors t stored row) {heights : ℕ → Bool} :
    onHeights (ensureCursor source t) source heights row ↔
      stored.source = source ∧ heights stored.evidence.blockNumber = true := by
  obtain ⟨c, hc, hid, hsource, hnumber⟩ := h.checkpoint
  have hc' : c ∈ (ensureCursor source t).blockCheckpoint := by simpa using hc
  rw [Projector.onHeights_iff hc' hid, hsource, hnumber]

/-- An `UPDATE` of the checkpoints' finality keeps identity, source and height. -/
theorem modify_keeps {q : BlockCheckpointRow → Prop} [DecidablePred q]
    {set : Table.Assignment BlockCheckpointRow.id} (hsource : ∀ c, (set c).source = c.source)
    (hnumber : ∀ c, (set c).blockNumber = c.blockNumber) {c : BlockCheckpointRow}
    (hc : c ∈ t.blockCheckpoint) :
    ∃ c' ∈ (ensureCursor source t).blockCheckpoint.modify q set, c'.id = c.id ∧ c'.source = c.source ∧
      c'.blockNumber = c.blockNumber := by
  have hc' : c ∈ (ensureCursor source t).blockCheckpoint := by simpa using hc
  exact ⟨Table.updated q set c, Table.updated_mem_modify hc', Table.key_updated c,
    Table.updated_eq hsource c, Table.updated_eq hnumber c⟩

theorem modify_positive {q : BlockCheckpointRow → Prop} [DecidablePred q]
    {set : Table.Assignment BlockCheckpointRow.id} (hnumber : ∀ c, (set c).blockNumber = c.blockNumber)
    (h : ∀ c ∈ t.blockCheckpoint, 0 < c.blockNumber) :
    ∀ c ∈ (ensureCursor source t).blockCheckpoint.modify q set, 0 < c.blockNumber := by
  intro c hc
  obtain ⟨old, hold, rfl⟩ := Table.mem_modify.mp hc
  have hold' : old ∈ t.blockCheckpoint := by simpa using hold
  rw [Table.updated_eq hnumber old]
  exact h old hold'

/-- **A revert above the irreversible height**, on both stores. -/
theorem Mirrors.revertAfter {n : ℕ} {time : Timestamp} (h : Mirrors m t)
    (hguard : lastIrreversible source t ≤ n) :
    ∃ m', m.revertAfter source n time = (.ok (), m') ∧
      Mirrors m' (revertedTables source n time (ensureCursor source t)) := by
  have hcursor := h.cursor source
  have hmemory : (m.getCursor source).lastIrreversibleBlock ≤ n := by rw [hcursor]; exact hguard
  refine ⟨_, InMemoryProjectionStore.revertAfter_of_le hmemory, ?_⟩
  constructor
  · show replaceWhere _ _ _ = ((ensureCursor source t).blockCheckpoint.modify _ _).rows.map _
    rw [ensureCursor_blockCheckpoint]
    exact replaceWhere_checkpoints h.checkpoints (fun c => rfl) fun c => rfl
  · show List.Forall₂ _ (replaceWhere _ _ _) ((ensureCursor source t).operation.modify _ _).rows
    rw [ensureCursor_operation]
    have hkept : ∀ stored row, OperationMirrors t stored row → OperationMirrors
        (revertedTables source n time (ensureCursor source t)) stored row :=
      fun stored row hrow => hrow.mono fun c hc => modify_keeps (fun _ => rfl) (fun _ => rfl) hc
    refine replaceWhere_operations h.operations (fun stored row hrow => ?_)
      (fun stored row hrow => ?_) hkept
    · rw [hrow.onHeights_iff, hrow.state, decide_eq_true_eq, decide_eq_true_eq, and_assoc]
    · have hmoved := hkept stored row hrow
      exact ⟨hmoved.checkpoint, hrow.identity, rfl, hrow.irreversibleAt, rfl⟩
  · intro source'
    by_cases heq : source' = source
    · rw [heq, InMemoryProjectionStore.getCursor_setCursor, hcursor,
        lastProcessed_revertedTables ensureCursor_find?, lastIrreversible_revertedTables,
        lastIrreversible_ensureCursor, InMemoryProjectionStore.getCurrentCheckpoint_setCursor]
    · have hother : (revertedTables source n time (ensureCursor source t)).syncCursor.find? source' =
          t.syncCursor.find? source' := revertedTables_find?_of_ne heq
      rw [InMemoryProjectionStore.getCursor_setCursor_of_ne heq, lastProcessed_congr hother,
        lastIrreversible_congr hother, InMemoryProjectionStore.getCurrentCheckpoint_setCursor,
        InMemoryProjectionStore.getCurrentCheckpoint_revertRows heq]
      exact h.cursor source'
  · exact modify_positive (fun _ => rfl) h.positive

/-- **A finalization up to the cursor**, on both stores. -/
theorem Mirrors.finalizeThrough {n : ℕ} {time : Timestamp} (h : Mirrors m t)
    (hguard : n ≤ lastProcessed source t) :
    ∃ m', m.finalizeThrough source n time = (.ok (), m') ∧
      Mirrors m' (finalizedTables source n time (ensureCursor source t)) := by
  have hcursor := h.cursor source
  have hmemory : n ≤ (m.getCursor source).lastProcessedBlock := by rw [hcursor]; exact hguard
  refine ⟨_, InMemoryProjectionStore.finalizeThrough_of_le hmemory, ?_⟩
  constructor
  · show replaceWhere _ _ _ = ((ensureCursor source t).blockCheckpoint.modify _ _).rows.map _
    rw [ensureCursor_blockCheckpoint]
    exact replaceWhere_checkpoints h.checkpoints (fun c => rfl) fun c => rfl
  · show List.Forall₂ _ (replaceWhere _ _ _) ((ensureCursor source t).operation.modify _ _).rows
    rw [ensureCursor_operation]
    have hkept : ∀ stored row, OperationMirrors t stored row → OperationMirrors
        (finalizedTables source n time (ensureCursor source t)) stored row :=
      fun stored row hrow => hrow.mono fun c hc => modify_keeps (fun _ => rfl) (fun _ => rfl) hc
    refine replaceWhere_operations h.operations (fun stored row hrow => ?_)
      (fun stored row hrow => ?_) hkept
    · rw [hrow.onHeights_iff, hrow.state, decide_eq_true_eq, decide_eq_true_eq, and_assoc]
    · have hmoved := hkept stored row hrow
      exact ⟨hmoved.checkpoint, hrow.identity, rfl, rfl, hrow.revertedAt⟩
  · intro source'
    have hcheckpoints : ∀ k, ((m.finalizeRows source n time).getCurrentCheckpoint source' k).map (·.id) =
        (m.getCurrentCheckpoint source' k).map (·.id) :=
      fun k => InMemoryProjectionStore.getCurrentCheckpoint_finalizeRows
    by_cases heq : source' = source
    · subst heq
      rw [InMemoryProjectionStore.getCursor_setCursor, hcursor, lastProcessed_finalizedTables,
        lastIrreversible_finalizedTables ensureCursor_find?, lastProcessed_ensureCursor,
        lastIrreversible_ensureCursor, InMemoryProjectionStore.getCurrentCheckpoint_setCursor, hcheckpoints]
    · have hother : (finalizedTables source n time (ensureCursor source t)).syncCursor.find? source' =
          t.syncCursor.find? source' := finalizedTables_find?_of_ne heq
      rw [InMemoryProjectionStore.getCursor_setCursor_of_ne heq, lastProcessed_congr hother,
        lastIrreversible_congr hother, InMemoryProjectionStore.getCurrentCheckpoint_setCursor, hcheckpoints]
      exact h.cursor source'
  · exact modify_positive (fun _ => rfl) h.positive

end Replace

/-! ### The checks against the cursor -/

section Guards

variable {R : Runtime} {m : InMemoryProjectionStore} {source : String} {db : Db} {block : HafBlock}
  {decisions : List OperationDecision} {ids : ℕ → Uuid} {observedAt : Timestamp} {n : ℕ}

theorem applyBlock_number_error (h : ¬ block.number = lastProcessed source db.chain + 1) :
    applyBlock R source block decisions ids observedAt db =
      .error (.projector .cursorConflict "Block does not immediately follow the cursor") := by
  unfold applyBlock
  have hlock : lockCursor source db.chain = .ok (_, _) := lockCursor_eq_ok.mpr ⟨rfl, rfl⟩
  rw [hlock]
  show (require (block.number = lastProcessed source db.chain + 1) _ >>= fun _ => _) = _
  rw [require, if_neg h]
  rfl

theorem applyBlock_parent_error (hnumber : block.number = lastProcessed source db.chain + 1)
    {parent : Option String}
    (hparent : (currentCheckpointRow db.chain source (lastProcessed source db.chain)).map (·.blockId) =
      parent) (h : ¬ (parent = none ∨ parent = some block.previousId)) :
    applyBlock R source block decisions ids observedAt db =
      .error (.projector .cursorConflict "Block parent does not match the cursor") := by
  subst hparent
  unfold applyBlock
  have hlock : lockCursor source db.chain = .ok (_, _) := lockCursor_eq_ok.mpr ⟨rfl, rfl⟩
  rw [hlock]
  show (require (block.number = lastProcessed source db.chain + 1) _ >>= fun _ => _) = _
  rw [require, if_pos hnumber]
  show (require (_ ∨ _) _ >>= fun _ => _) = _
  rw [require, if_neg h]
  rfl

theorem finalizeThrough_eq_error {time : Timestamp} (h : lastProcessed source db.chain < n) :
    finalizeThrough R source n ids time db =
      .error (.projector .cursorConflict "Cannot finalize beyond the processed cursor") := by
  unfold finalizeThrough
  have hlock : lockCursor source db.chain = .ok (_, _) := lockCursor_eq_ok.mpr ⟨rfl, rfl⟩
  rw [hlock]
  show (require (n ≤ lastProcessed source db.chain) _ >>= fun _ => _) = _
  rw [require, if_neg (not_le_of_gt h)]
  rfl

theorem checkBlock_number_error (h : ¬ block.number = (m.getCursor source).lastProcessedBlock + 1) :
    m.checkBlock source block =
      .error (.projector .cursorConflict "Block does not immediately follow the cursor") := by
  unfold InMemoryProjectionStore.checkBlock
  rw [require, if_neg h]
  rfl

theorem checkBlock_parent_error
    (hnumber : block.number = (m.getCursor source).lastProcessedBlock + 1)
    (h : ¬ ((m.getCursor source).lastProcessedBlockId = none ∨
      (m.getCursor source).lastProcessedBlockId = some block.previousId)) :
    m.checkBlock source block =
      .error (.projector .cursorConflict "Block parent does not match the cursor") := by
  unfold InMemoryProjectionStore.checkBlock
  rw [require, if_pos hnumber]
  show (require (_ ∨ _) _ >>= fun _ => _) = _
  rw [require, if_neg h]
  rfl

end Guards

/-! ### One call, and a run of calls -/

section Step

variable {R : Runtime} {s : TwinStores} {l : String × DbCall}

/-- What a call leaves in both stores is mirrored. -/
def LeavesMirrored (R : Runtime) (s : TwinStores) (l : String × DbCall) : Prop :=
  Mirrors (s.inMemory l).2 (s.inDatabase R l).2.chain

theorem answered_of_ok {m' : InMemoryProjectionStore} {db' : Db} (hmemory : s.inMemory l = (.ok (), m'))
    (hdb : l.2.perform R l.1 s.db = .ok db') (h : Mirrors m' db'.chain) :
    AnsweredAlike R s l ∧ LeavesMirrored R s l := by
  have hdatabase : s.inDatabase R l = (.ok (), db') := by
    unfold TwinStores.inDatabase
    rw [hdb]
    rfl
  refine ⟨⟨?_, ?_⟩, ?_⟩
  · rw [hmemory, hdatabase]
  · intro e he
    rw [hmemory] at he
    cases he
  · unfold LeavesMirrored
    rw [hmemory, hdatabase]
    exact h

theorem answered_of_error {e : Failure} (hmemory : s.inMemory l = (.error e, s.memory))
    (hdb : l.2.perform R l.1 s.db = .error e) (h : Mirrors s.memory s.db.chain) :
    AnsweredAlike R s l ∧ LeavesMirrored R s l := by
  have hdatabase : s.inDatabase R l = (.error e, s.db) := by
    unfold TwinStores.inDatabase
    rw [hdb]
    rfl
  refine ⟨⟨?_, ?_⟩, ?_⟩
  · rw [hmemory, hdatabase]
  · intro e' _
    exact ⟨by rw [hmemory], by rw [hdatabase]⟩
  · unfold LeavesMirrored
    rw [hmemory, hdatabase]
    exact h

/-- An `applyBlock` that reuses no identity and that the database does not refuse. -/
theorem Mirrors.answer_applyBlock {source : String} {block : HafBlock}
    {decisions : List OperationDecision} {ids : ℕ → Uuid} {observedAt : Timestamp}
    (h : Mirrors s.memory s.db.chain)
    (hnew : reusesIdentity s.memory source (.applyBlock block decisions ids observedAt) = false)
    (haccepted : refusedByDatabase R s.db source (.applyBlock block decisions ids observedAt) = false) :
    AnsweredAlike R s (source, .applyBlock block decisions ids observedAt) ∧
      LeavesMirrored R s (source, .applyBlock block decisions ids observedAt) := by
  have hcursor : s.memory.getCursor source = _ := h.cursor_eq
  by_cases hnumber : block.number = lastProcessed source s.db.chain + 1
  swap
  · refine answered_of_error (InMemoryProjectionStore.applyBlock_refused
      (checkBlock_number_error ?_)) (applyBlock_number_error hnumber) h
    rw [hcursor]
    exact hnumber
  generalize hparent : (currentCheckpointRow s.db.chain source (lastProcessed source s.db.chain)).map
    (·.blockId) = parent at hcursor
  by_cases hfollows : parent = none ∨ parent = some block.previousId
  swap
  · refine answered_of_error (InMemoryProjectionStore.applyBlock_refused
      (checkBlock_parent_error ?_ ?_)) (applyBlock_parent_error hnumber hparent hfollows) h
    · rw [hcursor]
      exact hnumber
    · rw [hcursor]
      exact hfollows
  · -- the block follows the cursor, so the database takes it
    have hblock : block.follows (Projector.getCursor source s.db) = true := by
      rw [← h.getCursor, hcursor]
      simp [HafBlock.follows, hnumber, hfollows]
    cases hok : Projector.applyBlock R source block decisions ids observedAt s.db with
    | error e =>
      simp [refusedByDatabase, hblock, hok, Except.isOk, Except.toBool] at haccepted
    | ok db' =>
      obtain ⟨ha, -, -⟩ := applyBlock_spec hok
      have hcheck := h.checkBlock ha
      have hidentities : s.memory.NewIdentities decisions := by
        simp only [reusesIdentity, hcheck, Except.isOk, Except.toBool, Bool.true_and, Bool.or_eq_false_iff,
          Bool.not_eq_false', decide_eq_true_eq, List.any_eq_false] at hnew
        exact ⟨fun decision hdecision => by simpa using hnew.1 decision hdecision, hnew.2⟩
      obtain ⟨m', hmemory, hmirrors⟩ := h.applyBlock hidentities hok
      exact answered_of_ok hmemory hok hmirrors

/-- A `revertAfter`, which nothing but its check refuses. -/
theorem Mirrors.answer_revertAfter {source : String} {n : ℕ} {time : Timestamp}
    (h : Mirrors s.memory s.db.chain) (hrevertible : AllRevertible R s.db) :
    AnsweredAlike R s (source, .revertAfter n time) ∧
      LeavesMirrored R s (source, .revertAfter n time) := by
  by_cases hguard : lastIrreversible source s.db.chain ≤ n
  · obtain ⟨m', hmemory, hmirrors⟩ := h.revertAfter hguard
    exact answered_of_ok hmemory ((hrevertible source).revertAfter_eq_ok.mpr ⟨hguard, rfl⟩) hmirrors
  · have hlt := Nat.lt_of_not_le hguard
    refine answered_of_error (InMemoryProjectionStore.revertAfter_of_lt ?_) (revertAfter_eq_error hlt) h
    rw [h.cursor_eq]
    exact hlt

/-- A `finalizeThrough` that the database does not refuse. -/
theorem Mirrors.answer_finalizeThrough {source : String} {n : ℕ} {ids : ℕ → Uuid} {time : Timestamp}
    (h : Mirrors s.memory s.db.chain)
    (haccepted : refusedByDatabase R s.db source (.finalizeThrough n ids time) = false) :
    AnsweredAlike R s (source, .finalizeThrough n ids time) ∧
      LeavesMirrored R s (source, .finalizeThrough n ids time) := by
  by_cases hguard : n ≤ lastProcessed source s.db.chain
  · have hpasses : n ≤ (Projector.getCursor source s.db).lastProcessedBlock := by
      rw [← h.getCursor, h.cursor_eq]
      exact hguard
    cases hok : Projector.finalizeThrough R source n ids time s.db with
    | error e =>
      simp [refusedByDatabase, hpasses, hok, Except.isOk, Except.toBool] at haccepted
    | ok db' =>
      obtain ⟨-, hchain, -⟩ := finalizeThrough_spec hok
      obtain ⟨m', hmemory, hmirrors⟩ := h.finalizeThrough hguard
      rw [← hchain] at hmirrors
      exact answered_of_ok hmemory hok hmirrors
  · have hlt := Nat.lt_of_not_le hguard
    refine answered_of_error (InMemoryProjectionStore.finalizeThrough_of_lt ?_)
      (finalizeThrough_eq_error hlt) h
    rw [h.cursor_eq]
    exact hlt

/-- **One call**: it is answered alike and leaves stores that mirror each other. -/
theorem Mirrors.answer (h : Mirrors s.memory s.db.chain) (hrevertible : AllRevertible R s.db)
    (hnew : reusesIdentity s.memory l.1 l.2 = false)
    (haccepted : refusedByDatabase R s.db l.1 l.2 = false) :
    AnsweredAlike R s l ∧ LeavesMirrored R s l := by
  obtain ⟨source, call⟩ := l
  cases call with
  | applyBlock block decisions ids observedAt => exact h.answer_applyBlock hnew haccepted
  | revertAfter ancestorBlock revertedAt => exact h.answer_revertAfter hrevertible
  | finalizeThrough blockNumber ids irreversibleAt => exact h.answer_finalizeThrough haccepted
  | changeGame game => exact answered_of_ok rfl rfl h

theorem AllRevertible.inDatabase (h : AllRevertible R s.db) : AllRevertible R (s.inDatabase R l).2 := by
  unfold TwinStores.inDatabase
  cases hok : l.2.perform R l.1 s.db with
  | error e => exact h
  | ok db' => exact h.perform hok

end Step

/-- **The test store speaks for the real one**: over any calls for any sources, failing ones
included, in which no block brings an identity that is stored already and the database itself refuses
nothing, the two answer alike and agree before and after every call. -/
theorem stores_agree {R : Runtime} {game : GameTables} {s : TwinStores}
    {ts : List (Transition TwinStores (String × DbCall))}
    (hrun : Run (TwinStep R) (TwinStores.fresh game) ts s)
    (hnew : ∀ t ∈ ts, reusesIdentity t.pre.memory t.label.1 t.label.2 = false)
    (haccepted : ∀ t ∈ ts, refusedByDatabase R t.pre.db t.label.1 t.label.2 = false) :
    StoresAgree s ∧
      ∀ t ∈ ts, StoresAgree t.pre ∧ AnsweredAlike R t.pre t.label ∧ StoresAgree t.post := by
  have hstep : ∀ (a : TwinStores) (l : String × DbCall) (b : TwinStores),
      Mirrors a.memory a.db.chain ∧ AllRevertible R a.db →
      (reusesIdentity a.memory l.1 l.2 = false ∧ refusedByDatabase R a.db l.1 l.2 = false) →
      TwinStep R a l b → Mirrors b.memory b.db.chain ∧ AllRevertible R b.db := by
    rintro a l b ⟨hmirrors, hrevertible⟩ ⟨hidentity, hdatabase⟩ rfl
    exact ⟨(hmirrors.answer hrevertible hidentity hdatabase).2, hrevertible.inDatabase⟩
  obtain ⟨hlast, hall⟩ := hrun.invariant
    (I := fun a => Mirrors a.memory a.db.chain ∧ AllRevertible R a.db)
    (G := fun t => reusesIdentity t.pre.memory t.label.1 t.label.2 = false ∧
      refusedByDatabase R t.pre.db t.label.1 t.label.2 = false)
    hstep ⟨mirrors_empty, allRevertible_fresh R game⟩ fun t ht => ⟨hnew t ht, haccepted t ht⟩
  refine ⟨hlast.1.agree, fun t ht => ?_⟩
  obtain ⟨hpre, hpost⟩ := hall t ht
  exact ⟨hpre.1.agree, (hpre.1.answer hpre.2 (hnew t ht) (haccepted t ht)).1, hpost.1.agree⟩

/-! ### A fork on both stores -/

/-- The stores after a call, for replays. -/
def TwinStores.call (R : Runtime) (s : TwinStores) (l : String × DbCall) : Option TwinStores :=
  some ⟨(s.inMemory l).2, (s.inDatabase R l).2⟩

theorem TwinStores.call_sound {R : Runtime} (s : TwinStores) (l : String × DbCall) (s' : TwinStores)
    (h : s.call R l = some s') : TwinStep R s l s' := (Option.some.inj h).symm

/-- A block of the replacing branch. -/
def forkBlock (n : ℕ) : HafBlock := ⟨n, "f" ++ toString n, "b" ++ toString (n - 1), 0⟩

/-- A rejected operation of a block. -/
def strayDecision (id : String) (block : HafBlock) : OperationDecision where
  evidence :=
    { sourceOperationId := id
      transactionId := some ("tx-" ++ id)
      operationIndex := 0
      isVirtual := false
      blockNumber := block.number
      blockId := block.id
      blockTimestamp := block.timestamp
      operationType := "custom_json_operation"
      primaryAccount := "publisher"
      requiredAuthority := some .posting
      applicationId := some hiveChameleonApplicationId
      payload := .customJson [] [examplePublisher] hiveChameleonApplicationId "stray" }
  validationState := .rejected
  rejectionReason := some "invalid_event"
  event := none

/-- A call that includes a block; `base` keeps the row ids of two calls apart. -/
def includeBlock (base : ℕ) (block : HafBlock) (decisions : List OperationDecision) : DbCall :=
  .applyBlock block decisions (fun k => ⟨base + k⟩) 0

/-- Two sources, a block out of order, a fork with a replacing branch, its finalization, and a revert
below it. -/
def forkCalls : List (String × DbCall) :=
  [("haf", includeBlock 100 (chainBlock 1) [strayDecision "1" (chainBlock 1)]),
    ("haf", includeBlock 200 (chainBlock 1) []),
    ("mirror", includeBlock 300 (chainBlock 1) [strayDecision "2" (chainBlock 1)]),
    ("haf", .revertAfter 0 5),
    ("haf", includeBlock 400 (forkBlock 1) [strayDecision "3" (forkBlock 1)]),
    ("haf", .finalizeThrough 1 (fun k => ⟨500 + k⟩) 6),
    ("haf", .revertAfter 0 7)]

/-- The block and the operation come again after their revert. -/
def reusingCalls : List (String × DbCall) :=
  [("haf", includeBlock 100 (chainBlock 1) [strayDecision "1" (chainBlock 1)]),
    ("haf", .revertAfter 0 5),
    ("haf", includeBlock 200 (forkBlock 1) [strayDecision "1" (forkBlock 1)])]

/-- A block comes again after its revert. -/
def returningCalls : List (String × DbCall) :=
  [("haf", includeBlock 100 (chainBlock 1) []), ("haf", .revertAfter 0 5),
    ("haf", includeBlock 200 (chainBlock 1) [])]

/-- A batch whose schema code does not fit the column of a result. -/
def longBatch : MatchResultsBatch :=
  { exampleBatch ⟨31⟩ ⟨32⟩ ⟨33⟩ with
    results := [{ exampleResult ⟨33⟩ with
      resultSchema := ⟨"result-schema-of-forty-letters-and-more", by decide⟩ }]
    count_eq := rfl
    rounds_nodup := by simp }

def longConfig : ProjectorConfig := exampleConfig (exampleRuntime [("batch", .matchResultsBatch longBatch)])

/-- The batch is included and finalized. -/
def longCalls : List (String × DbCall) :=
  [("haf", includeBlock 100 (chainBlock 1) ((validateBlockOperations longConfig (chainBlock 1)
      [exampleOperation "1" "tx-1" 0 (chainBlock 1) "batch"]).toOption.getD [])),
    ("haf", .finalizeThrough 1 (fun k => ⟨200 + k⟩) 6)]

theorem stores_agree_forked :
    ∃ ts s, Run (TwinStep exampleChainConfig.runtime) (TwinStores.fresh exampleGame) ts s ∧
      ts.map Transition.label = forkCalls ∧
      s.memory.finality.map (·.state) = [.reverted, .included, .irreversible] ∧ StoresAgree s ∧
      ∀ t ∈ ts, StoresAgree t.pre ∧ AnsweredAlike exampleChainConfig.runtime t.pre t.label ∧
        StoresAgree t.post := by
  have hreplay : (replay (TwinStores.call exampleChainConfig.runtime) (TwinStores.fresh exampleGame)
      forkCalls).any (fun r => r.1.all (fun t => !reusesIdentity t.pre.memory t.label.1 t.label.2 &&
        !refusedByDatabase exampleChainConfig.runtime t.pre.db t.label.1 t.label.2) &&
          r.2.memory.finality.map (·.state) = [.reverted, .included, .irreversible]) = true := by
    decide +kernel
  obtain ⟨⟨ts, s⟩, hsome, hchecks⟩ := (Option.any_eq_true _ _).mp hreplay
  obtain ⟨hrun, hlabels⟩ := replay_run TwinStores.call_sound hsome
  simp only [Bool.and_eq_true, List.all_eq_true, Bool.not_eq_true', decide_eq_true_eq] at hchecks
  obtain ⟨hall, hstates⟩ := hchecks
  exact ⟨ts, s, hrun, hlabels, hstates,
    stores_agree hrun (fun t ht => (hall t ht).1) fun t ht => (hall t ht).2⟩

theorem parts_of_replay {R : Runtime} {game : GameTables} {calls : List (String × DbCall)}
    {p : TwinStores → String × DbCall → Bool}
    (h : (replay (TwinStores.call R) (TwinStores.fresh game) calls).any (fun r =>
      r.1.all (fun t => !p t.pre t.label) && r.1.any (fun t =>
        (t.pre.inMemory t.label).1.isOk != (t.pre.inDatabase R t.label).1.isOk)) = true) :
    ∃ ts s, Run (TwinStep R) (TwinStores.fresh game) ts s ∧ ts.map Transition.label = calls ∧
      (∀ t ∈ ts, p t.pre t.label = false) ∧ ∃ t ∈ ts, ¬ AnsweredAlike R t.pre t.label := by
  obtain ⟨⟨ts, s⟩, hsome, hchecks⟩ := (Option.any_eq_true _ _).mp h
  obtain ⟨hrun, hlabels⟩ := replay_run TwinStores.call_sound hsome
  simp only [Bool.and_eq_true, List.all_eq_true, List.any_eq_true, Bool.not_eq_true', bne_iff_ne] at hchecks
  obtain ⟨hall, t, ht, hdiffer⟩ := hchecks
  exact ⟨ts, s, hrun, hlabels, hall, t, ht, fun halike => hdiffer (by rw [halike.outcome])⟩

/-- **Where they part**: over an identity that comes again after its revert, over a block that the
database refuses, and over a finalization that it refuses. -/
theorem stores_part :
    (∃ ts s, Run (TwinStep exampleChainConfig.runtime) (TwinStores.fresh exampleGame) ts s ∧
      ts.map Transition.label = reusingCalls ∧
      (∀ t ∈ ts, refusedByDatabase exampleChainConfig.runtime t.pre.db t.label.1 t.label.2 = false) ∧
      ∃ t ∈ ts, ¬ AnsweredAlike exampleChainConfig.runtime t.pre t.label) ∧
    (∃ ts s, Run (TwinStep exampleChainConfig.runtime) (TwinStores.fresh exampleGame) ts s ∧
      ts.map Transition.label = returningCalls ∧
      (∀ t ∈ ts, reusesIdentity t.pre.memory t.label.1 t.label.2 = false) ∧
      ∃ t ∈ ts, ¬ AnsweredAlike exampleChainConfig.runtime t.pre t.label) ∧
    ∃ ts s, Run (TwinStep longConfig.runtime) (TwinStores.fresh exampleGame) ts s ∧
      ts.map Transition.label = longCalls ∧
      (∀ t ∈ ts, reusesIdentity t.pre.memory t.label.1 t.label.2 = false) ∧
      ∃ t ∈ ts, ¬ AnsweredAlike longConfig.runtime t.pre t.label := by
  refine ⟨?_, ?_, ?_⟩
  · exact parts_of_replay
      (p := fun s l => refusedByDatabase exampleChainConfig.runtime s.db l.1 l.2) (by decide +kernel)
  · exact parts_of_replay (p := fun s l => reusesIdentity s.memory l.1 l.2) (by decide +kernel)
  · exact parts_of_replay (p := fun s l => reusesIdentity s.memory l.1 l.2) (by decide +kernel)

end HiveChameleon.Projector
