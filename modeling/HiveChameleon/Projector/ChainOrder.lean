import HiveChameleon.Lib.Sorting
import HiveChameleon.Projector.Calls
import HiveChameleon.Projector.HafahSource
import HiveChameleon.Projector.ResultChain

/-!
# Projector.ChainOrder — the order in which events are materialized

The chain orders its operations by block, by the place of the transaction in the block, and by the
place of the operation in the transaction.  `ORDER BY block_number, operation_index, id` leaves the
transaction out, so two events of one block are materialized by their places inside their own
transactions.
-/

namespace HiveChameleon.Projector

open Gateway Lib

/-! ### The order of the chain -/

section Order

variable (place : String → Option String → ℕ)

/-- The place of an operation's transaction in its block; `place` takes a block and a transaction. -/
def OperationRow.transactionPlace (op : OperationRow) : ℕ := place op.blockId op.transactionId

/-- **Chain order**: `a` stands before `b` on the chain. -/
def ChainBefore (a b : OperationRow) : Prop :=
  a.blockNumber < b.blockNumber ∨ a.blockNumber = b.blockNumber ∧
    (a.transactionPlace place < b.transactionPlace place ∨
      a.transactionPlace place = b.transactionPlace place ∧ a.operationIndex < b.operationIndex)

/-- Nothing stands behind what follows it on the chain. -/
def InChainOrder (operations : List OperationRow) : Prop :=
  operations.Pairwise fun a b => ¬ ChainBefore place b a

instance : DecidableRel (ChainBefore place) := fun _ _ => inferInstanceAs (Decidable (_ ∨ _))

instance (operations : List OperationRow) : Decidable (InChainOrder place operations) :=
  inferInstanceAs (Decidable (List.Pairwise _ _))

end Order

/-- The event that a correction or an invalidation supersedes. -/
def supersededEvent : HiveChameleonEvent → Option Uuid
  | .matchResultCorrected e => some e.supersedesEventId
  | .matchResultInvalidated e => some e.supersedesEventId
  | _ => none

section Finalized

variable (R : Runtime) (source : String)

/-- The operation `a` publishes a correction or an invalidation of the event of `b`. -/
def Supersedes (a b : OperationRow) : Prop :=
  ∃ event target, eventFromOperationPayload R a.payload = .ok event ∧
    eventFromOperationPayload R b.payload = .ok target ∧ supersededEvent event = some target.eventId

/-- No correction and no invalidation that follows its target on the chain stands before it. -/
def TargetsFirst (place : String → Option String → ℕ) (operations : List OperationRow) : Prop :=
  operations.Pairwise fun a b => ¬ (Supersedes R a b ∧ ChainBefore place b a)

/-- The operations that become irreversible in a step, in the order in which they are materialized. -/
def becomesIrreversible (t : Transition Db DbCall) : List OperationRow :=
  ((t.label.materialized R source t.pre).map (·.label)).filter fun op =>
    (t.pre.chain.operation.find? op.id).any (·.state = .included)

/-- Those of a run, in their order. -/
def materializationsOf (ts : List (Transition Db DbCall)) : List OperationRow :=
  ts.flatMap (becomesIrreversible R source)

/-- **What a step selects**: an accepted event of an included block that a committed finalization
reaches. -/
structure Selects (t : Transition Db DbCall) (op : OperationRow) : Prop where
  mem : op ∈ t.pre.chain.operation
  included : op.state = .included
  accepted : op.validationState = .accepted
  application : op.applicationId = some hiveChameleonApplicationId
  reached : ∃ n ids time, t.label = .finalizeThrough n ids time ∧
    (∃ db', finalizeThrough R source n ids time t.pre = .ok db') ∧
    onHeights t.pre.chain source (· ≤ n) op

/-- **Places agree**: of two events of one block that a step selects, the one of the earlier
transaction has the smaller place inside its transaction, or the same place and the smaller row id. -/
def PlacesAgree (place : String → Option String → ℕ) (t : Transition Db DbCall) : Prop :=
  ∀ a b, Selects R source t a → Selects R source t b → a.blockNumber = b.blockNumber →
    a.transactionPlace place < b.transactionPlace place →
      a.operationIndex < b.operationIndex ∨ a.operationIndex = b.operationIndex ∧ a.id.val ≤ b.id.val

end Finalized

/-! ### What a step materializes -/

section Selected

variable {R : Runtime} {source : String} {t : Transition Db DbCall}

theorem materializations_labels {game : GameTables} {t : ChainTables} {ids : ℕ → Uuid}
    {irreversibleAt : Timestamp} : ∀ {operations : List OperationRow} {vx vx' : ViewTx},
    materializeOperations R game t ids irreversibleAt operations vx = .ok vx' →
      (materializations R game t ids irreversibleAt operations vx).map (·.label) = operations
  | [], _, _, _ => rfl
  | operation :: operations, vx, vx', h => by
    simp only [materializeOperations, bind_eq_ok] at h
    obtain ⟨mid, hmid, h⟩ := h
    rw [materializations, hmid, List.map_cons, materializations_labels h]

/-- A committed finalization materializes what it selects by its `ORDER BY`. -/
theorem materialized_labels {n : ℕ} {ids : ℕ → Uuid} {time : Timestamp} {db db' : Db}
    (h : finalizeThrough R source n ids time db = .ok db') :
    ((DbCall.finalizeThrough n ids time).materialized R source db).map (·.label) =
      irreversibleOperations db'.chain source n time := by
  have hparts := h
  rw [finalizeThrough_eq] at hparts
  simp only [bind_eq_ok, Prod.exists] at hparts
  obtain ⟨t, deferred, hfinalizing, vx, hmaterialize, hcommit⟩ := hparts
  obtain ⟨-, rfl⟩ := commit_eq_ok.mp hcommit
  simp only [DbCall.materialized, h, hfinalizing]
  exact materializations_labels hmaterialize

theorem becomesIrreversible_cases (R : Runtime) (source : String) (t : Transition Db DbCall) :
    becomesIrreversible R source t = [] ∨
      ∃ n ids time db', t.label = .finalizeThrough n ids time ∧
        finalizeThrough R source n ids time t.pre = .ok db' ∧
          becomesIrreversible R source t = (irreversibleOperations db'.chain source n time).filter fun op =>
            (t.pre.chain.operation.find? op.id).any (·.state = .included) := by
  obtain ⟨pre, call, post⟩ := t
  cases call with
  | applyBlock block decisions ids observedAt => exact .inl rfl
  | revertAfter ancestorBlock revertedAt => exact .inl rfl
  | changeGame game => exact .inl rfl
  | finalizeThrough n ids time =>
    cases hfinalize : finalizeThrough R source n ids time pre with
    | error e =>
      left
      simp only [becomesIrreversible, DbCall.materialized, hfinalize, List.map_nil, List.filter_nil]
    | ok db' =>
      right
      refine ⟨n, ids, time, db', rfl, hfinalize, ?_⟩
      rw [becomesIrreversible, materialized_labels hfinalize]

theorem selects_of_mem {row : OperationRow} (h : row ∈ becomesIrreversible R source t) :
    ∃ op, Selects R source t op ∧
      ∃ n ids time, t.label = .finalizeThrough n ids time ∧ row = op.finalize time := by
  rcases becomesIrreversible_cases R source t with hnil | ⟨n, ids, time, db', hlabel, hok, hrows⟩
  · rw [hnil] at h
    cases h
  · rw [hrows, List.mem_filter, irreversibleOperations, List.mem_insertionSort, List.mem_filter] at h
    obtain ⟨⟨hmem, hselected⟩, hbefore⟩ := h
    simp only [Bool.and_eq_true, decide_eq_true_eq] at hselected
    obtain ⟨⟨⟨⟨-, hstate⟩, -⟩, haccepted⟩, happlication⟩ := hselected
    obtain ⟨-, hchain, -⟩ := finalizeThrough_spec hok
    rw [hchain] at hmem
    rcases Table.mem_modify_cases hmem with ⟨op, hop, ⟨hreached, hincluded⟩, rfl⟩ | ⟨hop, -⟩
    · have hop : op ∈ t.pre.chain.operation := by simpa using hop
      have hreached : onHeights t.pre.chain source (· ≤ n) op := by
        simpa only [onHeights, ensureCursor_blockCheckpoint] using hreached
      exact ⟨op, ⟨hop, hincluded, haccepted, happlication, n, ids, time, hlabel, ⟨db', hok⟩, hreached⟩,
        n, ids, time, hlabel, rfl⟩
    · -- a row that was not finalized now was irreversible before
      have hop : row ∈ t.pre.chain.operation := by simpa using hop
      rw [Table.find?_key hop, Option.any_some, decide_eq_true_eq, hstate] at hbefore
      cases hbefore

theorem mem_of_selects {op : OperationRow} (h : Selects R source t op) :
    ∃ time, op.finalize time ∈ becomesIrreversible R source t := by
  obtain ⟨n, ids, time, hlabel, ⟨db', hok⟩, hreached⟩ := h.reached
  refine ⟨time, ?_⟩
  have hrows : becomesIrreversible R source t =
      (irreversibleOperations db'.chain source n time).filter fun op =>
        (t.pre.chain.operation.find? op.id).any (·.state = .included) := by
    rw [becomesIrreversible, hlabel, materialized_labels hok]
  obtain ⟨-, hchain, -⟩ := finalizeThrough_spec hok
  have hon : onHeights (ensureCursor source t.pre.chain) source (· ≤ n) op := by
    simpa only [onHeights, ensureCursor_blockCheckpoint] using hreached
  have hmem : op.finalize time ∈ db'.chain.operation := by
    rw [hchain]
    exact Table.mem_modify_of (by simpa using h.mem) ⟨hon, h.included⟩
  rw [hrows, List.mem_filter, irreversibleOperations, List.mem_insertionSort, List.mem_filter]
  refine ⟨⟨hmem, ?_⟩, ?_⟩
  · have hcheckpoint : ((db'.chain.blockCheckpoint.find? op.checkpointId).any fun c =>
        c.source = source && decide (c.blockNumber ≤ n)) = true := by
      rw [hchain]
      obtain ⟨c, hc, hreads⟩ := (Option.any_eq_true _ _).mp hon
      have hmodified : (finalizedTables source n time (ensureCursor source t.pre.chain)).blockCheckpoint.find?
          op.checkpointId = some (finalizedCheckpoint source n time c) := by
        rw [finalizedTables, Table.find?_modify, hc]
        rfl
      rw [hmodified, Option.any_some, finalizedCheckpoint_source, finalizedCheckpoint_blockNumber]
      exact hreads
    simp only [OperationRow.finalize, hcheckpoint, h.accepted, h.application, decide_true, Bool.and_true]
  · show ((t.pre.chain.operation.find? op.id).any fun op => decide (op.state = .included)) = true
    rw [Table.find?_key h.mem, Option.any_some, h.included]
    rfl

instance : Std.Total materializationOrder where
  total a b := by
    unfold materializationOrder
    omega

instance : IsTrans OperationRow materializationOrder where
  trans a b c := by
    unfold materializationOrder
    omega

theorem becomesIrreversible_ordered (R : Runtime) (source : String) (t : Transition Db DbCall) :
    (becomesIrreversible R source t).Pairwise materializationOrder := by
  rcases becomesIrreversible_cases R source t with hnil | ⟨n, ids, time, db', -, -, hrows⟩
  · rw [hnil]
    exact .nil
  · rw [hrows]
    exact (List.pairwise_insertionSort materializationOrder _).filter _

theorem chainBefore_finalize {place : String → Option String → ℕ} {a b : OperationRow}
    {m n : Timestamp} :
    ChainBefore place (a.finalize m) (b.finalize n) ↔ ChainBefore place a b := Iff.rfl

theorem materializationOrder_finalize {a b : OperationRow} {m n : Timestamp} :
    materializationOrder (a.finalize m) (b.finalize n) ↔ materializationOrder a b := Iff.rfl

/-- **One step keeps the chain's order** exactly when places agree in it. -/
theorem becomesIrreversible_inChainOrder_iff {place : String → Option String → ℕ} :
    InChainOrder place (becomesIrreversible R source t) ↔ PlacesAgree R source place t := by
  have hirrefl : ∀ row : OperationRow, ¬ ChainBefore place row row := by
    rintro row (hlt | ⟨-, hlt | ⟨-, hlt⟩⟩)
    · exact lt_irrefl _ hlt
    · exact lt_irrefl _ hlt
    · exact lt_irrefl _ hlt
  have hanti : ∀ a ∈ becomesIrreversible R source t, ∀ b ∈ becomesIrreversible R source t,
      materializationOrder a b → materializationOrder b a → a = b := by
    intro a ha b hb hab hba
    obtain ⟨op, hop, n, ids, time, hlabel, rfl⟩ := selects_of_mem ha
    obtain ⟨op', hop', n', ids', time', hlabel', rfl⟩ := selects_of_mem hb
    have hval : op.id.val = op'.id.val := by
      rw [materializationOrder_finalize, materializationOrder] at hab hba
      omega
    have hid : op.id = op'.id := by
      rw [← Uuid.mk.injEq] at hval
      exact hval
    have htime : time = time' := by
      rw [hlabel] at hlabel'
      cases hlabel'
      rfl
    rw [Table.eq_of_key hop.mem hop'.mem hid, htime]
  rw [InChainOrder, pairwise_iff_of_sorted (becomesIrreversible_ordered R source t)
    (fun a _ => hirrefl a) hanti]
  constructor
  · intro h a b ha hb hblock hplace
    obtain ⟨m, hma⟩ := mem_of_selects ha
    obtain ⟨n, hnb⟩ := mem_of_selects hb
    have hbefore : ChainBefore place a b := .inr ⟨hblock, .inl hplace⟩
    rcases h _ hma _ hnb (not_not.mpr (chainBefore_finalize.mpr hbefore)) with hlt | ⟨-, horder⟩
    · exact absurd hblock hlt.ne
    · exact horder
  · intro h a ha b hb hbefore
    obtain ⟨op, hop, -, -, m, -, rfl⟩ := selects_of_mem ha
    obtain ⟨op', hop', -, -, n, -, rfl⟩ := selects_of_mem hb
    rcases chainBefore_finalize.mp (not_not.mp hbefore) with hlt | ⟨hblock, hplace | ⟨-, hindex⟩⟩
    · exact .inl hlt
    · exact .inr ⟨hblock, h op op' hop hop' hblock hplace⟩
    · exact .inr ⟨hblock, .inl hindex⟩

end Selected

/-! ### Finalizations go up -/

/-- **Heights**: what is included lies above the irreversible height, and an operation has the height
of its checkpoint. -/
structure HeightsFiled (source : String) (t : ChainTables) : Prop where
  agrees : FinalityAgrees source t
  above : ∀ c ∈ t.blockCheckpoint, c.source = source → c.state = .included →
    lastIrreversible source t < c.blockNumber
  le : lastIrreversible source t ≤ lastProcessed source t
  number : ∀ op ∈ t.operation, ∃ c ∈ t.blockCheckpoint, c.id = op.checkpointId ∧
    c.blockNumber = op.blockNumber

section Heights

variable {R : Runtime} {source : String} {t : ChainTables} {db db' : Db}

theorem numbered_modify {checkpoints : Table BlockCheckpointRow (·.id)}
    {operations : Table OperationRow (·.id)} {p : BlockCheckpointRow → Prop} {q : OperationRow → Prop}
    [DecidablePred p] [DecidablePred q] {f : Table.Assignment BlockCheckpointRow.id}
    {g : Table.Assignment OperationRow.id} (hf : ∀ c, (f c).blockNumber = c.blockNumber)
    (hg : ∀ op, (g op).checkpointId = op.checkpointId ∧ (g op).blockNumber = op.blockNumber)
    (h : ∀ op ∈ operations, ∃ c ∈ checkpoints, c.id = op.checkpointId ∧
      c.blockNumber = op.blockNumber) :
    ∀ op ∈ operations.modify q g, ∃ c ∈ checkpoints.modify p f, c.id = op.checkpointId ∧
      c.blockNumber = op.blockNumber := by
  intro op' hop'
  obtain ⟨op, hop, rfl⟩ := Table.mem_modify.mp hop'
  obtain ⟨c, hc, hid, hheight⟩ := h op hop
  have hcheckpoint : (Table.updated q g op).checkpointId = op.checkpointId :=
    Table.updated_eq (g := fun row : OperationRow => row.checkpointId) (fun row => (hg row).1) op
  have hnumber : (Table.updated q g op).blockNumber = op.blockNumber :=
    Table.updated_eq (g := fun row : OperationRow => row.blockNumber) (fun row => (hg row).2) op
  have hheight' : (Table.updated p f c).blockNumber = c.blockNumber :=
    Table.updated_eq (g := fun row : BlockCheckpointRow => row.blockNumber) hf c
  refine ⟨_, Table.updated_mem_modify hc, ?_, ?_⟩
  · rw [hcheckpoint, ← hid]
    exact Table.key_updated c
  · rw [hnumber, hheight', hheight]

theorem heightsFiled_empty (source : String) :
    HeightsFiled source ⟨Table.empty, Table.empty, Table.empty, Table.empty⟩ where
  agrees := (consistent_empty source).finalityAgrees
  above _ hc := absurd hc Table.not_mem_empty
  le := (consistent_empty source).irreversible_le
  number _ hop := absurd hop Table.not_mem_empty

theorem HeightsFiled.ensureCursor (h : HeightsFiled source t) :
    HeightsFiled source (ensureCursor source t) where
  agrees := by
    refine ⟨?_, ?_, ?_⟩
    · simpa using h.agrees.irreversible_le
    · simpa using h.agrees.operation_state
    · simpa using h.agrees.event_state
  above := by simpa using h.above
  le := by simpa using h.le
  number := by simpa using h.number

theorem HeightsFiled.applyBlock {block : HafBlock} {decisions : List OperationDecision}
    {ids : ℕ → Uuid} {observedAt : Timestamp} (h : HeightsFiled source db.chain)
    (hok : applyBlock R source block decisions ids observedAt db = .ok db') :
    HeightsFiled source db'.chain := by
  obtain ⟨ha, -, -⟩ := applyBlock_spec hok
  have hle := h.le
  have hnumber := ha.number
  refine ⟨h.agrees.apply ha, fun c hc hsource hincluded => ?_, ?_, fun op hop => ?_⟩
  · rw [ha.irreversible]
    rcases ha.mem_checkpoint.mp hc with hc | rfl
    · exact h.above c hc hsource hincluded
    · show lastIrreversible source db.chain < block.number
      omega
  · rw [ha.irreversible, ha.processed]
    omega
  · obtain ⟨rows, hrows, hadded⟩ := applyBlock_rows hok
    rw [Table.mem_def, hrows] at hop
    rcases List.mem_append.mp hop with hop | hop
    · obtain ⟨c, hc, hid, hheight⟩ := h.number op hop
      exact ⟨c, ha.mem_checkpoint.mpr (.inl hc), hid, hheight⟩
    · obtain ⟨k, rfl⟩ := List.mem_iff_get.mp hop
      have hk : k.val < decisions.length := by
        rw [hadded.length_eq]
        exact k.isLt
      obtain ⟨hheight, id, hrow⟩ := hadded.get hk k.isLt
      refine ⟨_, ha.mem_checkpoint.mpr (.inr rfl), ?_, ?_⟩
      · rw [hrow]
        rfl
      · rw [hrow]
        exact hheight.symm

theorem HeightsFiled.revert {ancestorBlock : ℕ} {time : Timestamp} (h : HeightsFiled source t)
    {row : SyncCursorRow} (hrow : t.syncCursor.find? source = some row)
    (hguard : lastIrreversible source t ≤ ancestorBlock) :
    HeightsFiled source (revertedTables source ancestorBlock time t) where
  agrees := h.agrees.revert hguard
  above c hc hsource hincluded := by
    rw [lastIrreversible_revertedTables]
    rcases Table.mem_modify_cases hc with ⟨d, -, -, rfl⟩ | ⟨hc, -⟩
    · cases hincluded
    · exact h.above c hc hsource hincluded
  le := by
    rw [lastIrreversible_revertedTables, lastProcessed_revertedTables hrow]
    exact hguard
  number := numbered_modify (fun _ => rfl) (fun _ => ⟨rfl, rfl⟩) h.number

theorem HeightsFiled.finalize {n : ℕ} {time : Timestamp} (h : HeightsFiled source t)
    {row : SyncCursorRow} (hrow : t.syncCursor.find? source = some row)
    (hle : n ≤ lastProcessed source t) : HeightsFiled source (finalizedTables source n time t) where
  agrees := h.agrees.finalize hrow
  above c hc hsource hincluded := by
    rw [lastIrreversible_finalizedTables hrow]
    rcases Table.mem_modify_cases hc with ⟨d, -, -, rfl⟩ | ⟨hc, hnot⟩
    · cases hincluded
    · have hbelow := h.above c hc hsource hincluded
      have habove : n < c.blockNumber := by
        by_contra hle
        exact hnot ⟨hsource, not_lt.mp hle, hincluded⟩
      omega
  le := by
    rw [lastIrreversible_finalizedTables hrow, lastProcessed_finalizedTables]
    exact max_le h.le hle
  number := numbered_modify (fun _ => rfl) (fun _ => ⟨rfl, rfl⟩) h.number

theorem HeightsFiled.step {call : DbCall} (h : HeightsFiled source db.chain)
    (hstep : CallStep R source db call db') :
    HeightsFiled source db'.chain ∧
      lastIrreversible source db.chain ≤ lastIrreversible source db'.chain := by
  rcases hstep with hok | ⟨-, rfl⟩
  · cases call with
    | applyBlock block decisions ids observedAt =>
      have ha := (applyBlock_spec hok).1
      exact ⟨h.applyBlock hok, ha.irreversible.ge⟩
    | revertAfter ancestorBlock revertedAt =>
      obtain ⟨hguard, rfl⟩ := revertAfter_spec hok
      refine ⟨h.ensureCursor.revert ensureCursor_find? (by simpa using hguard), ?_⟩
      rw [lastIrreversible_revertedTables]
      simp
    | finalizeThrough n ids time =>
      obtain ⟨hle, hchain, -⟩ := finalizeThrough_spec hok
      rw [hchain]
      refine ⟨h.ensureCursor.finalize ensureCursor_find? (by simpa using hle), ?_⟩
      rw [lastIrreversible_finalizedTables ensureCursor_find?]
      simp
    | changeGame game =>
      obtain rfl := Except.ok.inj hok
      exact ⟨h, le_rfl⟩
  · exact ⟨h, le_rfl⟩

theorem Selects.above {t : Transition Db DbCall} {op : OperationRow} (h : Selects R source t op)
    (hfiled : HeightsFiled source t.pre.chain) :
    lastIrreversible source t.pre.chain < op.blockNumber := by
  obtain ⟨n, -, -, -, -, hreached⟩ := h.reached
  obtain ⟨c, hc, hid, hstate⟩ := hfiled.agrees.operation_state op h.mem
  obtain ⟨d, hd, hid', hheight⟩ := hfiled.number op h.mem
  have hsource := ((onHeights_iff hc hid).mp hreached).1
  rw [← hheight, ← Table.eq_of_key hc hd (hid.trans hid'.symm)]
  exact hfiled.above c hc hsource (hstate.trans h.included)

theorem Selects.reached_by {t : Transition Db DbCall} {op : OperationRow} (h : Selects R source t op)
    (hfiled : HeightsFiled source t.pre.chain) (hstep : CallStep R source t.pre t.label t.post) :
    op.blockNumber ≤ lastIrreversible source t.post.chain := by
  obtain ⟨n, ids, time, hlabel, ⟨db', hok⟩, hreached⟩ := h.reached
  have hpost : db' = t.post := by
    rw [hlabel] at hstep
    rcases hstep with hcommitted | ⟨⟨e, herror⟩, -⟩
    · exact Except.ok.inj (hok.symm.trans hcommitted)
    · cases hok.symm.trans herror
  obtain ⟨d, hd, hid, hheight⟩ := hfiled.number op h.mem
  have hle := ((onHeights_iff hd hid).mp hreached).2
  rw [decide_eq_true_eq] at hle
  obtain ⟨-, hchain, -⟩ := finalizeThrough_spec hok
  rw [← hpost, hchain, lastIrreversible_finalizedTables ensureCursor_find?]
  omega

end Heights

/-! ### Runs -/

section Runs

variable {R : Runtime} {source : String} {game : GameTables} {db : Db} {ts : List (Transition Db DbCall)}

/-- **Finalizations go up**: a later one materializes higher blocks. -/
theorem materializations_ascend (h : Run (CallStep R source) (Db.fresh game) ts db) :
    HeightsFiled source db.chain ∧
      (∀ t ∈ ts, ∀ row ∈ becomesIrreversible R source t,
        row.blockNumber ≤ lastIrreversible source db.chain) ∧
      ts.Pairwise fun t t' => ∀ a ∈ becomesIrreversible R source t,
        ∀ b ∈ becomesIrreversible R source t', a.blockNumber < b.blockNumber := by
  induction h with
  | refl => exact ⟨heightsFiled_empty source, fun t ht => (by cases ht), .nil⟩
  | @snoc m S ts call _ hstep ih =>
    obtain ⟨hfiled, hbelow, hascend⟩ := ih
    obtain ⟨hfiled', hle⟩ := hfiled.step hstep
    refine ⟨hfiled', fun t ht row hrow => ?_, ?_⟩
    · rcases List.mem_append.mp ht with ht | ht
      · exact (hbelow t ht row hrow).trans hle
      · rw [List.mem_singleton.mp ht] at hrow
        obtain ⟨op, hop, -, -, -, -, rfl⟩ := selects_of_mem hrow
        exact hop.reached_by hfiled hstep
    · rw [List.pairwise_append]
      refine ⟨hascend, List.pairwise_singleton _ _, fun t ht t' ht' a ha b hb => ?_⟩
      rw [List.mem_singleton.mp ht'] at hb
      obtain ⟨op, hop, -, -, -, -, rfl⟩ := selects_of_mem hb
      exact (hbelow t ht a ha).trans_lt (hop.above hfiled)

/-- **Chain order**: over every run of store calls, the events that become irreversible are
materialized in the order of the chain, and no correction or invalidation before its target, exactly
when in each finalization the places inside the transactions agree with the chain. -/
theorem materialized_in_chain_order_iff (place : String → Option String → ℕ)
    (h : Run (CallStep R source) (Db.fresh game) ts db) :
    (InChainOrder place (materializationsOf R source ts) ∧
        TargetsFirst R place (materializationsOf R source ts)) ↔
      ∀ t ∈ ts, PlacesAgree R source place t := by
  have hwhole : InChainOrder place (materializationsOf R source ts) ↔
      ∀ t ∈ ts, InChainOrder place (becomesIrreversible R source t) := by
    rw [InChainOrder, materializationsOf, List.pairwise_flatMap]
    refine and_iff_left ((materializations_ascend h).2.2.imp fun hascend a ha b hb => ?_)
    have hlt := hascend a ha b hb
    rintro (hblock | ⟨hblock, -⟩)
    · omega
    · omega
  have htargets : InChainOrder place (materializationsOf R source ts) →
      TargetsFirst R place (materializationsOf R source ts) := fun horder =>
    horder.imp fun hbefore hboth => hbefore hboth.2
  rw [and_iff_left_of_imp htargets, hwhole]
  exact forall₂_congr fun t _ => becomesIrreversible_inChainOrder_iff

end Runs

/-! ### An invalidation that stands before its batch -/

/-- A call that commits. -/
def DbCall.commit? (R : Runtime) (source : String) (db : Db) (call : DbCall) : Option Db :=
  (call.perform R source db).toOption

theorem callStep_of_commit? {R : Runtime} {source : String} (db : Db) (call : DbCall) (db' : Db)
    (h : call.commit? R source db = some db') : CallStep R source db call db' :=
  .inl (toOption_eq_some.mp h)

/-- A block with a batch and its invalidation, each with its transaction and its place there. -/
def oneBlock (batch invalidation : String × ℕ) : List DbCall :=
  [.applyBlock (chainBlock 1)
      ((validateBlockOperations exampleChainConfig (chainBlock 1)
        ([exampleOperation "op1" batch.1 batch.2 (chainBlock 1) "batch",
          exampleOperation "op2" invalidation.1 invalidation.2 (chainBlock 1) "invalidation"].insertionSort
            operationOrder)).toOption.getD [])
      (fun k => ⟨100 + k⟩) 0,
    .finalizeThrough 1 (fun k => ⟨200 + k⟩) 10]

/-- The first transaction of a block is `tx1`. -/
def firstTransaction (_ : String) (transactionId : Option String) : ℕ :=
  if transactionId = some "tx1" then 0 else 1

/-- The second operation of the first transaction is a batch, the first one of the second transaction
its invalidation: it is materialized first, finds no result, and is never applied. -/
theorem invalidation_before_its_batch :
    ∃ ts db, Run (CallStep exampleChainConfig.runtime "haf") (Db.fresh exampleGame) ts db ∧
      db.views.matchResult.rows.length = 1 ∧ db.views.matchResultChange.rows = [] ∧
        ¬ (InChainOrder firstTransaction (materializationsOf exampleChainConfig.runtime "haf" ts) ∧
          TargetsFirst exampleChainConfig.runtime firstTransaction
            (materializationsOf exampleChainConfig.runtime "haf" ts)) := by
  have hreplay : (replay (DbCall.commit? exampleChainConfig.runtime "haf") (Db.fresh exampleGame)
      (oneBlock ("tx1", 1) ("tx2", 0))).any (fun run => run.2.views.matchResult.rows.length = 1 ∧
        run.2.views.matchResultChange.rows.length = 0 ∧
          ¬ InChainOrder firstTransaction
            (materializationsOf exampleChainConfig.runtime "haf" run.1)) = true := by
    decide +kernel
  obtain ⟨⟨ts, db⟩, hrun, hchecked⟩ := (Option.any_eq_true _ _).mp hreplay
  obtain ⟨hresult, hchange, horder⟩ := of_decide_eq_true hchecked
  exact ⟨ts, db, (replay_run callStep_of_commit? hrun).1, hresult, List.length_eq_zero_iff.mp hchange,
    fun hboth => horder hboth.1⟩

theorem materialized_in_chain_order_iff_invalidated :
    ∃ ts db, Run (CallStep exampleChainConfig.runtime "haf") (Db.fresh exampleGame) ts db ∧
      db.views.matchResultChange.rows.length = 1 ∧
        ((InChainOrder firstTransaction (materializationsOf exampleChainConfig.runtime "haf" ts) ∧
          TargetsFirst exampleChainConfig.runtime firstTransaction
            (materializationsOf exampleChainConfig.runtime "haf" ts)) ↔
          ∀ t ∈ ts, PlacesAgree exampleChainConfig.runtime "haf" firstTransaction t) := by
  have hreplay : (replay (DbCall.commit? exampleChainConfig.runtime "haf") (Db.fresh exampleGame)
      (oneBlock ("tx1", 0) ("tx2", 1))).any (fun run => run.2.views.matchResultChange.rows.length = 1) =
        true := by
    decide +kernel
  obtain ⟨⟨ts, db⟩, hrun, hchecked⟩ := (Option.any_eq_true _ _).mp hreplay
  have hts := (replay_run callStep_of_commit? hrun).1
  exact ⟨ts, db, hts, of_decide_eq_true hchecked, materialized_in_chain_order_iff firstTransaction hts⟩

end HiveChameleon.Projector
