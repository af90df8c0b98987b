import HiveChameleon.Lib.Ledger
import HiveChameleon.Projector.ExactlyOnce
import HiveChameleon.Projector.Reported

/-!
# Projector.ForkHistory — the current chain is what survives the forks

The tables keep every reverted row.  What the projection shows as current (the headers of the chain,
the operations with their verdicts, how far each of them is final) is a ledger: blocks are pushed,
cut off and settled.  A history with forks shows what the blocks that survive it would show alone.
-/

namespace HiveChameleon.Projector

open Gateway Lib

/-- A block with the decisions on its operations. -/
abbrev DecidedBlock := HafBlock × List OperationDecision

/-- What a step does to the ledger when it commits. -/
def moveOf (R : Runtime) (source : String) (t : Transition Db DbCall) : Option (Ledger.Move DecidedBlock) :=
  match t.label, t.label.perform R source t.pre with
  | .applyBlock block decisions _ _, .ok _ => some (.push (block, decisions))
  | .revertAfter ancestorBlock _, .ok _ => some (.cut ancestorBlock)
  | .finalizeThrough blockNumber _ _, .ok _ => some (.settle blockNumber)
  | _, _ => none

def movesOf (R : Runtime) (source : String) (ts : List (Transition Db DbCall)) :
    List (Ledger.Move DecidedBlock) :=
  ts.filterMap (moveOf R source)

/-- The ledger of a run. -/
def ledgerOf (R : Runtime) (source : String) (ts : List (Transition Db DbCall)) : Ledger DecidedBlock :=
  .after (movesOf R source ts)

/-- Evidence and verdict of an operation. -/
structure Verdict where
  evidence : RawOperationEvidence
  validationState : ValidationState
  rejectionReason : Option String

/-- The current chain: the two heights, the headers and the operations, with their finality. -/
@[ext] structure CurrentView where
  lastProcessed : ℕ
  lastIrreversible : ℕ
  blocks : List (HafBlock × OperationState)
  operations : List (Verdict × OperationState)

def OperationDecision.verdict (decision : OperationDecision) : Verdict :=
  ⟨decision.evidence, decision.validationState, decision.rejectionReason⟩

def OperationRow.verdict (op : OperationRow) : Verdict :=
  ⟨op.evidence, op.validationState, op.rejectionReason⟩

def BlockCheckpointRow.header (c : BlockCheckpointRow) : HafBlock :=
  ⟨c.blockNumber, c.blockId, c.previousBlockId.getD "", c.blockTimestamp⟩

/-- The finality of a height of the current chain. -/
def finality (lastIrreversible height : ℕ) : OperationState :=
  if height ≤ lastIrreversible then .irreversible else .included

/-- What the tables show as current. -/
def currentView (source : String) (t : ChainTables) : CurrentView where
  lastProcessed := lastProcessed source t
  lastIrreversible := lastIrreversible source t
  blocks := (t.blockCheckpoint.rows.filter fun c => c.Current source).map fun c => (c.header, c.state)
  operations := (t.operation.rows.filter fun op => op.state ≠ .reverted).map fun op =>
    (op.verdict, op.state)

/-- What a ledger of blocks shows. -/
def ledgerView (l : Ledger DecidedBlock) : CurrentView where
  lastProcessed := l.entries.length
  lastIrreversible := l.settled
  blocks := l.entries.map fun entry => (entry.1, finality l.settled entry.1.number)
  operations := l.entries.flatMap fun entry => entry.2.map fun decision =>
    (decision.verdict, finality l.settled entry.1.number)

/-- A revert names an ancestor at or below the cursor, as the fork search of a projector does. -/
def RevertsDown (source : String) (t : Transition Db DbCall) : Prop :=
  match t.label with
  | .revertAfter ancestorBlock _ => ancestorBlock ≤ lastProcessed source t.pre.chain
  | _ => True

instance (source : String) (t : Transition Db DbCall) : Decidable (RevertsDown source t) := by
  unfold RevertsDown; split <;> infer_instance

/-- **The ledger of the tables**: consistent tables of one source whose current rows are the entries,
in their order. -/
structure Represents (source : String) (l : Ledger DecidedBlock) (t : ChainTables) : Prop where
  consistent : Consistent source t
  filed : OneSource source t
  processed : lastProcessed source t = l.entries.length
  settled : lastIrreversible source t = l.settled
  numbered : l.Numbered fun entry => entry.1.number
  blocks : (t.blockCheckpoint.rows.filter fun c => c.Current source).map BlockCheckpointRow.header =
    l.entries.map Prod.fst
  operations : (t.operation.rows.filter fun op => op.state ≠ .reverted).map OperationRow.verdict =
    l.entries.flatMap fun entry => entry.2.map OperationDecision.verdict
  heights : ∀ entry ∈ l.entries, ∀ decision ∈ entry.2,
    decision.evidence.blockNumber = entry.1.number

section Steps

variable {R : Runtime} {source : String} {l : Ledger DecidedBlock} {t : ChainTables} {db db' : Db}

theorem represents_fresh (source : String) (game : GameTables) :
    Represents source .empty (Db.fresh game).chain where
  consistent := consistent_empty source
  filed := oneSource_fresh source game
  processed := rfl
  settled := rfl
  numbered := Ledger.numbered_empty
  blocks := rfl
  operations := rfl
  heights _ hentry := absurd hentry List.not_mem_nil

theorem Consistent.checkpoint_finality (h : Consistent source t) {c : BlockCheckpointRow}
    (hc : c ∈ t.blockCheckpoint) (hcurrent : c.Current source) :
    c.state = finality (lastIrreversible source t) c.blockNumber := by
  have hiff := h.irreversible_iff c hc hcurrent
  unfold finality
  split
  · rename_i hle
    exact hiff.mpr hle
  · rename_i hlt
    cases hstate : c.state with
    | included => rfl
    | irreversible => exact absurd (hiff.mp hstate) hlt
    | reverted => exact absurd hstate hcurrent.2

theorem Represents.operation_finality (h : Represents source l t) {op : OperationRow}
    (hop : op ∈ t.operation) (hcurrent : op.state ≠ .reverted) :
    op.state = finality l.settled op.blockNumber := by
  obtain ⟨c, hc, hid, hstate⟩ := h.consistent.operation_state op hop
  obtain ⟨c', hc', hid', hnumber⟩ := h.filed.heights.number op hop
  obtain rfl : c = c' := Table.eq_of_key hc hc' (hid.trans hid'.symm)
  have hcheckpoint : c.Current source := ⟨h.filed.own c hc, hstate ▸ hcurrent⟩
  rw [← hstate, h.consistent.checkpoint_finality hc hcheckpoint, h.settled, hnumber]

/-- **What is represented is shown.** -/
theorem Represents.currentView_eq (h : Represents source l t) : currentView source t = ledgerView l := by
  have hblocks : (currentView source t).blocks =
      ((t.blockCheckpoint.rows.filter fun c => c.Current source).map BlockCheckpointRow.header).map
        fun block => (block, finality l.settled block.number) := by
    rw [List.map_map]
    refine List.map_congr_left fun c hc => ?_
    obtain ⟨hc, hcurrent⟩ := List.mem_filter.mp hc
    rw [Function.comp_apply, h.consistent.checkpoint_finality hc (of_decide_eq_true hcurrent), h.settled]
    rfl
  have hoperations : (currentView source t).operations =
      ((t.operation.rows.filter fun op => op.state ≠ .reverted).map OperationRow.verdict).map
        fun verdict => (verdict, finality l.settled verdict.evidence.blockNumber) := by
    rw [List.map_map]
    refine List.map_congr_left fun op hop => ?_
    obtain ⟨hop, hcurrent⟩ := List.mem_filter.mp hop
    rw [Function.comp_apply, h.operation_finality hop (of_decide_eq_true hcurrent)]
    rfl
  have hledger : (ledgerView l).operations =
      (l.entries.flatMap fun entry => entry.2.map OperationDecision.verdict).map
        fun verdict => (verdict, finality l.settled verdict.evidence.blockNumber) := by
    rw [List.map_flatMap]
    refine List.flatMap_congr fun entry hentry => ?_
    rw [List.map_map]
    refine List.map_congr_left fun decision hdecision => ?_
    rw [Function.comp_apply, OperationDecision.verdict, h.heights entry hentry decision hdecision]
  rw [h.blocks, List.map_map] at hblocks
  rw [h.operations, ← hledger] at hoperations
  exact CurrentView.ext h.processed h.settled hblocks hoperations

/-! ### Calls -/

theorem verdicts_of_added {n : ℕ} {cp : Uuid} {observedAt : Timestamp}
    {decisions : List OperationDecision} {rows : List OperationRow}
    (h : List.Forall₂ (fun decision row => decision.evidence.blockNumber = n ∧
      ∃ id, row = operationRow id cp decision observedAt) decisions rows) :
    rows.map OperationRow.verdict = decisions.map OperationDecision.verdict ∧
      ∀ row ∈ rows, row.state = .included := by
  induction h with
  | nil => exact ⟨rfl, fun row hrow => absurd hrow List.not_mem_nil⟩
  | cons hrow _ ih =>
    obtain ⟨-, id, rfl⟩ := hrow
    rw [List.map_cons, List.map_cons, ih.1]
    exact ⟨rfl, List.forall_mem_cons.mpr ⟨rfl, ih.2⟩⟩

theorem Represents.applyBlock (h : Represents source l db.chain) {block : HafBlock}
    {decisions : List OperationDecision} {ids : ℕ → Uuid} {observedAt : Timestamp}
    (hok : applyBlock R source block decisions ids observedAt db = .ok db') :
    Represents source (l.move (.push (block, decisions))) db'.chain := by
  have hstep : CallStep R source db (.applyBlock block decisions ids observedAt) db' := .inl hok
  have ha := (applyBlock_spec hok).1
  obtain ⟨rows, hrows, hadded⟩ := applyBlock_rows hok
  refine ⟨(h.consistent.applyBlock hok).1, h.filed.step hstep, ?_, ha.irreversible.trans h.settled,
    h.numbered.push (by rw [← h.processed]; exact ha.number), ?_, ?_, fun entry hentry => ?_⟩
  · show _ = (l.entries ++ [(block, decisions)]).length
    rw [ha.processed, ha.number, h.processed, List.length_append, List.length_singleton]
  · show _ = (l.entries ++ [(block, decisions)]).map Prod.fst
    have hkept : [checkpointRow (ids 0) source block observedAt].filter (fun c => c.Current source) =
        [checkpointRow (ids 0) source block observedAt] := by
      refine List.filter_eq_self.mpr fun c hc => ?_
      obtain rfl := List.mem_singleton.mp hc
      exact decide_eq_true ⟨rfl, nofun⟩
    rw [ha.checkpoint, List.filter_append, List.map_append, h.blocks, List.map_append, hkept]
    rfl
  · show _ = (l.entries ++ [(block, decisions)]).flatMap _
    obtain ⟨hverdicts, hincluded⟩ := verdicts_of_added hadded
    have hkept : rows.filter (fun op => op.state ≠ .reverted) = rows :=
      List.filter_eq_self.mpr fun row hrow => by rw [hincluded row hrow]; rfl
    rw [hrows, List.filter_append, List.map_append, h.operations, hkept, hverdicts,
      List.flatMap_append, List.flatMap_singleton]
  · rcases List.mem_append.mp hentry with hentry | hentry
    · exact h.heights entry hentry
    · obtain rfl := List.mem_singleton.mp hentry
      intro decision hdecision
      obtain ⟨k, hk, rfl⟩ := List.mem_iff_getElem.mp hdecision
      exact (hadded.get hk (hadded.length_eq ▸ hk)).1

theorem Represents.revertAfter (h : Represents source l db.chain) {n : ℕ} {time : Timestamp}
    (hle : n ≤ lastProcessed source db.chain) (hok : revertAfter R source n time db = .ok db') :
    Represents source (l.move (.cut n)) db'.chain := by
  have hstep : CallStep R source db (.revertAfter n time) db' := .inl hok
  have hconsistent := (h.consistent.revertAfter hle hok).1
  have hfiled := h.filed.step hstep
  obtain ⟨-, rfl⟩ := revertAfter_spec hok
  refine ⟨hconsistent, hfiled, ?_, ?_, h.numbered.cut n, ?_, ?_, fun entry hentry => ?_⟩
  · show _ = (l.entries.take n).length
    rw [lastProcessed_revertedTables ensureCursor_find?, List.length_take, ← h.processed, min_eq_left hle]
  · rw [lastIrreversible_revertedTables, lastIrreversible_ensureCursor, h.settled]
    rfl
  · have hkept : (revertedTables source n time (ensureCursor source db.chain)).blockCheckpoint.rows.filter
          (fun c => c.Current source) =
        ((ensureCursor source db.chain).blockCheckpoint.rows.filter fun c => c.Current source).filter
          fun c => c.header.number ≤ n := by
      refine Table.filter_modify_outside ?_ ?_
      · exact fun c _ hcurrent => hcurrent.2 rfl
      intro c _ hcurrent
      constructor
      · rintro hle ⟨-, hlt, -⟩
        exact absurd hle (not_le.mpr hlt)
      · intro hnot
        by_contra hlt
        exact hnot ⟨hcurrent.1, not_le.mp hlt, hcurrent.2⟩
    have hcut : (l.entries.take n).map Prod.fst =
        (l.entries.map Prod.fst).filter fun block => block.number ≤ n := by
      rw [h.numbered.take, List.filter_map]
      rfl
    refine Eq.trans ?_ hcut.symm
    rw [hkept, ensureCursor_blockCheckpoint, ← h.blocks, List.filter_map]
    rfl
  · have hkept : (revertedTables source n time (ensureCursor source db.chain)).operation.rows.filter
          (fun op => op.state ≠ .reverted) =
        ((ensureCursor source db.chain).operation.rows.filter fun op => op.state ≠ .reverted).filter
          fun op => op.verdict.evidence.blockNumber ≤ n := by
      refine Table.filter_modify_outside ?_ ?_
      · exact fun op _ hcurrent => hcurrent rfl
      intro op hop hcurrent
      rw [ensureCursor_operation] at hop
      obtain ⟨c, hc, hid, hnumber⟩ := h.filed.heights.number op hop
      have hc' : c ∈ (ensureCursor source db.chain).blockCheckpoint := by
        rwa [ensureCursor_blockCheckpoint]
      rw [onHeights_iff hc' hid, h.filed.own c hc, hnumber, decide_eq_true_eq]
      constructor
      · rintro hle ⟨⟨-, hlt⟩, -⟩
        exact absurd hle (not_le.mpr hlt)
      · intro hnot
        by_contra hlt
        exact hnot ⟨⟨rfl, not_le.mp hlt⟩, hcurrent⟩
    have hcut : (l.entries.take n).flatMap (fun entry => entry.2.map OperationDecision.verdict) =
        (l.entries.flatMap fun entry => entry.2.map OperationDecision.verdict).filter
          fun verdict => verdict.evidence.blockNumber ≤ n := by
      rw [h.numbered.take, eq_comm]
      refine Ledger.filter_flatMap_of fun entry hentry verdict hverdict => ?_
      obtain ⟨decision, hdecision, rfl⟩ := List.mem_map.mp hverdict
      rw [OperationDecision.verdict, h.heights entry hentry decision hdecision]
    refine Eq.trans ?_ hcut.symm
    rw [hkept, ensureCursor_operation, ← h.operations, List.filter_map]
    rfl
  · exact h.heights entry (List.mem_of_mem_take hentry)

theorem Represents.finalizeThrough (h : Represents source l db.chain) {n : ℕ} {ids : ℕ → Uuid}
    {time : Timestamp} (hok : finalizeThrough R source n ids time db = .ok db') :
    Represents source (l.move (.settle n)) db'.chain := by
  have hstep : CallStep R source db (.finalizeThrough n ids time) db' := .inl hok
  have hconsistent := (h.consistent.finalizeThrough hok).1
  have hfiled := h.filed.step hstep
  rw [(finalizeThrough_spec hok).2.1] at hconsistent hfiled ⊢
  refine ⟨hconsistent, hfiled, ?_, ?_, h.numbered, ?_, ?_, h.heights⟩
  · rw [lastProcessed_finalizedTables, lastProcessed_ensureCursor, h.processed]
    rfl
  · rw [lastIrreversible_finalizedTables ensureCursor_find?, lastIrreversible_ensureCursor, h.settled]
    rfl
  · have hkept : (finalizedTables source n time (ensureCursor source db.chain)).blockCheckpoint.rows.filter
          (fun c => c.Current source) =
        ((ensureCursor source db.chain).blockCheckpoint.rows.filter fun c => c.Current source).map
          (finalizedCheckpoint source n time) :=
      Table.filter_modify_inside fun c hp => ⟨⟨hp.1, by rw [hp.2.2]; nofun⟩, hp.1, nofun⟩
    refine Eq.trans ?_ h.blocks
    rw [hkept, List.map_map, ensureCursor_blockCheckpoint]
    exact List.map_congr_left fun c _ => Table.updated_eq (fun _ => rfl) c
  · have hkept : (finalizedTables source n time (ensureCursor source db.chain)).operation.rows.filter
          (fun op => op.state ≠ .reverted) =
        ((ensureCursor source db.chain).operation.rows.filter fun op => op.state ≠ .reverted).map
          (Table.updated (fun op => onHeights (ensureCursor source db.chain) source (· ≤ n) op ∧
            op.state = .included) (⟨.finalize time, fun _ => rfl⟩ : Table.Assignment OperationRow.id)) :=
      Table.filter_modify_inside fun op hp => ⟨by rw [hp.2]; nofun, nofun⟩
    refine Eq.trans ?_ h.operations
    rw [hkept, List.map_map, ensureCursor_operation]
    exact List.map_congr_left fun op _ => Table.updated_eq (fun _ => rfl) op

/-- **One step** moves the ledger as its call does. -/
theorem Represents.step {call : DbCall} (h : Represents source l db.chain)
    (hstep : CallStep R source db call db') (hdown : RevertsDown source ⟨db, call, db'⟩) :
    Represents source ((moveOf R source ⟨db, call, db'⟩).elim l l.move) db'.chain := by
  rcases hstep with hok | ⟨⟨e, herror⟩, rfl⟩
  · have hmove : moveOf R source ⟨db, call, db'⟩ = match call with
        | .applyBlock block decisions _ _ => some (.push (block, decisions))
        | .revertAfter n _ => some (.cut n)
        | .finalizeThrough n _ _ => some (.settle n)
        | .changeGame _ => none := by
      simp only [moveOf, hok]
      cases call <;> rfl
    rw [hmove]
    cases call with
    | applyBlock block decisions ids observedAt => exact h.applyBlock hok
    | revertAfter n time => exact h.revertAfter hdown hok
    | finalizeThrough n ids time => exact h.finalizeThrough hok
    | changeGame game =>
      obtain rfl := Except.ok.inj hok
      exact h
  · have hmove : moveOf R source ⟨db', call, db'⟩ = none := by
      simp only [moveOf, herror]
    rw [hmove]
    exact h

end Steps

/-! ### Runs -/

section Runs

variable {R : Runtime} {source : String} {game : GameTables} {db : Db} {ts : List (Transition Db DbCall)}

theorem ledgerOf_concat (ts : List (Transition Db DbCall)) (t : Transition Db DbCall) :
    ledgerOf R source (ts ++ [t]) =
      (moveOf R source t).elim (ledgerOf R source ts) (ledgerOf R source ts).move := by
  rw [ledgerOf, movesOf, List.filterMap_append]
  cases hmove : moveOf R source t with
  | none =>
    rw [List.filterMap_cons_none hmove, List.filterMap_nil, List.append_nil]
    rfl
  | some m =>
    rw [List.filterMap_cons_some hmove, List.filterMap_nil, Ledger.after_concat]
    rfl

theorem represents_of_run (h : Run (CallStep R source) (Db.fresh game) ts db)
    (hdown : ∀ t ∈ ts, RevertsDown source t) : Represents source (ledgerOf R source ts) db.chain := by
  induction h with
  | refl => exact represents_fresh source game
  | @snoc m m' ts call _ hstep ih =>
    have hrep := ih fun t ht => hdown t (List.mem_append_left _ ht)
    rw [ledgerOf_concat]
    exact hrep.step hstep (hdown ⟨m, call, m'⟩ (List.mem_append_right _ (List.mem_singleton_self _)))

/-- **Forks leave no trace in the current chain.**  Along every run of store calls whose reverts name
an ancestor at or below the cursor, failed calls included, the projection shows as current exactly
the blocks that were applied and not cut off since, with their decisions in the order given, final up
to the highest finalization; and another history, with any identifiers and times, that applies only
those blocks and finalizes once shows the same. -/
theorem current_chain_of_run (h : Run (CallStep R source) (Db.fresh game) ts db)
    (hdown : ∀ t ∈ ts, RevertsDown source t) :
    currentView source db.chain = ledgerView (ledgerOf R source ts) ∧
      ∀ {game' : GameTables} {db' : Db} {ts' : List (Transition Db DbCall)},
        Run (CallStep R source) (Db.fresh game') ts' db' → (∀ t ∈ ts', RevertsDown source t) →
          movesOf R source ts' = (ledgerOf R source ts).survivors →
            currentView source db'.chain = currentView source db.chain := by
  have hview := (represents_of_run h hdown).currentView_eq
  refine ⟨hview, fun h' hdown' hmoves => ?_⟩
  rw [hview, (represents_of_run h' hdown').currentView_eq, ledgerOf, hmoves, Ledger.after_survivors]

end Runs

/-- Two blocks, of which the second is reverted and replaced. -/
def forkedHistory : List DbCall :=
  [.applyBlock (chainBlock 1) [] (fun k => ⟨100 + k⟩) 0,
    .applyBlock ⟨2, "orphan", "b1", 0⟩ [] (fun k => ⟨200 + k⟩) 0, .revertAfter 1 1,
    .applyBlock (chainBlock 2) [] (fun k => ⟨300 + k⟩) 0, .finalizeThrough 1 (fun k => ⟨400 + k⟩) 10]

/-- The same without the fork. -/
def straightHistory : List DbCall :=
  [.applyBlock (chainBlock 1) [] (fun k => ⟨500 + k⟩) 7,
    .applyBlock (chainBlock 2) [] (fun k => ⟨600 + k⟩) 8, .finalizeThrough 1 (fun k => ⟨700 + k⟩) 20]

theorem current_chain_of_run_forked :
    ∃ ts db ts' db', Run (CallStep exampleChainConfig.runtime "haf") (Db.fresh exampleGame) ts db ∧
      Run (CallStep exampleChainConfig.runtime "haf") (Db.fresh exampleGame) ts' db' ∧
      db.chain.blockCheckpoint.rows.length = 3 ∧ db'.chain.blockCheckpoint.rows.length = 2 ∧
      currentView "haf" db'.chain = currentView "haf" db.chain := by
  have hforked : (replay (DbCall.commit? exampleChainConfig.runtime "haf") (Db.fresh exampleGame)
      forkedHistory).any (fun run => run.2.chain.blockCheckpoint.rows.length = 3 ∧
        (∀ t ∈ run.1, RevertsDown "haf" t) ∧
          (ledgerOf exampleChainConfig.runtime "haf" run.1).survivors =
            [.push (chainBlock 1, []), .push (chainBlock 2, []), .settle 1]) = true := by
    decide +kernel
  have hstraight : (replay (DbCall.commit? exampleChainConfig.runtime "haf") (Db.fresh exampleGame)
      straightHistory).any (fun run => run.2.chain.blockCheckpoint.rows.length = 2 ∧
        (∀ t ∈ run.1, RevertsDown "haf" t) ∧
          movesOf exampleChainConfig.runtime "haf" run.1 =
            [.push (chainBlock 1, []), .push (chainBlock 2, []), .settle 1]) = true := by
    decide +kernel
  obtain ⟨⟨ts, db⟩, hrun, hchecked⟩ := (Option.any_eq_true _ _).mp hforked
  obtain ⟨⟨ts', db'⟩, hrun', hchecked'⟩ := (Option.any_eq_true _ _).mp hstraight
  obtain ⟨hlength, hdown, hsurvivors⟩ := of_decide_eq_true hchecked
  obtain ⟨hlength', hdown', hmoves⟩ := of_decide_eq_true hchecked'
  have hts := (replay_run callStep_of_commit? hrun).1
  have hts' := (replay_run callStep_of_commit? hrun').1
  exact ⟨ts, db, ts', db', hts, hts', hlength, hlength',
    (current_chain_of_run hts hdown).2 hts' hdown' (hmoves.trans hsurvivors.symm)⟩

end HiveChameleon.Projector
