import HiveChameleon.Lib.Told
import HiveChameleon.Projector.ChainOrder
import HiveChameleon.Projector.StableReads
import HiveChameleon.Projector.Storable

/-!
# Projector.Reported — what is stored is what the source reported

A projector applies a block only when the source returned it, with decisions on operations that the
source returned for its height, and it finalizes a height only when the source reported one at least
as high as irreversible.  So every row of `operation` goes back to answers of the source, however
many projectors run, whatever the source answers and wherever a process or a connection breaks.
-/

namespace HiveChameleon.Projector

open Gateway Lib

/-- The answers that the projectors of a run got. -/
abbrev Reports := Told Request Request.Response Failure

/-- What a projector was told before it makes a request. -/
def AccountedFor (cfg : ProjectorConfig) (known : Reports) : Request → Prop
  | .applyBlock block decisions =>
    known (.getBlock block.number) (.ok block) ∧
      ∃ fromBlock toBlock operations, known (.getOperations fromBlock toBlock) (.ok operations) ∧
        validateBlockOperations cfg block
          (operations.filter fun operation => operation.blockNumber = block.number) = .ok decisions
  | .finalizeThrough n =>
    ∃ head irreversible, known .getHeadAndIrreversible (.ok (head, irreversible)) ∧
      n ≤ irreversible.number
  | _ => True

theorem accountedFor_grows (cfg : ProjectorConfig) : Grows (AccountedFor cfg) := by
  intro known known' q hle h
  cases q with
  | applyBlock block decisions =>
    obtain ⟨hblock, fromBlock, toBlock, operations, hoperations, hdecisions⟩ := h
    exact ⟨hle _ _ hblock, fromBlock, toBlock, operations, hle _ _ hoperations, hdecisions⟩
  | finalizeThrough n =>
    obtain ⟨head, irreversible, hanswer, hn⟩ := h
    exact ⟨head, irreversible, hle _ _ hanswer, hn⟩
  | getCursor => trivial
  | getHeadAndIrreversible => trivial
  | getBlock blockNumber => trivial
  | getOperations fromBlock toBlock => trivial
  | getCurrentCheckpoint blockNumber => trivial
  | revertAfter ancestorBlock => trivial

/-! ### The program -/

section Program

variable {cfg : ProjectorConfig} {known : Reports}

theorem readBlocks_learns : ∀ (count blockNumber : ℕ) (previous : Option HafBlock)
    {known : Reports}, Learns (AccountedFor cfg) (readBlocks previous count blockNumber)
      (fun blocks known' => ∀ block ∈ blocks, known' (.getBlock block.number) (.ok block)) known
  | 0, _, _, _ => learns_ret fun _ hblock => absurd hblock List.not_mem_nil
  | count + 1, blockNumber, previous, known => by
    refine learns_request trivial fun block => ?_
    split
    · exact learns_throw
    rename_i hchanged
    obtain ⟨hnumber, -⟩ := not_or.mp hchanged
    refine learns_bind (readBlocks_learns count (blockNumber + 1) (some block))
      fun blocks known' hle hblocks => ?_
    refine learns_ret fun b hb => ?_
    rcases List.mem_cons.mp hb with rfl | hb
    · rw [not_not.mp hnumber]
      exact hle _ _ .new
    · exact hblocks b hb

theorem reconcileFrom_learns {cursor : ProjectionCursor} : ∀ (remaining blockNumber : ℕ)
    {known : Reports}, Learns (AccountedFor cfg) (reconcileFrom cursor remaining blockNumber)
      (fun _ _ => True) known
  | 0, _, _ => learns_throw
  | remaining + 1, blockNumber, known => by
    unfold reconcileFrom
    split
    · split
      · exact learns_throw
      · exact learns_request trivial fun _ => learns_ret trivial
    · refine learns_request trivial fun stored => ?_
      refine learns_request trivial fun current => ?_
      split
      · split
        · exact learns_throw
        · exact learns_request trivial fun _ => learns_ret trivial
      · split
        · exact learns_throw
        · exact reconcileFrom_learns remaining (blockNumber - 1)

theorem verifyCurrentTip_learns {cursor : ProjectionCursor} :
    Learns (AccountedFor cfg) (verifyCurrentTip cfg cursor) (fun _ _ => True) known := by
  unfold verifyCurrentTip
  split
  · exact learns_ret trivial
  · split
    · exact learns_ret trivial
    · refine learns_request trivial fun current => ?_
      split
      · exact learns_ret trivial
      · exact learns_bind (reconcileFrom_learns _ _) fun _ _ _ _ => learns_ret trivial

theorem applyBlocks_learns {fromBlock toBlock : ℕ} {operations : List HafOperation} :
    ∀ (blocks : List HafBlock) {cursor : ProjectionCursor} {appliedBlocks : ℕ} {known : Reports},
      known (.getOperations fromBlock toBlock) (.ok operations) →
      (∀ block ∈ blocks, known (.getBlock block.number) (.ok block)) →
      Learns (AccountedFor cfg) (applyBlocks cfg (fun blockNumber => operations.filter fun operation =>
        operation.blockNumber = blockNumber) cursor appliedBlocks blocks) (fun _ _ => True) known
  | [], _, _, _, _, _ => learns_ret trivial
  | block :: blocks, cursor, appliedBlocks, known, hoperations, hblocks => by
    unfold applyBlocks
    split
    · exact learns_bind (reconcileFrom_learns _ _) fun _ _ _ _ => learns_ret trivial
    · refine learns_lift fun decisions hdecisions => ?_
      refine learns_request ⟨hblocks block List.mem_cons_self, fromBlock, toBlock, operations,
        hoperations, hdecisions⟩ fun _ => ?_
      exact applyBlocks_learns blocks (Told.le_add _ _ hoperations) fun b hb =>
        Told.le_add _ _ (hblocks b (List.mem_cons_of_mem block hb))

theorem applyThrough_learns {cursor : ProjectionCursor} {target : ℕ} :
    Learns (AccountedFor cfg) (applyThrough cfg cursor target) (fun _ _ => True) known := by
  unfold applyThrough
  split
  · refine learns_bind (readBlocks_learns _ _ _) fun beforeOperations known₁ _ _ => ?_
    refine learns_request trivial fun operations => ?_
    refine learns_bind (readBlocks_learns _ _ _) fun afterOperations known₂ hle hblocks => ?_
    refine learns_lift fun _ _ => ?_
    refine learns_lift fun grouped hgrouped => ?_
    simp only [groupOperationsByBlock, bind_eq_ok, exists_unit, pure_eq_ok] at hgrouped
    obtain ⟨-, rfl⟩ := hgrouped
    exact applyBlocks_learns afterOperations (hle _ _ .new) hblocks
  · exact learns_ret trivial

theorem assertFinalityAgreement_learns {irreversible : HafIrreversibleBlock}
    {finalizable sourceHead : ℕ} : Learns (AccountedFor cfg)
      (assertFinalityAgreement irreversible finalizable sourceHead) (fun _ _ => True) known := by
  unfold assertFinalityAgreement
  split
  · exact learns_throw
  split
  · exact learns_throw
  refine learns_request trivial fun hafahIrreversible => ?_
  split
  · exact learns_throw
  refine learns_request trivial fun stored => ?_
  have hread : Learns (AccountedFor cfg)
      (finalizableBlock hafahIrreversible irreversible.number finalizable) (fun _ _ => True)
      (Told.Add (Told.Add known (.getBlock irreversible.number) (.ok hafahIrreversible))
        (.getCurrentCheckpoint finalizable) (.ok stored)) := by
    unfold finalizableBlock
    split
    · exact learns_ret trivial
    · exact (learns_ask trivial).mono fun _ _ _ _ => trivial
  refine learns_bind hread fun current known' _ _ => ?_
  split
  · exact learns_ret trivial
  · exact learns_throw

theorem finalizeCovered_learns {cursor : ProjectionCursor} {sourceHead head appliedBlocks : ℕ}
    {irreversible : HafIrreversibleBlock}
    (hknown : known .getHeadAndIrreversible (.ok (head, irreversible))) :
    Learns (AccountedFor cfg) (finalizeCovered cursor sourceHead irreversible appliedBlocks)
      (fun _ _ => True) known := by
  unfold finalizeCovered
  dsimp only
  split
  · refine learns_bind assertFinalityAgreement_learns fun _ known' hle _ => ?_
    exact learns_request ⟨head, irreversible, hle _ _ hknown, min_le_left _ _⟩ fun _ =>
      learns_ret trivial
  · exact learns_ret trivial

/-- **The projector's requests are accounted for** by what it was told. -/
theorem runOnce_informed (cfg : ProjectorConfig) :
    Informed (AccountedFor cfg) (runOnce cfg) (fun _ _ => True) Told.nothing := by
  suffices h : Learns (AccountedFor cfg) (runOnce cfg) (fun _ _ => True) Told.nothing from
    Prog.safe_mono h fun _ _ _ => trivial
  refine learns_request trivial fun cursor => ?_
  refine learns_request trivial fun ⟨sourceHead, sourceIrreversible⟩ => ?_
  dsimp only
  split
  · exact learns_ret trivial
  refine learns_bind verifyCurrentTip_learns fun tip known₁ hle₁ _ => ?_
  cases tip with
  | some ancestor => exact learns_ret trivial
  | none =>
    refine learns_bind applyThrough_learns fun ⟨cursor', appliedBlocks, reverted⟩ known₂ hle₂ _ => ?_
    cases reverted with
    | some ancestor => exact learns_ret trivial
    | none => exact finalizeCovered_learns (hle₂ _ _ (hle₁ _ _ .new))

end Program

/-! ### The rows -/

/-- An operation in its block, both as the source returned them. -/
structure ReportedIn (known : Reports) (operation : HafOperation) (block : HafBlock) : Prop where
  header : known (.getBlock block.number) (.ok block)
  listed : ∃ fromBlock toBlock operations,
    known (.getOperations fromBlock toBlock) (.ok operations) ∧ operation ∈ operations
  height : operation.blockNumber = block.number

/-- The evidence columns of a row. -/
def OperationRow.evidence (op : OperationRow) : RawOperationEvidence where
  sourceOperationId := op.sourceOperationId
  transactionId := op.transactionId
  operationIndex := op.operationIndex
  isVirtual := op.isVirtual
  blockNumber := op.blockNumber
  blockId := op.blockId
  blockTimestamp := op.blockTimestamp
  operationType := op.operationType
  primaryAccount := op.primaryAccount
  requiredAuthority := op.requiredAuthority
  applicationId := op.applicationId
  payload := op.payload

/-- A row of `operation` repeats the evidence and the verdict of a decision. -/
structure OperationRow.Records (op : OperationRow) (decision : OperationDecision) : Prop where
  evidence : op.evidence = decision.evidence
  validationState : op.validationState = decision.validationState
  rejectionReason : op.rejectionReason = decision.rejectionReason

/-- The row records what the validator makes of an operation that the source returned. -/
def Reported (cfg : ProjectorConfig) (known : Reports) (op : OperationRow) : Prop :=
  ∃ operation block decision, ReportedIn known operation block ∧
    validate cfg.runtime cfg.policy operation block = some decision ∧ op.Records decision

/-- The source returned an irreversible height of at least `n`. -/
def ReportedFinal (known : Reports) (n : ℕ) : Prop :=
  ∃ head irreversible, known .getHeadAndIrreversible (.ok (head, irreversible)) ∧
    n ≤ irreversible.number

/-- **Reported tables**: each operation was reported, and nothing is irreversible above what was
reported so. -/
structure FiledAsReported (cfg : ProjectorConfig) (source : String) (known : Reports)
    (t : ChainTables) : Prop where
  heights : HeightsFiled source t
  own : ∀ c ∈ t.blockCheckpoint, c.source = source ∧ 0 < c.blockNumber
  reported : ∀ op ∈ t.operation, Reported cfg known op
  final : lastIrreversible source t = 0 ∨ ReportedFinal known (lastIrreversible source t)

section Rows

variable {cfg : ProjectorConfig} {source : String} {known known' : Reports} {t : ChainTables}
variable {db db' : Db}

theorem ReportedIn.le {operation : HafOperation} {block : HafBlock}
    (h : ReportedIn known operation block) (hle : Told.Le known known') :
    ReportedIn known' operation block := by
  obtain ⟨fromBlock, toBlock, operations, hanswer, hin⟩ := h.listed
  exact ⟨hle _ _ h.header, ⟨fromBlock, toBlock, operations, hle _ _ hanswer, hin⟩, h.height⟩

theorem ReportedFinal.le {n m : ℕ} (h : ReportedFinal known n) (hm : m ≤ n)
    (hle : Told.Le known known') : ReportedFinal known' m := by
  obtain ⟨head, irreversible, hanswer, hn⟩ := h
  exact ⟨head, irreversible, hle _ _ hanswer, hm.trans hn⟩

theorem FiledAsReported.le (h : FiledAsReported cfg source known t) (hle : Told.Le known known') :
    FiledAsReported cfg source known' t where
  heights := h.heights
  own := h.own
  reported op hop := by
    obtain ⟨operation, block, decision, hreported, hrest⟩ := h.reported op hop
    exact ⟨operation, block, decision, hreported.le hle, hrest⟩
  final := h.final.imp id fun hfinal => hfinal.le le_rfl hle

theorem filedAsReported_empty : FiledAsReported cfg source known
    ⟨Table.empty, Table.empty, Table.empty, Table.empty⟩ where
  heights := heightsFiled_empty source
  own _ hc := absurd hc Table.not_mem_empty
  reported _ hop := absurd hop Table.not_mem_empty
  final := .inl rfl

theorem reported_of_accountedFor {block : HafBlock} {decisions : List OperationDecision}
    (h : AccountedFor cfg known (.applyBlock block decisions)) {decision : OperationDecision}
    (hdecision : decision ∈ decisions) (id cp : Uuid) (observedAt : Timestamp) :
    Reported cfg known (operationRow id cp decision observedAt) := by
  obtain ⟨hblock, fromBlock, toBlock, operations, hoperations, hdecisions⟩ := h
  obtain ⟨operation, hin, hvalidate⟩ := mem_validateBlockOperationsFrom hdecisions decision hdecision
  obtain ⟨hin, hheight⟩ := List.mem_filter.mp hin
  exact ⟨operation, block, decision, ⟨hblock, ⟨fromBlock, toBlock, operations, hoperations, hin⟩,
    of_decide_eq_true hheight⟩, hvalidate, rfl, rfl, rfl⟩

theorem Reported.modify {p : OperationRow → Prop} [DecidablePred p]
    {set : Table.Assignment OperationRow.id} {operations : Table OperationRow (·.id)}
    (hset : ∀ op : OperationRow, set op = { op with
      state := (set op).state
      irreversibleAt := (set op).irreversibleAt
      revertedAt := (set op).revertedAt })
    (h : ∀ op ∈ operations, Reported cfg known op) :
    ∀ op ∈ operations.modify p set, Reported cfg known op := by
  intro op hop
  rcases Table.mem_modify_cases hop with ⟨old, hold, -, rfl⟩ | ⟨hop, -⟩
  · obtain ⟨operation, block, decision, hreported, hvalidate, hrecords⟩ := h old hold
    refine ⟨operation, block, decision, hreported, hvalidate, ?_⟩
    rw [hset old]
    exact ⟨hrecords.evidence, hrecords.validationState, hrecords.rejectionReason⟩
  · exact h op hop

theorem FiledAsReported.applyBlock {block : HafBlock} {decisions : List OperationDecision}
    {ids : ℕ → Uuid} {observedAt : Timestamp} (h : FiledAsReported cfg source known db.chain)
    (hknown : AccountedFor cfg known (.applyBlock block decisions))
    (hok : applyBlock cfg.runtime source block decisions ids observedAt db = .ok db') :
    FiledAsReported cfg source known db'.chain := by
  obtain ⟨ha, -, -⟩ := applyBlock_spec hok
  refine ⟨h.heights.applyBlock hok, fun c hc => ?_, fun op hop => ?_, ?_⟩
  · rcases ha.mem_checkpoint.mp hc with hc | rfl
    · exact h.own c hc
    · have hnumber := ha.number
      refine ⟨rfl, ?_⟩
      show 0 < block.number
      omega
  · rcases applyBlock_operation hok op hop with hop | ⟨decision, hdecision, id, rfl⟩
    · exact h.reported op hop
    · exact reported_of_accountedFor hknown hdecision id (ids 0) observedAt
  · rw [ha.irreversible]
    exact h.final

theorem FiledAsReported.revertAfter {n : ℕ} {time : Timestamp}
    (h : FiledAsReported cfg source known db.chain)
    (hok : revertAfter cfg.runtime source n time db = .ok db') :
    FiledAsReported cfg source known db'.chain := by
  obtain ⟨hguard, rfl⟩ := revertAfter_spec hok
  refine ⟨h.heights.ensureCursor.revert ensureCursor_find? (by simpa using hguard),
    fun c hc => ?_, Reported.modify (fun _ => rfl) (by simpa using h.reported), ?_⟩
  · rcases Table.mem_modify_cases hc with ⟨old, hold, -, rfl⟩ | ⟨hc, -⟩
    · exact h.own old (by simpa using hold)
    · exact h.own c (by simpa using hc)
  · rw [lastIrreversible_revertedTables, lastIrreversible_ensureCursor]
    exact h.final

theorem FiledAsReported.finalizeThrough {n : ℕ} {ids : ℕ → Uuid} {time : Timestamp}
    (h : FiledAsReported cfg source known db.chain)
    (hknown : AccountedFor cfg known (.finalizeThrough n))
    (hok : finalizeThrough cfg.runtime source n ids time db = .ok db') :
    FiledAsReported cfg source known db'.chain := by
  obtain ⟨hle, hchain, -⟩ := finalizeThrough_spec hok
  rw [hchain]
  refine ⟨h.heights.ensureCursor.finalize ensureCursor_find? (by simpa using hle),
    fun c hc => ?_, Reported.modify (fun _ => rfl) (by simpa using h.reported), ?_⟩
  · rcases Table.mem_modify_cases hc with ⟨old, hold, -, rfl⟩ | ⟨hc, -⟩
    · exact h.own old (by simpa using hold)
    · exact h.own c (by simpa using hc)
  · rw [lastIrreversible_finalizedTables ensureCursor_find?, lastIrreversible_ensureCursor]
    have hnew : ReportedFinal known n := hknown
    rcases le_total (lastIrreversible source db.chain) n with hmax | hmax
    · rw [max_eq_right hmax]
      exact .inr hnew
    · rw [max_eq_left hmax]
      exact h.final

/-- **One request** whose sender was told what it needs keeps the tables as reported. -/
theorem FiledAsReported.answer {q : Request} {r : Except Failure q.Response}
    (h : FiledAsReported cfg source known db.chain) (hknown : AccountedFor cfg known q)
    (hans : storeAnswer cfg.runtime source q db r db') :
    FiledAsReported cfg source known db'.chain := by
  rcases storeAnswer_cases hans with
    rfl | ⟨block, decisions, ids, time, rfl, hok⟩ | ⟨ancestor, time, rfl, hok⟩ | ⟨n, ids, time, rfl, hok⟩
  · exact h
  · exact h.applyBlock hknown hok
  · exact h.revertAfter hok
  · exact h.finalizeThrough hknown hok

theorem FiledAsReported.irreversible (h : FiledAsReported cfg source known t) {op : OperationRow}
    (hop : op ∈ t.operation) (hstate : op.state = .irreversible) :
    ReportedFinal known op.blockNumber := by
  obtain ⟨c, hc, hid, hcstate⟩ := h.heights.agrees.operation_state op hop
  obtain ⟨d, hd, hdid, hnumber⟩ := h.heights.number op hop
  obtain rfl : c = d := Table.eq_of_key hc hd (hid.trans hdid.symm)
  obtain ⟨hsource, hpositive⟩ := h.own c hc
  have hle := h.heights.agrees.irreversible_le c hc hsource (hcstate.trans hstate)
  rw [← hnumber]
  rcases h.final with hzero | hfinal
  · omega
  · exact hfinal.le hle (Told.Le.refl known)

end Rows

/-! ### Runs -/

/-- Other components change the game tables, and nothing else. -/
def GameChanges (db db' : Db) : Prop := db'.chain = db.chain ∧ db'.views = db.views

/-- One step of any number of projectors on one source, while the game tables change. -/
def ProjectorsStep {ι : Type} [DecidableEq ι] (cfg : ProjectorConfig) (source : String) :
    ProjectorSys ι → SysLabel Request Request.Response Failure ι → ProjectorSys ι → Prop :=
  SysStep GameChanges (storeAnswer cfg.runtime source) fun _ => runOnce cfg

section Runs

variable {ι : Type} [DecidableEq ι] {cfg : ProjectorConfig} {source : String} {game : GameTables}

/-- **The history rule**: what one step keeps, given that its request is accounted for by the run
before it, holds after every run. -/
theorem projectors_history {I : Reports → Db → Prop}
    (hstart : I Told.nothing (Db.fresh game))
    (hle : ∀ known known' db, Told.Le known known' → I known db → I known' db)
    (hgame : ∀ known db db', GameChanges db db' → I known db → I known db')
    (hanswer : ∀ (known : Reports) (q : Request) (r : Except Failure q.Response) (db db' : Db),
      AccountedFor cfg known q → storeAnswer cfg.runtime source q db r db' → I known db → I known db')
    {ts : List (Transition (ProjectorSys ι) (SysLabel Request Request.Response Failure ι))}
    {S : ProjectorSys ι} (hrun : Run (ProjectorsStep cfg source) (.start cfg game) ts S) :
    I (toldIn ts) S.shared := by
  induction hrun with
  | refl => exact hle _ _ _ (fun _ _ hnothing => hnothing.elim) hstart
  | @snoc m m' ts l hr hl ih =>
    have hinformed := informed_of_run (accountedFor_grows cfg) (fun _ => runOnce_informed cfg)
      (fun _ => runOnce_informed cfg) hr
    refine hle _ _ _ toldIn_append ?_
    have hl' := hl
    cases hl with
    | env hE => exact hgame _ _ _ hE ih
    | @answer s s' ps i q k r hp hans =>
      exact hanswer _ q r _ _ (informed_step hinformed hl') hans ih
    | restart i => exact ih

/-- **What is stored was reported**, after every run. -/
theorem filedAsReported_of_run
    {ts : List (Transition (ProjectorSys ι) (SysLabel Request Request.Response Failure ι))}
    {S : ProjectorSys ι} (hrun : Run (ProjectorsStep cfg source) (.start cfg game) ts S) :
    FiledAsReported cfg source (toldIn ts) S.shared.chain :=
  projectors_history (I := fun known db => FiledAsReported cfg source known db.chain)
    filedAsReported_empty (fun _ _ _ hle h => h.le hle) (fun _ _ _ hE h => hE.1 ▸ h)
    (fun _ _ _ _ _ hknown hans h => h.answer hknown hans) hrun

end Runs

end HiveChameleon.Projector
