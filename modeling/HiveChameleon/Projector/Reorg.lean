import HiveChameleon.Projector.ResultChain
import HiveChameleon.Projector.Reverting
import Mathlib.Order.Bounds.Basic

/-!
# Projector.Reorg — where `reconcileFork` ends against a chain that stands still

The search goes down from the cursor: it reverts to the first height at which the stored and the
source's block agree, refuses at the irreversible height, and gives up below the configured depth.
So it finds the greatest common height, or it leaves the store alone.
-/

namespace HiveChameleon.Projector

open Gateway Lib

/-! ### What the search is about -/

/-- The source has a block at each height up to its head. -/
def SourceSnapshot.Complete (w : SourceSnapshot) : Prop :=
  ∀ n, 1 ≤ n → n ≤ w.head → ∃ block, w.block n = some block

/-- The stored and the source's block of a height have one id. -/
def AgreesAt (w : SourceSnapshot) (source : String) (db : Db) (n : ℕ) : Prop :=
  ∃ stored block, getCurrentCheckpoint source n db = some stored ∧ w.block n = some block ∧
    stored.id = block.id

/-- **The common heights** that may be kept: those not below the irreversible height at which the two
chains agree; height zero is one when nothing is irreversible. -/
def commonHeights (w : SourceSnapshot) (source : String) (db : Db) : Set ℕ :=
  {n | lastIrreversible source db.chain ≤ n ∧ (n = 0 ∨ AgreesAt w source db n)}

/-- A current checkpoint above the ancestor. -/
def BlockCheckpointRow.Above (source : String) (ancestor : ℕ) (c : BlockCheckpointRow) : Prop :=
  c.Current source ∧ ancestor < c.blockNumber

/-- An operation of such a checkpoint. -/
def OperationRow.Above (source : String) (ancestor : ℕ) (t : ChainTables) (op : OperationRow) : Prop :=
  ∃ c ∈ t.blockCheckpoint, c.id = op.checkpointId ∧ c.Above source ancestor

/-- **Exactly the checkpoints and operations above the ancestor are reverted**, and the cursor is set
back to it. -/
structure RevertedAbove (source : String) (ancestor : ℕ) (time : Timestamp) (db db' : Db) : Prop where
  checkpoint : ∀ c, c ∈ db'.chain.blockCheckpoint ↔
    c ∈ db.chain.blockCheckpoint ∧ ¬ c.Above source ancestor ∨
      ∃ old ∈ db.chain.blockCheckpoint, old.Above source ancestor ∧ c = old.revert time
  operation : ∀ op, op ∈ db'.chain.operation ↔
    op ∈ db.chain.operation ∧ ¬ op.Above source ancestor db.chain ∨
      ∃ old ∈ db.chain.operation, old.Above source ancestor db.chain ∧ op = old.revert time
  cursor : getCursor source db' = { getCursor source db with
    lastProcessedBlock := ancestor
    lastProcessedBlockId := (getCurrentCheckpoint source ancestor db).map (·.id) }
  views : db'.views = db.views
  game : db'.game = db.game

/-! ### The stored projection -/

theorem rowsChecked_step {R : Runtime} {source : String} {db db' : Db} {q : Option Request}
    (h : RowsChecked db.chain) (hstep : ProjectionStep R source db q db') : RowsChecked db'.chain := by
  cases hstep with
  | store hstore =>
    cases hstore with
    | applyBlock hok => exact h.applyBlock hok
    | revertAfter _ hok => exact h.revertAfter hok
    | finalizeThrough hok => exact h.finalizeThrough hok
  | game => exact h

/-- **Every stored projection** is sound, and its rows have passed their checks. -/
theorem stored_of_reachable {R : Runtime} {source : String} {game : GameTables} {db : Db}
    (h : Reachable (ProjectionStep R source) (Db.fresh game) db) :
    Sound R source db ∧ RowsChecked db.chain := by
  obtain ⟨ts, hrun⟩ := h
  have hstart : Sound R source (Db.fresh game) ∧ RowsChecked (Db.fresh game).chain :=
    ⟨sound_fresh R source game, rowsChecked_empty⟩
  have hstep : ∀ m l m', Sound R source m ∧ RowsChecked m.chain → ProjectionStep R source m l m' →
      Sound R source m' ∧ RowsChecked m'.chain :=
    fun m l m' hm hl => ⟨sound_projectionStep hm.1 hl, rowsChecked_step hm.2 hl⟩
  exact (Run.invariant' hstep hrun hstart).1

section Stored

variable {R : Runtime} {source : String} {db : Db} {n : ℕ} {time : Timestamp}

theorem currentCheckpointRow_reverted (h : Chained source db.chain)
    (h' : Chained source (revertedTables source n time (ensureCursor source db.chain))) :
    currentCheckpointRow (revertedTables source n time (ensureCursor source db.chain)) source n =
      currentCheckpointRow db.chain source n := by
  refine Option.ext fun c => ?_
  rw [currentCheckpointRow_eq_some h', currentCheckpointRow_eq_some h, ← and_assoc, mem_revertedTables,
    ensureCursor_blockCheckpoint]
  constructor
  · rintro ⟨⟨hc, hcurrent, -⟩, hn⟩
    exact ⟨hc, hcurrent, hn⟩
  · rintro ⟨hc, hcurrent, hn⟩
    exact ⟨⟨hc, hcurrent, hn.le⟩, hn⟩

theorem Consistent.above_iff (h : Consistent source db.chain) {op : OperationRow}
    (hop : op ∈ db.chain.operation) :
    onHeights (Projector.ensureCursor source db.chain) source (n < ·) op ∧ op.state ≠ .reverted ↔
      op.Above source n db.chain := by
  obtain ⟨c, hc, hid, hstate⟩ := h.operation_state op hop
  have hc' : c ∈ (Projector.ensureCursor source db.chain).blockCheckpoint := by simpa using hc
  rw [onHeights_iff hc' hid]
  constructor
  · rintro ⟨⟨hsource, hlt⟩, hne⟩
    exact ⟨c, hc, hid, ⟨hsource, hstate ▸ hne⟩, of_decide_eq_true hlt⟩
  · rintro ⟨d, hd, hdid, ⟨hsource, hne⟩, hlt⟩
    obtain rfl : d = c := Table.eq_of_key hd hc (hdid.trans hid.symm)
    exact ⟨⟨hsource, decide_eq_true hlt⟩, hstate ▸ hne⟩

/-- **What `revertAfter` does**, on a stored projection. -/
theorem revertAfter_reverts (h : Sound R source db) (hrows : RowsChecked db.chain)
    (hguard : lastIrreversible source db.chain ≤ n) (hle : n ≤ lastProcessed source db.chain) :
    ∃ db', revertAfter R source n time db = .ok db' ∧ RevertedAbove source n time db db' := by
  refine ⟨_, (h.revertible hrows).revertAfter_eq_ok.mpr ⟨hguard, rfl⟩, ?_⟩
  have hstart := h.consistent.ensureCursor
  have hafter : Consistent source (revertedTables source n time (ensureCursor source db.chain)) :=
    hstart.revert ensureCursor_find? (by simpa using hguard) (by simpa using hle)
  constructor
  · intro c
    show c ∈ (ensureCursor source db.chain).blockCheckpoint.modify _ _ ↔ _
    rw [Table.mem_modify_iff, ensureCursor_blockCheckpoint]
    simp only [BlockCheckpointRow.Above, BlockCheckpointRow.Current, and_assoc, and_comm]
  · intro op
    show op ∈ (ensureCursor source db.chain).operation.modify _ _ ↔ _
    rw [Table.mem_modify_iff, ensureCursor_operation]
    constructor
    · rintro (⟨hop, hnot⟩ | ⟨old, hold, habove, rfl⟩)
      · exact .inl ⟨hop, fun habove => hnot ((h.consistent.above_iff hop).mpr habove)⟩
      · exact .inr ⟨old, hold, (h.consistent.above_iff hold).mp habove, rfl⟩
    · rintro (⟨hop, hnot⟩ | ⟨old, hold, habove, rfl⟩)
      · exact .inl ⟨hop, fun habove => hnot ((h.consistent.above_iff hop).mp habove)⟩
      · exact .inr ⟨old, hold, (h.consistent.above_iff hold).mpr habove, rfl⟩
  · rw [getCursor_eq db h.consistent.toChained, getCursor_eq _ hafter.toChained,
      lastProcessed_revertedTables ensureCursor_find?, lastIrreversible_revertedTables,
      lastIrreversible_ensureCursor, currentCheckpointRow_reverted h.consistent.toChained hafter.toChained]
    simp only [getCurrentCheckpoint, Option.map_map]
    rfl
  · rfl
  · rfl

end Stored

/-! ### The search -/

section Search

variable {R : Runtime} {source : String} {w : SourceSnapshot} {time : Timestamp} {db : Db}

theorem reconcileFrom_within (cursor : ProjectionCursor) :
    ∀ remaining blockNumber : ℕ, (reconcileFrom cursor remaining blockNumber).Within (2 * remaining + 1)
  | 0, _ => trivial
  | remaining + 1, blockNumber => by
    have hrevert : ∀ (a m : ℕ), (do
        Store.revertAfter a
        pure a : Proj ℕ).Within (m + 1) :=
      fun a m => Prog.within_request_bind fun _ => trivial
    unfold reconcileFrom
    by_cases hzero : blockNumber = 0
    · rw [if_pos hzero]
      by_cases hirreversible : 0 < cursor.lastIrreversibleBlock
      · rw [if_pos hirreversible]
        trivial
      · rw [if_neg hirreversible]
        exact hrevert 0 _
    · rw [if_neg hzero]
      refine Prog.within_request_bind fun stored => Prog.within_request_bind fun current => ?_
      by_cases hagree : (stored.any fun c => c.id = current.id) = true
      · rw [if_pos hagree]
        by_cases hbelow : blockNumber < cursor.lastIrreversibleBlock
        · rw [if_pos hbelow]
          trivial
        · rw [if_neg hbelow]
          exact hrevert blockNumber _
      · rw [if_neg hagree]
        by_cases hbound : blockNumber ≤ cursor.lastIrreversibleBlock
        · rw [if_pos hbound]
          trivial
        · rw [if_neg hbound]
          exact reconcileFrom_within cursor remaining (blockNumber - 1)

theorem exec_revertAfter (h : Sound R source db) (hrows : RowsChecked db.chain) {n : ℕ}
    (hguard : lastIrreversible source db.chain ≤ n) (hle : n ≤ lastProcessed source db.chain) :
    ∃ db', (do
        Store.revertAfter n
        pure n : Proj ℕ).exec (serve R source (w, time)) db = (.ok n, db') ∧
      RevertedAbove source n time db db' := by
  obtain ⟨db', hok, hreverted⟩ : ∃ db', revertAfter R source n time db = .ok db' ∧
      RevertedAbove source n time db db' := revertAfter_reverts h hrows hguard hle
  have hserve : serve R source (w, time) (.revertAfter n) db = (.ok (), db') := by
    show acknowledged (revertAfter R source n time db) db = _
    rw [hok]
    rfl
  exact ⟨db', Prog.exec_request_ok hserve, hreverted⟩

/-- How the search ends that goes down from a height: with the greatest common height if it is among
those searched, else with an error and nothing written. -/
structure SearchEnds (R : Runtime) (source : String) (w : SourceSnapshot) (time : Timestamp) (db : Db)
    (search : Proj ℕ) (common : Set ℕ) (lowest : ℕ) : Prop where
  found : ∀ n, IsGreatest common n → lowest ≤ n →
    ∃ db', search.exec (serve R source (w, time)) db = (.ok n, db') ∧
      RevertedAbove source n time db db'
  missed : (∀ n, IsGreatest common n → n < lowest) →
    ∃ e : Failure, search.exec (serve R source (w, time)) db = (.error e, db) ∧
      (e.hasCode .irreversibleFork = true ∨ e.hasCode .reorgTooDeep = true)

/-- **The search from a height down**, when nothing above it is common. -/
theorem reconcileFrom_ends (time : Timestamp) (h : Sound R source db) (hrows : RowsChecked db.chain)
    (hcomplete : w.Complete) (hhead : lastProcessed source db.chain ≤ w.head)
    {cursor : ProjectionCursor} (hcursor : cursor.lastIrreversibleBlock = lastIrreversible source db.chain) :
    ∀ remaining blockNumber : ℕ, blockNumber ≤ lastProcessed source db.chain →
      lastIrreversible source db.chain ≤ blockNumber →
      SearchEnds R source w time db (reconcileFrom cursor remaining blockNumber)
        (commonHeights w source db ∩ Set.Iic blockNumber) (blockNumber + 1 - remaining)
  | 0, blockNumber, hle, hguard => by
    refine ⟨fun n hn hlowest => ?_, fun _ => ⟨_, rfl, .inr rfl⟩⟩
    have hbelow : n ≤ blockNumber := hn.1.2
    omega
  | remaining + 1, blockNumber, hle, hguard => by
    have hgreatest : blockNumber ∈ commonHeights w source db → ∀ n,
        IsGreatest (commonHeights w source db ∩ Set.Iic blockNumber) n → n = blockNumber := by
      intro hmem n hn
      exact le_antisymm hn.1.2 (hn.2 ⟨hmem, Set.self_mem_Iic⟩)
    unfold reconcileFrom
    by_cases hzero : blockNumber = 0
    · -- height zero: nothing is irreversible, and everything is reverted
      subst hzero
      have hnothing : lastIrreversible source db.chain = 0 := Nat.le_zero.mp hguard
      have hmem : 0 ∈ commonHeights w source db := ⟨hguard, .inl rfl⟩
      rw [if_pos rfl, if_neg (by omega)]
      refine ⟨fun n hn _ => ?_, fun hmissed => ?_⟩
      · obtain rfl := hgreatest hmem n hn
        exact exec_revertAfter h hrows hguard hle
      · have hlt := hmissed 0 ⟨⟨hmem, Set.self_mem_Iic⟩, fun m hm => hm.2⟩
        omega
    · rw [if_neg hzero]
      obtain ⟨block, hblock⟩ := hcomplete blockNumber (by omega) (hle.trans hhead)
      have hstored : serve R source (w, time) (.getCurrentCheckpoint blockNumber) db =
          (.ok (getCurrentCheckpoint source blockNumber db), db) := rfl
      have hcurrent : serve R source (w, time) (.getBlock blockNumber) db = (.ok block, db) := by
        simp only [serve, hblock]
      -- two reads decide how the search goes on
      have hreads : ∀ f : Option BlockCheckpoint → HafBlock → Proj ℕ, ((do
          let stored ← Store.getCurrentCheckpoint blockNumber
          let current ← Source.getBlock blockNumber
          f stored current) : Proj ℕ).exec (serve R source (w, time)) db =
            (f (getCurrentCheckpoint source blockNumber db) block).exec (serve R source (w, time)) db :=
        fun f => (Prog.exec_request_ok hstored).trans (Prog.exec_request_ok hcurrent)
      have hagrees : ((getCurrentCheckpoint source blockNumber db).any fun c => c.id = block.id) = true ↔
          AgreesAt w source db blockNumber := by
        rw [Option.any_eq_true]
        constructor
        · rintro ⟨stored, hfind, hid⟩
          exact ⟨stored, block, hfind, hblock, of_decide_eq_true hid⟩
        · rintro ⟨stored, block', hfind, hblock', hid⟩
          obtain rfl := Option.some.inj (hblock.symm.trans hblock')
          exact ⟨stored, hfind, decide_eq_true hid⟩
      by_cases hagree : AgreesAt w source db blockNumber
      · have hmem : blockNumber ∈ commonHeights w source db := ⟨hguard, .inr hagree⟩
        refine ⟨fun n hn _ => ?_, fun hmissed => ?_⟩
        · obtain rfl := hgreatest hmem n hn
          rw [hreads, if_pos (hagrees.mpr hagree), if_neg (by omega)]
          exact exec_revertAfter h hrows hguard hle
        · have hlt := hmissed blockNumber ⟨⟨hmem, Set.self_mem_Iic⟩, fun m hm => hm.2⟩
          omega
      · have hnot : ∀ n, n ∈ commonHeights w source db ∩ Set.Iic blockNumber →
            n ∈ commonHeights w source db ∩ Set.Iic (blockNumber - 1) := by
          rintro n ⟨hmem, hn⟩
          have hne : n ≠ blockNumber := by
            rintro rfl
            exact hmem.2.elim hzero hagree
          have hn : n ≤ blockNumber := hn
          exact ⟨hmem, show n ≤ blockNumber - 1 by omega⟩
        by_cases hbound : blockNumber ≤ cursor.lastIrreversibleBlock
        · -- the irreversible height itself disagrees
          refine ⟨fun n hn _ => ?_, fun _ => ?_⟩
          · obtain ⟨hmem, hn⟩ := hnot n hn.1
            have hlow : lastIrreversible source db.chain ≤ n := hmem.1
            have hn : n ≤ blockNumber - 1 := hn
            omega
          · rw [hreads, if_neg (fun h => hagree (hagrees.mp h)), if_pos hbound]
            exact ⟨_, rfl, .inl rfl⟩
        · have hrest := reconcileFrom_ends time h hrows hcomplete hhead hcursor remaining (blockNumber - 1)
            (by omega) (by omega)
          have hset : commonHeights w source db ∩ Set.Iic blockNumber =
              commonHeights w source db ∩ Set.Iic (blockNumber - 1) := by
            refine Set.Subset.antisymm hnot ?_
            rintro n ⟨hmem, hn⟩
            have hn : n ≤ blockNumber - 1 := hn
            exact ⟨hmem, show n ≤ blockNumber by omega⟩
          have hlowest : blockNumber + 1 - (remaining + 1) = blockNumber - 1 + 1 - remaining := by omega
          rw [hset, hlowest]
          constructor
          · intro n hn hlow
            rw [hreads, if_neg (fun h => hagree (hagrees.mp h)), if_neg hbound]
            exact hrest.found n hn hlow
          · intro hmissed
            rw [hreads, if_neg (fun h => hagree (hagrees.mp h)), if_neg hbound]
            exact hrest.missed hmissed

theorem le_of_mem_commonHeights (h : Chained source db.chain) {n : ℕ}
    (hn : n ∈ commonHeights w source db) : n ≤ lastProcessed source db.chain := by
  rcases hn.2 with rfl | ⟨stored, block, hstored, -, -⟩
  · exact Nat.zero_le _
  · obtain ⟨c, hfind, -⟩ := Option.map_eq_some_iff.mp hstored
    obtain ⟨hc, hcurrent, hnumber⟩ := (currentCheckpointRow_eq_some h).mp hfind
    rw [← hnumber]
    exact (h.in_range c hc hcurrent).2

end Search

/-- **Reconciliation finds the greatest common height**, when the source reaches up to the cursor, as
`runOnce` checks before it looks for a fork: it reverts exactly what is above that height when it lies
within the configured depth; else it reports an irreversible fork or a reorganization that is too deep,
and leaves the store alone.  It ends after a bounded number of requests, whatever their answers. -/
theorem reconcileFork_ends (cfg : ProjectorConfig) (source : String) (w : SourceSnapshot)
    (time : Timestamp) (game : GameTables) (db : Db)
    (hreachable : Reachable (ProjectionStep cfg.runtime source) (Db.fresh game) db)
    (hcomplete : w.Complete) (hhead : (getCursor source db).lastProcessedBlock ≤ w.head) :
    (∀ n, IsGreatest (commonHeights w source db) n →
      (getCursor source db).lastProcessedBlock - n ≤ cfg.maxReorgDepth →
        ∃ db', (reconcileFork cfg (getCursor source db) (getCursor source db).lastProcessedBlock).exec
            (serve cfg.runtime source (w, time)) db = (.ok n, db') ∧
          RevertedAbove source n time db db') ∧
      ((∀ n, IsGreatest (commonHeights w source db) n →
        cfg.maxReorgDepth < (getCursor source db).lastProcessedBlock - n) →
          ∃ e : Failure, (reconcileFork cfg (getCursor source db)
              (getCursor source db).lastProcessedBlock).exec (serve cfg.runtime source (w, time)) db =
                (.error e, db) ∧
            (e.hasCode .irreversibleFork = true ∨ e.hasCode .reorgTooDeep = true)) ∧
      ∀ (cursor : ProjectionCursor) (startHeight : ℕ),
        (reconcileFork cfg cursor startHeight).Within (2 * cfg.maxReorgDepth + 3) := by
  obtain ⟨hsound, hrows⟩ := stored_of_reachable hreachable
  have hchained := hsound.consistent.toChained
  have hcursor := getCursor_eq db hchained
  have hlast : (getCursor source db).lastProcessedBlock = lastProcessed source db.chain := by
    rw [hcursor]
  have hirreversible : (getCursor source db).lastIrreversibleBlock = lastIrreversible source db.chain := by
    rw [hcursor]
  have hset : commonHeights w source db ∩ Set.Iic (lastProcessed source db.chain) =
      commonHeights w source db :=
    Set.inter_eq_left.mpr fun n hn => le_of_mem_commonHeights hchained hn
  have hends := reconcileFrom_ends time hsound hrows hcomplete (hlast ▸ hhead) hirreversible
    (lastProcessed source db.chain - (lastProcessed source db.chain - cfg.maxReorgDepth) + 1)
    (lastProcessed source db.chain) le_rfl hsound.consistent.irreversible_le
  rw [hset] at hends
  rw [hlast]
  refine ⟨fun n hn hdepth => ?_, fun hdeep => ?_, fun cursor startHeight => ?_⟩
  · exact hends.found n hn (by omega)
  · refine hends.missed fun n hn => ?_
    have hdepth := hdeep n hn
    omega
  · have hsteps := reconcileFrom_within cursor
      (startHeight - (startHeight - cfg.maxReorgDepth) + 1) startHeight
    exact Prog.within_mono (by omega) hsteps

/-! ### A fork above the irreversible height -/

/-- A batch that is final, and two blocks after it. -/
def forkedCalls : List StoreCall :=
  [.apply 100 (chainBlock 1) [exampleOperation "op1" "tx1" 0 (chainBlock 1) "batch"],
    .finalize 200 1 10, .apply 300 (chainBlock 2) [],
    .apply 400 (chainBlock 3) [exampleOperation "op2" "tx2" 0 (chainBlock 3) "invalidation"]]

/-- The source has another block at height three. -/
def forkedSource : SourceSnapshot :=
  .ofBlocks [chainBlock 1, chainBlock 2, ⟨3, "c3", "b2", 0⟩] 1 []

theorem complete_forkedSource : forkedSource.Complete := by
  intro n hpos hle
  have hcases : n = 1 ∨ n = 2 ∨ n = 3 := by
    have hle : n ≤ 3 := hle
    omega
  rcases hcases with rfl | rfl | rfl
  · exact ⟨_, rfl⟩
  · exact ⟨_, rfl⟩
  · exact ⟨_, rfl⟩

/-- What is stored before the fork is found. -/
def ForkedDb (db : Db) : Prop :=
  (getCursor "haf" db).lastProcessedBlock = 3 ∧ lastProcessed "haf" db.chain = 3 ∧
    lastIrreversible "haf" db.chain = 1 ∧
    (getCurrentCheckpoint "haf" 2 db).map (·.id) = some "b2" ∧
    (getCurrentCheckpoint "haf" 3 db).map (·.id) = some "b3"

instance (db : Db) : Decidable (ForkedDb db) := inferInstanceAs (Decidable (_ ∧ _))

/-- The ancestor is block two, and block three is reverted with its operation. -/
theorem reconcileFork_ends_forked :
    ∃ db db', Reachable (ProjectionStep exampleChainConfig.runtime "haf") (Db.fresh exampleGame) db ∧
      ForkedDb db ∧
      (reconcileFork exampleChainConfig (getCursor "haf" db)
          (getCursor "haf" db).lastProcessedBlock).exec
        (serve exampleChainConfig.runtime "haf" (forkedSource, 20)) db = (.ok 2, db') ∧
      RevertedAbove "haf" 2 20 db db' := by
  have hperformed : (performAll exampleChainConfig "haf" (Db.fresh exampleGame) forkedCalls).any
      (fun db => ForkedDb db) = true := by decide +kernel
  obtain ⟨db, hperform, hstored⟩ := (Option.any_eq_true _ _).mp hperformed
  have hdb : ForkedDb db := of_decide_eq_true hstored
  obtain ⟨hcursor, hlast, hirreversible, htwo, hthree⟩ := hdb
  have hreachable : Reachable (ProjectionStep exampleChainConfig.runtime "haf") (Db.fresh exampleGame) db :=
    performAll_run hperform
  have hchained := (stored_of_reachable hreachable).1.consistent.toChained
  obtain ⟨stored, hfind, hid⟩ := Option.map_eq_some_iff.mp htwo
  have hgreatest : IsGreatest (commonHeights forkedSource "haf" db) 2 := by
    refine ⟨⟨by omega, .inr ⟨stored, chainBlock 2, hfind, rfl, hid⟩⟩, fun n hn => ?_⟩
    have hle : n ≤ 3 := hlast ▸ le_of_mem_commonHeights hchained hn
    by_contra hlt
    obtain rfl : n = 3 := by omega
    rcases hn.2 with hzero | ⟨other, block, hother, hblock, hsame⟩
    · cases hzero
    · obtain rfl : (⟨3, "c3", "b2", 0⟩ : HafBlock) = block := Option.some.inj hblock
      rw [hother] at hthree
      have heq : other.id = "b3" := Option.some.inj hthree
      rw [heq] at hsame
      exact absurd hsame (by decide)
  have hhead : (getCursor "haf" db).lastProcessedBlock ≤ forkedSource.head := by
    rw [hcursor]
    decide
  obtain ⟨db', hexec, hreverted⟩ := (reconcileFork_ends exampleChainConfig "haf" forkedSource 20
    exampleGame db hreachable complete_forkedSource hhead).1 2 hgreatest (by rw [hcursor]; decide)
  exact ⟨db, db', hreachable, ⟨hcursor, hlast, hirreversible, htwo, hthree⟩, hexec, hreverted⟩

end HiveChameleon.Projector
