import HiveChameleon.Lib.Sorting
import HiveChameleon.Projector.HafahHttp
import HiveChameleon.Projector.Pagination
import HiveChameleon.Projector.ResultChain

/-!
# Projector.HttpProjection — a projector over HTTP and over the chain behind it

HAfAH and the Hive RPC answer from one chain.  Each read of `HafahHttpSource` then returns what the chain
holds, the operations of a range through however many pages, and a cycle of the projector over HTTP does
what it does over a snapshot of the chain.
-/

namespace HiveChameleon.Projector

open Gateway Lib

/-! ### The heights that a cycle asks for -/

/-- A request with heights that the source takes. -/
def Request.InRange : Request → Prop
  | .getBlock n => isBlockNumber n
  | .getOperations fromBlock toBlock => fromBlock ≤ toBlock ∧ isBlockNumber toBlock
  | _ => True

section Heights

variable {cfg : ProjectorConfig} {server : (q : Request) → Db → Except Failure q.Response × Db} {db : Db}

theorem isBlockNumber_of_le {m n : ℕ} (hn : isBlockNumber n) (h : m ≤ n) : isBlockNumber m :=
  lt_of_le_of_lt h hn

theorem readBlocks_asks : ∀ (count blockNumber : ℕ) (previous : Option HafBlock) {db : Db},
    (∀ n, n < blockNumber + count → isBlockNumber n) →
      Prog.Asks server Request.InRange (readBlocks previous count blockNumber)
        (fun blocks => ∀ block ∈ blocks, isBlockNumber block.number) db
  | 0, _, _, _, _ => Prog.asks_ret fun _ hblock => absurd hblock List.not_mem_nil
  | count + 1, blockNumber, previous, db, hrange => by
    have hnumber : isBlockNumber blockNumber := hrange blockNumber (by omega)
    refine Prog.asks_request_bind hnumber fun block db' _ => ?_
    split
    · exact Prog.asks_throw
    rename_i hchanged
    obtain ⟨hblock, -⟩ := not_or.mp hchanged
    refine Prog.asks_bind (readBlocks_asks count (blockNumber + 1) (some block)
      fun n hn => hrange n (by omega)) fun blocks db'' hblocks => ?_
    refine Prog.asks_ret fun b hb => ?_
    rcases List.mem_cons.mp hb with rfl | hb
    · rw [not_not.mp hblock]
      exact hnumber
    · exact hblocks b hb

theorem reconcileFrom_asks {cursor : ProjectionCursor} : ∀ (remaining blockNumber : ℕ) {db : Db},
    isBlockNumber blockNumber →
      Prog.Asks server Request.InRange (reconcileFrom cursor remaining blockNumber) (fun _ => True) db
  | 0, _, _, _ => Prog.asks_throw
  | remaining + 1, blockNumber, db, hnumber => by
    unfold reconcileFrom
    split
    · split
      · exact Prog.asks_throw
      · exact Prog.asks_request_bind trivial fun _ _ _ => Prog.asks_ret trivial
    · refine Prog.asks_request_bind trivial fun stored db' _ => ?_
      refine Prog.asks_request_bind hnumber fun current db'' _ => ?_
      split
      · split
        · exact Prog.asks_throw
        · exact Prog.asks_request_bind trivial fun _ _ _ => Prog.asks_ret trivial
      · split
        · exact Prog.asks_throw
        · exact reconcileFrom_asks remaining (blockNumber - 1)
            (isBlockNumber_of_le hnumber (Nat.sub_le _ _))

theorem verifyCurrentTip_asks {cursor : ProjectionCursor} (hcursor : isBlockNumber cursor.lastProcessedBlock) :
    Prog.Asks server Request.InRange (verifyCurrentTip cfg cursor) (fun _ => True) db := by
  unfold verifyCurrentTip
  split
  · exact Prog.asks_ret trivial
  · split
    · exact Prog.asks_ret trivial
    · refine Prog.asks_request_bind hcursor fun current db' _ => ?_
      split
      · exact Prog.asks_ret trivial
      · exact Prog.asks_bind (reconcileFrom_asks _ _ hcursor) fun _ _ _ => Prog.asks_ret trivial

theorem applyBlocks_asks {operations : ℕ → List HafOperation} : ∀ (blocks : List HafBlock)
    {cursor : ProjectionCursor} {appliedBlocks : ℕ} {db : Db},
      (∀ block ∈ blocks, isBlockNumber block.number) → isBlockNumber cursor.lastProcessedBlock →
      Prog.Asks server Request.InRange (applyBlocks cfg operations cursor appliedBlocks blocks)
        (fun result => isBlockNumber result.1.lastProcessedBlock) db
  | [], _, _, _, _, hcursor => Prog.asks_ret hcursor
  | block :: blocks, cursor, appliedBlocks, db, hblocks, hcursor => by
    have hblock := hblocks block List.mem_cons_self
    unfold applyBlocks
    split
    · exact Prog.asks_bind (reconcileFrom_asks _ _ (isBlockNumber_of_le hblock (Nat.sub_le _ _)))
        fun _ _ _ => Prog.asks_ret hcursor
    · refine Prog.asks_lift_bind fun decisions _ => ?_
      refine Prog.asks_request_bind trivial fun _ db' _ => ?_
      exact applyBlocks_asks blocks (fun b hb => hblocks b (List.mem_cons_of_mem block hb)) hblock

theorem applyThrough_asks {cursor : ProjectionCursor} {target : ℕ}
    (hcursor : isBlockNumber cursor.lastProcessedBlock) (htarget : isBlockNumber target) :
    Prog.Asks server Request.InRange (applyThrough cfg cursor target)
      (fun result => isBlockNumber result.1.lastProcessedBlock) db := by
  unfold applyThrough
  split
  · rename_i hbehind
    have hrange : ∀ n, n < cursor.lastProcessedBlock + 1 + (target + 1 - (cursor.lastProcessedBlock + 1)) →
        isBlockNumber n := fun n hn => isBlockNumber_of_le htarget (by omega)
    refine Prog.asks_bind (readBlocks_asks _ _ _ hrange) fun beforeOperations db₁ _ => ?_
    refine Prog.asks_request_bind ⟨hbehind, htarget⟩ fun operations db₂ _ => ?_
    refine Prog.asks_bind (readBlocks_asks _ _ _ hrange) fun afterOperations db₃ hblocks => ?_
    refine Prog.asks_lift_bind fun _ _ => ?_
    refine Prog.asks_lift_bind fun grouped _ => ?_
    exact applyBlocks_asks afterOperations hblocks hcursor
  · exact Prog.asks_ret hcursor

theorem finalizeCovered_asks {cursor : ProjectionCursor} {sourceHead appliedBlocks : ℕ}
    {irreversible : HafIrreversibleBlock} (hcursor : isBlockNumber cursor.lastProcessedBlock)
    (hhead : isBlockNumber sourceHead) :
    Prog.Asks server Request.InRange (finalizeCovered cursor sourceHead irreversible appliedBlocks)
      (fun _ => True) db := by
  unfold finalizeCovered
  dsimp only
  split
  · refine Prog.asks_bind (Q := fun _ => True) ?_ fun _ _ _ =>
      Prog.asks_request_bind trivial fun _ _ _ => Prog.asks_ret trivial
    unfold assertFinalityAgreement
    split
    · exact Prog.asks_throw
    split
    · exact Prog.asks_throw
    rename_i hanchored
    refine Prog.asks_request_bind (isBlockNumber_of_le hhead (by omega)) fun hafahIrreversible db₁ _ => ?_
    split
    · exact Prog.asks_throw
    refine Prog.asks_request_bind trivial fun stored db₂ _ => ?_
    refine Prog.asks_bind (Q := fun _ => True) ?_ fun current db₃ _ => ?_
    · unfold finalizableBlock
      split
      · exact Prog.asks_ret trivial
      · exact Prog.asks_request (isBlockNumber_of_le hcursor (min_le_right _ _)) fun _ _ _ => trivial
    · split
      · exact Prog.asks_ret trivial
      · exact Prog.asks_throw
  · exact Prog.asks_ret trivial

/-- **A cycle asks for block numbers only**, when the head is one: a cursor beyond the head ends it. -/
theorem runOnce_asks (hhead : ∀ db head irreversible db',
      server .getHeadAndIrreversible db = (.ok (head, irreversible), db') → isBlockNumber head) :
    Prog.Asks server Request.InRange (runOnce cfg) (fun _ => True) db := by
  refine Prog.asks_request_bind trivial fun cursor db₁ _ => ?_
  refine Prog.asks_request_bind trivial fun ⟨sourceHead, sourceIrreversible⟩ db₂ hanswer => ?_
  have hhead : isBlockNumber sourceHead := hhead _ _ _ _ hanswer
  dsimp only
  split
  · exact Prog.asks_ret trivial
  rename_i hreached
  have hcursor : isBlockNumber cursor.lastProcessedBlock := isBlockNumber_of_le hhead (by omega)
  refine Prog.asks_bind (verifyCurrentTip_asks hcursor) fun tip db₃ _ => ?_
  cases tip with
  | some ancestor => exact Prog.asks_ret trivial
  | none =>
    refine Prog.asks_bind (applyThrough_asks hcursor (isBlockNumber_of_le hhead (min_le_left _ _)))
      fun ⟨cursor', appliedBlocks, reverted⟩ db₄ hcursor' => ?_
    cases reverted with
    | some ancestor => exact Prog.asks_ret trivial
    | none => exact finalizeCovered_asks hcursor' hhead

end Heights

/-! ### The chain behind the source -/

/-- What HAfAH and the Hive RPC hold. -/
structure ServedChain where
  head : ℕ
  irreversible : HafIrreversibleBlock
  block : ℕ → Option HafBlock
  history : OperationHistory

/-- The operations that items stand for, those with a timestamp that can be read. -/
def standing (parseDate : String → Option Timestamp) (items : List HafahOperation) :
    List HafOperation :=
  items.filterMap fun item =>
    (normalizeHiveTimestamp parseDate item.timestamp).toOption.map (normalizedOperation item)

/-- The chain as a source of the given operation types. -/
def ServedChain.snapshot (chain : ServedChain) (parseDate : String → Option Timestamp)
    (operationTypes : List ℕ) : SourceSnapshot where
  head := chain.head
  irreversible := chain.irreversible
  block := chain.block
  operations := (standing parseDate (chain.history.operations.filter fun o =>
    chain.history.typeId o ∈ operationTypes)).insertionSort operationOrder

/-- The call is answered with JSON that reads as `a`. -/
def Delivers {α : Type} (net : SourceCall → Except Failure SourceResponse) (call : SourceCall)
    (read : Json → Option α) (a : α) : Prop :=
  ∃ status value, net call = .ok ⟨true, status, some value⟩ ∧ read value = some a

/-- **The network serves a chain**: each call of the source is answered from it, and a block that it does
not hold is not found. -/
structure HafahHttpSource.Serves (source : HafahHttpSource) (parseDate : String → Option Timestamp)
    (net : SourceCall → Except Failure SourceResponse) (chain : ServedChain) : Prop where
  head : Delivers net source.headCall readNatural chain.head
  irreversible : Delivers net source.propertiesCall rpcPropertiesSchema chain.irreversible.number
  unsynchronized : chain.irreversible.number = 0 → chain.irreversible.id = none
  final : chain.irreversible.number ≠ 0 → ∃ id, chain.irreversible.id = some id ∧
    blockIdMatchesNumber id chain.irreversible.number ∧
    Delivers net (source.blockCall chain.irreversible.number) rpcBlockSchema id
  block : ∀ n block, chain.block n = some block → block.number = n ∧ blockIdMatchesNumber block.id n ∧
    ∃ createdAt, normalizeHiveTimestamp parseDate createdAt = .ok block.timestamp ∧
      Delivers net (source.stateCall n) globalStateSchema ⟨n, block.id, block.previousId, createdAt⟩
  missing : ∀ n, chain.block n = none → ∃ body, net (source.stateCall n) = .ok ⟨false, 404, body⟩
  pages : ∀ toBlock, ∃ pageSize pages,
    Paginates chain.history source.operationTypes toBlock pageSize pages ∧
      ∀ key, Delivers net (source.pageCall toBlock key) operationsPageSchema (pages key)
  readable : ∀ o ∈ chain.history.operations, o.Readable parseDate

/-- The network answers the source, and the store the rest. -/
def serveNetwork (net : SourceCall → Except Failure SourceResponse) (R : Runtime) (name : String)
    (time : Timestamp) : (q : ProjectorCall) → Db → Except Failure q.Response × Db
  | .fetch call, db => (net call, db)
  | .store q, db => serve R name (.ofBlocks [] 0 [], time) q db

section Operations

variable {parseDate : String → Option Timestamp} {fromBlock toBlock : ℕ}

theorem standFor_standing : ∀ {items : List HafahOperation},
    (∀ item ∈ items, fromBlock ≤ item.block ∧ item.block ≤ toBlock) →
    (∀ item ∈ items, item.Readable parseDate) →
      StandFor parseDate fromBlock toBlock items (standing parseDate items)
  | [], _, _ => .nil
  | item :: items, hrange, hreadable => by
    obtain ⟨hidentity, timestamp, htimestamp⟩ := hreadable item List.mem_cons_self
    have hrest : StandFor parseDate fromBlock toBlock items (standing parseDate items) := standFor_standing
      (fun other hother => hrange other (List.mem_cons_of_mem item hother))
      fun other hother => hreadable other (List.mem_cons_of_mem item hother)
    have hfirst : standing parseDate (item :: items) =
        normalizedOperation item timestamp :: standing parseDate items := by
      rw [standing, List.filterMap_cons, htimestamp]
      rfl
    rw [hfirst]
    exact .cons (normalizeItem_eq_ok.mpr
      ⟨hrange item List.mem_cons_self, hidentity, timestamp, htimestamp, rfl⟩) hrest

/-- The operations of a range stand for the items of the range. -/
theorem filter_standing (items : List HafahOperation) :
    (standing parseDate items).filter (fun operation =>
      fromBlock ≤ operation.blockNumber ∧ operation.blockNumber ≤ toBlock) =
    standing parseDate (items.filter fun item => fromBlock ≤ item.block ∧ item.block ≤ toBlock) := by
  induction items with
  | nil => rfl
  | cons item items ih =>
    rw [standing, List.filterMap_cons, List.filter_cons]
    cases hdate : (normalizeHiveTimestamp parseDate item.timestamp).toOption with
    | none =>
      simp only [Option.map_none]
      refine ih.trans ?_
      split
      · rw [standing, standing, List.filterMap_cons, hdate]
        rfl
      · rfl
    | some timestamp =>
      simp only [Option.map_some]
      rw [List.filter_cons]
      have hblock : (normalizedOperation item timestamp).blockNumber = item.block := rfl
      rw [hblock]
      split
      · rw [standing, List.filterMap_cons, hdate]
        exact congrArg (_ :: ·) ih
      · exact ih

theorem operationOrder_trans (a b c : HafOperation) (hab : operationOrder a b) (hbc : operationOrder b c) :
    operationOrder a c := by
  unfold operationOrder at *
  omega

theorem operationOrder_total (a b : HafOperation) : operationOrder a b ∨ operationOrder b a := by
  unfold operationOrder
  omega

/-- **What the snapshot returns for a range** are the matching operations of the range, sorted. -/
theorem snapshot_operations (chain : ServedChain) (operationTypes : List ℕ) :
    (chain.snapshot parseDate operationTypes).operations.filter (fun operation =>
      fromBlock ≤ operation.blockNumber ∧ operation.blockNumber ≤ toBlock) =
    (standing parseDate (chain.history.matching operationTypes fromBlock toBlock)).insertionSort
      operationOrder := by
  rw [ServedChain.snapshot, filter_insertionSort _ operationOrder_trans operationOrder_total,
    filter_standing, List.filter_filter]
  refine congrArg (fun items => (standing parseDate items).insertionSort operationOrder) ?_
  refine List.filter_congr fun o _ => ?_
  rw [Bool.eq_iff_iff, Bool.and_eq_true, decide_eq_true_iff, decide_eq_true_iff, decide_eq_true_iff]
  exact and_comm

end Operations

/-! ### The reads -/

section Reads

variable {source : HafahHttpSource} {parseDate : String → Option Timestamp}
variable {net : SourceCall → Except Failure SourceResponse} {chain : ServedChain}
variable {R : Runtime} {name : String} {time : Timestamp} {db : Db}

theorem exec_requestJson {call : SourceCall} {α : Type} {read : Json → Option α} {a : α}
    (h : Delivers net call read a) :
    ∃ value, read value = some a ∧
      (requestJson call).exec (serveNetwork net R name time) db = (.ok value, db) := by
  obtain ⟨status, value, hnet, hread⟩ := h
  refine ⟨value, hread, ?_⟩
  simp only [requestJson, Prog.exec, serveNetwork, hnet]
  rfl

theorem exec_read {call : SourceCall} {α β : Type} {read : Json → Option α} {a : α}
    {f : Json → Networked β} {result : Except Failure β × Db} (h : Delivers net call read a)
    (hf : ∀ value, read value = some a → (f value).exec (serveNetwork net R name time) db = result) :
    ((requestJson call).bind f).exec (serveNetwork net R name time) db = result := by
  obtain ⟨value, hread, hexec⟩ : ∃ value, read value = some a ∧
      (requestJson call).exec (serveNetwork net R name time) db = (.ok value, db) := exec_requestJson h
  rw [Prog.exec_bind_ok hexec, hf value hread]

theorem exec_getHeadBlockNumber (h : source.Serves parseDate net chain) :
    source.getHeadBlockNumber.exec (serveNetwork net R name time) db = (.ok chain.head, db) := by
  refine exec_read h.head fun value hread => ?_
  rw [hread]
  rfl

theorem exec_getLastIrreversibleBlock (h : source.Serves parseDate net chain) :
    source.getLastIrreversibleBlock.exec (serveNetwork net R name time) db =
      (.ok chain.irreversible, db) := by
  refine exec_read h.irreversible fun value hread => ?_
  rw [hread]
  dsimp only
  by_cases hzero : chain.irreversible.number = 0
  · have hsame : (⟨0, none⟩ : HafIrreversibleBlock) = chain.irreversible := by
      rw [← h.unsynchronized hzero, ← hzero]
    rw [if_pos hzero, ← hsame]
    rfl
  · obtain ⟨id, hid, hmatches, hdelivers⟩ := h.final hzero
    have hsame : (⟨chain.irreversible.number, some id⟩ : HafIrreversibleBlock) = chain.irreversible := by
      rw [← hid]
    rw [if_neg hzero]
    refine exec_read hdelivers fun blockValue hblock => ?_
    rw [hblock, Option.filter_some, decide_eq_true hmatches, ← hsame]
    rfl

theorem exec_getBlock (h : source.Serves parseDate net chain) {n : ℕ} (hn : isBlockNumber n) :
    (source.getBlock parseDate n).exec (serveNetwork net R name time) db =
      (match chain.block n with
        | some block => .ok block
        | none => .error (sourceUnavailable "Hive source returned HTTP 404"), db) := by
  have hassert : assertBlockNumber n = .ok () := require_eq_ok.mpr hn
  unfold HafahHttpSource.getBlock
  rw [hassert]
  show ((requestJson (source.stateCall n)).bind _).exec _ db = _
  cases hblock : chain.block n with
  | none =>
    obtain ⟨body, hnet⟩ := h.missing n hblock
    simp only [requestJson, Prog.bind, Prog.exec, serveNetwork, hnet]
    rfl
  | some block =>
    obtain ⟨hnumber, hmatches, createdAt, htimestamp, hdelivers⟩ := h.block n block hblock
    refine exec_read hdelivers fun value hread => ?_
    rw [hread, Option.filter_some, decide_eq_true ⟨rfl, hmatches⟩, if_pos rfl]
    show (Prog.bind (Prog.lift (normalizeHiveTimestamp parseDate createdAt)) _).exec _ db = _
    rw [htimestamp]
    show (Except.ok (HafBlock.mk n block.id block.previousId block.timestamp), db) = _
    rw [← hnumber]

theorem exec_readOperations {fromBlock toBlock : ℕ} {pages : PageKey → OperationsPage}
    (hpages : ∀ key, Delivers net (source.pageCall toBlock key) operationsPageSchema (pages key)) :
    ∀ {count : ℕ} {visited : List PageKey} {operations result : List HafOperation} {key : PageKey}
      {rest : List PageAnswer} (hkey : key ∈ rangeKeys fromBlock toBlock),
      readPages parseDate fromBlock toBlock (answersTo pages toBlock count key) visited operations key =
        some (.ok result, rest) →
      (source.readOperations parseDate fromBlock toBlock visited operations key hkey).exec
        (serveNetwork net R name time) db = (.ok result, db)
  | 0, visited, operations, result, key, rest, hkey, h => by
    rw [answersTo, readPages] at h
    split at h
    · cases h
    · cases h
  | count + 1, visited, operations, result, key, rest, hkey, h => by
    rw [answersTo, readPages] at h
    by_cases hvisited : key ∈ visited
    · rw [if_pos hvisited] at h
      cases h
    · rw [if_neg hvisited] at h
      rw [HafahHttpSource.readOperations, dif_neg hvisited]
      refine exec_read (hpages key) fun value hread => ?_
      rw [hread]
      dsimp only at h ⊢
      cases hadd : addItems parseDate fromBlock toBlock operations (pages key).ops with
      | error e =>
        rw [hadd] at h
        cases h
      | ok added =>
        rw [hadd] at h
        dsimp only at h
        rw [Prog.lift, Prog.bind]
        split
        · rename_i hnext
          rw [hnext] at h
          obtain ⟨rfl, -⟩ : added = result ∧ [] = rest := by simpa using h
          rfl
        · rename_i nextKey hnext
          rw [hnext] at h
          exact exec_readOperations hpages _ h

theorem exec_getOperations (h : source.Serves parseDate net chain) {fromBlock toBlock : ℕ}
    (hrange : fromBlock ≤ toBlock) (hto : isBlockNumber toBlock) :
    (source.getOperations parseDate fromBlock toBlock).exec (serveNetwork net R name time) db =
      (.ok ((chain.snapshot parseDate source.operationTypes).operations.filter fun operation =>
        fromBlock ≤ operation.blockNumber ∧ operation.blockNumber ≤ toBlock), db) := by
  obtain ⟨pageSize, pages, hpaginates, hdelivers⟩ := h.pages toBlock
  have hmem : ∀ o ∈ chain.history.matching source.operationTypes fromBlock toBlock,
      o ∈ chain.history.operations ∧ fromBlock ≤ o.block ∧ o.block ≤ toBlock := by
    intro o ho
    obtain ⟨hin, hmatches⟩ := List.mem_filter.mp ho
    exact ⟨hin, (of_decide_eq_true hmatches).2⟩
  have hstand := standFor_standing (fun o ho => (hmem o ho).2) fun o ho => h.readable o (hmem o ho).1
  have hnodup := hstand.nodup (chain.history.sorted.sublist List.filter_sublist)
  rw [← remaining_first] at hstand hnodup
  have hread : readPages parseDate fromBlock toBlock (answersTo pages toBlock
      (chain.history.remaining source.operationTypes toBlock ⟨fromBlock, none⟩).length.succ
        ⟨fromBlock, none⟩) [] [] ⟨fromBlock, none⟩ = some (.ok ([] ++ standing parseDate
      (chain.history.remaining source.operationTypes toBlock ⟨fromBlock, none⟩)), []) :=
    readPages_faithful hpaginates (Nat.lt_succ_self _) (fun k hk => absurd hk List.not_mem_nil) hstand
      hnodup
  have hfrom : assertBlockNumber fromBlock = .ok () := require_eq_ok.mpr (isBlockNumber_of_le hto hrange)
  have hend : assertBlockNumber toBlock = .ok () := require_eq_ok.mpr hto
  have hinverted : require (fromBlock ≤ toBlock)
      (invalidSourceResponse "Operation block range is inverted") = .ok () := require_eq_ok.mpr hrange
  rw [HafahHttpSource.getOperations, hfrom, hend, hinverted, snapshot_operations, ← remaining_first]
  exact Prog.exec_bind_ok (exec_readOperations hdelivers _ hread)

/-- **One request**: over HTTP it ends as with the snapshot. -/
theorem exec_answering (h : source.Serves parseDate net chain) {q : Request} (hq : q.InRange) :
    (source.answering parseDate q).exec (serveNetwork net R name time) db =
      serve R name (chain.snapshot parseDate source.operationTypes, time) q db := by
  cases q with
  | getHeadAndIrreversible =>
    show (Prog.bind source.getHeadBlockNumber _).exec _ db = _
    rw [Prog.exec_bind_ok (exec_getHeadBlockNumber h)]
    show (Prog.bind source.getLastIrreversibleBlock _).exec _ db = _
    rw [Prog.exec_bind_ok (exec_getLastIrreversibleBlock h)]
    rfl
  | getBlock n =>
    refine (exec_getBlock h hq).trans ?_
    show _ = serve R name (chain.snapshot parseDate source.operationTypes, time) (.getBlock n) db
    unfold serve
    dsimp only
    have hblock : (chain.snapshot parseDate source.operationTypes).block n = chain.block n := rfl
    rw [hblock]
    cases chain.block n with
    | none => rfl
    | some block => rfl
  | getOperations fromBlock toBlock => exact exec_getOperations h hq.1 hq.2
  | getCursor => exact Prog.exec_request
  | getCurrentCheckpoint n => exact Prog.exec_request
  | applyBlock block decisions => exact Prog.exec_request
  | revertAfter ancestorBlock => exact Prog.exec_request
  | finalizeThrough n => exact Prog.exec_request

end Reads

/-- **The projector over HTTP does what it does over the chain**: against a network that serves a chain,
through whatever pages, a cycle ends with the same result or error, and leaves the same database, as a
cycle against a snapshot of the chain with its operations in the order of their blocks and positions;
and no request of it leaves the range that the source takes. -/
theorem runOnce_over_http (cfg : ProjectorConfig) (source : HafahHttpSource)
    (parseDate : String → Option Timestamp) (net : SourceCall → Except Failure SourceResponse)
    (chain : ServedChain) (h : source.Serves parseDate net chain) (time : Timestamp) (db : Db) :
    ((runOnce cfg).implement (source.answering parseDate)).exec
        (serveNetwork net cfg.runtime source.sourceName time) db =
      (runOnce cfg).exec (serve cfg.runtime source.sourceName
        (chain.snapshot parseDate source.operationTypes, time)) db ∧
    Prog.Asks (serve cfg.runtime source.sourceName
      (chain.snapshot parseDate source.operationTypes, time)) Request.InRange (runOnce cfg)
        (fun _ => True) db := by
  have hhead : isBlockNumber chain.head := by
    obtain ⟨status, value, -, hread⟩ := h.head
    cases value with
    | number text =>
      obtain ⟨-, hsafe⟩ := Option.filter_eq_some_iff.mp hread
      exact of_decide_eq_true hsafe
    | _ => cases hread
  have hasks : Prog.Asks (serve cfg.runtime source.sourceName
      (chain.snapshot parseDate source.operationTypes, time)) Request.InRange (runOnce cfg)
        (fun _ => True) db := by
    refine runOnce_asks fun db head irreversible db' hanswer => ?_
    obtain ⟨hok, -⟩ := Prod.mk.inj hanswer
    obtain rfl : chain.head = head := congrArg Prod.fst (Except.ok.inj hok)
    exact hhead
  obtain ⟨hresult, hstate⟩ := Prog.exec_implement (φ := id) (fun q t hq => by
    rw [exec_answering h hq]
    exact ⟨rfl, rfl⟩) hasks
  exact ⟨Prod.ext hresult hstate, hasks⟩

/-! ### A network for a chain -/

theorem readNatural_repr {n : ℕ} (h : isBlockNumber n) : readNatural (.number (Nat.repr n)) = some n := by
  rw [readNatural, decimal_eq_some.mpr rfl, Option.filter_some, decide_eq_true h, if_pos rfl]

theorem uint64DecimalSchema_repr (id : UInt64) :
    uint64DecimalSchema (.string (Nat.repr id.toNat)) = some id := by
  have hle : id.toNat ≤ 18446744073709551615 := Nat.le_of_lt_succ id.toNat_lt
  rw [uint64DecimalSchema, decimal_eq_some.mpr rfl, Option.filter_some, decide_eq_true hle, if_pos rfl,
    Option.map_some, UInt64.ofNat_toNat]

/-- An item with the JSON of its value. -/
def HafahOperation.json (item : HafahOperation) (value : Json) : Json := .object [
  ("op", .object [("type", .string item.type), ("value", value)]),
  ("block", .number (Nat.repr item.block)),
  ("trx_id", match item.trxId with
    | none => .null
    | some text => .string text),
  ("op_pos", .number (Nat.repr item.opPos)),
  ("timestamp", .string item.timestamp),
  ("virtual_op", .bool item.virtualOp),
  ("operation_id", .string (Nat.repr item.operationId.toNat))]

def OperationsPage.json (page : OperationsPage) (value : HafahOperation → Json) : Json := .object [
  ("next_block_range_begin", match page.nextBlockRangeBegin with
    | none => .null
    | some n => .number (Nat.repr n)),
  ("next_operation_begin", match page.nextOperationBegin with
    | none => .null
    | some id => .string (Nat.repr id.toNat)),
  ("ops", .array (page.ops.map fun item => item.json (value item)))]

/-- What HAfAH can write of an item: numbers that JSON keeps, a hash and texts. -/
structure HafahOperation.Written (item : HafahOperation) (value : Json) : Prop where
  value : operationValue value = item.value
  type : item.type ≠ ""
  timestamp : item.timestamp ≠ ""
  block : isBlockNumber item.block
  position : isBlockNumber item.opPos
  transaction : ∀ text ∈ item.trxId, isHash40 text = true

theorem hafahOperationSchema_json {item : HafahOperation} {value : Json} (h : item.Written value) :
    hafahOperationSchema (item.json value) = some item := by
  have htransaction : nullish blockHashSchema (some (match item.trxId with
      | none => .null
      | some text => .string text)) = some item.trxId := by
    cases htrx : item.trxId with
    | none => rfl
    | some text =>
      show (blockHashSchema (.string text)).map some = _
      rw [blockHashSchema, if_pos (h.transaction text htrx)]
      rfl
  have htype : readNonempty (.string item.type) = some item.type := if_neg h.type
  have htimestamp : readNonempty (.string item.timestamp) = some item.timestamp := if_neg h.timestamp
  show (readNonempty (.string item.type)).bind _ = _
  rw [htype, Option.bind_some]
  show (readNatural (.number (Nat.repr item.block))).bind _ = _
  rw [readNatural_repr h.block, Option.bind_some]
  show (nullish blockHashSchema (some _)).bind _ = _
  rw [htransaction, Option.bind_some]
  show (readNatural (.number (Nat.repr item.opPos))).bind _ = _
  rw [readNatural_repr h.position, Option.bind_some]
  show (readNonempty (.string item.timestamp)).bind _ = _
  rw [htimestamp, Option.bind_some]
  show (uint64DecimalSchema (.string (Nat.repr item.operationId.toNat))).bind _ = _
  rw [uint64DecimalSchema_repr, Option.bind_some]
  show some (HafahOperation.mk item.type (operationValue value) _ _ _ _ _ _) = _
  rw [h.value]

theorem mapM_hafahOperationSchema {value : HafahOperation → Json} : ∀ {items : List HafahOperation},
    (∀ item ∈ items, item.Written (value item)) →
      (items.map fun item => item.json (value item)).mapM hafahOperationSchema = some items
  | [], _ => rfl
  | item :: items, h => by
    rw [List.map_cons, List.mapM_cons, hafahOperationSchema_json (h item List.mem_cons_self),
      mapM_hafahOperationSchema fun other hother => h other (List.mem_cons_of_mem item hother)]
    rfl

theorem operationsPageSchema_json {page : OperationsPage} {value : HafahOperation → Json}
    (hops : ∀ item ∈ page.ops, item.Written (value item))
    (hnext : ∀ n ∈ page.nextBlockRangeBegin, isBlockNumber n) :
    operationsPageSchema (page.json value) = some page := by
  have hblock : nullish readNatural (some (match page.nextBlockRangeBegin with
      | none => .null
      | some n => .number (Nat.repr n))) = some page.nextBlockRangeBegin := by
    cases hbegin : page.nextBlockRangeBegin with
    | none => rfl
    | some n => exact congrArg (Option.map some) (readNatural_repr (hnext n hbegin))
  have hid : nullish uint64DecimalSchema (some (match page.nextOperationBegin with
      | none => .null
      | some id => .string (Nat.repr id.toNat))) = some page.nextOperationBegin := by
    cases page.nextOperationBegin with
    | none => rfl
    | some id => exact congrArg (Option.map some) (uint64DecimalSchema_repr id)
  show (nullish readNatural (some _)).bind _ = _
  rw [hblock, Option.bind_some]
  show (nullish uint64DecimalSchema (some _)).bind _ = _
  rw [hid, Option.bind_some]
  show ((page.ops.map fun item => item.json (value item)).mapM hafahOperationSchema).bind _ = _
  rw [mapM_hafahOperationSchema hops]
  rfl

/-- A chain with what its answers are written with: the texts of the timestamps, and the JSON of the values
of the operations. -/
structure WrittenChain (parseDate : String → Option Timestamp) extends ServedChain where
  createdAt : ℕ → String
  value : HafahOperation → Json
  safe_head : isBlockNumber head
  unsynchronized : irreversible.number = 0 → irreversible.id = none
  final : irreversible.number ≠ 0 → ∃ id, irreversible.id = some id ∧ isHash40 id = true ∧
    blockIdMatchesNumber id irreversible.number
  written_block : ∀ n found, block n = some found → found.number = n ∧ isHash40 found.id = true ∧
    isHash40 found.previousId = true ∧ blockIdMatchesNumber found.id n ∧ createdAt n ≠ "" ∧
    normalizeHiveTimestamp parseDate (createdAt n) = .ok found.timestamp
  written : ∀ item ∈ history.operations, item.Written (value item) ∧ item.Readable parseDate

namespace WrittenChain

variable {parseDate : String → Option Timestamp} (chain : WrittenChain parseDate)

def found (value : Json) : Except Failure SourceResponse := .ok ⟨true, 200, some value⟩

def notFound : Except Failure SourceResponse := .ok ⟨false, 404, none⟩

def state (text : String) : Except Failure SourceResponse :=
  match (decimal text).bind fun n => (chain.block n).map fun block => (n, block) with
  | none => notFound
  | some (n, block) => found (.object [
      ("block_num", .number (Nat.repr n)),
      ("hash", .string block.id),
      ("prev", .string block.previousId),
      ("created_at", .string (chain.createdAt n))])

/-- A page of at most `limit` operations. -/
def page (operationTypes : List ℕ) (limit : ℕ) (fromBlock toBlock : String) (operationBegin : Option String) :
    Except Failure SourceResponse :=
  match decimal fromBlock, decimal toBlock with
  | some pageFrom, some toBlock =>
    found ((pagesOf chain.history operationTypes toBlock limit
      ⟨pageFrom, (operationBegin.bind decimal).map UInt64.ofNat⟩).json chain.value)
  | _, _ => notFound

def properties : Json :=
  .object [("result", .object [("last_irreversible_block_num",
    .number (Nat.repr chain.irreversible.number))])]

def irreversibleBlock : Json :=
  .object [("result", .object [("block", .object [("block_id",
    .string (chain.irreversible.id.getD ""))])])]

/-- Answers every call of a source from the chain. -/
def network (operationTypes : List ℕ) (limit : ℕ) (call : SourceCall) : Except Failure SourceResponse :=
  match call.body, call.query with
  | none, [] => found (.number (Nat.repr chain.head))
  | none, [(_, blockNum)] => chain.state blockNum
  | none, (_, fromBlock) :: (_, toBlock) :: query =>
    chain.page operationTypes limit fromBlock toBlock (query.lookup "operation-begin")
  | some (.object [_, _, (_, .object []), _]), _ => found chain.properties
  | some _, _ => found chain.irreversibleBlock

theorem delivers_page (source : HafahHttpSource) {limit : ℕ} (toBlock : ℕ) (key : PageKey) :
    Delivers (chain.network source.operationTypes limit) (source.pageCall toBlock key)
      operationsPageSchema (pagesOf chain.history source.operationTypes toBlock limit key) := by
  have hmem : ∀ item ∈ chain.history.remaining source.operationTypes toBlock key,
      item ∈ chain.history.operations := fun item hitem => (List.mem_filter.mp hitem).1
  have hkey : (⟨key.pageFrom, (Option.bind (key.operationBegin.map fun id => Nat.repr id.toNat) decimal).map
      UInt64.ofNat⟩ : PageKey) = key := by
    obtain ⟨pageFrom, _ | id⟩ := key
    · rfl
    · rw [Option.map_some, Option.bind_some, decimal_eq_some.mpr rfl, Option.map_some, UInt64.ofNat_toNat]
  have hbegin : ∀ shared : List (String × String), shared.lookup "operation-begin" = none →
      (shared ++ match key.operationBegin with
        | none => []
        | some id => [("operation-begin", Nat.repr id.toNat)]).lookup "operation-begin" =
        key.operationBegin.map fun id => Nat.repr id.toNat := by
    intro shared hshared
    rw [List.lookup_append, hshared]
    cases key.operationBegin with
    | none => rfl
    | some id => rfl
  have hquery := hbegin [("operation-types", ",".intercalate (source.operationTypes.map Nat.repr)),
    ("operation-group-type", "all"), ("page-size", Nat.repr source.pageSize.num.toNat),
    ("include-reversible", "true")] rfl
  refine ⟨200, (pagesOf chain.history source.operationTypes toBlock limit key).json chain.value, ?_,
    operationsPageSchema_json (fun item hitem => ?_) fun n hn => ?_⟩
  · refine (congrArg (chain.page source.operationTypes limit (Nat.repr key.pageFrom) (Nat.repr toBlock))
      hquery).trans ?_
    rw [page, decimal_eq_some.mpr rfl, decimal_eq_some.mpr rfl]
    dsimp only
    rw [hkey]
    rfl
  · exact (chain.written item (hmem item (List.mem_of_mem_take hitem))).1
  · obtain ⟨next, hnext, rfl⟩ := Option.map_eq_some_iff.mp hn
    exact (chain.written next (hmem next (List.mem_of_mem_drop (List.mem_of_mem_head? hnext)))).1.block

theorem delivers_state (source : HafahHttpSource) {limit n : ℕ} {block : HafBlock}
    (hblock : chain.block n = some block) :
    Delivers (chain.network source.operationTypes limit) (source.stateCall n) globalStateSchema
      ⟨n, block.id, block.previousId, chain.createdAt n⟩ := by
  obtain ⟨-, hid, hprevious, hmatches, hcreated, -⟩ := chain.written_block n block hblock
  have hn : isBlockNumber n := lt_of_le_of_lt hmatches.1 (by decide)
  refine ⟨200, .object [("block_num", .number (Nat.repr n)), ("hash", .string block.id),
    ("prev", .string block.previousId), ("created_at", .string (chain.createdAt n))], ?_, ?_⟩
  · show chain.state (Nat.repr n) = _
    rw [state, decimal_eq_some.mpr rfl, Option.bind_some, hblock]
    rfl
  · show (readNatural (.number (Nat.repr n))).bind _ = _
    rw [readNatural_repr hn, Option.bind_some]
    show (blockHashSchema (.string block.id)).bind _ = _
    rw [blockHashSchema, if_pos hid, Option.bind_some]
    show (blockHashSchema (.string block.previousId)).bind _ = _
    rw [blockHashSchema, if_pos hprevious, Option.bind_some]
    show (readNonempty (.string (chain.createdAt n))).bind _ = _
    rw [readNonempty, if_neg hcreated]
    rfl

/-- **Every written chain is served** by a network, whatever its page limit is. -/
theorem serves_network (source : HafahHttpSource) {limit : ℕ} (hlimit : 1 ≤ limit) :
    source.Serves parseDate (chain.network source.operationTypes limit) chain.toServedChain where
  head := ⟨200, _, rfl, readNatural_repr chain.safe_head⟩
  irreversible := by
    refine ⟨200, chain.properties, rfl, ?_⟩
    by_cases hzero : chain.irreversible.number = 0
    · show readNatural (.number (Nat.repr chain.irreversible.number)) = _
      exact readNatural_repr (by rw [hzero]; decide)
    · obtain ⟨id, -, -, hmatches⟩ := chain.final hzero
      exact readNatural_repr (lt_of_le_of_lt hmatches.1 (by decide))
  unsynchronized := chain.unsynchronized
  final hzero := by
    obtain ⟨id, hid, hhash, hmatches⟩ := chain.final hzero
    refine ⟨id, hid, hmatches, 200, chain.irreversibleBlock, rfl, ?_⟩
    show blockHashSchema (.string (chain.irreversible.id.getD "")) = _
    rw [hid, Option.getD_some, blockHashSchema, if_pos hhash]
  block n block hblock := by
    obtain ⟨hnumber, -, -, hmatches, -, htimestamp⟩ := chain.written_block n block hblock
    exact ⟨hnumber, hmatches, chain.createdAt n, htimestamp, chain.delivers_state source hblock⟩
  missing n hblock := by
    refine ⟨none, ?_⟩
    show chain.state (Nat.repr n) = _
    rw [state, decimal_eq_some.mpr rfl, Option.bind_some, hblock]
    rfl
  pages toBlock := ⟨limit, _, paginates_pagesOf hlimit, chain.delivers_page source toBlock⟩
  readable o ho := (chain.written o ho).2

end WrittenChain

/-! ### A batch and its invalidation over HTTP -/

def servedSource : HafahHttpSource where
  sourceName := "haf"
  apiBase := ⟨"https:", "", "", "hive.example", "/hafah-api/", "", ""⟩
  rpcUrl := ⟨"https:", "", "", "hive.example", "/", "", ""⟩
  operationTypeIds := [18]
  pageSize := 1000
  timeoutMs := 10000
  name := by decide
  types := ⟨List.cons_ne_nil _ _, fun value hvalue => by
    rw [List.mem_singleton.mp hvalue]
    exact ⟨rfl, by norm_num⟩⟩
  size := ⟨rfl, by norm_num, by norm_num⟩
  timeout := ⟨rfl, by norm_num, by norm_num⟩

def servedId (n : ℕ) : String :=
  String.ofList (blockPrefix n ++ List.replicate 32 'a')

/-- An operation in the transaction of its number. -/
def servedOperation (n : ℕ) (json : String) : HafahOperation where
  type := "custom_json_operation"
  value := .customJson [] [examplePublisher] hiveChameleonApplicationId json
  block := n
  trxId := some (servedId n)
  opPos := 0
  timestamp := "2026-07-16T00:00:00"
  virtualOp := false
  operationId := UInt64.ofNat n

def servedValue (json : String) : Json := .object [
  ("required_auths", .array []),
  ("required_posting_auths", .array [.string "publisher"]),
  ("id", .string "hive.chameleon"),
  ("json", .string json)]

def servedChain : WrittenChain shortDates where
  head := 2
  irreversible := ⟨2, some (servedId 2)⟩
  block n := [1, 2].find? (· = n) |>.map fun n => ⟨n, servedId n, servedId (n - 1), 1784160000000⟩
  history := {
    operations := [servedOperation 1 "batch", servedOperation 2 "invalidation"]
    typeId := fun _ => 18
    sorted := by decide
    numbered := by decide }
  createdAt _ := "2026-07-16T00:00:00"
  value item := servedValue (if item.block = 1 then "batch" else "invalidation")
  safe_head := by decide
  unsynchronized := by decide
  final _ := ⟨servedId 2, rfl, by decide, by decide⟩
  written_block n found h := by
    obtain ⟨m, hfind, rfl⟩ := Option.map_eq_some_iff.mp h
    have hmem := List.mem_of_find?_eq_some hfind
    obtain rfl : m = n := of_decide_eq_true (List.find?_some (p := fun k : ℕ => k = n) hfind)
    rcases List.mem_pair.mp hmem with rfl | rfl
    · exact ⟨rfl, by decide, by decide, by decide, by decide, rfl⟩
    · exact ⟨rfl, by decide, by decide, by decide, by decide, rfl⟩
  written item hitem := by
    rcases List.mem_pair.mp hitem with rfl | rfl
    · exact ⟨⟨by decide, by decide, by decide, by decide, by decide, by decide⟩, .inr (by decide), _, rfl⟩
    · exact ⟨⟨by decide, by decide, by decide, by decide, by decide, by decide⟩, .inr (by decide), _, rfl⟩

/-- A cycle over a snapshot of the chain. -/
def servedCycle : Except Failure HafProjectorRunResult × Db :=
  (runOnce exampleChainConfig).exec (serve exampleChainConfig.runtime servedSource.sourceName
    (servedChain.snapshot shortDates servedSource.operationTypes, 10)) (Db.fresh exampleGame)

/-- A cycle over HTTP applies two blocks, finalizes both and leaves one result that was invalidated. -/
theorem runOnce_over_http_served :
    ∃ db', ((runOnce exampleChainConfig).implement (servedSource.answering shortDates)).exec
        (serveNetwork (servedChain.network servedSource.operationTypes 1) exampleChainConfig.runtime
          servedSource.sourceName 10) (Db.fresh exampleGame) = (.ok ⟨2, 2, none, 2⟩, db') ∧
      db'.views.matchResult.rows.length = 1 ∧ db'.views.matchResultChange.rows.length = 1 ∧
      Prog.Asks (serve exampleChainConfig.runtime servedSource.sourceName
          (servedChain.snapshot shortDates servedSource.operationTypes, 10)) Request.InRange
        (runOnce exampleChainConfig) (fun _ => True) (Db.fresh exampleGame) := by
  obtain ⟨hsame, hasks⟩ := runOnce_over_http exampleChainConfig servedSource shortDates _ _
    (servedChain.serves_network servedSource le_rfl) 10 (Db.fresh exampleGame)
  rw [hsame]
  have hends : servedCycle.1 = .ok ⟨2, 2, none, 2⟩ ∧ servedCycle.2.views.matchResult.rows.length = 1 ∧
      servedCycle.2.views.matchResultChange.rows.length = 1 := by decide +kernel
  exact ⟨_, Prod.ext hends.1 rfl, hends.2.1, hends.2.2, hasks⟩

end HiveChameleon.Projector
