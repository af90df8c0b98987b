import HiveChameleon.Projector.HttpProjection
import HiveChameleon.Projector.Reported

/-!
# Projector.Identified — what any network lets into the store

`HafahHttpSource` checks what it reads.  Whatever the network answers, a block that it returns has an id
that begins with its height, and an operation has the number and the transaction that HAfAH names
operations with.  So have the rows that any number of projectors store over it, and a block id stands for
one height.
-/

namespace HiveChameleon.Projector

open Gateway Lib

/-! ### Block ids and heights -/

theorem mapM_digitBelow_blockPrefix (n : ℕ) :
    (blockPrefix n).mapM (digitBelow 16) =
      ((numeral 16 n).mapM (digitBelow 16)).map
        (List.replicate (8 - (numeral 16 n).length) 0 ++ ·) := by
  rw [blockPrefix]
  generalize 8 - (numeral 16 n).length = count
  induction count with
  | zero =>
    rw [List.replicate_zero, List.replicate_zero, List.nil_append]
    simp
  | succ count ih =>
    have hzero : digitBelow 16 '0' = some 0 := digitBelow_digitChar (by decide) (n := 0) (by decide)
    rw [List.replicate_succ, List.cons_append, List.mapM_cons, ih, hzero]
    cases (numeral 16 n).mapM (digitBelow 16) with
    | none => rfl
    | some digits => rfl

/-- The padded text of a number is read as this number. -/
theorem parseNumeral_blockPrefix (n : ℕ) : parseNumeral 16 (blockPrefix n) = some n := by
  have hround : parseNumeral 16 (numeral 16 n) = some n := parseNumeral_numeral (by decide) (by decide)
  have hne : blockPrefix n ≠ [] := fun h => numeral_ne_nil (List.append_eq_nil_iff.mp h).2
  rw [parseNumeral, if_neg numeral_ne_nil] at hround
  obtain ⟨digits, hdigits, hvalue⟩ := Option.map_eq_some_iff.mp hround
  rw [parseNumeral, if_neg hne, mapM_digitBelow_blockPrefix, hdigits, Option.map_some, Option.map_some,
    List.reverse_append, List.reverse_replicate, Nat.ofDigits_append_replicate_zero, hvalue]

/-- **A block id names one height.** -/
theorem blockIdMatchesNumber_unique {id : String} {m n : ℕ} (hm : blockIdMatchesNumber id m)
    (hn : blockIdMatchesNumber id n) : m = n := by
  have hsame : blockPrefix m = blockPrefix n := hm.2.symm.trans hn.2
  have hvalue := parseNumeral_blockPrefix m
  rw [hsame, parseNumeral_blockPrefix] at hvalue
  exact (Option.some.inj hvalue).symm

/-! ### What the source returns -/

section Source

variable {source : HafahHttpSource} {parseDate : String → Option Timestamp} {trace : List ProjectorCall}

theorem requestJson_ends {call : SourceCall} {α : Type} {f : Json → Networked α} {a : α}
    (h : ((requestJson call).bind f).Ends trace (.ok a)) :
    ∃ value rest, (f value).Ends rest (.ok a) := by
  rcases Prog.ends_bind.mp h with ⟨e, -, hcontra⟩ | ⟨value, before, after, -, -, hafter⟩
  · cases hcontra
  · exact ⟨value, after, hafter⟩

theorem lift_bind_ends {α β : Type} {x : Except Failure α} {f : α → Networked β} {b : β}
    (h : ((Prog.lift x).bind f).Ends trace (.ok b)) : ∃ a, x = .ok a ∧ (f a).Ends trace (.ok b) := by
  rcases Prog.ends_bind.mp h with ⟨e, -, hcontra⟩ | ⟨a, before, after, rfl, hbefore, hafter⟩
  · cases hcontra
  · obtain ⟨rfl, hx⟩ := Prog.ends_lift.mp hbefore
    exact ⟨a, hx.symm, hafter⟩

/-- A block with an id that names its height. -/
structure HafBlock.Identified (block : HafBlock) : Prop where
  hash : isHash40 block.id = true
  previous : isHash40 block.previousId = true
  matchesNumber : blockIdMatchesNumber block.id block.number

theorem blockHashSchema_eq_some {value : Json} {text : String} (h : blockHashSchema value = some text) :
    isHash40 text = true := by
  cases value with
  | string s =>
    rw [blockHashSchema] at h
    split at h
    · rename_i hs
      rw [← Option.some.inj h]
      exact hs
    · cases h
  | _ => cases h

theorem globalStateSchema_hashes {value : Json} {state : GlobalState}
    (h : globalStateSchema value = some state) : isHash40 state.hash = true ∧ isHash40 state.prev = true := by
  simp only [globalStateSchema, Option.bind_eq_bind, Option.bind_eq_some_iff, Option.pure_def,
    Option.some.injEq] at h
  obtain ⟨_, -, _, -, _, -, hash, hhash, _, -, prev, hprev, _, -, _, -, rfl⟩ := h
  exact ⟨blockHashSchema_eq_some hhash, blockHashSchema_eq_some hprev⟩

theorem getBlock_identified {n : ℕ} {block : HafBlock}
    (h : (source.getBlock parseDate n).Ends trace (.ok block)) : block.Identified := by
  obtain ⟨-, -, h⟩ := lift_bind_ends h
  obtain ⟨value, rest, h⟩ := requestJson_ends h
  split at h
  · cases h
  · rename_i state hstate
    obtain ⟨hread, hmatches⟩ := Option.filter_eq_some_iff.mp hstate
    obtain ⟨-, hid⟩ := of_decide_eq_true hmatches
    obtain ⟨timestamp, -, h⟩ := lift_bind_ends h
    obtain ⟨-, hblock⟩ := Prog.ends_ret.mp h
    obtain rfl := Except.ok.inj hblock
    obtain ⟨hhash, hprevious⟩ := globalStateSchema_hashes hread
    exact ⟨hhash, hprevious, hid⟩

/-- An operation with the number that HAfAH gives it, and with a transaction unless it is virtual. -/
structure HafOperation.Identified (operation : HafOperation) : Prop where
  number : ∃ id : UInt64, operation.sourceOperationId = toString id.toNat
  transaction : ∀ text ∈ operation.transactionId, isHash40 text = true ∧ text ≠ zeroTransactionId
  broadcast : operation.isVirtual = false → operation.transactionId ≠ none

theorem hafahOperationSchema_trxId {value : Json} {item : HafahOperation}
    (h : hafahOperationSchema value = some item) : ∀ text ∈ item.trxId, isHash40 text = true := by
  simp only [hafahOperationSchema, Option.bind_eq_bind, Option.bind_eq_some_iff, Option.pure_def,
    Option.some.injEq] at h
  obtain ⟨_, -, _, -, _, -, _, -, _, -, trxId, htrxId, _, -, _, -, _, -, _, -, _, -, _, -, _, -, _, -, rfl⟩ := h
  intro text htext
  have htext : trxId = some text := htext
  rw [htext] at htrxId
  rcases hfield : value.get "trx_id" with _ | field
  · rw [hfield] at htrxId
    cases htrxId
  · rw [hfield] at htrxId
    cases field with
    | null => cases htrxId
    | string s =>
      obtain ⟨read, hread, hsame⟩ := Option.map_eq_some_iff.mp htrxId
      exact blockHashSchema_eq_some (hread.trans (congrArg some (Option.some.inj hsame)))
    | _ => cases htrxId

theorem normalizeItem_identified {fromBlock toBlock : ℕ} {item : HafahOperation} {operation : HafOperation}
    (htrx : ∀ text ∈ item.trxId, isHash40 text = true)
    (h : normalizeItem parseDate fromBlock toBlock item = .ok operation) : operation.Identified := by
  simp only [normalizeItem, bind_eq_ok, exists_unit, require_eq_ok, pure_eq_ok] at h
  obtain ⟨-, hidentity, timestamp, -, rfl⟩ := h
  refine ⟨⟨item.operationId, rfl⟩, fun text htext => ?_, fun hvirtual => ?_⟩
  · have htext : (if hasTransactionId item then item.trxId else none) = some text := htext
    split at htext
    · rename_i hhas
      refine ⟨htrx text htext, ?_⟩
      rintro rfl
      exact hhas.2 htext
    · cases htext
  · have hhas : hasTransactionId item := hidentity.resolve_left fun htrue => by
      rw [show item.virtualOp = false from hvirtual] at htrue
      cases htrue
    show (if hasTransactionId item then item.trxId else none) ≠ none
    rw [if_pos hhas]
    exact hhas.1

theorem exists_of_mem_mapM {α β : Type} {f : α → Option β} : ∀ {xs : List α} {ys : List β},
    xs.mapM f = some ys → ∀ y ∈ ys, ∃ x ∈ xs, f x = some y
  | [], ys, h, y, hy => by
    obtain rfl : [] = ys := Option.some.inj h
    exact absurd hy List.not_mem_nil
  | x :: xs, ys, h, y, hy => by
    simp only [List.mapM_cons, Option.bind_eq_bind, Option.bind_eq_some_iff, Option.pure_def,
      Option.some.injEq] at h
    obtain ⟨first, hfirst, rest, hrest, rfl⟩ := h
    rcases List.mem_cons.mp hy with rfl | hy
    · exact ⟨x, List.mem_cons_self, hfirst⟩
    · obtain ⟨other, hother, hread⟩ := exists_of_mem_mapM hrest y hy
      exact ⟨other, List.mem_cons_of_mem x hother, hread⟩

theorem operationsPageSchema_trxId {value : Json} {page : OperationsPage}
    (h : operationsPageSchema value = some page) :
    ∀ item ∈ page.ops, ∀ text ∈ item.trxId, isHash40 text = true := by
  simp only [operationsPageSchema, Option.bind_eq_bind, Option.bind_eq_some_iff, Option.pure_def,
    Option.some.injEq] at h
  obtain ⟨_, -, _, -, _, -, items, -, ops, hops, rfl⟩ := h
  intro item hitem
  obtain ⟨raw, -, hraw⟩ := exists_of_mem_mapM hops item hitem
  exact hafahOperationSchema_trxId hraw

theorem readOperations_identified {fromBlock toBlock : ℕ} {visited : List PageKey}
    {operations result : List HafOperation} {key : PageKey} {trace : List ProjectorCall}
    (hkey : key ∈ rangeKeys fromBlock toBlock)
    (h : (source.readOperations parseDate fromBlock toBlock visited operations key hkey).Ends trace
      (.ok result)) (hknown : ∀ operation ∈ operations, operation.Identified) :
    ∀ operation ∈ result, operation.Identified := by
  induction hcount : (HafahHttpSource.unvisited fromBlock toBlock visited).card using
    Nat.strong_induction_on generalizing visited operations key trace with
  | _ count ih =>
  rw [HafahHttpSource.readOperations] at h
  split at h
  · cases h
  · rename_i hnew
    obtain ⟨value, rest, h⟩ := requestJson_ends h
    split at h
    · cases h
    · rename_i page hpage
      obtain ⟨added, hadd, h⟩ := lift_bind_ends h
      have hadded : ∀ operation ∈ added, operation.Identified := by
        intro operation hoperation
        rcases mem_addItems hadd operation hoperation with hold | ⟨item, hitem, hnormal⟩
        · exact hknown operation hold
        · exact normalizeItem_identified (operationsPageSchema_trxId hpage item hitem) hnormal
      split at h
      · obtain ⟨-, hresult⟩ := Prog.ends_ret.mp h
        obtain rfl := Except.ok.inj hresult
        exact hadded
      · exact ih _ (hcount ▸ HafahHttpSource.unvisited_lt hkey hnew) _ h hadded rfl

theorem getOperations_identified {fromBlock toBlock : ℕ} {operations : List HafOperation}
    (h : (source.getOperations parseDate fromBlock toBlock).Ends trace (.ok operations)) :
    ∀ operation ∈ operations, operation.Identified := by
  obtain ⟨-, -, h⟩ := lift_bind_ends h
  obtain ⟨-, -, h⟩ := lift_bind_ends h
  obtain ⟨-, -, h⟩ := lift_bind_ends h
  rcases Prog.ends_bind.mp h with ⟨e, -, hcontra⟩ | ⟨read, before, after, -, hread, hafter⟩
  · cases hcontra
  · obtain ⟨-, hresult⟩ := Prog.ends_ret.mp hafter
    obtain rfl := Except.ok.inj hresult
    intro operation hoperation
    exact readOperations_identified _ hread (fun _ hnone => absurd hnone List.not_mem_nil) operation
      ((List.mem_insertionSort operationOrder).mp hoperation)

end Source

/-! ### Runs -/

/-- The answer is one that the source can give, on some network. -/
def HttpAnswers (source : HafahHttpSource) (parseDate : String → Option Timestamp) (q : Request)
    (r : Except Failure q.Response) : Prop :=
  ∃ trace, (source.answering parseDate q).Ends trace r

/-- One step of any number of projectors over HTTP sources of one name, while the game tables change. -/
def ProjectorsOverHttpStep {ι : Type} [DecidableEq ι] (cfg : ProjectorConfig) (source : HafahHttpSource)
    (parseDate : String → Option Timestamp) :
    ProjectorSys ι → SysLabel Request Request.Response Failure ι → ProjectorSys ι → Prop :=
  SysStep GameChanges (fun q db r db' => storeAnswer cfg.runtime source.sourceName q db r db' ∧
    HttpAnswers source parseDate q r) fun _ => runOnce cfg

section Runs

variable {ι : Type} [DecidableEq ι] {cfg : ProjectorConfig} {source : HafahHttpSource}
variable {parseDate : String → Option Timestamp} {game : GameTables}
variable {ts : List (Transition (ProjectorSys ι) (SysLabel Request Request.Response Failure ι))}
variable {S : ProjectorSys ι}

theorem projectorsStep_of_http {S' : ProjectorSys ι} {l : SysLabel Request Request.Response Failure ι}
    (h : ProjectorsOverHttpStep cfg source parseDate S l S') :
    ProjectorsStep cfg source.sourceName S l S' := by
  cases h with
  | env hE => exact .env hE
  | answer i hp hH => exact .answer i hp hH.1
  | restart i => exact .restart i

/-- What the projectors of a run were told, the source could tell. -/
theorem httpAnswers_of_told {S₀ : ProjectorSys ι}
    (hrun : Run (ProjectorsOverHttpStep cfg source parseDate) S₀ ts S) {q : Request}
    {r : Except Failure q.Response} (htold : toldIn ts q r) : HttpAnswers source parseDate q r := by
  obtain ⟨⟨pre, _, post⟩, ht, i, rfl⟩ := htold
  have hstep : ProjectorsOverHttpStep cfg source parseDate pre (.answer i q r) post := hrun.step_of_mem _ ht
  cases hstep with
  | answer _ _ hH => exact hH.2

/-- Every checkpoint repeats a block that the source returned. -/
def CheckpointsReported (known : Reports) (db : Db) : Prop :=
  ∀ c ∈ db.chain.blockCheckpoint, ∃ block : HafBlock, known (.getBlock block.number) (.ok block) ∧
    c.blockId = block.id ∧ c.previousBlockId = some block.previousId ∧ c.blockNumber = block.number

theorem CheckpointsReported.answer {known : Reports} {q : Request} {r : Except Failure q.Response}
    {db db' : Db} {name : String} (h : CheckpointsReported known db) (hknown : AccountedFor cfg known q)
    (hans : storeAnswer cfg.runtime name q db r db') : CheckpointsReported known db' := by
  -- a revert or a finalization keeps these columns
  have hmodify : ∀ {p : BlockCheckpointRow → Prop} [DecidablePred p]
      {set : Table.Assignment BlockCheckpointRow.id} {t : Table BlockCheckpointRow (·.id)},
      (∀ c, (set c).blockId = c.blockId ∧ (set c).previousBlockId = c.previousBlockId ∧
        (set c).blockNumber = c.blockNumber) → t = db.chain.blockCheckpoint →
      ∀ c ∈ t.modify p set, ∃ block : HafBlock, known (.getBlock block.number) (.ok block) ∧
        c.blockId = block.id ∧ c.previousBlockId = some block.previousId ∧
        c.blockNumber = block.number := by
    intro p _ set t hset ht c hc
    subst ht
    rcases Table.mem_modify_cases hc with ⟨old, hold, -, rfl⟩ | ⟨hc, -⟩
    · obtain ⟨hid, hprevious, hnumber⟩ := hset old
      rw [hid, hprevious, hnumber]
      exact h old hold
    · exact h c hc
  rcases storeAnswer_cases hans with
    rfl | ⟨block, decisions, ids, time, rfl, hok⟩ | ⟨ancestor, time, rfl, hok⟩ | ⟨n, ids, time, rfl, hok⟩
  · exact h
  · intro c hc
    rcases (applyBlock_spec hok).1.mem_checkpoint.mp hc with hc | rfl
    · exact h c hc
    · exact ⟨block, hknown.1, rfl, rfl, rfl⟩
  · obtain ⟨-, rfl⟩ := revertAfter_spec hok
    exact hmodify (fun _ => ⟨rfl, rfl, rfl⟩) (by simp)
  · obtain ⟨-, hchain, -⟩ := finalizeThrough_spec hok
    rw [CheckpointsReported, hchain]
    exact hmodify (fun _ => ⟨rfl, rfl, rfl⟩) (by simp)

/-- **Whatever the network answers**, and however many projectors run and crash: a stored block has a hash
that begins with its height, so that no block id stands at two heights; and a stored operation has a number
of 64 bits, the height that its block id begins with, and names a transaction unless it is virtual. -/
theorem rows_identified (hrun : Run (ProjectorsOverHttpStep cfg source parseDate) (.start cfg game) ts S) :
    (∀ c ∈ S.shared.chain.blockCheckpoint, isHash40 c.blockId = true ∧
      blockIdMatchesNumber c.blockId c.blockNumber ∧
      ∃ previous, c.previousBlockId = some previous ∧ isHash40 previous = true) ∧
    (∀ c ∈ S.shared.chain.blockCheckpoint, ∀ d ∈ S.shared.chain.blockCheckpoint,
      c.blockId = d.blockId → c.blockNumber = d.blockNumber) ∧
    ∀ op ∈ S.shared.chain.operation, (∃ id : UInt64, op.sourceOperationId = toString id.toNat) ∧
      blockIdMatchesNumber op.blockId op.blockNumber ∧
      (∀ text ∈ op.transactionId, isHash40 text = true ∧ text ≠ zeroTransactionId) ∧
      (op.isVirtual = false → op.transactionId ≠ none) := by
  have hplain : Run (ProjectorsStep cfg source.sourceName) (.start cfg game) ts S :=
    hrun.of_steps fun t ht => projectorsStep_of_http (hrun.step_of_mem t ht)
  have hblock : ∀ block : HafBlock, toldIn ts (.getBlock block.number) (.ok block) → block.Identified := by
    intro block htold
    obtain ⟨trace, hends⟩ := httpAnswers_of_told hrun htold
    exact getBlock_identified hends
  have hcheckpoints : CheckpointsReported (toldIn ts) S.shared :=
    projectors_history (I := CheckpointsReported) (fun c hc => absurd hc Table.not_mem_empty)
      (fun known known' db hle h c hc => by
        obtain ⟨block, hknown, hrest⟩ := h c hc
        exact ⟨block, hle _ _ hknown, hrest⟩)
      (fun known db db' hgame h => by
        rw [CheckpointsReported, hgame.1]
        exact h)
      (fun known q r db db' hknown hans h => h.answer hknown hans) hplain
  have hmatches : ∀ c ∈ S.shared.chain.blockCheckpoint, isHash40 c.blockId = true ∧
      blockIdMatchesNumber c.blockId c.blockNumber ∧
      ∃ previous, c.previousBlockId = some previous ∧ isHash40 previous = true := by
    intro c hc
    obtain ⟨block, htold, hid, hprevious, hnumber⟩ := hcheckpoints c hc
    have hidentified := hblock block htold
    rw [hid, hnumber]
    exact ⟨hidentified.hash, hidentified.matchesNumber, _, hprevious, hidentified.previous⟩
  refine ⟨hmatches, fun c hc d hd hsame => ?_, fun op hop => ?_⟩
  · have hc' := (hmatches c hc).2.1
    rw [hsame] at hc'
    exact blockIdMatchesNumber_unique hc' (hmatches d hd).2.1
  · obtain ⟨operation, block, decision, hreported, hvalidate, hrecords⟩ :=
      (filedAsReported_of_run hplain).reported op hop
    have hrepeats := repeats_of_validate hvalidate
    rw [← hrecords.evidence] at hrepeats
    obtain ⟨fromBlock, toBlock, operations, htold, hin⟩ := hreported.listed
    obtain ⟨trace, hends⟩ := httpAnswers_of_told hrun htold
    have hidentified := getOperations_identified hends operation hin
    refine ⟨?_, ?_, ?_, ?_⟩
    · obtain ⟨id, hid⟩ := hidentified.number
      exact ⟨id, hrepeats.sourceOperationId.trans hid⟩
    · have hid : op.blockId = block.id := hrepeats.blockId
      have hnumber : op.blockNumber = block.number := hrepeats.blockNumber.trans hreported.height
      rw [hid, hnumber]
      exact (hblock block hreported.header).matchesNumber
    · have htransaction : op.transactionId = operation.transactionId := hrepeats.transactionId
      rw [htransaction]
      exact hidentified.transaction
    · have htransaction : op.transactionId = operation.transactionId := hrepeats.transactionId
      have hvirtual : op.isVirtual = operation.isVirtual := hrepeats.isVirtual
      rw [htransaction, hvirtual]
      exact hidentified.broadcast

end Runs

/-! ### A run over HTTP -/

instance : DecidablePred Request.InRange
  | .getBlock n => inferInstanceAs (Decidable (isBlockNumber n))
  | .getOperations _ toBlock => inferInstanceAs (Decidable (_ ∧ isBlockNumber toBlock))
  | .getCursor => .isTrue trivial
  | .getHeadAndIrreversible => .isTrue trivial
  | .getCurrentCheckpoint _ => .isTrue trivial
  | .applyBlock _ _ => .isTrue trivial
  | .revertAfter _ => .isTrue trivial
  | .finalizeThrough _ => .isTrue trivial

/-- The served chain answers at the given time; a height that is none is refused. -/
def serveServed (time : Timestamp) (q : Request) (db : Db) : Except Failure q.Response × Db :=
  if q.InRange then
    serve exampleChainConfig.runtime servedSource.sourceName
      (servedChain.snapshot shortDates servedSource.operationTypes, time) q db
  else
    (((servedSource.answering shortDates q).exec (serveNetwork
      (servedChain.network servedSource.operationTypes 1) exampleChainConfig.runtime
        servedSource.sourceName time) db).1, db)

theorem serveServed_answers (time : Timestamp) (q : Request) (db : Db) :
    storeAnswer exampleChainConfig.runtime servedSource.sourceName q db (serveServed time q db).1
        (serveServed time q db).2 ∧
      HttpAnswers servedSource shortDates q (serveServed time q db).1 := by
  unfold serveServed
  split
  · rename_i hq
    refine ⟨serve_answers _ _ _ q db, ?_⟩
    rw [← exec_answering (servedChain.serves_network servedSource le_rfl) hq]
    exact Prog.ends_exec
  · rename_i hq
    refine ⟨?_, Prog.ends_exec⟩
    cases q with
    | getBlock n => rfl
    | getOperations fromBlock toBlock => rfl
    | _ => exact absurd trivial hq

/-- One projector that reads two blocks over HTTP and finalizes them: fourteen requests. -/
def servedRun : ProjectorSys Unit :=
  (ProjectorSys.start exampleChainConfig exampleGame).follow serveServed
    (fun _ => runOnce exampleChainConfig) (List.replicate 14 ((), 10))

theorem rows_identified_served :
    ∃ ts, Run (ProjectorsOverHttpStep exampleChainConfig servedSource shortDates)
        (.start (ι := Unit) exampleChainConfig exampleGame) ts servedRun ∧
      servedRun.shared.chain.blockCheckpoint.rows.length = 2 ∧
      servedRun.shared.chain.operation.rows.length = 2 ∧
      ∀ c ∈ servedRun.shared.chain.blockCheckpoint, blockIdMatchesNumber c.blockId c.blockNumber := by
  obtain ⟨ts, hts⟩ : ∃ ts, Run (ProjectorsOverHttpStep exampleChainConfig servedSource shortDates)
      (.start (ι := Unit) exampleChainConfig exampleGame) ts servedRun :=
    Sys.follow_run serveServed_answers _ _
  exact ⟨ts, hts, by decide +kernel, by decide +kernel, fun c hc => ((rows_identified hts).1 c hc).2.1⟩

end HiveChameleon.Projector
