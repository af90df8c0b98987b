import HiveChameleon.Lib.PrefixCode
import HiveChameleon.Projector.HafahSource

/-!
# Projector.Pagination — `getOperations` against a server that paginates faithfully

HAfAH numbers the operations of its chain in the order of their blocks.  A faithful page is a beginning
of what a request asks for, with the block and the number of the operation after it; the pages that the
loop reads then make up the range, whatever their size.  Each page leaves less to read, so no request
is made twice.
-/

namespace HiveChameleon.Projector

open Gateway Lib

/-! ### A faithful server -/

/-- The operations of a chain with their types, in the order of their ids.  Blocks are numbered from
one. -/
structure OperationHistory where
  operations : List HafahOperation
  typeId : HafahOperation → ℕ
  sorted : operations.Pairwise fun a b =>
    a.operationId.toNat < b.operationId.toNat ∧ a.block ≤ b.block
  numbered : ∀ o ∈ operations, 1 ≤ o.block

/-- The operation is asked for by a request: its type, its block and where to begin. -/
def OperationHistory.Asked (history : OperationHistory) (operationTypes : List ℕ) (toBlock : ℕ)
    (key : PageKey) (o : HafahOperation) : Prop :=
  history.typeId o ∈ operationTypes ∧ key.pageFrom ≤ o.block ∧ o.block ≤ toBlock ∧
    ∀ begin ∈ key.operationBegin, begin.toNat ≤ o.operationId.toNat

instance (history : OperationHistory) (operationTypes : List ℕ) (toBlock : ℕ) (key : PageKey)
    (o : HafahOperation) : Decidable (history.Asked operationTypes toBlock key o) :=
  inferInstanceAs (Decidable (_ ∧ _))

/-- All that a request asks for. -/
def OperationHistory.remaining (history : OperationHistory) (operationTypes : List ℕ) (toBlock : ℕ)
    (key : PageKey) : List HafahOperation :=
  history.operations.filter fun o => history.Asked operationTypes toBlock key o

/-- The operations of a range, of the given types. -/
def OperationHistory.matching (history : OperationHistory) (operationTypes : List ℕ)
    (fromBlock toBlock : ℕ) : List HafahOperation :=
  history.operations.filter fun o =>
    history.typeId o ∈ operationTypes ∧ fromBlock ≤ o.block ∧ o.block ≤ toBlock

/-- The page names no operation of the range to go on with. -/
def OperationsPage.Last (toBlock : ℕ) (page : OperationsPage) : Prop :=
  page.nextBlockRangeBegin = none ∨ page.nextBlockRangeBegin = some 0 ∨
    (∃ block, page.nextBlockRangeBegin = some block ∧ toBlock < block) ∨
    page.nextOperationBegin = none ∨ page.nextOperationBegin = some 0

/-- **A faithful page** for the operations that are asked for: the first of them, at most as many as
the page size and at least one, and the block and id of the next one, if there is one. -/
def FaithfulPage (toBlock pageSize : ℕ) (asked : List HafahOperation) (page : OperationsPage) : Prop :=
  ∃ count, 1 ≤ count ∧ count ≤ pageSize ∧ page.ops = asked.take count ∧
    match asked.drop count with
    | [] => page.Last toBlock
    | next :: _ => page.nextBlockRangeBegin = some next.block ∧
        page.nextOperationBegin = some next.operationId

/-- **The server paginates faithfully** with this page size. -/
def Paginates (history : OperationHistory) (operationTypes : List ℕ) (toBlock pageSize : ℕ)
    (server : PageKey → OperationsPage) : Prop :=
  ∀ key, FaithfulPage toBlock pageSize (history.remaining operationTypes toBlock key) (server key)

/-- What a server answers to the first requests of the loop. -/
def answersTo (server : PageKey → OperationsPage) (toBlock : ℕ) : ℕ → PageKey → List PageAnswer
  | 0, _ => []
  | count + 1, key =>
    .ok (server key) :: match nextPage toBlock (server key) with
      | none => []
      | some nextKey => answersTo server toBlock count nextKey

/-! ### Requests and what they leave -/

section Requests

variable {history : OperationHistory} {operationTypes : List ℕ} {toBlock : ℕ} {key : PageKey}

theorem mem_remaining {o : HafahOperation} : o ∈ history.remaining operationTypes toBlock key ↔
    o ∈ history.operations ∧ history.Asked operationTypes toBlock key o := by
  rw [OperationHistory.remaining, List.mem_filter, decide_eq_true_eq]

theorem sorted_remaining : (history.remaining operationTypes toBlock key).Pairwise fun a b =>
    a.operationId.toNat < b.operationId.toNat ∧ a.block ≤ b.block :=
  history.sorted.sublist List.filter_sublist

theorem filter_from {before later : List HafahOperation} {next : HafahOperation}
    (h : (before ++ next :: later).Pairwise fun a b =>
      a.operationId.toNat < b.operationId.toNat ∧ a.block ≤ b.block) :
    (before ++ next :: later).filter (fun o => next.operationId.toNat ≤ o.operationId.toNat) =
      next :: later := by
  obtain ⟨-, hlater, hcross⟩ := List.pairwise_append.mp h
  have hbefore : before.filter (fun o => next.operationId.toNat ≤ o.operationId.toNat) = [] := by
    refine List.filter_eq_nil_iff.mpr fun o ho hle => ?_
    have hlt := (hcross o ho next List.mem_cons_self).1
    have hle := of_decide_eq_true hle
    omega
  have hafter : (next :: later).filter (fun o => next.operationId.toNat ≤ o.operationId.toNat) =
      next :: later := by
    refine List.filter_eq_self.mpr fun o ho => decide_eq_true ?_
    rcases List.mem_cons.mp ho with rfl | ho
    · exact le_rfl
    · exact ((List.pairwise_cons.mp hlater).1 o ho).1.le
  rw [List.filter_append, hbefore, hafter, List.nil_append]

theorem OperationHistory.block_le {a b : HafahOperation} (ha : a ∈ history.operations)
    (hb : b ∈ history.operations) (hle : a.operationId.toNat ≤ b.operationId.toNat) :
    a.block ≤ b.block := by
  have hpairs := List.Pairwise.forall_of_forall_of_flip
    (R := fun x y : HafahOperation => x.operationId.toNat ≤ y.operationId.toNat → x.block ≤ y.block)
    (fun x _ _ => le_rfl) (history.sorted.imp fun hxy _ => hxy.2)
    (history.sorted.imp fun hxy hle => absurd hxy.1 (not_lt_of_ge hle))
  exact hpairs ha hb hle

/-- **The request for what comes after a page** asks for exactly that. -/
theorem remaining_next {before later : List HafahOperation} {next : HafahOperation}
    (h : history.remaining operationTypes toBlock key = before ++ next :: later) :
    history.remaining operationTypes toBlock ⟨next.block, some next.operationId⟩ = next :: later := by
  have hsorted : (history.remaining operationTypes toBlock key).Pairwise _ := sorted_remaining
  have hnext : next ∈ history.remaining operationTypes toBlock key := by
    rw [h]
    exact List.mem_append_right _ List.mem_cons_self
  obtain ⟨hmem, -, hfrom, -, hbegin⟩ := mem_remaining.mp hnext
  have hcut : history.remaining operationTypes toBlock ⟨next.block, some next.operationId⟩ =
      (history.remaining operationTypes toBlock key).filter fun o =>
        next.operationId.toNat ≤ o.operationId.toNat := by
    rw [OperationHistory.remaining, OperationHistory.remaining, List.filter_filter]
    refine List.filter_congr fun o ho => ?_
    rw [← Bool.decide_and]
    refine decide_eq_decide.mpr ?_
    constructor
    · rintro ⟨htype, hblock, hle, hid⟩
      have hid := hid _ rfl
      exact ⟨hid, htype, hfrom.trans hblock, hle, fun begin hb => (hbegin begin hb).trans hid⟩
    · rintro ⟨hid, htype, -, hle, -⟩
      refine ⟨htype, history.block_le hmem ho hid, hle, fun begin hb => ?_⟩
      obtain rfl := Option.some.inj hb
      exact hid
  rw [hcut, h]
  rw [h] at hsorted
  exact filter_from hsorted

theorem nextPage_of_faithful {page : OperationsPage} {before later : List HafahOperation}
    {next : HafahOperation} (hbefore : before ≠ [])
    (h : history.remaining operationTypes toBlock key = before ++ next :: later)
    (hblock : page.nextBlockRangeBegin = some next.block)
    (hoperation : page.nextOperationBegin = some next.operationId) :
    nextPage toBlock page = some ⟨next.block, some next.operationId⟩ := by
  have hsorted : (history.remaining operationTypes toBlock key).Pairwise _ := sorted_remaining
  have hnext : next ∈ history.remaining operationTypes toBlock key := by
    rw [h]
    exact List.mem_append_right _ List.mem_cons_self
  obtain ⟨hmem, -, -, hle, -⟩ := mem_remaining.mp hnext
  have hpositive := history.numbered next hmem
  -- an operation comes before it, so its id is not zero
  obtain ⟨first, hfirst⟩ := List.exists_mem_of_ne_nil before hbefore
  rw [h] at hsorted
  have hlt := ((List.pairwise_append.mp hsorted).2.2 first hfirst next List.mem_cons_self).1
  have hid : next.operationId ≠ 0 := by
    intro hzero
    rw [hzero] at hlt
    exact absurd hlt (Nat.not_lt_zero _)
  unfold nextPage
  rw [hblock, hoperation]
  dsimp only
  rw [if_neg]
  rintro (hzero | hzero | hlarge)
  · omega
  · exact hid hzero
  · omega

theorem nextPage_of_last {page : OperationsPage} (h : page.Last toBlock) : nextPage toBlock page = none := by
  unfold nextPage
  cases hblock : page.nextBlockRangeBegin with
  | none => rfl
  | some block =>
    cases hoperation : page.nextOperationBegin with
    | none => rfl
    | some operation =>
      dsimp only
      refine if_pos ?_
      rcases h with h | h | ⟨block', h, hlt⟩ | h | h
      · cases hblock.symm.trans h
      · exact .inl (Option.some.inj (hblock.symm.trans h))
      · obtain rfl := Option.some.inj (hblock.symm.trans h)
        exact .inr (.inr hlt)
      · cases hoperation.symm.trans h
      · exact .inr (.inl (Option.some.inj (hoperation.symm.trans h)))

end Requests

/-! ### Pages and the operations they stand for -/

section Pages

variable {parseDate : String → Option Timestamp} {fromBlock toBlock : ℕ}

/-- What the client checks of an operation besides its block, and HAfAH gives each of its operations: an
identity that fits its virtuality, and a timestamp that can be read. -/
def HafahOperation.Readable (parseDate : String → Option Timestamp) (item : HafahOperation) : Prop :=
  (item.virtualOp = true ∨ hasTransactionId item) ∧
    ∃ timestamp, normalizeHiveTimestamp parseDate item.timestamp = .ok timestamp

/-- Operations for the items of a range, in their order. -/
def StandFor (parseDate : String → Option Timestamp) (fromBlock toBlock : ℕ)
    (items : List HafahOperation) (operations : List HafOperation) : Prop :=
  List.Forall₂ (fun item operation => normalizeItem parseDate fromBlock toBlock item = .ok operation)
    items operations

theorem normalizeItem_eq_ok {item : HafahOperation} {operation : HafOperation} :
    normalizeItem parseDate fromBlock toBlock item = .ok operation ↔
      (fromBlock ≤ item.block ∧ item.block ≤ toBlock) ∧
        (item.virtualOp = true ∨ hasTransactionId item) ∧
        ∃ timestamp, normalizeHiveTimestamp parseDate item.timestamp = .ok timestamp ∧
          operation = normalizedOperation item timestamp := by
  simp only [normalizeItem, bind_eq_ok, exists_unit, require_eq_ok, pure_eq_ok, eq_comm (a := operation)]

theorem exists_standFor : ∀ {items : List HafahOperation},
    (∀ item ∈ items, fromBlock ≤ item.block ∧ item.block ≤ toBlock) →
    (∀ item ∈ items, item.Readable parseDate) →
      ∃ operations, StandFor parseDate fromBlock toBlock items operations
  | [], _, _ => ⟨[], .nil⟩
  | item :: items, hrange, hreadable => by
    obtain ⟨hidentity, timestamp, htimestamp⟩ := hreadable item List.mem_cons_self
    obtain ⟨operations, hrest⟩ := exists_standFor
      (fun other hother => hrange other (List.mem_cons_of_mem item hother))
      fun other hother => hreadable other (List.mem_cons_of_mem item hother)
    exact ⟨_, .cons (normalizeItem_eq_ok.mpr
      ⟨hrange item List.mem_cons_self, hidentity, timestamp, htimestamp, rfl⟩) hrest⟩

theorem toString_nat_injective {m n : ℕ} (h : toString m = toString n) : m = n :=
  toDigits_injective (String.ofList_injective h)

theorem StandFor.map_sourceOperationId {items : List HafahOperation} {operations : List HafOperation}
    (h : StandFor parseDate fromBlock toBlock items operations) :
    operations.map (·.sourceOperationId) = items.map fun item => toString item.operationId.toNat := by
  induction h with
  | nil => rfl
  | cons hitem _ ih =>
    obtain ⟨-, -, timestamp, -, rfl⟩ := normalizeItem_eq_ok.mp hitem
    rw [List.map_cons, List.map_cons, ih]
    rfl

theorem StandFor.nodup {items : List HafahOperation} {operations : List HafOperation}
    (h : StandFor parseDate fromBlock toBlock items operations)
    (hsorted : items.Pairwise fun a b => a.operationId.toNat < b.operationId.toNat ∧ a.block ≤ b.block) :
    (operations.map (·.sourceOperationId)).Nodup := by
  rw [h.map_sourceOperationId, List.Nodup, List.pairwise_map]
  refine hsorted.imp fun hab heq => ?_
  have hsame := toString_nat_injective heq
  omega

/-- **Items of new identities** are added one after the other. -/
theorem addItems_new {items : List HafahOperation} {added : List HafOperation}
    (h : StandFor parseDate fromBlock toBlock items added) :
    ∀ {operations : List HafOperation}, ((operations ++ added).map (·.sourceOperationId)).Nodup →
      addItems parseDate fromBlock toBlock operations items = .ok (operations ++ added) := by
  induction h with
  | nil =>
    intro operations _
    rw [List.append_nil]
    rfl
  | @cons item operation items added hitem _ ih =>
    intro operations hnodup
    have hnew : operations.find? (·.sourceOperationId = operation.sourceOperationId) = none := by
      refine List.find?_eq_none.mpr fun known hknown heq => ?_
      rw [List.map_append, List.map_cons, List.nodup_append] at hnodup
      exact hnodup.2.2 _ (List.mem_map_of_mem hknown) _ List.mem_cons_self (of_decide_eq_true heq)
    have hset : setOperation operations operation = .ok (operations ++ [operation]) := by
      unfold setOperation
      rw [hnew]
    have hassoc : operations ++ operation :: added = operations ++ [operation] ++ added := by simp
    rw [hassoc] at hnodup ⊢
    simp only [addItems, bind_eq_ok]
    exact ⟨operation, hitem, operations ++ [operation], hset, ih hnodup⟩

end Pages

/-! ### The loop -/

section Loop

variable {parseDate : String → Option Timestamp} {history : OperationHistory}
  {operationTypes : List ℕ} {fromBlock toBlock pageSize : ℕ} {server : PageKey → OperationsPage}

theorem readPages_page {key : PageKey} {visited : List PageKey} {operations added : List HafOperation}
    {page : OperationsPage} {rest : List PageAnswer} (hnew : key ∉ visited)
    (hadd : addItems parseDate fromBlock toBlock operations page.ops = .ok added) :
    readPages parseDate fromBlock toBlock (.ok page :: rest) visited operations key =
      match nextPage toBlock page with
      | none => some (.ok added, rest)
      | some nextKey => readPages parseDate fromBlock toBlock rest (key :: visited) added nextKey := by
  cases hnext : nextPage toBlock page with
  | none => simp [readPages, hnew, hadd, hnext]
  | some nextKey => simp [readPages, hnew, hadd, hnext]

/-- **The loop reads all that its key asks for**, when every page before it left more to read. -/
theorem readPages_faithful (hserver : Paginates history operationTypes toBlock pageSize server) :
    ∀ {count : ℕ} {key : PageKey} {visited : List PageKey} {operations added : List HafOperation},
      (history.remaining operationTypes toBlock key).length < count →
      (∀ k ∈ visited, (history.remaining operationTypes toBlock key).length <
        (history.remaining operationTypes toBlock k).length) →
      StandFor parseDate fromBlock toBlock (history.remaining operationTypes toBlock key) added →
      ((operations ++ added).map (·.sourceOperationId)).Nodup →
        readPages parseDate fromBlock toBlock (answersTo server toBlock count key) visited operations key =
          some (.ok (operations ++ added), [])
  | 0, _, _, _, _, hcount, _, _, _ => absurd hcount (Nat.not_lt_zero _)
  | count + 1, key, visited, operations, added, hcount, hvisited, hstand, hnodup => by
    have hnew : key ∉ visited := fun hin => absurd (hvisited key hin) (lt_irrefl _)
    obtain ⟨size, hpositive, -, hops, hnext⟩ := hserver key
    have hsplit := (List.take_append_drop size (history.remaining operationTypes toBlock key)).symm
    rw [answersTo]
    cases hdrop : (history.remaining operationTypes toBlock key).drop size with
    | nil =>
      rw [hdrop] at hnext
      rw [hdrop, List.append_nil] at hsplit
      have hadd := addItems_new hstand hnodup
      rw [hsplit, ← hops] at hadd
      rw [readPages_page hnew hadd, nextPage_of_last hnext]
    | cons next later =>
      rw [hdrop] at hnext hsplit
      have hne : (history.remaining operationTypes toBlock key).take size ≠ [] := by
        intro hempty
        rcases List.take_eq_nil_iff.mp hempty with hzero | hnil
        · omega
        · rw [hnil, List.drop_nil] at hdrop
          cases hdrop
      have hnextKey := nextPage_of_faithful hne hsplit hnext.1 hnext.2
      have hrest := remaining_next hsplit
      -- the operations of the page, and those of the pages after it
      obtain ⟨first, second, hfirst, hsecond, rfl⟩ : ∃ first second,
          StandFor parseDate fromBlock toBlock
            ((history.remaining operationTypes toBlock key).take size) first ∧
          StandFor parseDate fromBlock toBlock (next :: later) second ∧ added = first ++ second := by
        have hdropped := List.forall₂_drop size hstand
        rw [hdrop] at hdropped
        exact ⟨_, _, List.forall₂_take size hstand, hdropped, (List.take_append_drop size added).symm⟩
      rw [← List.append_assoc] at hnodup ⊢
      have hfirstNodup : ((operations ++ first).map (·.sourceOperationId)).Nodup := by
        rw [List.map_append] at hnodup
        exact (List.nodup_append.mp hnodup).1
      have hadd := addItems_new hfirst hfirstNodup
      rw [← hops] at hadd
      rw [readPages_page hnew hadd, hnextKey]
      dsimp only
      have hlength := congrArg List.length hsplit
      rw [List.length_append] at hlength
      have hshorter := List.length_pos_of_ne_nil hne
      refine readPages_faithful hserver ?_ (fun k hk => ?_) ?_ hnodup
      · rw [hrest]
        omega
      · rw [hrest]
        rcases List.mem_cons.mp hk with rfl | hk
        · omega
        · have hlt := hvisited k hk
          omega
      · rw [hrest]
        exact hsecond

theorem remaining_first :
    history.remaining operationTypes toBlock ⟨fromBlock, none⟩ =
      history.matching operationTypes fromBlock toBlock := by
  refine List.filter_congr fun o _ => decide_eq_decide.mpr ?_
  constructor
  · rintro ⟨htype, hfrom, hle, -⟩
    exact ⟨htype, hfrom, hle⟩
  · rintro ⟨htype, hfrom, hle⟩
    exact ⟨htype, hfrom, hle, fun begin hbegin => by cases hbegin⟩

end Loop

/-- **`getOperations` is complete**: from a server that paginates faithfully it returns the matching
operations of the range, each once, sorted in the same way whatever the page size; and whatever the
answers are, it returns. -/
theorem getOperations_complete (parseDate : String → Option Timestamp) (history : OperationHistory)
    (operationTypes : List ℕ) (fromBlock toBlock : ℕ) (hrange : fromBlock ≤ toBlock)
    (hblock : isBlockNumber toBlock) (hreadable : ∀ o ∈ history.operations, o.Readable parseDate) :
    ∃ operations, StandFor parseDate fromBlock toBlock
        (history.matching operationTypes fromBlock toBlock) operations ∧
      (operations.map (·.sourceOperationId)).Nodup ∧
      (∀ (pageSize : ℕ) (server : PageKey → OperationsPage),
        Paginates history operationTypes toBlock pageSize server →
          ∀ count, (history.matching operationTypes fromBlock toBlock).length < count →
            getOperations parseDate fromBlock toBlock (answersTo server toBlock count ⟨fromBlock, none⟩) =
              some (.ok (operations.insertionSort operationOrder), [])) ∧
      ∀ answers : List PageAnswer, (toBlock + 1) * 2 ^ 64 + 1 ≤ answers.length →
        getOperations parseDate fromBlock toBlock answers ≠ none := by
  have hmem : ∀ o ∈ history.matching operationTypes fromBlock toBlock,
      o ∈ history.operations ∧ fromBlock ≤ o.block ∧ o.block ≤ toBlock := by
    intro o ho
    obtain ⟨hin, hmatches⟩ := List.mem_filter.mp ho
    exact ⟨hin, (of_decide_eq_true hmatches).2⟩
  obtain ⟨operations, hstand⟩ : ∃ operations, StandFor parseDate fromBlock toBlock
      (history.matching operationTypes fromBlock toBlock) operations := exists_standFor
    (fun o ho => (hmem o ho).2) fun o ho => hreadable o (hmem o ho).1
  have hnodup := hstand.nodup (history.sorted.sublist List.filter_sublist)
  refine ⟨operations, hstand, hnodup, fun pageSize server hserver count hcount => ?_,
    fun answers hlength => getOperations_ends hlength⟩
  have hblocks : ¬ ¬ (isBlockNumber fromBlock ∧ isBlockNumber toBlock) :=
    not_not_intro ⟨lt_of_le_of_lt hrange hblock, hblock⟩
  rw [← remaining_first] at hcount hstand
  have hread : readPages parseDate fromBlock toBlock
      (answersTo server toBlock count ⟨fromBlock, none⟩) [] [] ⟨fromBlock, none⟩ =
        some (.ok ([] ++ operations), []) :=
    readPages_faithful hserver hcount (fun k hk => absurd hk List.not_mem_nil) hstand hnodup
  unfold getOperations
  rw [if_neg hblocks, if_neg (not_lt_of_ge hrange), hread]
  rfl

/-! ### A server for each page size -/

/-- The page of a server that fills its pages. -/
def pagesOf (history : OperationHistory) (operationTypes : List ℕ) (toBlock pageSize : ℕ)
    (key : PageKey) : OperationsPage where
  ops := (history.remaining operationTypes toBlock key).take pageSize
  nextBlockRangeBegin :=
    ((history.remaining operationTypes toBlock key).drop pageSize).head?.map (·.block)
  nextOperationBegin :=
    ((history.remaining operationTypes toBlock key).drop pageSize).head?.map (·.operationId)

/-- **Every page size of at least one has a faithful server.** -/
theorem paginates_pagesOf {history : OperationHistory} {operationTypes : List ℕ} {toBlock pageSize : ℕ}
    (hsize : 1 ≤ pageSize) :
    Paginates history operationTypes toBlock pageSize
      (pagesOf history operationTypes toBlock pageSize) := by
  intro key
  refine ⟨pageSize, hsize, le_rfl, rfl, ?_⟩
  cases hdrop : (history.remaining operationTypes toBlock key).drop pageSize with
  | nil =>
    left
    rw [pagesOf, hdrop]
    rfl
  | cons next later =>
    rw [pagesOf, hdrop]
    exact ⟨rfl, rfl⟩

/-! ### Three operations in two blocks -/

/-- Two operations of one block at one position of their transactions, and one of the next block. -/
def shortHistory : OperationHistory where
  operations :=
    [⟨"custom_json_operation", .other .null, 1, some "tx1", 0, "2026-07-16T00:00:00", false, 11⟩,
      ⟨"custom_json_operation", .other .null, 1, some "tx2", 0, "2026-07-16T00:00:00", false, 12⟩,
      ⟨"custom_json_operation", .other .null, 2, some "tx3", 0, "2026-07-16T00:00:03", false, 13⟩]
  typeId _ := 18
  sorted := by decide
  numbered := by decide

/-- `Date` on the two timestamps, in milliseconds. -/
def shortDates (text : String) : Option Timestamp :=
  if text = "2026-07-16T00:00:00Z" then some 1784160000000
  else if text = "2026-07-16T00:00:03Z" then some 1784160003000 else none

theorem readable_shortHistory : ∀ o ∈ shortHistory.operations, o.Readable shortDates := by
  intro o ho
  have hidentity : ∀ o ∈ shortHistory.operations, o.virtualOp = true ∨ hasTransactionId o := by decide
  have hdates : ∀ o ∈ shortHistory.operations,
      (normalizeHiveTimestamp shortDates o.timestamp).toOption.isSome = true := by decide
  refine ⟨hidentity o ho, ?_⟩
  obtain ⟨timestamp, htimestamp⟩ := Option.isSome_iff_exists.mp (hdates o ho)
  exact ⟨timestamp, toOption_eq_some.mp htimestamp⟩

/-- Pages of one and of two operations give the same three operations. -/
theorem getOperations_complete_short :
    ∃ operations : List HafOperation, operations.length = 3 ∧
      ∀ pageSize ∈ [1, 2], getOperations shortDates 1 2
          (answersTo (pagesOf shortHistory [18] 2 pageSize) 2 4 ⟨1, none⟩) =
        some (.ok (operations.insertionSort operationOrder), []) := by
  obtain ⟨operations, hstand, -, hread, -⟩ := getOperations_complete shortDates shortHistory
    [18] 1 2 (by decide) (by decide) readable_shortHistory
  have hlength : (shortHistory.matching [18] 1 2).length = 3 := by decide
  refine ⟨operations, hstand.length_eq.symm.trans hlength, fun pageSize hsize => ?_⟩
  have hpositive : 1 ≤ pageSize := by
    rcases List.mem_cons.mp hsize with rfl | hsize
    · exact le_rfl
    · rw [List.mem_singleton.mp hsize]
      exact Nat.le_succ 1
  exact hread pageSize _ (paginates_pagesOf hpositive) 4 (by rw [hlength]; decide)

end HiveChameleon.Projector
