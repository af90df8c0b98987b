import HiveChameleon.Projector.Projector
import Mathlib.Data.Finset.Card
import Mathlib.Data.Finset.Prod
import Mathlib.Data.List.Sort

/-!
# Projector.HafahSource — the operations of `HafahHttpSource`

`getOperations` reads the operations of a block range page by page.  It is a function of the answers
that its page requests get, in their order; an answer may be missing while the loop still waits for
it.  `new Date(text)` is a parameter.
-/

namespace HiveChameleon.Projector

open Gateway Lib

/-- `hafahOperationSchema`; an operation id is an unsigned 64-bit decimal. -/
structure HafahOperation where
  type : String
  value : OperationValue
  block : ℕ
  trxId : Option String
  opPos : ℕ
  timestamp : String
  virtualOp : Bool
  operationId : UInt64
deriving DecidableEq

/-- `operationsPageSchema` -/
structure OperationsPage where
  nextBlockRangeBegin : Option ℕ
  nextOperationBegin : Option UInt64
  ops : List HafahOperation
deriving DecidableEq

/-- What a page request comes back with: a page of the schema, or the error it raises. -/
abbrev PageAnswer := Except Failure OperationsPage

/-- `pageKey` -/
structure PageKey where
  pageFrom : ℕ
  operationBegin : Option UInt64
deriving DecidableEq

def zeroTransactionId : String := "0000000000000000000000000000000000000000"

/-- `Number.isSafeInteger` -/
def isBlockNumber (value : ℕ) : Prop := value < 2 ^ 53

instance (value : ℕ) : Decidable (isBlockNumber value) := inferInstanceAs (Decidable (_ < _))

/-- `/(?:Z|[+-][0-9]{2}:[0-9]{2})$/` -/
def hasZone (value : String) : Bool :=
  match value.toList.reverse with
  | 'Z' :: _ => true
  | d₄ :: d₃ :: ':' :: d₂ :: d₁ :: sign :: _ =>
    (sign = '+' || sign = '-') && [d₁, d₂, d₃, d₄].all Char.isDigit
  | _ => false

section

variable (parseDate : String → Option Timestamp)

def normalizeHiveTimestamp (value : String) : Except Failure Timestamp :=
  match parseDate (if hasZone value then value else value ++ "Z") with
  | none => .error (invalidSourceResponse "Hive timestamp is invalid")
  | some timestamp => .ok timestamp

def hasTransactionId (item : HafahOperation) : Prop :=
  item.trxId ≠ none ∧ item.trxId ≠ some zeroTransactionId

instance (item : HafahOperation) : Decidable (hasTransactionId item) :=
  inferInstanceAs (Decidable (_ ∧ _))

/-- The operation that an item stands for. -/
def normalizedOperation (item : HafahOperation) (timestamp : Timestamp) : HafOperation where
  sourceOperationId := toString item.operationId.toNat
  transactionId := if hasTransactionId item then item.trxId else none
  operationIndex := item.opPos
  isVirtual := item.virtualOp
  blockNumber := item.block
  timestamp := timestamp
  operationType := item.type
  value := item.value

/-- The checks on an item of a page. -/
def normalizeItem (fromBlock toBlock : ℕ) (item : HafahOperation) : Except Failure HafOperation := do
  require (fromBlock ≤ item.block ∧ item.block ≤ toBlock)
    (invalidSourceResponse "HAfAH returned an operation outside the range")
  require (item.virtualOp = true ∨ hasTransactionId item)
    (invalidSourceResponse "HAfAH operation transaction identity is inconsistent with virtuality")
  let timestamp ← normalizeHiveTimestamp parseDate item.timestamp
  pure (normalizedOperation item timestamp)

/-- `operations.set(…)`: an identity that is known keeps its place, and must not have changed. -/
def setOperation (operations : List HafOperation) (normalized : HafOperation) :
    Except Failure (List HafOperation) :=
  match operations.find? (·.sourceOperationId = normalized.sourceOperationId) with
  | none => .ok (operations ++ [normalized])
  | some previous =>
    if previous = normalized then .ok operations
    else .error (invalidSourceResponse "Conflicting duplicate HAfAH operation")

/-- The loop over the items of a page. -/
def addItems (fromBlock toBlock : ℕ) :
    List HafOperation → List HafahOperation → Except Failure (List HafOperation)
  | operations, [] => .ok operations
  | operations, item :: items => do
    let normalized ← normalizeItem parseDate fromBlock toBlock item
    let operations ← setOperation operations normalized
    addItems fromBlock toBlock operations items

/-- The request after a page, `none` at the end of the range. -/
def nextPage (toBlock : ℕ) (page : OperationsPage) : Option PageKey :=
  match page.nextBlockRangeBegin, page.nextOperationBegin with
  | some nextBlock, some nextOperation =>
    if nextBlock = 0 ∨ nextOperation = 0 ∨ toBlock < nextBlock then none
    else some ⟨nextBlock, some nextOperation⟩
  | _, _ => none

/-- The page loop, with the answers that are left over; `none` while it waits for an answer. -/
def readPages (fromBlock toBlock : ℕ) (answers : List PageAnswer) (visitedPages : List PageKey)
    (operations : List HafOperation) (pageKey : PageKey) :
    Option (Except Failure (List HafOperation) × List PageAnswer) :=
  if pageKey ∈ visitedPages then
    some (.error (invalidSourceResponse "HAfAH pagination loop detected"), answers)
  else
    match answers with
    | [] => none
    | .error e :: rest => some (.error e, rest)
    | .ok page :: rest =>
      match addItems parseDate fromBlock toBlock operations page.ops with
      | .error e => some (.error e, rest)
      | .ok operations =>
        match nextPage toBlock page with
        | none => some (.ok operations, rest)
        | some nextKey =>
          readPages fromBlock toBlock rest (pageKey :: visitedPages) operations nextKey

/-- `left.blockNumber - right.blockNumber || left.operationIndex - right.operationIndex` -/
def operationOrder (left right : HafOperation) : Prop :=
  left.blockNumber < right.blockNumber ∨
    left.blockNumber = right.blockNumber ∧ left.operationIndex ≤ right.operationIndex

instance : DecidableRel operationOrder := fun left right =>
  inferInstanceAs (Decidable (left.blockNumber < right.blockNumber ∨ _))

def getOperations (fromBlock toBlock : ℕ) (answers : List PageAnswer) :
    Option (Except Failure (List HafOperation) × List PageAnswer) :=
  if ¬ (isBlockNumber fromBlock ∧ isBlockNumber toBlock) then
    some (.error (invalidSourceResponse "Hive block number is invalid"), answers)
  else if toBlock < fromBlock then
    some (.error (invalidSourceResponse "Operation block range is inverted"), answers)
  else
    match readPages parseDate fromBlock toBlock answers [] [] ⟨fromBlock, none⟩ with
    | none => none
    | some (.error e, rest) => some (.error e, rest)
    | some (.ok operations, rest) => some (.ok (operations.insertionSort operationOrder), rest)

/-! ### What the loop returns -/

/-- The operation stands for an item of one of the pages. -/
def FromPage (fromBlock toBlock : ℕ) (answers : List PageAnswer) (operation : HafOperation) : Prop :=
  ∃ page, .ok page ∈ answers ∧
    ∃ item ∈ page.ops, normalizeItem parseDate fromBlock toBlock item = .ok operation

variable {parseDate} {fromBlock toBlock : ℕ}

theorem mem_setOperation {operations operations' : List HafOperation} {normalized : HafOperation}
    (h : setOperation operations normalized = .ok operations') {operation : HafOperation}
    (hmem : operation ∈ operations') : operation ∈ operations ∨ operation = normalized := by
  unfold setOperation at h
  split at h
  · cases h
    rcases List.mem_append.mp hmem with hmem | hmem
    · exact .inl hmem
    · exact .inr (List.mem_singleton.mp hmem)
  · split at h
    · cases h
      exact .inl hmem
    · cases h

theorem mem_addItems : ∀ {items : List HafahOperation} {operations operations' : List HafOperation},
    addItems parseDate fromBlock toBlock operations items = .ok operations' →
      ∀ operation ∈ operations', operation ∈ operations ∨
        ∃ item ∈ items, normalizeItem parseDate fromBlock toBlock item = .ok operation
  | [], operations, operations', h, operation, hmem => by
    obtain rfl : operations = operations' := by simpa [addItems] using h
    exact .inl hmem
  | item :: items, operations, operations', h, operation, hmem => by
    simp only [addItems, bind_eq_ok] at h
    obtain ⟨normalized, hnormalized, next, hset, hrest⟩ := h
    rcases mem_addItems hrest operation hmem with hmem | ⟨other, hother, hnormal⟩
    · rcases mem_setOperation hset hmem with hmem | rfl
      · exact .inl hmem
      · exact .inr ⟨item, List.mem_cons_self, hnormalized⟩
    · exact .inr ⟨other, List.mem_cons_of_mem item hother, hnormal⟩

theorem mem_readPages : ∀ {answers : List PageAnswer} {visited : List PageKey}
    {operations operations' : List HafOperation} {key : PageKey} {rest : List PageAnswer},
    readPages parseDate fromBlock toBlock answers visited operations key =
        some (.ok operations', rest) →
      ∀ operation ∈ operations', operation ∈ operations ∨
        FromPage parseDate fromBlock toBlock answers operation := by
  intro answers
  induction answers with
  | nil =>
    intro visited operations operations' key rest h operation hmem
    unfold readPages at h
    split at h <;> simp at h
  | cons answer answers ih =>
    intro visited operations operations' key rest h operation hmem
    unfold readPages at h
    by_cases hvisited : key ∈ visited
    · rw [if_pos hvisited] at h
      simp at h
    · rw [if_neg hvisited] at h
      cases answer with
      | error e => simp at h
      | ok page =>
        simp only at h
        split at h
        · simp at h
        · rename_i added hadd
          -- an operation of the rest of the loop came from this page or from a later one
          have hpage : operation ∈ added → operation ∈ operations ∨
              FromPage parseDate fromBlock toBlock (.ok page :: answers) operation := by
            intro hin
            rcases mem_addItems hadd operation hin with hin | ⟨item, hitem, hnormal⟩
            · exact .inl hin
            · exact .inr ⟨page, List.mem_cons_self, item, hitem, hnormal⟩
          split at h
          · obtain ⟨rfl, -⟩ : added = operations' ∧ answers = rest := by simpa using h
            exact hpage hmem
          · rcases ih h operation hmem with hin | ⟨later, hlater, item, hitem, hnormal⟩
            · exact hpage hin
            · exact .inr ⟨later, List.mem_cons_of_mem _ hlater, item, hitem, hnormal⟩

/-- **Every operation stands for an item of a page.** -/
theorem mem_getOperations {answers rest : List PageAnswer} {operations : List HafOperation}
    (h : getOperations parseDate fromBlock toBlock answers = some (.ok operations, rest))
    {operation : HafOperation} (hmem : operation ∈ operations) :
    FromPage parseDate fromBlock toBlock answers operation := by
  unfold getOperations at h
  split at h
  · simp at h
  · split at h
    · simp at h
    · split at h
      · simp at h
      · simp at h
      · rename_i read rest' hread
        obtain ⟨rfl, -⟩ : read.insertionSort operationOrder = operations ∧ rest' = rest := by
          simpa using h
        have hin : operation ∈ read := (List.mem_insertionSort operationOrder).mp hmem
        rcases mem_readPages hread operation hin with hin | hpage
        · exact absurd hin List.not_mem_nil
        · exact hpage

/-! ### The loop ends -/

theorem nextPage_bounds {page : OperationsPage} {key : PageKey}
    (h : nextPage toBlock page = some key) :
    key.pageFrom ≤ toBlock ∧ ∃ begin, key.operationBegin = some begin := by
  unfold nextPage at h
  split at h
  · rename_i nextBlock nextOperation _ _
    by_cases hend : nextBlock = 0 ∨ nextOperation = 0 ∨ toBlock < nextBlock
    · rw [if_pos hend] at h
      cases h
    · rw [if_neg hend] at h
      obtain rfl := Option.some.inj h
      have hle : nextBlock ≤ toBlock := by omega
      exact ⟨hle, nextOperation, rfl⟩
  · cases h

/-- The requests that a range can make. -/
def rangeKeys (fromBlock toBlock : ℕ) : Finset PageKey :=
  insert ⟨fromBlock, none⟩
    ((Finset.range (toBlock + 1) ×ˢ Finset.range (2 ^ 64)).image
      fun p => ⟨p.1, some (UInt64.ofNat p.2)⟩)

theorem nextPage_mem_rangeKeys {page : OperationsPage} {key : PageKey}
    (h : nextPage toBlock page = some key) : key ∈ rangeKeys fromBlock toBlock := by
  obtain ⟨hle, begin, hbegin⟩ := nextPage_bounds h
  have hlt : begin.toNat < 2 ^ 64 := begin.toNat_lt
  have hpair : (key.pageFrom, begin.toNat) ∈ Finset.range (toBlock + 1) ×ˢ Finset.range (2 ^ 64) :=
    Finset.mem_product.mpr ⟨Finset.mem_range.mpr (by omega), Finset.mem_range.mpr hlt⟩
  refine Finset.mem_insert_of_mem (Finset.mem_image.mpr ⟨_, hpair, ?_⟩)
  obtain ⟨pageFrom, operationBegin⟩ := key
  have hround : UInt64.ofNat begin.toNat = begin := UInt64.ofNat_toNat
  simp only [hround]
  rw [show operationBegin = some begin from hbegin]

theorem rangeKeys_card : (rangeKeys fromBlock toBlock).card ≤ (toBlock + 1) * 2 ^ 64 + 1 := by
  refine (Finset.card_insert_le _ _).trans ?_
  have himage := Finset.card_image_le (s := Finset.range (toBlock + 1) ×ˢ Finset.range (2 ^ 64))
    (f := fun p : ℕ × ℕ => (⟨p.1, some (UInt64.ofNat p.2)⟩ : PageKey))
  rw [Finset.card_product, Finset.card_range, Finset.card_range] at himage
  omega

theorem readPages_ends : ∀ {answers : List PageAnswer} {visited : List PageKey}
    {operations : List HafOperation} {key : PageKey}, visited.Nodup →
    (∀ k ∈ visited, k ∈ rangeKeys fromBlock toBlock) → key ∈ rangeKeys fromBlock toBlock →
    (rangeKeys fromBlock toBlock).card ≤ answers.length + visited.length →
      readPages parseDate fromBlock toBlock answers visited operations key ≠ none := by
  intro answers
  induction answers with
  | nil =>
    intro visited operations key hnodup hrange hkey hlength
    unfold readPages
    by_cases hvisited : key ∈ visited
    · rw [if_pos hvisited]
      exact Option.some_ne_none _
    · -- one key more than there are
      have hnodup' : (key :: visited).Nodup := List.nodup_cons.mpr ⟨hvisited, hnodup⟩
      have hsub : (key :: visited).toFinset ⊆ rangeKeys fromBlock toBlock := by
        intro k hk
        rcases List.mem_cons.mp (List.mem_toFinset.mp hk) with rfl | hk
        · exact hkey
        · exact hrange k hk
      have hcard := Finset.card_le_card hsub
      rw [List.toFinset_card_of_nodup hnodup', List.length_cons] at hcard
      rw [List.length_nil] at hlength
      omega
  | cons answer answers ih =>
    intro visited operations key hnodup hrange hkey hlength
    unfold readPages
    by_cases hvisited : key ∈ visited
    · rw [if_pos hvisited]
      exact Option.some_ne_none _
    · rw [if_neg hvisited]
      cases answer with
      | error e => exact Option.some_ne_none _
      | ok page =>
        simp only
        split
        · exact Option.some_ne_none _
        · split
          · exact Option.some_ne_none _
          · rename_i nextKey hnext
            refine ih (List.nodup_cons.mpr ⟨hvisited, hnodup⟩) (fun k hk => ?_)
              (nextPage_mem_rangeKeys hnext) ?_
            · rcases List.mem_cons.mp hk with rfl | hk
              · exact hkey
              · exact hrange k hk
            · rw [List.length_cons] at hlength ⊢
              omega

/-- **`getOperations` returns**, whatever its pages are, once enough of them are answered. -/
theorem getOperations_ends {answers : List PageAnswer}
    (hlength : (toBlock + 1) * 2 ^ 64 + 1 ≤ answers.length) :
    getOperations parseDate fromBlock toBlock answers ≠ none := by
  unfold getOperations
  split
  · exact Option.some_ne_none _
  · split
    · exact Option.some_ne_none _
    · have hends : readPages parseDate fromBlock toBlock answers [] [] ⟨fromBlock, none⟩ ≠ none := by
        refine readPages_ends List.nodup_nil (fun k hk => absurd hk List.not_mem_nil)
          (Finset.mem_insert_self _ _) ?_
        exact rangeKeys_card.trans hlength
      split
      · rename_i hnone
        exact absurd hnone hends
      · exact Option.some_ne_none _
      · exact Option.some_ne_none _

end

end HiveChameleon.Projector
