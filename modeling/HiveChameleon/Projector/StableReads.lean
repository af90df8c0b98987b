import HiveChameleon.Projector.Finality
import HiveChameleon.Projector.HafahSource

/-!
# Projector.StableReads — what a run stores was read from one chain

HAfAH as a run meets it: at each request a hash-linked chain with the operations of its blocks, any
chain at all, but no block id comes back that was gone.  A log keeps what was read of which chain,
and where the run began to apply blocks.  The block ids that are read again after the operations
tie all reads of a range to one chain.
-/

namespace HiveChameleon.Projector

open Gateway Lib

/-! ### The log of a run -/

/-- What HAfAH serves at a moment: a chain and the operations in its blocks. -/
structure HafahState (U : HafBlock → Prop) extends HafahChain U where
  operations : List HafahOperation
  located : ∀ o ∈ operations, ∃ b ∈ blocks, b.number = o.block

inductive Reading where
  | header (block : HafBlock)
  | page (page : OperationsPage)
deriving DecidableEq

/-- An answered request: the state that HAfAH was in, and what was read of it. -/
structure SourceRead (U : HafBlock → Prop) where
  hafah : HafahState U
  reading : Reading
  sound : match reading with
    | .header block => block ∈ hafah.blocks
    | .page page => ∀ o ∈ page.ops, o ∈ hafah.operations

inductive LogEntry (U : HafBlock → Prop) where
  | read (read : SourceRead U)
  | applying (block : HafBlock)

variable {U : HafBlock → Prop}

/-- The chain of the moment contains the block. -/
def SourceRead.Has (read : SourceRead U) (id : String) : Prop :=
  ∃ b ∈ read.hafah.blocks, b.id = id

/-- The reads of a log. -/
def readsOf : List (LogEntry U) → List (SourceRead U)
  | [] => []
  | .read read :: log => read :: readsOf log
  | .applying _ :: log => readsOf log

/-- The reads before the first `applyBlock`. -/
def openingReads : List (LogEntry U) → List (SourceRead U)
  | [] => []
  | .read read :: log => read :: openingReads log
  | .applying _ :: _ => []

/-- **No block id comes back**: between two reads of chains with a block, every chain has it. -/
def NeverReturns (reads : List (SourceRead U)) : Prop :=
  ∀ (i j k : ℕ) (first between last : SourceRead U), i ≤ j → j ≤ k →
    reads[i]? = some first → reads[j]? = some between → reads[k]? = some last →
      ∀ id, first.Has id → last.Has id → between.Has id

/-- Read for the blocks above the cursor: a page of operations, or one of their headers. -/
def SourceRead.AboveCursor (cursor : ℕ) (read : SourceRead U) : Prop :=
  match read.reading with
  | .header block => cursor < block.number
  | .page _ => True

/-- **A fork switched under the reads above the cursor**: a header was read, and a later read found
a chain without that block. -/
def ForkSwitched (cursor : ℕ) (reads : List (SourceRead U)) : Prop :=
  ∃ (i k : ℕ) (first last : SourceRead U) (block : HafBlock), i < k ∧
    reads[i]? = some first ∧ reads[k]? = some last ∧ first.reading = .header block ∧
    cursor < block.number ∧ last.AboveCursor cursor ∧ ¬ last.Has block.id

/-- The pages among the answers, in the order in which they were read. -/
def PagesRead (answers : List PageAnswer) (reads : List (SourceRead U)) : Prop :=
  reads.map (·.reading) = answers.filterMap fun answer => answer.toOption.map Reading.page

/-- How a request is answered: the store on its database, HAfAH from the chain of the moment, each
page of the operations from a moment of its own.  The head and the irreversible block may be
anything. -/
def hafahAnswer (R : Runtime) (parseDate : String → Option Timestamp) (source : String) :
    (q : Request) → Db × List (LogEntry U) → Except Failure q.Response →
      Db × List (LogEntry U) → Prop
  | .getHeadAndIrreversible, s, _, s' => s' = s
  | .getBlock n, s, r, s' =>
    s'.1 = s.1 ∧ NeverReturns (readsOf s'.2) ∧
      ((∃ e, r = .error e) ∧ s'.2 = s.2 ∨
        ∃ (read : SourceRead U) (block : HafBlock), r = .ok block ∧ block.number = n ∧
          read.reading = .header block ∧ s'.2 = s.2 ++ [.read read])
  | .getOperations fromBlock toBlock, s, r, s' =>
    s'.1 = s.1 ∧ NeverReturns (readsOf s'.2) ∧
      ∃ (reads : List (SourceRead U)) (answers : List PageAnswer),
        getOperations parseDate fromBlock toBlock answers = some (r, []) ∧ PagesRead answers reads ∧
          s'.2 = s.2 ++ reads.map .read
  | .getCursor, s, r, s' => storeAnswer R source .getCursor s.1 r s'.1 ∧ s'.2 = s.2
  | .getCurrentCheckpoint n, s, r, s' =>
    storeAnswer R source (.getCurrentCheckpoint n) s.1 r s'.1 ∧ s'.2 = s.2
  | .applyBlock block decisions, s, r, s' =>
    storeAnswer R source (.applyBlock block decisions) s.1 r s'.1 ∧ s'.2 = s.2 ++ [.applying block]
  | .revertAfter n, s, r, s' => storeAnswer R source (.revertAfter n) s.1 r s'.1 ∧ s'.2 = s.2
  | .finalizeThrough n, s, r, s' =>
    storeAnswer R source (.finalizeThrough n) s.1 r s'.1 ∧ s'.2 = s.2

/-! ### Logs -/

section Log

variable {log : List (LogEntry U)} {cursor : ℕ}

@[simp] theorem readsOf_append (log log' : List (LogEntry U)) :
    readsOf (log ++ log') = readsOf log ++ readsOf log' := by
  induction log with
  | nil => rfl
  | cons entry log ih =>
    cases entry with
    | read read => simp only [List.cons_append, readsOf, ih]
    | applying block => simp only [List.cons_append, readsOf, ih]

@[simp] theorem readsOf_map (reads : List (SourceRead U)) : readsOf (reads.map .read) = reads := by
  induction reads with
  | nil => rfl
  | cons read reads ih => simp only [List.map_cons, readsOf, ih]

/-- The log of a run that has applied nothing yet. -/
def Unapplied (log : List (LogEntry U)) : Prop := ∀ block, .applying block ∉ log

theorem unapplied_map (reads : List (SourceRead U)) : Unapplied (reads.map .read) := by
  intro block hmem
  obtain ⟨read, -, heq⟩ := List.mem_map.mp hmem
  cases heq

theorem Unapplied.append {log' : List (LogEntry U)} (h : Unapplied log) (h' : Unapplied log') :
    Unapplied (log ++ log') := by
  intro block hmem
  rcases List.mem_append.mp hmem with hmem | hmem
  · exact h block hmem
  · exact h' block hmem

theorem openingReads_of_unapplied (h : Unapplied log) : openingReads log = readsOf log := by
  induction log with
  | nil => rfl
  | cons entry log ih =>
    cases entry with
    | read read =>
      have htail : Unapplied log := fun block hmem => h block (List.mem_cons_of_mem _ hmem)
      simp only [openingReads, readsOf, ih htail]
    | applying block => exact absurd List.mem_cons_self (h block)

theorem openingReads_append {log' : List (LogEntry U)} {block : HafBlock}
    (h : .applying block ∈ log) : openingReads (log ++ log') = openingReads log := by
  induction log with
  | nil => exact absurd h List.not_mem_nil
  | cons entry log ih =>
    cases entry with
    | read read =>
      have htail : .applying block ∈ log := by
        rcases List.mem_cons.mp h with heq | hmem
        · cases heq
        · exact hmem
      simp only [List.cons_append, openingReads, ih htail]
    | applying other => rfl

theorem openingReads_append_applying (block : HafBlock) :
    openingReads (log ++ [.applying block]) = openingReads log := by
  induction log with
  | nil => rfl
  | cons entry log ih =>
    cases entry with
    | read read => simp only [List.cons_append, openingReads, ih]
    | applying other => rfl

end Log

/-! ### Reads below the cursor -/

section Switched

variable {cursor : ℕ} {reads : List (SourceRead U)}

/-- Not a read for the blocks above the cursor. -/
def Low (cursor : ℕ) (reads : List (SourceRead U)) : Prop :=
  ∀ read ∈ reads, ¬ read.AboveCursor cursor

theorem aboveCursor_of_header {read : SourceRead U} {block : HafBlock}
    (hreading : read.reading = .header block) : read.AboveCursor cursor ↔ cursor < block.number := by
  unfold SourceRead.AboveCursor
  rw [hreading]

theorem not_forkSwitched_of_low (h : Low cursor reads) : ¬ ForkSwitched cursor reads := by
  rintro ⟨i, k, first, last, block, -, -, hk, -, -, habove, -⟩
  exact h last (List.mem_of_getElem? hk) habove

theorem forkSwitched_append_low {read : SourceRead U} (hlow : ¬ read.AboveCursor cursor)
    (h : ForkSwitched cursor (reads ++ [read])) : ForkSwitched cursor reads := by
  obtain ⟨i, k, first, last, block, hlt, hi, hk, hreading, hnumber, habove, hgone⟩ := h
  have hklt : k < reads.length := by
    by_contra hge
    rw [List.getElem?_append_right (by omega)] at hk
    have hmem := List.mem_of_getElem? hk
    rw [List.mem_singleton.mp hmem] at habove
    exact hlow habove
  rw [List.getElem?_append_left (by omega)] at hi
  rw [List.getElem?_append_left hklt] at hk
  exact ⟨i, k, first, last, block, hlt, hi, hk, hreading, hnumber, habove, hgone⟩

theorem not_forkSwitched_append_of_low {read : SourceRead U} (h : Low cursor reads) :
    ¬ ForkSwitched cursor (reads ++ [read]) := by
  rintro ⟨i, k, first, last, block, hlt, hi, hk, hreading, hnumber, habove, hgone⟩
  have hkle : k < (reads ++ [read]).length := (List.getElem?_eq_some_iff.mp hk).1
  rw [List.length_append, List.length_singleton] at hkle
  have hilt : i < reads.length := by omega
  rw [List.getElem?_append_left hilt] at hi
  exact h first (List.mem_of_getElem? hi) ((aboveCursor_of_header hreading).mpr hnumber)

end Switched

/-! ### The window of a range -/

section Window

/-- The headers `blocks`, read one after the other. -/
def HeadersRead (reads : List (SourceRead U)) (blocks : List HafBlock) : Prop :=
  reads.map (·.reading) = blocks.map Reading.header

variable {reads₀ before pages after : List (SourceRead U)} {blocks blocks' : List HafBlock}
  {fromBlock count : ℕ}

theorem HeadersRead.length (h : HeadersRead before blocks) : before.length = blocks.length := by
  have hlength := congrArg List.length h
  rwa [List.length_map, List.length_map] at hlength

theorem HeadersRead.get (h : HeadersRead before blocks) {x : ℕ} {block : HafBlock}
    (hx : blocks[x]? = some block) :
    ∃ read, before[x]? = some read ∧ read.reading = .header block := by
  have hget : (before.map (·.reading))[x]? = (blocks.map Reading.header)[x]? := by rw [h]
  rw [List.getElem?_map, List.getElem?_map, hx] at hget
  obtain ⟨read, hread, hreading⟩ := Option.map_eq_some_iff.mp hget
  exact ⟨read, hread, hreading⟩

theorem HeadersRead.get_read (h : HeadersRead before blocks) {x : ℕ} {read : SourceRead U}
    (hx : before[x]? = some read) :
    ∃ block, blocks[x]? = some block ∧ read.reading = .header block := by
  have hget : (before.map (·.reading))[x]? = (blocks.map Reading.header)[x]? := by rw [h]
  rw [List.getElem?_map, List.getElem?_map, hx] at hget
  obtain ⟨block, hblock, hreading⟩ := Option.map_eq_some_iff.mp hget.symm
  exact ⟨block, hblock, hreading.symm⟩

theorem SourceRead.has_header {read : SourceRead U} {block : HafBlock}
    (hreading : read.reading = .header block) : block ∈ read.hafah.blocks := by
  have hsound := read.sound
  rw [hreading] at hsound
  exact hsound

/-- The block of a position in a snapshot that starts at `fromBlock`. -/
theorem number_of_getElem? (hnumbers : blocks.map (·.number) = List.range' fromBlock count) {x : ℕ}
    {block : HafBlock} (hx : blocks[x]? = some block) : block.number = fromBlock + x := by
  have hget : (blocks.map (·.number))[x]? = (List.range' fromBlock count)[x]? := by rw [hnumbers]
  rw [List.getElem?_map, hx, Option.map_some] at hget
  have hlt : x < count := by
    have hsome := (List.getElem?_eq_some_iff.mp hget.symm).1
    rwa [List.length_range'] at hsome
  rw [List.getElem?_range' hlt] at hget
  simpa using hget

theorem sameBlock_get {blocks blocks' : List HafBlock} (h : List.Forall₂ sameBlock blocks blocks')
    {x : ℕ} {block : HafBlock} (hx : blocks[x]? = some block) :
    ∃ block', blocks'[x]? = some block' ∧ sameBlock block block' := by
  obtain ⟨hlt, rfl⟩ := List.getElem?_eq_some_iff.mp hx
  have hlt' : x < blocks'.length := h.length_eq ▸ hlt
  exact ⟨blocks'[x], List.getElem?_eq_getElem hlt', List.forall₂_iff_get.mp h |>.2 x hlt hlt'⟩

/-- **The chain stands still under the window**: when the headers read before and after the pages
agree, every read from a block's first header on found a chain with that block. -/
theorem window_has (hU : hafLinkage.Determined U) (hbefore : HeadersRead before blocks)
    (hafter : HeadersRead after blocks')
    (hnumbers : blocks.map (·.number) = List.range' fromBlock count)
    (hsame : List.Forall₂ sameBlock blocks blocks')
    (hnever : NeverReturns (reads₀ ++ (before ++ (pages ++ after)))) {x k : ℕ} {block : HafBlock}
    {read : SourceRead U} (hx : blocks[x]? = some block) (hle : reads₀.length + x ≤ k)
    (hk : (reads₀ ++ (before ++ (pages ++ after)))[k]? = some read) : read.Has block.id := by
  have hlen := hbefore.length
  have hlen' := hafter.length
  have hlens := hsame.length_eq
  have hxlt : x < blocks.length := (List.getElem?_eq_some_iff.mp hx).1
  -- where the two readings of a header stand
  have hfirst : ∀ {y b}, blocks[y]? = some b → ∃ r : SourceRead U,
      (reads₀ ++ (before ++ (pages ++ after)))[reads₀.length + y]? = some r ∧ r.Has b.id := by
    intro y b hy
    have hylt : y < blocks.length := (List.getElem?_eq_some_iff.mp hy).1
    obtain ⟨r, hr, hreading⟩ := hbefore.get hy
    refine ⟨r, ?_, b, r.has_header hreading, rfl⟩
    rw [List.getElem?_append_right (by omega), List.getElem?_append_left (by omega)]
    rw [show reads₀.length + y - reads₀.length = y by omega]
    exact hr
  have hlast : ∀ {y b}, blocks[y]? = some b → ∃ (r : SourceRead U) (b' : HafBlock),
      (reads₀ ++ (before ++ (pages ++ after)))[reads₀.length + before.length + pages.length + y]? =
        some r ∧ b' ∈ r.hafah.blocks ∧ sameBlock b b' := by
    intro y b hy
    have hylt : y < blocks.length := (List.getElem?_eq_some_iff.mp hy).1
    obtain ⟨b', hy', hsameb⟩ := sameBlock_get hsame hy
    obtain ⟨r, hr, hreading⟩ := hafter.get hy'
    refine ⟨r, b', ?_, r.has_header hreading, hsameb⟩
    rw [List.getElem?_append_right (by omega), List.getElem?_append_right (by omega),
      List.getElem?_append_right (by omega)]
    rw [show reads₀.length + before.length + pages.length + y - reads₀.length - before.length -
      pages.length = y by omega]
    exact hr
  obtain ⟨rx, hrx, hasx⟩ := hfirst hx
  obtain ⟨rx', bx', hrx', hbx', hsamex⟩ := hlast hx
  have hasx' : rx'.Has block.id := ⟨bx', hbx', hsamex.2.1.symm⟩
  by_cases hkle : k ≤ reads₀.length + before.length + pages.length + x
  · exact hnever _ _ _ rx read rx' hle hkle hrx hk hrx' block.id hasx hasx'
  · -- a later header of the closing snapshot: its chain agrees below with the one read at `x`
    have hklt := (List.getElem?_eq_some_iff.mp hk).1
    simp only [List.length_append] at hklt
    obtain ⟨y, rfl⟩ : ∃ y, k = reads₀.length + before.length + pages.length + y :=
      ⟨k - (reads₀.length + before.length + pages.length), by omega⟩
    have hylt : y < blocks.length := by omega
    have hy : blocks[y]? = some blocks[y] := List.getElem?_eq_getElem hylt
    obtain ⟨ry, hry, hasy⟩ := hfirst hy
    obtain ⟨ry', by', hry', hby', hsamey⟩ := hlast hy
    obtain rfl : ry' = read := Option.some.inj (hry'.symm.trans hk)
    have hbetween : rx'.Has (blocks[y]).id :=
      hnever _ _ _ ry rx' ry' (by omega) (by omega) hry hrx' hry' _ hasy ⟨by', hby', hsamey.2.1.symm⟩
    obtain ⟨c, hc, hcid⟩ := hbetween
    have hnumberx := number_of_getElem? hnumbers hx
    have hnumbery := number_of_getElem? hnumbers hy
    have hcnumber : c.number = by'.number :=
      (hU c by' (rx'.hafah.known c hc) (ry'.hafah.known by' hby') (hcid.trans hsamey.2.1)).1
    have hlow : hafLinkage.number bx' ≤ hafLinkage.number c := by
      show bx'.number ≤ c.number
      have hby : by'.number = fromBlock + y := hsamey.1.symm.trans hnumbery
      have hbx : bx'.number = fromBlock + x := hsamex.1.symm.trans hnumberx
      omega
    obtain ⟨z, hz, -, hzid⟩ := rx'.hafah.isLinked.agree_below hU ry'.hafah.isLinked
      rx'.hafah.known ry'.hafah.known hc hby' (hcid.trans hsamey.2.1) hbx' hlow
    exact ⟨z, hz, hzid.trans hsamex.2.1.symm⟩

/-- **No switch under a stable window** that follows reads below the cursor. -/
theorem not_forkSwitched_window (hU : hafLinkage.Determined U) {cursor : ℕ}
    (hlow : Low cursor reads₀) (hbefore : HeadersRead before blocks)
    (hpages : ∀ read ∈ pages, ∃ page, read.reading = .page page)
    (hafter : HeadersRead after blocks')
    (hnumbers : blocks.map (·.number) = List.range' fromBlock count)
    (hsame : List.Forall₂ sameBlock blocks blocks')
    (hnever : NeverReturns (reads₀ ++ (before ++ (pages ++ after)))) :
    ¬ ForkSwitched cursor (reads₀ ++ (before ++ (pages ++ after))) := by
  rintro ⟨i, k, first, last, block, hlt, hi, hk, hreading, hnumber, -, hgone⟩
  have hlen := hbefore.length
  have habove : first.AboveCursor cursor := (aboveCursor_of_header hreading).mpr hnumber
  by_cases hi₀ : i < reads₀.length
  · rw [List.getElem?_append_left hi₀] at hi
    exact hlow first (List.mem_of_getElem? hi) habove
  rw [List.getElem?_append_right (by omega)] at hi
  by_cases hi₁ : i - reads₀.length < before.length
  · -- the header of the opening snapshot
    rw [List.getElem?_append_left hi₁] at hi
    obtain ⟨b, hb, hheader⟩ := hbefore.get_read hi
    obtain rfl : block = b := Reading.header.inj (hreading.symm.trans hheader)
    exact hgone (window_has hU hbefore hafter hnumbers hsame hnever hb (by omega) hk)
  rw [List.getElem?_append_right (by omega)] at hi
  by_cases hi₂ : i - reads₀.length - before.length < pages.length
  · rw [List.getElem?_append_left hi₂] at hi
    obtain ⟨page, hpage⟩ := hpages first (List.mem_of_getElem? hi)
    rw [hpage] at hreading
    cases hreading
  · -- the same header, read again
    rw [List.getElem?_append_right (by omega)] at hi
    obtain ⟨b', hb', hheader⟩ := hafter.get_read hi
    obtain rfl : block = b' := Reading.header.inj (hreading.symm.trans hheader)
    have hxlt := (List.getElem?_eq_some_iff.mp hb').1
    have hlens := hsame.length_eq
    have hb := List.getElem?_eq_getElem (l := blocks) (i := i - reads₀.length - before.length -
      pages.length) (by omega)
    obtain ⟨b'', hb'', hsameb⟩ := sameBlock_get hsame hb
    obtain rfl : b'' = block := Option.some.inj (hb''.symm.trans hb')
    rw [← hsameb.2.1] at hgone
    exact hgone (window_has hU hbefore hafter hnumbers hsame hnever hb (by omega) hk)

end Window

/-! ### Rows as they were read -/

/-- The header of the block was read. -/
def HeaderRead (log : List (LogEntry U)) (block : HafBlock) : Prop :=
  ∃ read ∈ readsOf log, read.reading = .header block

/-- The operation stands for an item that was read off a chain with this block. -/
def OperationRead (parseDate : String → Option Timestamp) (log : List (LogEntry U))
    (blockNumber : ℕ) (blockId : String) (operation : HafOperation) : Prop :=
  ∃ read ∈ readsOf log, ∃ page, read.reading = .page page ∧ ∃ item ∈ page.ops,
    (∃ fromBlock toBlock, normalizeItem parseDate fromBlock toBlock item = .ok operation) ∧
    ∃ b ∈ read.hafah.blocks, b.number = blockNumber ∧ b.id = blockId

/-- The checkpoint of a block. -/
structure BlockCheckpointRow.IsOf (c : BlockCheckpointRow) (block : HafBlock) : Prop where
  blockNumber : c.blockNumber = block.number
  blockId : c.blockId = block.id
  previousBlockId : c.previousBlockId = some block.previousId
  blockTimestamp : c.blockTimestamp = block.timestamp

/-- The row of an operation. -/
structure OperationRow.IsOf (row : OperationRow) (operation : HafOperation) : Prop where
  sourceOperationId : row.sourceOperationId = operation.sourceOperationId
  transactionId : row.transactionId = operation.transactionId
  operationIndex : row.operationIndex = operation.operationIndex
  isVirtual : row.isVirtual = operation.isVirtual
  blockNumber : row.blockNumber = operation.blockNumber
  operationType : row.operationType = operation.operationType
  payload : row.payload = operation.value

/-- **Stored as read**: a checkpoint that `db₀` did not have is a header that was read, and an
operation that `db₀` did not have was read off a chain with the block of its checkpoint. -/
structure StoredAsRead (parseDate : String → Option Timestamp) (db₀ : Db)
    (s : Db × List (LogEntry U)) : Prop where
  checkpoint : ∀ c ∈ s.1.chain.blockCheckpoint,
    (∃ c₀ ∈ db₀.chain.blockCheckpoint, c₀.id = c.id) ∨ ∃ block, HeaderRead s.2 block ∧ c.IsOf block
  operation : ∀ op ∈ s.1.chain.operation,
    (∃ op₀ ∈ db₀.chain.operation, op₀.id = op.id) ∨
      ∃ c ∈ s.1.chain.blockCheckpoint, c.id = op.checkpointId ∧
        ∃ operation, op.IsOf operation ∧
          OperationRead parseDate s.2 c.blockNumber c.blockId operation

/-- A block goes to the store with its header as read, and with the verdicts on operations that were
read off a chain with it. -/
def Request.AppliesRead (cfg : ProjectorConfig) (parseDate : String → Option Timestamp)
    (log : List (LogEntry U)) : Request → Prop
  | .applyBlock block decisions => HeaderRead log block ∧ ∀ decision ∈ decisions, ∃ operation,
      OperationRead parseDate log block.number block.id operation ∧
        validate cfg.runtime cfg.policy operation block = some decision
  | _ => True

section Rows

variable {parseDate : String → Option Timestamp} {R : Runtime} {cfg : ProjectorConfig}
  {source : String} {db₀ db db' : Db} {log : List (LogEntry U)}

theorem HeaderRead.append {block : HafBlock} (h : HeaderRead log block)
    (more : List (LogEntry U)) : HeaderRead (log ++ more) block := by
  obtain ⟨read, hread, hreading⟩ := h
  exact ⟨read, by rw [readsOf_append]; exact List.mem_append_left _ hread, hreading⟩

theorem OperationRead.append {n : ℕ} {id : String} {operation : HafOperation}
    (h : OperationRead parseDate log n id operation) (more : List (LogEntry U)) :
    OperationRead parseDate (log ++ more) n id operation := by
  obtain ⟨read, hread, hrest⟩ := h
  exact ⟨read, by rw [readsOf_append]; exact List.mem_append_left _ hread, hrest⟩

theorem StoredAsRead.refl : StoredAsRead (U := U) parseDate db (db, log) where
  checkpoint c hc := .inl ⟨c, hc, rfl⟩
  operation op hop := .inl ⟨op, hop, rfl⟩

theorem StoredAsRead.append (h : StoredAsRead parseDate db₀ (db, log))
    (more : List (LogEntry U)) : StoredAsRead parseDate db₀ (db, log ++ more) where
  checkpoint c hc := by
    rcases h.checkpoint c hc with hold | ⟨block, hread, his⟩
    · exact .inl hold
    · exact .inr ⟨block, hread.append more, his⟩
  operation op hop := by
    rcases h.operation op hop with hold | ⟨c, hc, hid, operation, his, hread⟩
    · exact .inl hold
    · exact .inr ⟨c, hc, hid, operation, his, hread.append more⟩

/-- The columns of a checkpoint that its block determines. -/
def BlockCheckpointRow.Alike (c c' : BlockCheckpointRow) : Prop :=
  c'.id = c.id ∧ c'.blockNumber = c.blockNumber ∧ c'.blockId = c.blockId ∧
    c'.previousBlockId = c.previousBlockId ∧ c'.blockTimestamp = c.blockTimestamp

theorem StoredAsRead.updated (h : StoredAsRead parseDate db₀ (db, log))
    (hcheckpoint : ∀ c' ∈ db'.chain.blockCheckpoint, ∃ c ∈ db.chain.blockCheckpoint, c.Alike c')
    (hkept : ∀ c ∈ db.chain.blockCheckpoint, ∃ c' ∈ db'.chain.blockCheckpoint, c.Alike c')
    (hoperation : ∀ op' ∈ db'.chain.operation, ∃ op ∈ db.chain.operation,
      op'.id = op.id ∧ op'.checkpointId = op.checkpointId ∧
        ∀ operation, op.IsOf operation → op'.IsOf operation) :
    StoredAsRead parseDate db₀ (db', log) where
  checkpoint c' hc' := by
    obtain ⟨c, hc, hid, hnumber, hblock, hprevious, htime⟩ := hcheckpoint c' hc'
    rcases h.checkpoint c hc with ⟨c₀, hc₀, heq⟩ | ⟨block, hread, his⟩
    · exact .inl ⟨c₀, hc₀, heq.trans hid.symm⟩
    · exact .inr ⟨block, hread, hnumber.trans his.blockNumber, hblock.trans his.blockId,
        hprevious.trans his.previousBlockId, htime.trans his.blockTimestamp⟩
  operation op' hop' := by
    obtain ⟨op, hop, hid, hcheckpointId, his⟩ := hoperation op' hop'
    rcases h.operation op hop with ⟨op₀, hop₀, heq⟩ | ⟨c, hc, hcid, operation, hisop, hread⟩
    · exact .inl ⟨op₀, hop₀, heq.trans hid.symm⟩
    · obtain ⟨c', hc', hid', hnumber', hblock', -, -⟩ := hkept c hc
      refine .inr ⟨c', hc', hid'.trans (hcid.trans hcheckpointId.symm), operation,
        his operation hisop, ?_⟩
      rw [hnumber', hblock']
      exact hread

theorem alike_updated {p : BlockCheckpointRow → Prop} [DecidablePred p]
    {set : Table.Assignment BlockCheckpointRow.id}
    (hset : ∀ c : BlockCheckpointRow, c.Alike (set c)) (c : BlockCheckpointRow) :
    c.Alike (Table.updated p set c) := by
  by_cases hp : p c
  · rw [Table.updated_of hp]
    exact hset c
  · rw [Table.updated_of_not hp]
    exact ⟨rfl, rfl, rfl, rfl, rfl⟩

theorem StoredAsRead.modified {p : BlockCheckpointRow → Prop} [DecidablePred p]
    {q : OperationRow → Prop} [DecidablePred q] {set : Table.Assignment BlockCheckpointRow.id}
    {setOp : Table.Assignment OperationRow.id} (h : StoredAsRead parseDate db₀ (db, log))
    (hcheckpoint : db'.chain.blockCheckpoint = db.chain.blockCheckpoint.modify p set)
    (hoperation : db'.chain.operation = db.chain.operation.modify q setOp)
    (hset : ∀ c : BlockCheckpointRow, c.Alike (set c))
    (hsetOp : ∀ op : OperationRow, (setOp op).checkpointId = op.checkpointId ∧
      ∀ operation, op.IsOf operation → (setOp op).IsOf operation) :
    StoredAsRead parseDate db₀ (db', log) := by
  refine h.updated (fun c' hc' => ?_) (fun c hc => ?_) fun op' hop' => ?_
  · rw [hcheckpoint] at hc'
    obtain ⟨c, hc, rfl⟩ := Table.mem_modify.mp hc'
    exact ⟨c, hc, alike_updated hset c⟩
  · refine ⟨Table.updated p set c, ?_, alike_updated hset c⟩
    rw [hcheckpoint]
    exact Table.updated_mem_modify hc
  · rw [hoperation] at hop'
    obtain ⟨op, hop, rfl⟩ := Table.mem_modify.mp hop'
    refine ⟨op, hop, Table.key_updated op, ?_⟩
    by_cases hq : q op
    · rw [Table.updated_of hq]
      exact hsetOp op
    · rw [Table.updated_of_not hq]
      exact ⟨rfl, fun _ his => his⟩

theorem StoredAsRead.ensureCursor (source : String) (h : StoredAsRead parseDate db₀ (db, log)) :
    StoredAsRead parseDate db₀ (⟨ensureCursor source db.chain, db.views, db.game⟩, log) where
  checkpoint c hc := h.checkpoint c (by simpa using hc)
  operation op hop := by simpa using h.operation op (by simpa using hop)

theorem OperationRow.IsOf.of_columns {op op' : OperationRow} {operation : HafOperation}
    (h : op.IsOf operation)
    (heq : op' = { op with
      state := op'.state, irreversibleAt := op'.irreversibleAt, revertedAt := op'.revertedAt }) :
    op'.IsOf operation := by
  rw [heq]
  exact ⟨h.sourceOperationId, h.transactionId, h.operationIndex, h.isVirtual, h.blockNumber,
    h.operationType, h.payload⟩

theorem StoredAsRead.revertAfter {n : ℕ} {r : Except Failure Unit}
    (h : StoredAsRead parseDate db₀ (db, log))
    (hans : storeAnswer R source (.revertAfter n) db r db') :
    StoredAsRead parseDate db₀ (db', log) := by
  obtain ⟨revertedAt, hout⟩ := hans
  rcases hout.db_cases with hok | ⟨rfl, -⟩
  · obtain ⟨-, rfl⟩ := revertAfter_spec hok
    exact (h.ensureCursor source).modified rfl rfl
      (fun c => ⟨rfl, rfl, rfl, rfl, rfl⟩) fun op => ⟨rfl, fun _ his => his.of_columns rfl⟩
  · exact h

theorem StoredAsRead.finalizeThrough {n : ℕ} {r : Except Failure Unit}
    (h : StoredAsRead parseDate db₀ (db, log))
    (hans : storeAnswer R source (.finalizeThrough n) db r db') :
    StoredAsRead parseDate db₀ (db', log) := by
  obtain ⟨ids, irreversibleAt, hout⟩ := hans
  rcases hout.db_cases with hok | ⟨rfl, -⟩
  · obtain ⟨-, hchain, -⟩ := finalizeThrough_spec hok
    exact (h.ensureCursor source).modified (by rw [hchain]; rfl) (by rw [hchain]; rfl)
      (fun c => ⟨rfl, rfl, rfl, rfl, rfl⟩) fun op => ⟨rfl, fun _ his => his.of_columns rfl⟩
  · exact h

theorem validate_isOf {operation : HafOperation} {block : HafBlock} {decision : OperationDecision}
    (h : validate cfg.runtime cfg.policy operation block = some decision) (id cp : Uuid)
    (observedAt : Timestamp) : (operationRow id cp decision observedAt).IsOf operation := by
  have hevidence : decision.evidence.sourceOperationId = operation.sourceOperationId ∧
      decision.evidence.transactionId = operation.transactionId ∧
      decision.evidence.operationIndex = operation.operationIndex ∧
      decision.evidence.isVirtual = operation.isVirtual ∧
      decision.evidence.blockNumber = operation.blockNumber ∧
      decision.evidence.operationType = operation.operationType ∧
      decision.evidence.payload = operation.value := by
    rcases validate_evidence h with heq | ⟨auths, postingAuths, customId, json, -, heq⟩ <;>
      rw [heq] <;> exact ⟨rfl, rfl, rfl, rfl, rfl, rfl, rfl⟩
  obtain ⟨h₁, h₂, h₃, h₄, h₅, h₆, h₇⟩ := hevidence
  exact ⟨h₁, h₂, h₃, h₄, h₅, h₆, h₇⟩

/-- **Applying what was read** stores it as it was read. -/
theorem StoredAsRead.applyBlock {block : HafBlock} {decisions : List OperationDecision}
    {r : Except Failure Unit} (h : StoredAsRead parseDate db₀ (db, log))
    (hread : (Request.applyBlock block decisions).AppliesRead cfg parseDate log)
    (hans : storeAnswer R source (.applyBlock block decisions) db r db') :
    StoredAsRead parseDate db₀ (db', log) := by
  obtain ⟨ids, observedAt, hout⟩ := hans
  obtain ⟨hheader, hdecisions⟩ := hread
  rcases hout.db_cases with hok | ⟨rfl, -⟩
  · obtain ⟨ha, -, -⟩ := applyBlock_spec hok
    refine ⟨fun c hc => ?_, fun op hop => ?_⟩
    · rcases ha.mem_checkpoint.mp hc with hc | rfl
      · exact h.checkpoint c hc
      · exact .inr ⟨block, hheader, rfl, rfl, rfl, rfl⟩
    · rcases applyBlock_operation hok op hop with hop | ⟨decision, hdecision, id, rfl⟩
      · rcases h.operation op hop with hold | ⟨c, hc, hrest⟩
        · exact .inl hold
        · exact .inr ⟨c, ha.mem_checkpoint.mpr (.inl hc), hrest⟩
      · obtain ⟨operation, hoperation, hvalidate⟩ := hdecisions decision hdecision
        exact .inr ⟨_, ha.mem_checkpoint.mpr (.inr rfl), rfl, operation,
          validate_isOf hvalidate _ _ _, hoperation⟩
  · exact h

end Rows

/-! ### The run -/

section Run

variable {R : Runtime} {parseDate : String → Option Timestamp} {cfg : ProjectorConfig}
  {source : String} {db₀ db : Db} {log : List (LogEntry U)} {α : Type}
  {Q : Except Failure α → Db × List (LogEntry U) → Prop}

/-- What holds between two requests of a run from `db₀` on. -/
structure RunReads (parseDate : String → Option Timestamp) (db₀ : Db)
    (s : Db × List (LogEntry U)) : Prop where
  stored : StoredAsRead parseDate db₀ s
  never : NeverReturns (readsOf s.2)

/-- No fork has switched under the opening reads. -/
def Calm (cursor : ℕ) (s : Db × List (LogEntry U)) : Prop :=
  ¬ ForkSwitched cursor (openingReads s.2)

/-- The run has begun to apply blocks. -/
def Started (log : List (LogEntry U)) : Prop := ∃ block, .applying block ∈ log

theorem unapplied_of_not_started (h : ¬ Started log) : Unapplied log :=
  fun block hmem => h ⟨block, hmem⟩

theorem Started.append (h : Started log) (more : List (LogEntry U)) : Started (log ++ more) := by
  obtain ⟨block, hmem⟩ := h
  exact ⟨block, List.mem_append_left _ hmem⟩

/-- A read after the first `applyBlock`, or one below the cursor, is no switch. -/
theorem Calm.append_read {cursor : ℕ} {read : SourceRead U} (h : Calm cursor (db, log))
    (hread : Started log ∨ ¬ read.AboveCursor cursor) : Calm cursor (db, log ++ [.read read]) := by
  unfold Calm at h ⊢
  by_cases hstarted : Started log
  · obtain ⟨block, hmem⟩ := hstarted
    show ¬ ForkSwitched cursor (openingReads (log ++ [.read read]))
    rw [openingReads_append hmem]
    exact h
  · have hunapplied := unapplied_of_not_started hstarted
    have hafter : Unapplied (log ++ [.read read]) := hunapplied.append (unapplied_map [read])
    have hlow := hread.resolve_left hstarted
    have hopening : openingReads (log ++ [.read read]) = readsOf log ++ [read] := by
      rw [openingReads_of_unapplied hafter, readsOf_append]
      rfl
    have hbefore : openingReads log = readsOf log := openingReads_of_unapplied hunapplied
    intro hswitched
    have hswitched : ForkSwitched cursor (readsOf log ++ [read]) := hopening ▸ hswitched
    have h : ¬ ForkSwitched cursor (readsOf log) := hbefore ▸ h
    exact h (forkSwitched_append_low hlow hswitched)

theorem Calm.append_applying {cursor : ℕ} {db' : Db} (h : Calm cursor (db, log))
    (block : HafBlock) : Calm cursor (db', log ++ [.applying block]) := by
  show ¬ ForkSwitched cursor (openingReads (log ++ [.applying block]))
  rw [openingReads_append_applying]
  exact h

theorem RunReads.append_read (h : RunReads parseDate db₀ (db, log)) {read : SourceRead U}
    (hnever : NeverReturns (readsOf (log ++ [.read read]))) :
    RunReads parseDate db₀ (db, log ++ [.read read]) :=
  ⟨h.stored.append _, hnever⟩

/-- Safety of a program beside HAfAH, in a run from `db₀` on. -/
abbrev ReadSafe (R : Runtime) (parseDate : String → Option Timestamp) (cfg : ProjectorConfig)
    (source : String) (db₀ : Db) (p : Proj α) (Q : Except Failure α → Db × List (LogEntry U) → Prop)
    (s : Db × List (LogEntry U)) : Prop :=
  p.Safe Eq (hafahAnswer R parseDate source)
    (fun q s s' => q.AppliesRead cfg parseDate s.2 ∧ StoredAsRead parseDate db₀ s') Q s

theorem readSafe_getBlock {n : ℕ} {f : HafBlock → Proj α}
    (h : RunReads parseDate db₀ (db, log))
    (hok : ∀ (read : SourceRead U) block, block.number = n → read.reading = .header block →
      RunReads parseDate db₀ (db, log ++ [.read read]) →
        ReadSafe R parseDate cfg source db₀ (f block) Q (db, log ++ [.read read]))
    (herr : ∀ e, Q (.error e) (db, log)) :
    ReadSafe R parseDate cfg source db₀ ((Source.getBlock n).bind f) Q (db, log) := by
  refine Prog.safe_request_bind ?_
  rintro _ rfl r ⟨db', log'⟩ ⟨hdb, hnever, hread⟩
  obtain rfl : db = db' := hdb.symm
  rcases hread with ⟨⟨e, rfl⟩, hlog⟩ | ⟨read, block, rfl, hnumber, hreading, hlog⟩
  · obtain rfl : log' = log := hlog
    exact ⟨⟨trivial, h.stored⟩, herr e⟩
  · obtain rfl : log' = log ++ [.read read] := hlog
    exact ⟨⟨trivial, h.stored.append _⟩, hok read block hnumber hreading (h.append_read hnever)⟩

theorem readSafe_getCurrentCheckpoint {n : ℕ} {f : Option BlockCheckpoint → Proj α}
    (h : RunReads parseDate db₀ (db, log))
    (hok : ReadSafe R parseDate cfg source db₀ (f (getCurrentCheckpoint source n db)) Q (db, log))
    (herr : ∀ e, Q (.error e) (db, log)) :
    ReadSafe R parseDate cfg source db₀ ((Store.getCurrentCheckpoint n).bind f) Q (db, log) := by
  refine Prog.safe_request_bind ?_
  rintro _ rfl r ⟨db', log'⟩ ⟨⟨hdb, hr⟩, hlog⟩
  obtain rfl : db' = db := hdb
  obtain rfl : log' = log := hlog
  refine ⟨⟨trivial, h.stored⟩, ?_⟩
  rcases hr with rfl | rfl
  · exact hok
  · exact herr _

/-- `revertAfter` at the end of a program. -/
theorem readSafe_revertAfter {cursor n : ℕ} (h : RunReads parseDate db₀ (db, log))
    (hcalm : Calm cursor (db, log)) :
    ReadSafe R parseDate cfg source db₀ (do
      Store.revertAfter n
      pure n) (fun _ s => RunReads parseDate db₀ s ∧ Calm cursor s) (db, log) := by
  refine Prog.safe_request_bind ?_
  rintro _ rfl r ⟨db', log'⟩ ⟨hans, hlog⟩
  obtain rfl : log' = log := hlog
  have hstored := h.stored.revertAfter hans
  refine ⟨⟨trivial, hstored⟩, ?_⟩
  cases r with
  | error e => exact ⟨⟨hstored, h.never⟩, hcalm⟩
  | ok u => exact ⟨⟨hstored, h.never⟩, hcalm⟩

/-- The fork search reads below the cursor, or after the first `applyBlock`. -/
theorem reconcileFrom_reads {cursor : ProjectionCursor} {height : ℕ} :
    ∀ (remaining blockNumber : ℕ) (log : List (LogEntry U)), RunReads parseDate db₀ (db, log) →
      Calm height (db, log) → (Started log ∨ blockNumber ≤ height) →
      ReadSafe R parseDate cfg source db₀ (reconcileFrom cursor remaining blockNumber)
        (fun _ s => RunReads parseDate db₀ s ∧ Calm height s) (db, log)
  | 0, _, _, h, hcalm, _ => ⟨h, hcalm⟩
  | remaining + 1, blockNumber, log, h, hcalm, hlow => by
    unfold reconcileFrom
    by_cases hzero : blockNumber = 0
    · rw [if_pos hzero]
      by_cases hirreversible : 0 < cursor.lastIrreversibleBlock
      · rw [if_pos hirreversible]
        exact ⟨h, hcalm⟩
      · rw [if_neg hirreversible]
        exact readSafe_revertAfter h hcalm
    · rw [if_neg hzero]
      refine readSafe_getCurrentCheckpoint h ?_ fun e => ⟨h, hcalm⟩
      refine readSafe_getBlock h (fun read current hnumber hreading h₁ => ?_) fun e => ⟨h, hcalm⟩
      have hbelow : Started log ∨ ¬ read.AboveCursor height := by
        rcases hlow with hstarted | hle
        · exact .inl hstarted
        · right
          rw [aboveCursor_of_header hreading]
          omega
      have hcalm₁ := hcalm.append_read hbelow
      split
      · split
        · exact ⟨h₁, hcalm₁⟩
        · exact readSafe_revertAfter h₁ hcalm₁
      · split
        · exact ⟨h₁, hcalm₁⟩
        · refine reconcileFrom_reads remaining (blockNumber - 1) _ h₁ hcalm₁ ?_
          rcases hlow with hstarted | hle
          · exact .inl (hstarted.append _)
          · exact .inr (by omega)

theorem readBlocks_reads : ∀ (count blockNumber : ℕ) (previous : Option HafBlock)
    (log : List (LogEntry U)), RunReads parseDate db₀ (db, log) →
      ReadSafe R parseDate cfg source db₀ (readBlocks previous count blockNumber)
        (fun r s => s.1 = db ∧ RunReads parseDate db₀ s ∧ ∃ reads : List (SourceRead U),
          s.2 = log ++ reads.map .read ∧ ∀ blocks, r = .ok blocks →
            HeadersRead reads blocks ∧
              blocks.map (·.number) = List.range' blockNumber count) (db, log)
  | 0, _, _, log, h => by
    refine ⟨rfl, h, [], by simp, ?_⟩
    rintro blocks ⟨⟩
    exact ⟨rfl, rfl⟩
  | count + 1, blockNumber, previous, log, h => by
    refine readSafe_getBlock h (fun read block hnumber hreading h₁ => ?_) fun e => ?_
    · split
      · exact ⟨rfl, h₁, [read], rfl, nofun⟩
      · refine Prog.safe_bind (Prog.safe_mono
          (readBlocks_reads count (blockNumber + 1) (some block) _ h₁) ?_)
        rintro (e | blocks) s ⟨hdb, hs, reads, hlog, hblocks⟩
        · refine ⟨hdb, hs, read :: reads, ?_, nofun⟩
          rw [hlog, List.append_assoc, List.map_cons, List.singleton_append]
        · obtain ⟨hheaders, hnumbers⟩ := hblocks blocks rfl
          refine ⟨hdb, hs, read :: reads, ?_, ?_⟩
          · rw [hlog, List.append_assoc, List.map_cons, List.singleton_append]
          · rintro _ ⟨⟩
            refine ⟨?_, ?_⟩
            · show (read :: reads).map (·.reading) = (block :: blocks).map Reading.header
              rw [List.map_cons, List.map_cons, hreading, hheaders]
            · rw [List.map_cons, hnumber, hnumbers, List.range'_succ]
    · exact ⟨rfl, h, [], by simp, nofun⟩

theorem mem_validateBlockOperationsFrom {block : HafBlock} : ∀ {operations : List HafOperation}
    {sourceIds : List String} {decisions : List OperationDecision},
    validateBlockOperationsFrom cfg block sourceIds operations = .ok decisions →
      ∀ decision ∈ decisions, ∃ operation ∈ operations,
        validate cfg.runtime cfg.policy operation block = some decision
  | [], sourceIds, decisions, h, decision, hmem => by
    obtain rfl : [] = decisions := by simpa [validateBlockOperationsFrom] using h
    exact absurd hmem List.not_mem_nil
  | operation :: operations, sourceIds, decisions, h, decision, hmem => by
    simp only [validateBlockOperationsFrom, bind_eq_ok] at h
    obtain ⟨-, -, -, -, rest, hrest, h⟩ := h
    have htail : decision ∈ rest → ∃ o ∈ operation :: operations,
        validate cfg.runtime cfg.policy o block = some decision := fun hin => by
      obtain ⟨o, ho, hvalidate⟩ := mem_validateBlockOperationsFrom hrest decision hin
      exact ⟨o, List.mem_cons_of_mem operation ho, hvalidate⟩
    split at h
    · obtain rfl := pure_eq_ok.mp h
      exact htail hmem
    · rename_i verdict hverdict
      obtain rfl := pure_eq_ok.mp h
      rcases List.mem_cons.mp hmem with rfl | hin
      · exact ⟨operation, List.mem_cons_self, hverdict⟩
      · exact htail hin

/-- A block whose header and operations were read, the operations off chains with it. -/
def BlockRead (parseDate : String → Option Timestamp) (log : List (LogEntry U))
    (operations : ℕ → List HafOperation) (block : HafBlock) : Prop :=
  HeaderRead log block ∧ ∀ operation ∈ operations block.number,
    OperationRead parseDate log block.number block.id operation

theorem BlockRead.append {operations : ℕ → List HafOperation} {block : HafBlock}
    (h : BlockRead parseDate log operations block) (more : List (LogEntry U)) :
    BlockRead parseDate (log ++ more) operations block :=
  ⟨h.1.append more, fun operation hmem => (h.2 operation hmem).append more⟩

/-- Applying the blocks of a window: what goes to the store was read, and when nothing was reverted
the run has started. -/
theorem applyBlocks_reads {operations : ℕ → List HafOperation} {height : ℕ} :
    ∀ (blocks : List HafBlock) (cursor : ProjectionCursor) (appliedBlocks : ℕ) (db : Db)
      (log : List (LogEntry U)), RunReads parseDate db₀ (db, log) → Calm height (db, log) →
      (Started log ∨ ∀ block ∈ blocks.head?, block.number = height + 1) →
      (∀ block ∈ blocks, BlockRead parseDate log operations block) →
      ReadSafe R parseDate cfg source db₀ (applyBlocks cfg operations cursor appliedBlocks blocks)
        (fun r s => RunReads parseDate db₀ s ∧ Calm height s ∧
          ∀ result, r = .ok result → result.2.2 = none → Started log ∨ blocks ≠ [] → Started s.2)
        (db, log)
  | [], _, _, db, log, h, hcalm, _, _ => by
    refine ⟨h, hcalm, fun result _ _ hstarted => ?_⟩
    rcases hstarted with hstarted | hne
    · exact hstarted
    · exact absurd rfl hne
  | block :: blocks, cursor, appliedBlocks, db, log, h, hcalm, hfirst, hblocks => by
    have hblock := hblocks block List.mem_cons_self
    unfold applyBlocks
    split
    · have hlow : Started log ∨ block.number - 1 ≤ height := by
        rcases hfirst with hstarted | hnumber
        · exact .inl hstarted
        · have hnumber := hnumber block rfl
          exact .inr (by omega)
      refine Prog.safe_bind (Prog.safe_mono (reconcileFrom_reads _ _ log h hcalm hlow) ?_)
      rintro (e | ancestor) s ⟨hs, hscalm⟩
      · exact ⟨hs, hscalm, fun _ heq => by cases heq⟩
      · refine ⟨hs, hscalm, ?_⟩
        rintro _ ⟨⟩ hnone
        cases hnone
    · refine Prog.safe_bind (Prog.safe_lift.mpr ?_)
      cases hdecisions : validateBlockOperations cfg block (operations block.number) with
      | error e => exact ⟨h, hcalm, fun _ heq => by cases heq⟩
      | ok decisions =>
        have happlies : (Request.applyBlock block decisions).AppliesRead cfg parseDate log := by
          refine ⟨hblock.1, fun decision hmem => ?_⟩
          obtain ⟨operation, hin, hvalidate⟩ :=
            mem_validateBlockOperationsFrom hdecisions decision hmem
          exact ⟨operation, hblock.2 operation hin, hvalidate⟩
        show ReadSafe R parseDate cfg source db₀ ((Store.applyBlock block decisions).bind _) _ _
        refine Prog.safe_request_bind ?_
        rintro _ rfl r ⟨db', log'⟩ ⟨hans, hlog⟩
        obtain rfl : log' = log ++ [.applying block] := hlog
        have hstored := (h.stored.applyBlock happlies hans).append [.applying block]
        have hnever : NeverReturns (readsOf (log ++ [.applying block])) := by
          rw [readsOf_append, show readsOf [LogEntry.applying (U := U) block] = [] from rfl,
            List.append_nil]
          exact h.never
        have hcalm' : Calm height (db', log ++ [.applying block]) := hcalm.append_applying block
        have hstarted : Started (log ++ [.applying block]) := ⟨block, by simp⟩
        refine ⟨⟨happlies, hstored⟩, ?_⟩
        cases r with
        | error e => exact ⟨⟨hstored, hnever⟩, hcalm', fun _ heq => by cases heq⟩
        | ok u =>
          refine Prog.safe_mono (applyBlocks_reads blocks _ _ db' _ ⟨hstored, hnever⟩ hcalm'
            (.inl hstarted) fun b hb => ?_) ?_
          · exact (hblocks b (List.mem_cons_of_mem block hb)).append _
          · rintro r s ⟨hs, hscalm, hend⟩
            exact ⟨hs, hscalm, fun result hr hnone _ => hend result hr hnone (.inl hstarted)⟩

theorem verifyCurrentTip_reads {cursor : ProjectionCursor} (h : RunReads parseDate db₀ (db₀, log))
    (hunapplied : Unapplied log) (hlow : Low cursor.lastProcessedBlock (readsOf log)) :
    ReadSafe R parseDate cfg source db₀ (verifyCurrentTip cfg cursor)
      (fun r s => RunReads parseDate db₀ s ∧ Calm cursor.lastProcessedBlock s ∧
        (r = .ok none → s.1 = db₀ ∧ Unapplied s.2 ∧
          Low cursor.lastProcessedBlock (readsOf s.2))) (db₀, log) := by
  have hcalm : Calm cursor.lastProcessedBlock (db₀, log) := by
    show ¬ ForkSwitched _ (openingReads log)
    rw [openingReads_of_unapplied hunapplied]
    exact not_forkSwitched_of_low hlow
  unfold verifyCurrentTip
  split
  · exact ⟨h, hcalm, fun _ => ⟨rfl, hunapplied, hlow⟩⟩
  · split
    · exact ⟨h, hcalm, fun _ => ⟨rfl, hunapplied, hlow⟩⟩
    · refine readSafe_getBlock h (fun read current hnumber hreading h₁ => ?_)
        fun e => ⟨h, hcalm, nofun⟩
      have hbelow : ¬ read.AboveCursor cursor.lastProcessedBlock := by
        rw [aboveCursor_of_header hreading]
        omega
      have hcalm₁ := hcalm.append_read (.inr hbelow)
      split
      · refine ⟨h₁, hcalm₁, fun _ => ⟨rfl, hunapplied.append (unapplied_map [read]), ?_⟩⟩
        intro other hother
        rw [readsOf_append] at hother
        rcases List.mem_append.mp hother with hother | hother
        · exact hlow other hother
        · rw [List.mem_singleton.mp hother]
          exact hbelow
      · refine Prog.safe_bind (Prog.safe_mono
          (reconcileFrom_reads _ _ _ h₁ hcalm₁ (.inr le_rfl)) ?_)
        rintro (e | ancestor) s ⟨hs, hscalm⟩
        · exact ⟨hs, hscalm, nofun⟩
        · exact ⟨hs, hscalm, nofun⟩

theorem PagesRead.mem {answers : List PageAnswer} {reads : List (SourceRead U)}
    (h : PagesRead answers reads) {page : OperationsPage} (hpage : .ok page ∈ answers) :
    ∃ read ∈ reads, read.reading = .page page := by
  have hmem : Reading.page page ∈ reads.map (·.reading) := by
    rw [h]
    exact List.mem_filterMap.mpr ⟨.ok page, hpage, rfl⟩
  obtain ⟨read, hread, hreading⟩ := List.mem_map.mp hmem
  exact ⟨read, hread, hreading⟩

theorem PagesRead.isPage {answers : List PageAnswer} {reads : List (SourceRead U)}
    (h : PagesRead answers reads) {read : SourceRead U} (hread : read ∈ reads) :
    ∃ page, read.reading = .page page := by
  have hmem : read.reading ∈ reads.map (·.reading) := List.mem_map_of_mem hread
  rw [h] at hmem
  obtain ⟨answer, -, hanswer⟩ := List.mem_filterMap.mp hmem
  obtain ⟨page, -, hpage⟩ := Option.map_eq_some_iff.mp hanswer
  exact ⟨page, hpage.symm⟩

theorem blockRead_of_window (hU : hafLinkage.Determined U)
    {reads₀ before pages after : List (SourceRead U)}
    {beforeOperations afterOperations : List HafBlock} {operations : List HafOperation}
    {answers : List PageAnswer} {fromBlock toBlock count : ℕ}
    (hlog : readsOf log = reads₀ ++ (before ++ (pages ++ after)))
    (hbefore : HeadersRead before beforeOperations) (hafter : HeadersRead after afterOperations)
    (hnumbers : beforeOperations.map (·.number) = List.range' fromBlock count)
    (hsame : List.Forall₂ sameBlock beforeOperations afterOperations)
    (hnever : NeverReturns (readsOf log)) (hpages : PagesRead answers pages)
    (hoperations : getOperations parseDate fromBlock toBlock answers = some (.ok operations, []))
    {block : HafBlock} (hblock : block ∈ afterOperations) :
    BlockRead parseDate log
      (fun n => operations.filter fun operation => operation.blockNumber = n) block := by
  have hlen := hbefore.length
  rw [hlog] at hnever
  obtain ⟨x, hx⟩ := List.mem_iff_getElem?.mp hblock
  obtain ⟨header, hheader, hreading⟩ := hafter.get hx
  have hmem : header ∈ readsOf log := by
    rw [hlog]
    simp [List.mem_of_getElem? hheader]
  refine ⟨⟨header, hmem, hreading⟩, fun operation hoperation => ?_⟩
  have hin : operation ∈ operations := (List.mem_filter.mp hoperation).1
  obtain ⟨page, hpage, item, hitem, hnormal⟩ := mem_getOperations hoperations hin
  obtain ⟨read, hread, hreadpage⟩ := hpages.mem hpage
  -- the page was read between the two readings of the header
  have hlens := hsame.length_eq
  have hxlt := (List.getElem?_eq_some_iff.mp hx).1
  have hopen := List.getElem?_eq_getElem (l := beforeOperations) (i := x) (by omega)
  obtain ⟨b', hb', hsameb⟩ := sameBlock_get hsame hopen
  obtain rfl : b' = block := Option.some.inj (hb'.symm.trans hx)
  obtain ⟨j, hj⟩ := List.mem_iff_getElem?.mp hread
  have hjlt := (List.getElem?_eq_some_iff.mp hj).1
  have hposition : (reads₀ ++ (before ++ (pages ++ after)))[reads₀.length + before.length + j]? =
      some read := by
    rw [List.getElem?_append_right (by omega), List.getElem?_append_right (by omega),
      List.getElem?_append_left (by omega)]
    rw [show reads₀.length + before.length + j - reads₀.length - before.length = j by omega]
    exact hj
  obtain ⟨b, hb, hid⟩ := window_has hU hbefore hafter hnumbers hsame hnever hopen (by omega) hposition
  have hid : b.id = b'.id := hid.trans hsameb.2.1
  have hnumber : b.number = b'.number := (hU b b' (read.hafah.known b hb)
    (header.hafah.known b' (header.has_header hreading)) hid).1
  refine ⟨read, ?_, page, hreadpage, item, hitem, ⟨_, _, hnormal⟩, b, hb, hnumber, hid⟩
  rw [hlog]
  simp [hread]

/-- How a run or a part of it ends: no fork switched under the opening reads, or it threw before any
`applyBlock` and left the store as it was. -/
def CalmOrAborted {β : Type} (db₀ : Db) (cursor : ℕ) (r : Except Failure β)
    (s : Db × List (LogEntry U)) : Prop :=
  Calm cursor s ∨ (∃ e, r = .error e) ∧ s.1 = db₀ ∧ Unapplied s.2

theorem applyThrough_reads (hU : hafLinkage.Determined U) {cursor : ProjectionCursor} {target : ℕ}
    (h : RunReads parseDate db₀ (db₀, log)) (hunapplied : Unapplied log)
    (hlow : Low cursor.lastProcessedBlock (readsOf log)) :
    ReadSafe R parseDate cfg source db₀ (applyThrough cfg cursor target)
      (fun r s => RunReads parseDate db₀ s ∧
        CalmOrAborted db₀ cursor.lastProcessedBlock r s ∧
        ∀ result, r = .ok result → result.2.2 = none → Started s.2 ∨
          Unapplied s.2 ∧ Low cursor.lastProcessedBlock (readsOf s.2) ∧ result.1 = cursor)
      (db₀, log) := by
  unfold applyThrough
  by_cases hlt : cursor.lastProcessedBlock < target
  · rw [if_pos hlt]
    refine Prog.safe_bind (Prog.safe_mono (readBlocks_reads _ _ none log h) ?_)
    rintro (e | beforeOperations) ⟨db₁, log₁⟩ ⟨hdb, h₁, before, hlog₁, hheaders⟩
    · obtain rfl : log₁ = log ++ before.map .read := hlog₁
      have haborted : Unapplied (log ++ before.map .read) := hunapplied.append (unapplied_map before)
      exact ⟨h₁, .inr ⟨⟨e, rfl⟩, hdb, haborted⟩, nofun⟩
    obtain rfl : db₁ = db₀ := hdb
    obtain rfl : log₁ = log ++ before.map .read := hlog₁
    obtain ⟨hbefore, hnumbers⟩ := hheaders beforeOperations rfl
    have hunapplied₁ : Unapplied (log ++ before.map .read) := hunapplied.append (unapplied_map before)
    show ReadSafe R parseDate cfg source db₁ ((Source.getOperations _ target).bind _) _ _
    refine Prog.safe_request_bind ?_
    rintro _ rfl r ⟨db₂, log₂⟩ ⟨hdb, hnever, pages, answers, hoperations, hpages, hlog₂⟩
    obtain rfl : db₂ = db₁ := hdb
    obtain rfl : log₂ = log ++ before.map .read ++ pages.map .read := hlog₂
    have h₂ : RunReads parseDate db₂ (db₂, log ++ before.map .read ++ pages.map .read) :=
      ⟨h₁.stored.append _, hnever⟩
    have hunapplied₂ : Unapplied (log ++ before.map .read ++ pages.map .read) :=
      hunapplied₁.append (unapplied_map pages)
    refine ⟨⟨trivial, h₂.stored⟩, ?_⟩
    cases r with
    | error e => exact ⟨h₂, .inr ⟨⟨e, rfl⟩, rfl, hunapplied₂⟩, nofun⟩
    | ok operations =>
    refine Prog.safe_bind (Prog.safe_mono (readBlocks_reads _ _ none _ h₂) ?_)
    rintro (e | afterOperations) ⟨db₃, log₃⟩ ⟨hdb, h₃, after, hlog₃, hheaders⟩
    · obtain rfl : log₃ = log ++ before.map .read ++ pages.map .read ++ after.map .read := hlog₃
      exact ⟨h₃, .inr ⟨⟨e, rfl⟩, hdb, hunapplied₂.append (unapplied_map after)⟩, nofun⟩
    obtain rfl : db₃ = db₂ := hdb
    obtain rfl : log₃ = log ++ before.map .read ++ pages.map .read ++ after.map .read := hlog₃
    obtain ⟨hafter, hnumbers'⟩ := hheaders afterOperations rfl
    have hunapplied₃ : Unapplied (log ++ before.map .read ++ pages.map .read ++ after.map .read) :=
      hunapplied₂.append (unapplied_map after)
    refine Prog.safe_bind (Prog.safe_lift.mpr ?_)
    cases hstable : assertStableSnapshot beforeOperations afterOperations with
    | error e => exact ⟨h₃, .inr ⟨⟨e, rfl⟩, rfl, hunapplied₃⟩, nofun⟩
    | ok u =>
    have hsame : List.Forall₂ sameBlock beforeOperations afterOperations := require_eq_ok.mp hstable
    refine Prog.safe_bind (Prog.safe_lift.mpr ?_)
    cases hgroup : groupOperationsByBlock operations with
    | error e => exact ⟨h₃, .inr ⟨⟨e, rfl⟩, rfl, hunapplied₃⟩, nofun⟩
    | ok operationsByBlock =>
    have hreads : readsOf (log ++ before.map .read ++ pages.map .read ++ after.map .read) =
        readsOf log ++ (before ++ (pages ++ after)) := by
      simp only [readsOf_append, readsOf_map, List.append_assoc]
    have hnever₃ := h₃.never
    have hcalm : Calm cursor.lastProcessedBlock
        (db₃, log ++ before.map .read ++ pages.map .read ++ after.map .read) := by
      show ¬ ForkSwitched _ (openingReads _)
      rw [openingReads_of_unapplied hunapplied₃, hreads]
      rw [hreads] at hnever₃
      exact not_forkSwitched_window hU hlow hbefore (fun read hread => hpages.isPage hread) hafter
        hnumbers hsame hnever₃
    have hgrouped : operationsByBlock =
        fun n => operations.filter fun operation => operation.blockNumber = n := by
      simp only [groupOperationsByBlock, bind_eq_ok, pure_eq_ok] at hgroup
      obtain ⟨-, -, heq⟩ := hgroup
      exact heq.symm
    have hblocks : ∀ block ∈ afterOperations, BlockRead parseDate
        (log ++ before.map .read ++ pages.map .read ++ after.map .read) operationsByBlock block := by
      intro block hblock
      rw [hgrouped]
      exact blockRead_of_window hU hreads hbefore hafter hnumbers hsame h₃.never hpages hoperations
        hblock
    have hcount : afterOperations.length = target - cursor.lastProcessedBlock := by
      have hlength := congrArg List.length hnumbers'
      rw [List.length_map, List.length_range'] at hlength
      omega
    have hne : afterOperations ≠ [] := by
      rintro rfl
      rw [List.length_nil] at hcount
      omega
    have hfirst : ∀ block ∈ afterOperations.head?,
        block.number = cursor.lastProcessedBlock + 1 := by
      intro block hhead
      have hget : afterOperations[0]? = some block := by
        rw [← List.head?_eq_getElem?]
        exact hhead
      exact number_of_getElem? hnumbers' hget
    refine Prog.safe_mono (applyBlocks_reads afterOperations cursor 0 db₃ _ h₃ hcalm
      (.inr hfirst) hblocks) ?_
    rintro r s ⟨hs, hscalm, hend⟩
    exact ⟨hs, .inl hscalm, fun result hr hnone => .inl (hend result hr hnone (.inr hne))⟩
  · rw [if_neg hlt]
    refine ⟨h, .inl ?_, ?_⟩
    · show ¬ ForkSwitched _ (openingReads log)
      rw [openingReads_of_unapplied hunapplied]
      exact not_forkSwitched_of_low hlow
    · rintro result ⟨⟩ -
      exact .inr ⟨hunapplied, hlow, rfl⟩

theorem assertFinalityAgreement_reads {irreversible : HafIrreversibleBlock}
    {finalizable sourceHead height : ℕ} (h : RunReads parseDate db₀ (db, log))
    (hcalm : Calm height (db, log))
    (hreads : Started log ∨ Unapplied log ∧ Low height (readsOf log) ∧ finalizable ≤ height) :
    ReadSafe R parseDate cfg source db₀ (assertFinalityAgreement irreversible finalizable sourceHead)
      (fun _ s => RunReads parseDate db₀ s ∧ Calm height s) (db, log) := by
  unfold assertFinalityAgreement
  split
  · exact ⟨h, hcalm⟩
  split
  · exact ⟨h, hcalm⟩
  refine readSafe_getBlock h (fun read hafahIrreversible hnumber hreading h₁ => ?_)
    fun e => ⟨h, hcalm⟩
  have hcalm₁ : Calm height (db, log ++ [.read read]) := by
    rcases hreads with hstarted | ⟨hunapplied, hlow, -⟩
    · exact hcalm.append_read (.inl hstarted)
    · have hafter : Unapplied (log ++ [.read read]) := hunapplied.append (unapplied_map [read])
      show ¬ ForkSwitched height (openingReads (log ++ [.read read]))
      rw [openingReads_of_unapplied hafter, readsOf_append]
      exact not_forkSwitched_append_of_low hlow
  split
  · exact ⟨h₁, hcalm₁⟩
  refine readSafe_getCurrentCheckpoint h₁ ?_ fun e => ⟨h₁, hcalm₁⟩
  unfold finalizableBlock
  split
  · dsimp only [Prog.bind, Prog.pure_def, Prog.bind_def]
    split
    · exact ⟨h₁, hcalm₁⟩
    · exact ⟨h₁, hcalm₁⟩
  · refine readSafe_getBlock h₁ (fun read₂ current hnumber₂ hreading₂ h₂ => ?_)
      fun e => ⟨h₁, hcalm₁⟩
    have hbelow : Started (log ++ [.read read]) ∨ ¬ read₂.AboveCursor height := by
      rcases hreads with hstarted | ⟨-, -, hle⟩
      · exact .inl (hstarted.append _)
      · right
        rw [aboveCursor_of_header hreading₂]
        omega
    have hcalm₂ := hcalm₁.append_read hbelow
    split
    · exact ⟨h₂, hcalm₂⟩
    · exact ⟨h₂, hcalm₂⟩

theorem finalizeCovered_reads {cursor : ProjectionCursor} {sourceHead appliedBlocks height : ℕ}
    {irreversible : HafIrreversibleBlock} (h : RunReads parseDate db₀ (db, log))
    (hcalm : Calm height (db, log))
    (hreads : Started log ∨
      Unapplied log ∧ Low height (readsOf log) ∧ cursor.lastProcessedBlock ≤ height) :
    ReadSafe R parseDate cfg source db₀
      (finalizeCovered cursor sourceHead irreversible appliedBlocks)
      (fun _ s => RunReads parseDate db₀ s ∧ Calm height s) (db, log) := by
  have hfinalizable : Started log ∨ Unapplied log ∧ Low height (readsOf log) ∧
      min irreversible.number cursor.lastProcessedBlock ≤ height := by
    rcases hreads with hstarted | ⟨hunapplied, hlow, hle⟩
    · exact .inl hstarted
    · exact .inr ⟨hunapplied, hlow, (min_le_right _ _).trans hle⟩
  unfold finalizeCovered
  dsimp only
  split
  · refine Prog.safe_bind (Prog.safe_mono
      (assertFinalityAgreement_reads h hcalm hfinalizable) ?_)
    rintro (e | u) ⟨db₁, log₁⟩ ⟨h₁, hcalm₁⟩
    · exact ⟨h₁, hcalm₁⟩
    show ReadSafe R parseDate cfg source db₀ ((Store.finalizeThrough _).bind _) _ _
    refine Prog.safe_request_bind ?_
    rintro _ rfl r ⟨db₂, log₂⟩ ⟨hans, hlog⟩
    obtain rfl : log₂ = log₁ := hlog
    have hstored := h₁.stored.finalizeThrough hans
    refine ⟨⟨trivial, hstored⟩, ?_⟩
    cases r with
    | error e => exact ⟨⟨hstored, h₁.never⟩, hcalm₁⟩
    | ok u => exact ⟨⟨hstored, h₁.never⟩, hcalm₁⟩
  · exact ⟨h, hcalm⟩

/-- **A run reads one chain**, or throws before any `applyBlock`. -/
theorem runOnce_reads (hU : hafLinkage.Determined U) :
    ReadSafe R parseDate cfg source db₀ (runOnce cfg)
      (fun r s => RunReads parseDate db₀ s ∧
        CalmOrAborted db₀ (getCursor source db₀).lastProcessedBlock r s)
      (db₀, ([] : List (LogEntry U))) := by
  have hstart : RunReads parseDate db₀ (db₀, ([] : List (LogEntry U))) := by
    refine ⟨.refl, ?_⟩
    intro i j k first between last _ _ hfirst
    cases hfirst
  have hunapplied : Unapplied ([] : List (LogEntry U)) := fun block => List.not_mem_nil
  have hlow : ∀ height, Low height (readsOf ([] : List (LogEntry U))) :=
    fun height read hread => absurd hread List.not_mem_nil
  have hcalm : ∀ height, Calm height (db₀, ([] : List (LogEntry U))) :=
    fun height => not_forkSwitched_of_low (hlow height)
  refine Prog.safe_request_bind ?_
  rintro _ rfl r ⟨db₁, log₁⟩ ⟨⟨hdb, hr⟩, hlog⟩
  obtain rfl : db₁ = db₀ := hdb
  obtain rfl : log₁ = [] := hlog
  refine ⟨⟨trivial, hstart.stored⟩, ?_⟩
  cases r with
  | error e => exact ⟨hstart, .inl (hcalm _)⟩
  | ok cursor =>
    obtain rfl : cursor = getCursor source db₁ := by
      rcases hr with hr | hr
      · exact Except.ok.inj hr
      · cases hr
    show ReadSafe R parseDate cfg source db₁ (Source.getHeadAndIrreversible.bind _) _ _
    refine Prog.safe_request_bind ?_
    rintro _ rfl r ⟨db₂, log₂⟩ hsame
    obtain ⟨rfl, rfl⟩ : db₂ = db₁ ∧ log₂ = [] := Prod.mk.inj hsame
    refine ⟨⟨trivial, hstart.stored⟩, ?_⟩
    cases r with
    | error e => exact ⟨hstart, .inl (hcalm _)⟩
    | ok answer =>
    obtain ⟨sourceHead, irreversible⟩ := answer
    dsimp only [Prog.andThen]
    split
    · exact ⟨hstart, .inl (hcalm _)⟩
    refine Prog.safe_bind (Prog.safe_mono
      (verifyCurrentTip_reads hstart hunapplied (hlow _)) ?_)
    rintro (e | tip) ⟨db₃, log₃⟩ ⟨h₃, hcalm₃, htip⟩
    · exact ⟨h₃, .inl hcalm₃⟩
    cases tip with
    | some ancestor => exact ⟨h₃, .inl hcalm₃⟩
    | none =>
      obtain ⟨hdb₃, hunapplied₃, hlow₃⟩ := htip rfl
      obtain rfl : db₃ = db₂ := hdb₃
      refine Prog.safe_bind (Prog.safe_mono
        (applyThrough_reads hU h₃ hunapplied₃ hlow₃) ?_)
      rintro (e | ⟨cursor', appliedBlocks, reverted⟩) ⟨db₄, log₄⟩ ⟨h₄, hends, hnext⟩
      · rcases hends with hcalm₄ | ⟨-, hdb₄, hunapplied₄⟩
        · exact ⟨h₄, .inl hcalm₄⟩
        · exact ⟨h₄, .inr ⟨⟨e, rfl⟩, hdb₄, hunapplied₄⟩⟩
      have hcalm₄ : Calm (getCursor source db₃).lastProcessedBlock (db₄, log₄) := by
        rcases hends with hcalm₄ | ⟨⟨e, he⟩, -, -⟩
        · exact hcalm₄
        · cases he
      cases reverted with
      | some ancestor => exact ⟨h₄, .inl hcalm₄⟩
      | none =>
        have hreads : Started log₄ ∨ Unapplied log₄ ∧
            Low (getCursor source db₃).lastProcessedBlock (readsOf log₄) ∧
              cursor'.lastProcessedBlock ≤ (getCursor source db₃).lastProcessedBlock := by
          rcases hnext _ rfl rfl with hstarted | ⟨hunapplied₄, hlow₄, hcursor⟩
          · exact .inl hstarted
          · have hcursor : cursor' = getCursor source db₃ := hcursor
            exact .inr ⟨hunapplied₄, hlow₄, by rw [hcursor]⟩
        refine Prog.safe_mono (finalizeCovered_reads h₄ hcalm₄ hreads) ?_
        rintro r s ⟨hs, hscalm⟩
        exact ⟨hs, .inl hscalm⟩

end Run

/-- **What a run stores was read from a chain with its block.**  However HAfAH's chain changes from
one request to the next, as long as no block id comes back that was gone: every block goes to the
store with its header as read and with operations read off a chain that contains it, and so does
every row that the run leaves; and when a fork switches under the headers, the pages or the closing
headers of the range, so that one of them is read off a chain without a block of the range that was
read before, the run throws before any `applyBlock` and leaves the store as it was. -/
theorem run_stores_one_chain (R : Runtime) (parseDate : String → Option Timestamp)
    (cfg : ProjectorConfig) (source : String) (db₀ : Db) (U : HafBlock → Prop)
    (hU : hafLinkage.Determined U) :
    (runOnce cfg).Safe Eq (hafahAnswer R parseDate source)
      (fun q s s' => q.AppliesRead cfg parseDate s.2 ∧ StoredAsRead parseDate db₀ s')
      (fun r s => StoredAsRead parseDate db₀ s ∧
        (ForkSwitched (getCursor source db₀).lastProcessedBlock (openingReads s.2) →
          (∃ e, r = .error e) ∧ s.1 = db₀ ∧ ∀ block, .applying block ∉ s.2))
      (db₀, ([] : List (LogEntry U))) := by
  refine Prog.safe_mono (runOnce_reads hU) ?_
  rintro r s ⟨hs, hends⟩
  refine ⟨hs.stored, fun hswitched => ?_⟩
  rcases hends with hcalm | haborted
  · exact absurd hswitched hcalm
  · exact haborted

/-! ### A fork under the pages -/

/-- HAfAH before and after the fork at height two. -/
def hafahBeforeFork : HafahState (· ∈ forkedBlocks) := ⟨beforeFork.hafah, [], by simp⟩

def hafahAfterFork : HafahState (· ∈ forkedBlocks) := ⟨afterFork.hafah, [], by simp⟩

/-- The chain that the `n`-th read meets: HAfAH forks once both headers are read. -/
def forkingHafah (n : ℕ) : HafahState (· ∈ forkedBlocks) :=
  if n < 2 then hafahBeforeFork else hafahAfterFork

def Forking (reads : List (SourceRead (· ∈ forkedBlocks))) : Prop :=
  ∀ (i : ℕ) (read : SourceRead (· ∈ forkedBlocks)), reads[i]? = some read →
    read.hafah = forkingHafah i

section Forking

variable {reads : List (SourceRead (· ∈ forkedBlocks))}

theorem Forking.append (h : Forking reads) {read : SourceRead (· ∈ forkedBlocks)}
    (hread : read.hafah = forkingHafah reads.length) : Forking (reads ++ [read]) := by
  intro i other hother
  by_cases hi : i < reads.length
  · rw [List.getElem?_append_left hi] at hother
    exact h i other hother
  · rw [List.getElem?_append_right (not_lt.mp hi)] at hother
    obtain ⟨hzero, rfl⟩ := List.getElem?_eq_some_iff.mp hother
    have heq : i = reads.length := by
      rw [List.length_singleton] at hzero
      omega
    subst heq
    simpa using hread

theorem Forking.neverReturns (h : Forking reads) : NeverReturns reads := by
  intro i j k first between last hij hjk hfirst hbetween hlast id hin hin'
  rw [SourceRead.Has, h i first hfirst, forkingHafah] at hin
  rw [SourceRead.Has, h k last hlast, forkingHafah] at hin'
  rw [SourceRead.Has, h j between hbetween, forkingHafah]
  by_cases hj : j < 2
  · rw [if_pos hj]
    rwa [if_pos (by omega)] at hin
  · rw [if_neg hj]
    rwa [if_neg (by omega)] at hin'

end Forking

/-- The store answers, and the log becomes `log`. -/
def storeServed (q : Request) (db : Db) (log : List (LogEntry (· ∈ forkedBlocks))) :
    Except Failure q.Response × (Db × List (LogEntry (· ∈ forkedBlocks))) :=
  let answer := serve idleRuntime "haf" (.ofBlocks [] 0 [], 1000) q db
  (answer.1, (answer.2, log))

/-- The store, and HAfAH as it forks; a page is empty. -/
def serveForking (q : Request) (s : Db × List (LogEntry (· ∈ forkedBlocks))) :
    Except Failure q.Response × (Db × List (LogEntry (· ∈ forkedBlocks))) :=
  let hafah := forkingHafah (readsOf s.2).length
  match q with
  | .getHeadAndIrreversible => (.ok (2, ⟨1, some "b1"⟩), s)
  | .getBlock n =>
    match h : hafah.blocks.find? (·.number = n) with
    | some block =>
      (.ok block, (s.1, s.2 ++ [.read ⟨hafah, .header block, List.mem_of_find?_eq_some h⟩]))
    | none => (.error (.projector .sourceUnavailable "Hive source returned HTTP 404"), s)
  | .getOperations fromBlock toBlock =>
    match getOperations (fun _ => some 0) fromBlock toBlock [] with
    | some (refused, _) => (refused, s)
    | none => (.ok [], (s.1, s.2 ++ [.read ⟨hafah, .page ⟨none, none, []⟩, nofun⟩]))
  | .applyBlock block decisions =>
    storeServed (.applyBlock block decisions) s.1 (s.2 ++ [.applying block])
  | .getCursor => storeServed .getCursor s.1 s.2
  | .getCurrentCheckpoint n => storeServed (.getCurrentCheckpoint n) s.1 s.2
  | .revertAfter n => storeServed (.revertAfter n) s.1 s.2
  | .finalizeThrough n => storeServed (.finalizeThrough n) s.1 s.2

theorem getOperations_empty (parseDate : String → Option Timestamp) (fromBlock toBlock : ℕ) :
    (∃ e, getOperations parseDate fromBlock toBlock [] = some (.error e, [])) ∨
      getOperations parseDate fromBlock toBlock [] = none ∧
        getOperations parseDate fromBlock toBlock [.ok ⟨none, none, []⟩] = some (.ok [], []) := by
  by_cases hvalid : isBlockNumber fromBlock ∧ isBlockNumber toBlock
  · by_cases hinverted : toBlock < fromBlock
    · exact .inl ⟨_, (if_neg (not_not.mpr hvalid)).trans (if_pos hinverted)⟩
    · refine .inr ⟨?_, ?_⟩
      · rw [getOperations, if_neg (not_not.mpr hvalid), if_neg hinverted]
        rfl
      · rw [getOperations, if_neg (not_not.mpr hvalid), if_neg hinverted]
        rfl
  · exact .inl ⟨_, if_pos hvalid⟩

theorem serveForking_answers (q : Request) (s : Db × List (LogEntry (· ∈ forkedBlocks)))
    (h : Forking (readsOf s.2)) :
    hafahAnswer idleRuntime (fun _ => some 0) "haf" q s (serveForking q s).1 (serveForking q s).2 ∧
      Forking (readsOf (serveForking q s).2.2) := by
  have hstored := serve_answers idleRuntime "haf" (.ofBlocks [] 0 [], 1000) q s.1
  have hread : ∀ reading sound, Forking (readsOf (s.2 ++
      [.read ⟨forkingHafah (readsOf s.2).length, reading, sound⟩])) := by
    intro reading sound
    rw [readsOf_append]
    exact h.append rfl
  cases q with
  | getHeadAndIrreversible => exact ⟨rfl, h⟩
  | getBlock n =>
    simp only [serveForking]
    split
    · rename_i block hfind
      have hnumber : block.number = n :=
        of_decide_eq_true (List.find?_some (p := fun b : HafBlock => b.number = n) hfind)
      exact ⟨⟨rfl, (hread _ _).neverReturns, .inr ⟨_, block, rfl, hnumber, rfl, rfl⟩⟩, hread _ _⟩
    · exact ⟨⟨rfl, h.neverReturns, .inl ⟨⟨_, rfl⟩, rfl⟩⟩, h⟩
  | getOperations fromBlock toBlock =>
    rcases getOperations_empty (fun _ => some 0) fromBlock toBlock with ⟨e, hrefused⟩ | ⟨hwaits, hpage⟩
    · simp only [serveForking, hrefused]
      exact ⟨⟨rfl, h.neverReturns, [], [], hrefused, rfl, (List.append_nil _).symm⟩, h⟩
    · simp only [serveForking, hwaits]
      exact ⟨⟨rfl, (hread _ _).neverReturns, [⟨_, .page ⟨none, none, []⟩, nofun⟩],
        [.ok ⟨none, none, []⟩], hpage, rfl, rfl⟩, hread _ _⟩
  | applyBlock block decisions =>
    refine ⟨⟨hstored, rfl⟩, ?_⟩
    show Forking (readsOf (s.2 ++ [.applying block]))
    rw [readsOf_append, show readsOf [LogEntry.applying (U := (· ∈ forkedBlocks)) block] = [] from rfl,
      List.append_nil]
    exact h
  | getCursor => exact ⟨⟨hstored, rfl⟩, h⟩
  | getCurrentCheckpoint n => exact ⟨⟨hstored, rfl⟩, h⟩
  | revertAfter n => exact ⟨⟨hstored, rfl⟩, h⟩
  | finalizeThrough n => exact ⟨⟨hstored, rfl⟩, h⟩

/-- A cycle that reads both headers before the fork. -/
def forkedCycle : Except Failure HafProjectorRunResult × Db × List (LogEntry (· ∈ forkedBlocks)) :=
  (runOnce idleConfig).exec serveForking (Db.fresh emptyGame, [])

/-- The second header was read, and the page comes from the other side of the fork: the cycle throws. -/
theorem run_stores_one_chain_fork :
    ForkSwitched 0 (openingReads forkedCycle.2.2) ∧ (∃ e, forkedCycle.1 = .error e) ∧
      forkedCycle.2.1 = Db.fresh emptyGame ∧ ∀ block, .applying block ∉ forkedCycle.2.2 := by
  have hheader : (openingReads forkedCycle.2.2)[1]?.any (fun read =>
      read.reading = .header ⟨2, "b2", "b1", 6⟩) = true := by decide +kernel
  have hpage : (openingReads forkedCycle.2.2)[2]?.any (fun read =>
      read.reading = .page ⟨none, none, []⟩ && !read.hafah.blocks.any (·.id = "b2")) = true := by
    decide +kernel
  obtain ⟨first, hfirst, hreading⟩ := (Option.any_eq_true _ _).mp hheader
  obtain ⟨last, hlast, hswitched⟩ := (Option.any_eq_true _ _).mp hpage
  obtain ⟨hpaged, hgone⟩ := Bool.and_eq_true_iff.mp hswitched
  have hforked : ForkSwitched 0 (openingReads forkedCycle.2.2) := by
    refine ⟨1, 2, first, last, ⟨2, "b2", "b1", 6⟩, by decide, hfirst, hlast,
      of_decide_eq_true hreading, by decide, ?_, ?_⟩
    · rw [SourceRead.AboveCursor, of_decide_eq_true hpaged]
      trivial
    · rintro ⟨b, hb, hid⟩
      have hhas : last.hafah.blocks.any (·.id = "b2") = true :=
        List.any_eq_true.mpr ⟨b, hb, decide_eq_true hid⟩
      rw [hhas] at hgone
      cases hgone
  have hempty : Forking (readsOf ([] : List (LogEntry (· ∈ forkedBlocks)))) := nofun
  exact ⟨hforked, (Prog.safe_exec serveForking_answers hempty
    (run_stores_one_chain idleRuntime (fun _ => some 0) idleConfig "haf" (Db.fresh emptyGame)
      (· ∈ forkedBlocks) forkedBlocks_determined)).2 hforked⟩

end HiveChameleon.Projector
