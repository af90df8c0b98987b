import HiveChameleon.Publisher.Worker

/-!
# Publisher.Journal — every attempt of a batch sends the frozen bytes under its own key

A batch is frozen once and claimed any number of times.  A claim reads the frozen columns back,
which no transaction changes, and numbers the attempt; the number and the batch make its key.  The
signer is called only from a stage that a committed journal record of the attempt leads to.
-/

namespace HiveChameleon.Publisher

open Gateway Lib Nakama

/-! ### Keys -/

section Keys

variable {W : WorkerConfig}

/-- **Keys of attempts** tell batches and numbers apart. -/
theorem idempotencyKey_injective {a b : ClaimedAttempt W}
    (h : idempotencyKey W a = idempotencyKey W b) :
    a.batchId = b.batchId ∧ a.attemptCount = b.attemptCount := by
  have hkey : ∀ c : ClaimedAttempt W, (idempotencyKey W c).toList =
      ("match-batch:".toList ++ (W.uuidText c.batchId).toList ++ ":attempt".toList) ++
        ':' :: Nat.toDigits 10 c.attemptCount := by
    intro c
    have hsign : ":attempt:".toList = ":attempt".toList ++ [':'] := by decide
    simp only [idempotencyKey, String.toList_append, Nat.toString_eq_repr, Nat.toList_repr, hsign,
      List.append_assoc, List.singleton_append]
  have htext := congrArg String.toList h
  rw [hkey, hkey] at htext
  obtain ⟨hbatch, hcount⟩ := numbered_injective (by decide) htext
  have huuid := List.append_cancel_left (List.append_cancel_right hbatch)
  exact ⟨W.uuidText_injective (String.toList_injective huuid), hcount⟩

end Keys

/-! ### What the transactions keep -/

/-- Rows stay with their frozen columns, no count of claims decreases, and no row is new. -/
structure FrozenRows (p p' : PublicationTables) : Prop where
  kept : ∀ row ∈ p.outbox, ∃ row' ∈ p'.outbox, row'.id = row.id ∧
    row'.toFrozenColumns = row.toFrozenColumns ∧ row.attemptCount ≤ row'.attemptCount
  old : ∀ row' ∈ p'.outbox, ∃ row ∈ p.outbox, row'.id = row.id ∧
    row'.toFrozenColumns = row.toFrozenColumns

/-- Records stay with their key and operation. -/
def RecordsKept (journal journal' : Journal) : Prop :=
  ∀ row ∈ journal, ∃ row' ∈ journal', row'.id = row.id ∧ row'.idempotencyKey = row.idempotencyKey ∧
    row'.canonicalOperationHash = row.canonicalOperationHash

section Kept

variable {p p' : PublicationTables} {journal journal' : Journal}

theorem FrozenRows.of_outbox_eq (h : p'.outbox = p.outbox) : FrozenRows p p' where
  kept row hrow := ⟨row, h ▸ hrow, rfl, rfl, le_refl _⟩
  old row hrow := ⟨row, h ▸ hrow, rfl, rfl⟩

theorem frozenRows_modify {q : OutboxRow → Prop} [DecidablePred q]
    {set : Table.Assignment OutboxRow.id} {requests : Table RequestRow (·.id)}
    (hframe : ∀ row, (set row).toFrozenColumns = row.toFrozenColumns ∧
      row.attemptCount ≤ (set row).attemptCount) :
    FrozenRows p { p with outbox := p.outbox.modify q set, request := requests } := by
  have hcolumns : ∀ row, (Table.updated q set row).toFrozenColumns = row.toFrozenColumns :=
    Table.updated_eq (g := fun row : OutboxRow => row.toFrozenColumns) fun row => (hframe row).1
  constructor
  · intro row hrow
    refine ⟨_, Table.updated_mem_modify hrow, Table.key_updated row, hcolumns row, ?_⟩
    unfold Table.updated
    split
    · exact (hframe row).2
    · exact le_refl _
  · intro row' hrow'
    obtain ⟨row, hrow, rfl⟩ := Table.mem_modify.mp hrow'
    exact ⟨row, hrow, Table.key_updated row, hcolumns row⟩

theorem FrozenRows.markBroadcast {outboxId : Uuid} {transactionId : String} {broadcastAt : Timestamp}
    (h : markBroadcast outboxId transactionId broadcastAt p = .ok p') : FrozenRows p p' := by
  obtain ⟨-, rfl⟩ := markBroadcast_outbox h
  exact frozenRows_modify fun _ => ⟨rfl, le_refl _⟩

theorem FrozenRows.markRetryableFailure {outboxId : Uuid} {transactionId : Option String}
    {failureCode : String} {retryAt now : Timestamp}
    (h : markRetryableFailure outboxId transactionId failureCode retryAt now p = .ok p') :
    FrozenRows p p' := by
  obtain ⟨-, rfl⟩ := markRetryableFailure_outbox h
  exact frozenRows_modify fun _ => ⟨rfl, le_refl _⟩

theorem FrozenRows.claimed (W : WorkerConfig) (now : Timestamp) (row : OutboxRow) :
    FrozenRows p (claimedTables W now row p) :=
  frozenRows_modify fun _ => ⟨rfl, Nat.le_succ _⟩

theorem RecordsKept.refl (journal : Journal) : RecordsKept journal journal :=
  fun row hrow => ⟨row, hrow, rfl, rfl, rfl⟩

theorem recordsKept_modify {q : TransactionIntentRow → Prop} [DecidablePred q]
    {set : Table.Assignment TransactionIntentRow.id}
    (hframe : ∀ row, (set row).idempotencyKey = row.idempotencyKey ∧
      (set row).canonicalOperationHash = row.canonicalOperationHash) :
    RecordsKept journal (journal.modify q set) := by
  intro row hrow
  refine ⟨_, Table.updated_mem_modify hrow, Table.key_updated row, ?_⟩
  unfold Table.updated
  split
  · exact hframe row
  · exact ⟨rfl, rfl⟩

theorem insertIntent_eq_ok {row : TransactionIntentRow} (h : insertIntent row journal = .ok journal') :
    journal'.rows = journal.rows ++ [row] ∧ (∀ other ∈ journal, other.id ≠ row.id) ∧
      ∀ other ∈ journal, other.idempotencyKey ≠ row.idempotencyKey := by
  simp only [insertIntent, bind_eq_ok, exists_unit, require_eq_ok, Table.insert_eq_ok] at h
  obtain ⟨-, hkey, hid, hrows⟩ := h
  exact ⟨hrows, hid, hkey⟩

theorem RecordsKept.insertIntent {row : TransactionIntentRow}
    (h : insertIntent row journal = .ok journal') : RecordsKept journal journal' := by
  intro old hold
  refine ⟨old, ?_, rfl, rfl, rfl⟩
  rw [Table.mem_def, (insertIntent_eq_ok h).1]
  exact List.mem_append_left _ hold

end Kept

/-! ### Freezes and claims of a run -/

section History

variable {W : WorkerConfig} {ι : Type} {source : String}

/-- The attempt that a claim hands out. -/
def handedOut (t : Transition (WorkerSys W ι) (WorkerLabel ι)) : Option (ClaimedAttempt W) :=
  match t.label with
  | .worker i (.claim _) =>
    match t.post.stage i with
    | .claimed attempt _ => some attempt
    | _ => none
  | _ => none

/-- The attempts of a run, as they were claimed. -/
def claims (ts : List (Transition (WorkerSys W ι) (WorkerLabel ι))) : List (ClaimedAttempt W) :=
  ts.filterMap handedOut

/-- The transition freezes a batch. -/
def Freezes (t : Transition (WorkerSys W ι) (WorkerLabel ι)) (frozen : FrozenMatchBatch) : Prop :=
  ∃ publisherAccount ids now, t.label = .other (.freeze frozen publisherAccount ids now)

/-- The row holds what was frozen. -/
structure HoldsFrozen (frozen : FrozenMatchBatch) (row : OutboxRow) : Prop where
  id : row.id = frozen.outboxId
  event : row.eventUuid = frozen.eventId
  batch : row.batchUuid = some frozen.batchId
  payload : row.canonicalPayload = frozen.canonicalPayload

/-- The row was claimed as this attempt. -/
structure ClaimOf (attempt : ClaimedAttempt W) (row : OutboxRow) : Prop where
  id : row.id = attempt.outboxId
  event : row.eventUuid = attempt.eventId
  batch : row.batchUuid = some attempt.batchId
  payload : row.canonicalPayload = attempt.canonicalPayload
  count : attempt.attemptCount ≤ row.attemptCount

/-- The payload of the attempt reads as the batch event of its ids. -/
def ReadsBatch (attempt : ClaimedAttempt W) : Prop :=
  ∃ event, parseHiveChameleonEvent W.runtime.toRuntime attempt.canonicalPayload =
    .ok (.matchResultsBatch event) ∧ event.eventId = attempt.eventId ∧ event.batchId = attempt.batchId

/-- Every row was frozen once, and a batch has one row. -/
structure FreezeInv (ts : List (Transition (WorkerSys W ι) (WorkerLabel ι)))
    (p : PublicationTables) : Prop where
  frozen : ∀ t ∈ ts, ∀ frozen, Freezes t frozen → ∃ row ∈ p.outbox, HoldsFrozen frozen row
  row : ∀ row ∈ p.outbox, ∃ t ∈ ts, ∃ frozen, Freezes t frozen ∧ frozen.outboxId = row.id
  batch_inj : ∀ row ∈ p.outbox, ∀ other ∈ p.outbox, row.batchUuid ≠ none →
    row.batchUuid = other.batchUuid → row = other

/-- Every claimed attempt is of a row and numbered. -/
structure ClaimInv (attempts : List (ClaimedAttempt W)) (p : PublicationTables) : Prop where
  row : ∀ a ∈ attempts, ∃ row ∈ p.outbox, ClaimOf a row
  reads : ∀ a ∈ attempts, ReadsBatch a
  numbered : (attempts.map fun a => (a.outboxId, a.attemptCount)).Nodup

variable {ts : List (Transition (WorkerSys W ι) (WorkerLabel ι))}
  {t : Transition (WorkerSys W ι) (WorkerLabel ι)} {p p' : PublicationTables}
  {attempts : List (ClaimedAttempt W)}

theorem claims_append (us : List (Transition (WorkerSys W ι) (WorkerLabel ι))) :
    claims (ts ++ us) = claims ts ++ claims us :=
  List.filterMap_append

theorem claims_snoc_none (h : handedOut t = none) : claims (ts ++ [t]) = claims ts := by
  rw [claims_append]
  show claims ts ++ [t].filterMap handedOut = claims ts
  rw [List.filterMap_cons_none h, List.filterMap_nil, List.append_nil]

theorem claims_snoc_some {attempt : ClaimedAttempt W} (h : handedOut t = some attempt) :
    claims (ts ++ [t]) = claims ts ++ [attempt] := by
  rw [claims_append]
  show claims ts ++ [t].filterMap handedOut = _
  rw [List.filterMap_cons_some h, List.filterMap_nil]

theorem HoldsFrozen.kept {frozen : FrozenMatchBatch} {row row' : OutboxRow}
    (h : HoldsFrozen frozen row) (hid : row'.id = row.id)
    (hcolumns : row'.toFrozenColumns = row.toFrozenColumns) : HoldsFrozen frozen row' where
  id := hid.trans h.id
  event := (congrArg FrozenColumns.eventUuid hcolumns).trans h.event
  batch := (congrArg FrozenColumns.batchUuid hcolumns).trans h.batch
  payload := (congrArg FrozenColumns.canonicalPayload hcolumns).trans h.payload

theorem ClaimOf.kept {attempt : ClaimedAttempt W} {row row' : OutboxRow} (h : ClaimOf attempt row)
    (hid : row'.id = row.id) (hcolumns : row'.toFrozenColumns = row.toFrozenColumns)
    (hcount : row.attemptCount ≤ row'.attemptCount) : ClaimOf attempt row' where
  id := hid.trans h.id
  event := (congrArg FrozenColumns.eventUuid hcolumns).trans h.event
  batch := (congrArg FrozenColumns.batchUuid hcolumns).trans h.batch
  payload := (congrArg FrozenColumns.canonicalPayload hcolumns).trans h.payload
  count := h.count.trans hcount

theorem FreezeInv.keep (h : FreezeInv ts p) (hrows : FrozenRows p p')
    (hnone : ∀ frozen, ¬ Freezes t frozen) : FreezeInv (ts ++ [t]) p' where
  frozen u hu frozen hfreezes := by
    rcases List.mem_append.mp hu with hu | hu
    · obtain ⟨row, hrow, hholds⟩ := h.frozen u hu frozen hfreezes
      obtain ⟨row', hrow', hid, hcolumns, -⟩ := hrows.kept row hrow
      exact ⟨row', hrow', hholds.kept hid hcolumns⟩
    · rw [List.mem_singleton.mp hu] at hfreezes
      exact absurd hfreezes (hnone frozen)
  row row' hrow' := by
    obtain ⟨row, hrow, hid, -⟩ := hrows.old row' hrow'
    obtain ⟨u, hu, frozen, hfreezes, hfrozen⟩ := h.row row hrow
    exact ⟨u, List.mem_append_left _ hu, frozen, hfreezes, hfrozen.trans hid.symm⟩
  batch_inj row' hrow' other' hother' hsome heq := by
    obtain ⟨row, hrow, hid, hcolumns⟩ := hrows.old row' hrow'
    obtain ⟨other, hother, hotherId, hotherColumns⟩ := hrows.old other' hother'
    have hbatch : row'.batchUuid = row.batchUuid := congrArg FrozenColumns.batchUuid hcolumns
    have hbatch' : other'.batchUuid = other.batchUuid := congrArg FrozenColumns.batchUuid hotherColumns
    have hsame : row = other := by
      refine h.batch_inj row hrow other hother (hbatch ▸ hsome) ?_
      rw [← hbatch, heq, hbatch']
    exact Table.eq_of_key hrow' hother' (by rw [hid, hotherId, hsame])

theorem FreezeInv.freeze (h : FreezeInv ts p) {frozen : FrozenMatchBatch} {publisherAccount : String}
    {ids : ℕ → Uuid} {now : Timestamp}
    (hlabel : t.label = .other (.freeze frozen publisherAccount ids now))
    (hrows : p'.outbox.rows = p.outbox.rows ++ [frozenOutboxRow frozen publisherAccount now])
    (hfresh : ∀ row ∈ p.outbox, row.batchUuid ≠ some frozen.batchId) :
    FreezeInv (ts ++ [t]) p' := by
  have hmem : ∀ row, row ∈ p'.outbox ↔
      row ∈ p.outbox ∨ row = frozenOutboxRow frozen publisherAccount now := by
    intro row
    rw [Table.mem_def, hrows, List.mem_append, List.mem_singleton, Table.mem_rows]
  have hnew : HoldsFrozen frozen (frozenOutboxRow frozen publisherAccount now) := ⟨rfl, rfl, rfl, rfl⟩
  constructor
  · intro u hu other hfreezes
    rcases List.mem_append.mp hu with hu | hu
    · obtain ⟨row, hrow, hholds⟩ := h.frozen u hu other hfreezes
      exact ⟨row, (hmem row).mpr (.inl hrow), hholds⟩
    · rw [List.mem_singleton.mp hu] at hfreezes
      obtain ⟨account, ids', now', hlabel'⟩ := hfreezes
      rw [hlabel] at hlabel'
      cases hlabel'
      exact ⟨_, (hmem _).mpr (.inr rfl), hnew⟩
  · intro row hrow
    rcases (hmem row).mp hrow with hrow | rfl
    · obtain ⟨u, hu, hrest⟩ := h.row row hrow
      exact ⟨u, List.mem_append_left _ hu, hrest⟩
    · exact ⟨t, List.mem_append_right _ (List.mem_singleton.mpr rfl), frozen, ⟨_, _, _, hlabel⟩, rfl⟩
  · intro row hrow other hother hsome heq
    rcases (hmem row).mp hrow with hrow | rfl <;> rcases (hmem other).mp hother with hother | rfl
    · exact h.batch_inj row hrow other hother hsome heq
    · exact absurd heq (hfresh row hrow)
    · exact absurd heq.symm (hfresh other hother)
    · rfl

theorem ClaimInv.keep (h : ClaimInv attempts p) (hrows : ∀ row ∈ p.outbox, ∃ row' ∈ p'.outbox,
    row'.id = row.id ∧ row'.toFrozenColumns = row.toFrozenColumns ∧
      row.attemptCount ≤ row'.attemptCount) : ClaimInv attempts p' where
  row a ha := by
    obtain ⟨row, hrow, hclaim⟩ := h.row a ha
    obtain ⟨row', hrow', hid, hcolumns, hcount⟩ := hrows row hrow
    exact ⟨row', hrow', hclaim.kept hid hcolumns hcount⟩
  reads := h.reads
  numbered := h.numbered

theorem ClaimInv.claim (h : ClaimInv attempts p) {now : Timestamp} {row : OutboxRow}
    {attempt : ClaimedAttempt W} (hrow : row ∈ p.outbox)
    (hattempt : outboxAttemptFromRow W (row.claim now (now + W.claimLeaseMs)) = some attempt) :
    ClaimInv (attempts ++ [attempt]) (claimedTables W now row p) := by
  obtain ⟨hids, hbatch, hpayload, hparse, ⟨event, hevent, heventId, hbatchId⟩, -⟩ :=
    outboxAttemptFromRow_eq_some hattempt
  have hkept := h.keep (FrozenRows.claimed (p := p) W now row).kept
  have hid : attempt.outboxId = row.id := by rw [hids]; rfl
  have hcount : attempt.attemptCount = row.attemptCount + 1 := by rw [hids]; rfl
  refine ⟨fun a ha => ?_, fun a ha => ?_, ?_⟩
  · rcases List.mem_append.mp ha with ha | ha
    · exact hkept.row a ha
    · obtain rfl := List.mem_singleton.mp ha
      refine ⟨row.claim now (now + W.claimLeaseMs), Table.mem_modify_of hrow rfl, ?_, ?_, hbatch,
        hpayload.symm, ?_⟩
      · rw [hids]
      · rw [hids]
      · rw [hids]
  · rcases List.mem_append.mp ha with ha | ha
    · exact h.reads a ha
    · obtain rfl := List.mem_singleton.mp ha
      exact ⟨event, (W.reads _ _).mpr ⟨a.event, hparse, hevent⟩, heventId, hbatchId⟩
  · rw [List.map_append, List.nodup_append]
    refine ⟨h.numbered, List.nodup_singleton _, ?_⟩
    intro x hx y hy heq
    obtain ⟨a, ha, rfl⟩ := List.mem_map.mp hx
    rw [List.map_singleton, List.mem_singleton] at hy
    rw [hy, Prod.mk.injEq] at heq
    -- the row's count was at least that of every earlier claim
    obtain ⟨old, hold, hclaim⟩ := h.row a ha
    have hsame : old = row := Table.eq_of_key hold hrow (by rw [hclaim.id, heq.1, hid])
    have hle := hclaim.count
    rw [hsame, heq.2, hcount] at hle
    omega

end History

/-! ### What a worker knows at each stage -/

section Stages

variable {W : WorkerConfig} {ι : Type} {source : String}

/-- The event that the worker prepared. -/
def Stage.event : Stage W → Option PreparedOfficialEvent
  | .prepared _ _ _ event => some event
  | .journaled _ _ event => some event
  | .signed _ _ event => some event
  | .submitted _ _ event => some event
  | _ => none

/-- Worker `i` recorded the attempt, and the record was committed and acknowledged. -/
def RecordedBy (ts : List (Transition (WorkerSys W ι) (WorkerLabel ι))) (i : ι)
    (attempt : ClaimedAttempt W) (id : Uuid) (event : PreparedOfficialEvent) : Prop :=
  ∃ t ∈ ts, t.label = .worker i (.record .done) ∧ ∃ startedAt,
    t.pre.stage i = .prepared attempt startedAt id event ∧
      intentRow (signingRecord W attempt startedAt id event) ∈ t.post.journal

/-- What is right about a stage of worker `i`. -/
structure StageInv (ts : List (Transition (WorkerSys W ι) (WorkerLabel ι))) (journal : Journal)
    (i : ι) (stage : Stage W) : Prop where
  claimed : ∀ a, stage.attempt = some a → a ∈ claims ts
  prepared : ∀ a e, stage.attempt = some a → stage.event = some e → PreparedFor a e
  record : ∀ a id, stage.attempt = some a → stage.signingAttemptId = some id →
    ∃ row ∈ journal, row.id = id ∧ row.idempotencyKey = idempotencyKey W a
  done : ∀ a id e, stage.attempt = some a → stage.signingAttemptId = some id →
    stage.event = some e → RecordedBy ts i a id e

variable {ts us : List (Transition (WorkerSys W ι) (WorkerLabel ι))} {journal journal' : Journal}
  {i : ι} {stage stage' : Stage W}

theorem stageInv_idle : StageInv ts journal i .idle where
  claimed a h := by cases h
  prepared a e h := by cases h
  record a id h := by cases h
  done a id e h := by cases h

theorem StageInv.later (h : StageInv ts journal i stage) (hkept : RecordsKept journal journal') :
    StageInv (ts ++ us) journal' i stage where
  claimed a ha := by
    rw [claims_append]
    exact List.mem_append_left _ (h.claimed a ha)
  prepared := h.prepared
  record a id ha hid := by
    obtain ⟨row, hrow, hrowId, hkey⟩ := h.record a id ha hid
    obtain ⟨row', hrow', hid', hkey', -⟩ := hkept row hrow
    exact ⟨row', hrow', hid'.trans hrowId, hkey'.trans hkey⟩
  done a id e ha hid he := by
    obtain ⟨t, ht, hrest⟩ := h.done a id e ha hid he
    exact ⟨t, List.mem_append_left _ ht, hrest⟩

theorem StageInv.weaken (h : StageInv ts journal i stage)
    (hattempt : ∀ a, stage'.attempt = some a → stage.attempt = some a)
    (hid : ∀ id, stage'.signingAttemptId = some id → stage.signingAttemptId = some id)
    (hevent : ∀ e, stage'.event = some e → stage.event = some e) :
    StageInv ts journal i stage' where
  claimed a ha := h.claimed a (hattempt a ha)
  prepared a e ha he := h.prepared a e (hattempt a ha) (hevent e he)
  record a id ha h' := h.record a id (hattempt a ha) (hid id h')
  done a id e ha h' he := h.done a id e (hattempt a ha) (hid id h') (hevent e he)

theorem StageInv.failing {attempt : ClaimedAttempt W} {id : Option Uuid}
    {transactionId : Option String} {code : String} (h : StageInv ts journal i stage)
    (hattempt : stage.attempt = some attempt) (hid : id = none ∨ id = stage.signingAttemptId) :
    StageInv ts journal i (.failing attempt id transactionId code) := by
  refine h.weaken (fun a ha => ?_) (fun id' h' => ?_) fun e he => by cases he
  · rw [← ha]
    exact hattempt
  · rcases hid with rfl | rfl
    · cases h'
    · exact h'

theorem stageInv_claimed {attempt : ClaimedAttempt W} {startedAt : Timestamp}
    (hclaimed : attempt ∈ claims ts) : StageInv ts journal i (.claimed attempt startedAt) where
  claimed a ha := by
    obtain rfl := Option.some.inj ha
    exact hclaimed
  prepared a e ha he := by cases he
  record a id ha h' := by cases h'
  done a id e ha h' := by cases h'

theorem stageInv_prepared {attempt : ClaimedAttempt W} {startedAt : Timestamp} {id : Uuid}
    {event : PreparedOfficialEvent} (hclaimed : attempt ∈ claims ts)
    (hprepared : PreparedFor attempt event) :
    StageInv ts journal i (.prepared attempt startedAt id event) where
  claimed a ha := by
    obtain rfl := Option.some.inj ha
    exact hclaimed
  prepared a e ha he := by
    obtain rfl := Option.some.inj ha
    obtain rfl := Option.some.inj he
    exact hprepared
  record a id' ha h' := by cases h'
  done a id' e ha h' he := by cases h'

theorem StageInv.journaled {attempt : ClaimedAttempt W} {startedAt : Timestamp} {id : Uuid}
    {event : PreparedOfficialEvent} (h : StageInv ts journal i (.prepared attempt startedAt id event))
    (hrecord : intentRow (signingRecord W attempt startedAt id event) ∈ journal)
    (hdone : RecordedBy ts i attempt id event) :
    StageInv ts journal i (.journaled attempt id event) where
  claimed a ha := h.claimed a ha
  prepared a e ha he := h.prepared a e ha he
  record a id' ha h' := by
    obtain rfl := Option.some.inj ha
    obtain rfl := Option.some.inj h'
    exact ⟨_, hrecord, rfl, rfl⟩
  done a id' e ha h' he := by
    obtain rfl := Option.some.inj ha
    obtain rfl := Option.some.inj h'
    obtain rfl := Option.some.inj he
    exact hdone

/-- The invariant of a run and the state it reaches. -/
structure JournalInv (ts : List (Transition (WorkerSys W ι) (WorkerLabel ι)))
    (S : WorkerSys W ι) : Prop where
  freezes : FreezeInv ts S.tables
  attempts : ClaimInv (claims ts) S.tables
  stages : ∀ i, StageInv ts S.journal i (S.stage i)

theorem journalInv_start (game : Projector.GameTables) :
    JournalInv [] (WorkerSys.start W ι game) where
  freezes :=
    { frozen := fun _ ht => absurd ht List.not_mem_nil
      row := fun _ hrow => absurd hrow Table.not_mem_empty
      batch_inj := fun _ hrow => absurd hrow Table.not_mem_empty }
  attempts :=
    { row := fun _ ha => absurd ha List.not_mem_nil
      reads := fun _ ha => absurd ha List.not_mem_nil
      numbered := List.nodup_nil }
  stages _ := stageInv_idle

/-- The event sent for an attempt is the frozen batch, to the byte. -/
structure AsFrozen (attempt : ClaimedAttempt W) (event : PreparedOfficialEvent)
    (frozen : FrozenMatchBatch) : Prop where
  eventId : attempt.eventId = frozen.eventId
  batchId : attempt.batchId = frozen.batchId
  payload : (signerRequest event).canonicalPayload = frozen.canonicalPayload
  operation : (signerRequest event).canonicalOperationJson = canonicalCustomJsonOperation
    (officialOperation W.authorization.account frozen.canonicalPayload)
  reads : ∃ batch, parseHiveChameleonEvent W.runtime.toRuntime frozen.canonicalPayload =
    .ok (.matchResultsBatch batch) ∧ batch.eventId = frozen.eventId ∧ batch.batchId = frozen.batchId

/-- What is sent at the end of `before`, in the run `ts`: a claimed attempt, under its key, as its
item was frozen. -/
structure Sends (ts before : List (Transition (WorkerSys W ι) (WorkerLabel ι)))
    (attempt : ClaimedAttempt W) (event : PreparedOfficialEvent) : Prop where
  claimed : attempt ∈ claims before
  key : (signerRequest event).idempotencyKey = idempotencyKey W attempt
  frozen : ∃ t ∈ before, ∃ frozen, Freezes t frozen ∧ frozen.outboxId = attempt.outboxId
  asFrozen : ∀ t ∈ ts, ∀ frozen, Freezes t frozen → frozen.outboxId = attempt.outboxId →
    AsFrozen attempt event frozen

theorem JournalInv.keys_nodup {S : WorkerSys W ι} (h : JournalInv ts S) :
    ((claims ts).map (idempotencyKey W)).Nodup := by
  rw [List.nodup_map_iff_inj_on (List.Nodup.of_map _ h.attempts.numbered)]
  intro a ha b hb hkey
  obtain ⟨hbatch, hcount⟩ := idempotencyKey_injective hkey
  obtain ⟨row, hrow, hclaim⟩ := h.attempts.row a ha
  obtain ⟨other, hother, hclaim'⟩ := h.attempts.row b hb
  have hsame : row = other := by
    refine h.freezes.batch_inj row hrow other hother ?_ ?_
    · rw [hclaim.batch]
      exact Option.some_ne_none _
    · rw [hclaim.batch, hclaim'.batch, hbatch]
  have hid : a.outboxId = b.outboxId := by rw [← hclaim.id, ← hclaim'.id, hsame]
  exact List.inj_on_of_nodup_map h.attempts.numbered ha hb (Prod.ext hid hcount)

theorem JournalInv.sends {S S₁ : WorkerSys W ι} {attempt : ClaimedAttempt W} {event : PreparedOfficialEvent}
    (h : JournalInv ts S) (hend : JournalInv (ts ++ us) S₁)
    (hattempt : (S.stage i).attempt = some attempt) (hevent : (S.stage i).event = some event) :
    Sends (ts ++ us) ts attempt event := by
  have hclaimed := (h.stages i).claimed attempt hattempt
  have hprepared := (h.stages i).prepared attempt event hattempt hevent
  refine ⟨hclaimed, hprepared.key, ?_, fun t ht frozen hfreezes hid => ?_⟩
  · obtain ⟨row, hrow, hclaim⟩ := h.attempts.row attempt hclaimed
    obtain ⟨t, ht, frozen, hfreezes, hid⟩ := h.freezes.row row hrow
    exact ⟨t, ht, frozen, hfreezes, hid.trans hclaim.id⟩
  · have hclaims : attempt ∈ claims (ts ++ us) := by
      rw [claims_append]
      exact List.mem_append_left _ hclaimed
    obtain ⟨row, hrow, hclaim⟩ := hend.attempts.row attempt hclaims
    obtain ⟨other, hother, hholds⟩ := hend.freezes.frozen t ht frozen hfreezes
    obtain rfl : other = row :=
      Table.eq_of_key hother hrow (by rw [hholds.id, hclaim.id, hid])
    have heventId : attempt.eventId = frozen.eventId := by rw [← hclaim.event, hholds.event]
    have hbatchId : attempt.batchId = frozen.batchId :=
      Option.some.inj (hclaim.batch.symm.trans hholds.batch)
    have hpayload : attempt.canonicalPayload = frozen.canonicalPayload := by
      rw [← hclaim.payload, hholds.payload]
    obtain ⟨batch, hparse, hids⟩ := hend.attempts.reads attempt hclaims
    refine ⟨heventId, hbatchId, hprepared.payload.trans hpayload, ?_, batch, ?_, ?_⟩
    · rw [← hpayload]
      exact hprepared.operation
    · rw [← hpayload]
      exact hparse
    · rw [← heventId, ← hbatchId]
      exact hids

end Stages

/-! ### Steps and runs -/

section Runs

variable {W : WorkerConfig} {ι : Type} [DecidableEq ι] {source : String}
  {ts : List (Transition (WorkerSys W ι) (WorkerLabel ι))} {S S' : WorkerSys W ι}
  {l : WorkerLabel ι} {i : ι}

/-- A step of worker `i` that freezes and claims nothing. -/
theorem JournalInv.move (h : JournalInv ts S) {t : Transition (WorkerSys W ι) (WorkerLabel ι)}
    {p : PublicationTables} {journal : Journal} {stage : Stage W}
    (hfreezes : ∀ frozen, ¬ Freezes t frozen) (hclaims : handedOut t = none)
    (hrows : FrozenRows S.tables p) (hrecords : RecordsKept S.journal journal)
    (hstage : StageInv (ts ++ [t]) journal i stage) :
    JournalInv (ts ++ [t]) ((S.write p journal).to i stage) where
  freezes := h.freezes.keep hrows hfreezes
  attempts := by
    rw [claims_snoc_none hclaims]
    exact h.attempts.keep hrows.kept
  stages j := by
    by_cases hj : j = i
    · subst hj
      rw [to_stage_self]
      exact hstage
    · rw [to_stage_of_ne stage hj]
      exact (h.stages j).later hrecords

theorem freezeNextBatch_fresh {frozen : FrozenMatchBatch} {publisherAccount : String}
    {ids : ℕ → Uuid} {now : Timestamp} {p p' : PublicationTables}
    (h : freezeNextBatch frozen publisherAccount ids now p = .ok p') :
    ∀ row ∈ p.outbox, row.batchUuid ≠ some frozen.batchId := by
  simp only [freezeNextBatch, insertOutbox, bind_eq_ok, exists_unit, require_eq_ok] at h
  obtain ⟨-, ⟨-, -, hbatch, -⟩, -⟩ := h
  intro row hrow heq
  exact hbatch row hrow ⟨Option.some_ne_none _, heq⟩

theorem outbox_of_other {Q Q' : PublicationSys ι} {R : PublisherRuntime} {l : PublicationLabel ι}
    (h : PublicationStep R source Q l Q') (hother : ¬ ByWorker l) :
    (∃ frozen publisherAccount ids now, l = .freeze frozen publisherAccount ids now ∧
      freezeNextBatch frozen publisherAccount ids now Q.tables = .ok Q'.tables) ∨
    (∀ frozen publisherAccount ids now, l ≠ .freeze frozen publisherAccount ids now) ∧
      FrozenRows Q.tables Q'.tables := by
  cases h with
  | projector => exact .inr ⟨(fun _ _ _ _ heq => by cases heq), .of_outbox_eq rfl⟩
  | request hok =>
    exact .inr ⟨(fun _ _ _ _ heq => by cases heq), .of_outbox_eq (recordRequest_outbox hok)⟩
  | freeze hok => exact .inl ⟨_, _, _, _, rfl, hok⟩
  | defer hok =>
    exact .inr ⟨(fun _ _ _ _ heq => by cases heq), .of_outbox_eq (deferInvalidRequest_outbox hok)⟩
  | reconcile hok =>
    obtain ⟨-, -, -, -, -, hr⟩ := reconcileProjectedFinality_eq_ok.mp hok
    obtain ⟨-, rfl⟩ := Prod.mk.inj hr
    refine .inr ⟨(fun _ _ _ _ heq => by cases heq), frozenRows_modify fun row => ?_⟩
    obtain ⟨hframe, hcount, -⟩ := reconcile_frame _ _ row
    exact ⟨hframe, hcount.ge⟩
  | claim => exact absurd trivial hother
  | broadcast => exact absurd trivial hother
  | markBroadcast => exact absurd trivial hother
  | markRetryableFailure => exact absurd trivial hother
  | crash => exact absurd trivial hother

theorem JournalInv.performed (h : JournalInv ts S) {action : WorkerAction}
    (hl : Performed S i action S') : JournalInv (ts ++ [⟨S, .worker i action, S'⟩]) S' := by
  have hfreezes : ∀ S' : WorkerSys W ι, ∀ frozen,
      ¬ Freezes (⟨S, .worker i action, S'⟩ : Transition (WorkerSys W ι) (WorkerLabel ι)) frozen := by
    rintro S' frozen ⟨_, _, _, heq⟩
    cases heq
  have hstage := h.stages i
  have hkept := RecordsKept.refl S.journal
  have hsame : FrozenRows S.tables S.tables := .of_outbox_eq rfl
  cases hl with
  | @nothing now hidle =>
    have hclaims : handedOut (⟨S, .worker i (.claim now), S⟩ :
        Transition (WorkerSys W ι) (WorkerLabel ι)) = none := by
      simp only [handedOut, hidle]
    refine ⟨h.freezes.keep hsame (hfreezes S), ?_, fun j => (h.stages j).later hkept⟩
    rw [claims_snoc_none hclaims]
    exact h.attempts
  | @claim now row attempt hidle hrow hattempt hclaim =>
    have hmem := (claimCandidate_mem hrow).1
    have hclaims : handedOut (⟨S, .worker i (.claim now),
        (S.write (claimedTables W now row S.tables) S.journal).to i (.claimed attempt now)⟩ :
        Transition (WorkerSys W ι) (WorkerLabel ι)) = some attempt := by
      simp only [handedOut, to_stage_self]
    refine ⟨h.freezes.keep (.claimed W now row) (hfreezes _), ?_, fun j => ?_⟩
    · rw [claims_snoc_some hclaims]
      exact h.attempts.claim hmem hattempt
    · by_cases hj : j = i
      · subst hj
        rw [to_stage_self]
        refine stageInv_claimed ?_
        rw [claims_snoc_some hclaims]
        exact List.mem_append_right _ (List.mem_singleton.mpr rfl)
      · rw [to_stage_of_ne _ hj]
        exact (h.stages j).later hkept
  | @prepare id chain attempt startedAt hclaimed =>
    rw [hclaimed] at hstage
    refine h.move (hfreezes _) rfl hsame hkept ?_
    rcases prepareAttempt_cases attempt startedAt id chain with
      ⟨transactionId, code, heq⟩ | ⟨event, heq, hprepared⟩
    · rw [heq]
      exact (hstage.later hkept).failing rfl (.inl rfl)
    · rw [heq]
      exact stageInv_prepared ((hstage.later hkept).claimed attempt rfl) hprepared
  | @record outcome attempt startedAt id event journal stage hprepared hjournal hnext =>
    rw [hprepared] at hstage
    have hrecords : RecordsKept S.journal journal := .insertIntent hjournal
    refine h.move (hfreezes _) rfl hsame hrecords ?_
    have hrecord : intentRow (signingRecord W attempt startedAt id event) ∈ journal := by
      rw [Table.mem_def, (insertIntent_eq_ok hjournal).1]
      exact List.mem_append_right _ (List.mem_singleton.mpr rfl)
    rcases hnext with ⟨rfl, rfl⟩ | ⟨-, transactionId, code, rfl⟩
    · exact (hstage.later hrecords).journaled hrecord
        ⟨_, List.mem_append_right _ (List.mem_singleton.mpr rfl), rfl, startedAt, hprepared, hrecord⟩
    · exact (hstage.later hrecords).failing rfl (.inl rfl)
  | @raise action attempt transactionId code hattempt hmark =>
    have hclaims : handedOut (⟨S, .worker i action,
        S.to i (.failing attempt (S.stage i).signingAttemptId transactionId code)⟩ :
        Transition (WorkerSys W ι) (WorkerLabel ι)) = none := by
      cases action <;> simp only [handedOut, to_stage_self]
    exact h.move (hfreezes _) hclaims hsame hkept ((hstage.later hkept).failing hattempt (.inr rfl))
  | @sign answer attempt id event hjournaled =>
    rw [hjournaled] at hstage
    refine h.move (hfreezes _) rfl hsame hkept ((hstage.later hkept).weaken ?_ ?_ ?_)
    · exact fun a ha => ha
    · exact fun id h' => h'
    · exact fun e he => he
  | @submit answer attempt id event hsigned =>
    rw [hsigned] at hstage
    refine h.move (hfreezes _) rfl hsame hkept ((hstage.later hkept).weaken ?_ ?_ ?_)
    · exact fun a ha => ha
    · exact fun id h' => h'
    · exact fun e he => he
  | @markBroadcast broadcastAt outcome attempt id event p stage hsubmitted hcommitted hp hnext =>
    rw [hsubmitted] at hstage
    have hrecords : RecordsKept S.journal (S.journal.markBroadcast id event.transactionId) :=
      recordsKept_modify fun _ => ⟨rfl, rfl⟩
    refine h.move (hfreezes _) rfl (.markBroadcast hp) hrecords ?_
    rcases hnext with rfl | ⟨transactionId, code, rfl⟩
    · exact stageInv_idle
    · exact (hstage.later hrecords).failing rfl (.inr rfl)
  | @markRetryableFailure failedAt now outcome attempt id transactionId code p hfailing hcommitted hp =>
    have hrecords : RecordsKept S.journal
        (S.journal.markFailed id transactionId (stableFailureCode code)) :=
      recordsKept_modify fun _ => ⟨rfl, rfl⟩
    exact h.move (hfreezes _) rfl (.markRetryableFailure hp) hrecords stageInv_idle
  | drop hmark =>
    have hclaims : handedOut (⟨S, .worker i action, S.to i .idle⟩ :
        Transition (WorkerSys W ι) (WorkerLabel ι)) = none := by
      cases action <;> simp only [handedOut, to_stage_self]
    exact h.move (hfreezes _) hclaims hsame hkept stageInv_idle

theorem journalInv_step (h : JournalInv ts S) (hl : WorkerStep W source S l S') :
    JournalInv (ts ++ [⟨S, l, S'⟩]) S' := by
  cases hl with
  | @other l base hother hstep =>
    have hclaims : handedOut (⟨S, .other l, { S with db := base.db, tables := base.tables }⟩ :
        Transition (WorkerSys W ι) (WorkerLabel ι)) = none := rfl
    have hstages : ∀ j, StageInv (ts ++ [⟨S, .other l, { S with db := base.db, tables := base.tables }⟩])
        S.journal j (S.stage j) := fun j => (h.stages j).later (.refl S.journal)
    rcases outbox_of_other hstep hother with
      ⟨frozen, publisherAccount, ids, now, rfl, hok⟩ | ⟨hnone, hrows⟩
    · have hrows := freezeNextBatch_outbox hok
      refine ⟨h.freezes.freeze rfl hrows (freezeNextBatch_fresh hok), ?_, hstages⟩
      rw [claims_snoc_none hclaims]
      refine h.attempts.keep fun row hrow => ⟨row, ?_, rfl, rfl, le_refl _⟩
      show row ∈ base.tables.outbox
      rw [Table.mem_def, hrows]
      exact List.mem_append_left _ hrow
    · refine ⟨h.freezes.keep hrows ?_, ?_, hstages⟩
      · rintro frozen ⟨publisherAccount, ids, now, heq⟩
        obtain rfl := WorkerLabel.other.inj heq
        exact hnone frozen publisherAccount ids now rfl
      · rw [claims_snoc_none hclaims]
        exact h.attempts.keep hrows.kept
  | @otherIntent row journal hok =>
    have hclaims : handedOut (⟨S, .otherIntent row, { S with journal := journal }⟩ :
        Transition (WorkerSys W ι) (WorkerLabel ι)) = none := rfl
    refine ⟨h.freezes.keep (.of_outbox_eq rfl) ?_, ?_, fun j => (h.stages j).later (.insertIntent hok)⟩
    · rintro frozen ⟨publisherAccount, ids, now, heq⟩
      cases heq
    · rw [claims_snoc_none hclaims]
      exact h.attempts
  | worker hok => exact h.performed (performed_of_perform hok)

theorem journalInv_run {game : Projector.GameTables}
    (h : Run (WorkerStep W source) (.start W ι game) ts S) : JournalInv ts S := by
  induction h with
  | refl => exact journalInv_start game
  | snoc hrun hl ih => exact journalInv_step ih hl

/-- **Attempts of a batch.**  In every run of the workers the attempts have distinct keys; whatever
is signed or broadcast is the item's frozen batch, under the key of a claimed attempt; and a signing
call comes after the acknowledged record of that attempt, which is in the journal. -/
theorem attempts_send_frozen_batch (game : Projector.GameTables)
    (h : Run (WorkerStep W source) (.start W ι game) ts S) :
    ((claims ts).map (idempotencyKey W)).Nodup ∧
      ∀ before t after, ts = before ++ t :: after → ∀ i,
        (∀ answer, t.label = .worker i (.submit answer) → ∃ attempt id event,
          t.pre.stage i = .signed attempt id event ∧ Sends ts before attempt event) ∧
        (∀ answer, t.label = .worker i (.sign answer) → ∃ attempt id event,
          t.pre.stage i = .journaled attempt id event ∧ Sends ts before attempt event ∧
            RecordedBy before i attempt id event ∧ ∃ row ∈ t.pre.journal, row.id = id ∧
              row.idempotencyKey = idempotencyKey W attempt) := by
  have hinv := journalInv_run h
  refine ⟨hinv.keys_nodup, ?_⟩
  rintro before t after rfl i
  obtain ⟨m, hbefore, hafter⟩ := h.of_append
  obtain ⟨rfl, hstep, -⟩ := hafter.of_cons
  have hmid := journalInv_run hbefore
  obtain ⟨pre, label, post⟩ := t
  constructor
  · rintro answer rfl
    cases hstep with
    | worker hok =>
      simp only [perform] at hok
      split at hok
      · rename_i attempt id event hstage
        exact ⟨attempt, id, event, hstage, hmid.sends hinv (by rw [hstage]; rfl) (by rw [hstage]; rfl)⟩
      · cases hok
  · rintro answer rfl
    cases hstep with
    | worker hok =>
      simp only [perform] at hok
      split at hok
      · rename_i attempt id event hstage
        have hattempt : (pre.stage i).attempt = some attempt := by rw [hstage]; rfl
        have hid : (pre.stage i).signingAttemptId = some id := by rw [hstage]; rfl
        have hevent : (pre.stage i).event = some event := by rw [hstage]; rfl
        exact ⟨attempt, id, event, hstage, hmid.sends hinv hattempt hevent,
          (hmid.stages i).done attempt id event hattempt hid hevent,
          (hmid.stages i).record attempt id hattempt hid⟩
      · cases hok

end Runs

/-! ### An attempt that is signed and broadcast -/

/-- The gateway of the example: one payload, one event. -/
abbrev workerCodec : EventCodec where
  Value := HiveChameleonEvent
  parseJson text := if text = "batch" then some (.matchResultsBatch publishedBatch) else none
  safeParse value := some value
  canonicalJson _ := "batch"
  event := id

theorem workerCodec_reads (payload : String) (event : HiveChameleonEvent) :
    parseHiveChameleonEvent publisherRuntime.toRuntime payload = .ok event ↔
      ∃ data, workerCodec.parseHiveChameleonEvent payload = .ok data ∧ data = event := by
  by_cases hpayload : payload = "batch"
  · subst hpayload
    have hcodec : workerCodec.parseHiveChameleonEvent "batch" =
        .ok (.matchResultsBatch publishedBatch) := by decide
    rw [parse_batch, hcodec]
    simp
  · refine ⟨fun h => absurd h (parse_ne_batch hpayload), ?_⟩
    rintro ⟨data, h, -⟩
    obtain ⟨-, ⟨value, hvalue, -⟩, -⟩ := workerCodec.parseHiveChameleonEvent_eq_ok.mp h
    rw [show workerCodec.parseJson payload = none from if_neg hpayload] at hvalue
    cases hvalue

theorem uuidText_injective : Function.Injective fun id : Uuid => toString id.val := by
  intro a b h
  have hdigits : Nat.toDigits 10 a.val = Nat.toDigits 10 b.val := by
    simpa only [Nat.toString_eq_repr, Nat.toList_repr] using congrArg String.toList h
  cases a
  cases b
  exact congrArg Uuid.mk (toDigits_injective hdigits)

abbrev workerConfig : WorkerConfig where
  runtime := publisherRuntime
  codec := workerCodec
  authorization :=
    { mode := .officialService
      role := .matchPublisher
      account := "publisher"
      authority := .posting
      expectedPublicKey := "STM7publisherpublisher"
      signerKeyReference := "kms/publisher"
      policyVersion := "v1" }
  transactionExpirationMs := 60
  claimLeaseMs := 10
  initialRetryBackoffMs := 1
  maximumRetryBackoffMs := 100
  uuidText id := toString id.val
  uuidText_injective := uuidText_injective
  reads := workerCodec_reads

/-- What the chain adapter prepares for the payload. -/
def preparedBatch : PreparedChainTransaction where
  unsignedTransactionJson := "transaction"
  signatureDigest := exampleDigest
  transactionId := "tx1"
  canonicalOperationJson := canonicalCustomJsonOperation (officialOperation "publisher" "batch")

def recordedRequest : PublicationLabel Bool :=
  .request ⟨⟨33⟩, .completed⟩ ⟨⟨12⟩, ⟨33⟩, .initial⟩
    ⟨⟨11⟩, ⟨33⟩, ⟨12⟩, .initial, .queued, 0, none, none, none, none⟩

/-- The awaits of one worker from its claim to its mark. -/
def publishSchedule (i : Bool) (now : Timestamp) (id : Uuid) : List (WorkerLabel Bool) :=
  [.worker i (.claim now), .worker i (.prepare id (.ok preparedBatch)), .worker i (.record .done),
   .worker i (.sign (.ok ⟨"signature", "STM7publisherpublisher"⟩)), .worker i (.submit (.ok ()))]

/-- The request is recorded and its batch frozen. -/
def frozenSchedule : List (WorkerLabel Bool) :=
  [.other recordedRequest, .other (.freeze publishedFrozen "publisher" (fun _ => ⟨41⟩) 1)]

/-- Follows a schedule of two workers on a fresh database. -/
def followWorkers (schedule : List (WorkerLabel Bool)) :
    Option (List (Transition (WorkerSys workerConfig Bool) (WorkerLabel Bool)) ×
      WorkerSys workerConfig Bool) :=
  replay (WorkerSys.exec "haf" 1000) (.start workerConfig Bool Projector.emptyGame) schedule

def workerSteps (schedule : List (WorkerLabel Bool)) :
    List (Transition (WorkerSys workerConfig Bool) (WorkerLabel Bool)) :=
  ((followWorkers schedule).map (·.1)).getD []

def workerState (schedule : List (WorkerLabel Bool)) : WorkerSys workerConfig Bool :=
  ((followWorkers schedule).map (·.2)).getD (.start workerConfig Bool Projector.emptyGame)

theorem followWorkers_run {schedule : List (WorkerLabel Bool)}
    {check : List (Transition (WorkerSys workerConfig Bool) (WorkerLabel Bool)) ×
      WorkerSys workerConfig Bool → Bool} (h : (followWorkers schedule).any check = true) :
    Run (WorkerStep workerConfig "haf") (.start workerConfig Bool Projector.emptyGame)
        (workerSteps schedule) (workerState schedule) ∧
      check (workerSteps schedule, workerState schedule) = true := by
  obtain ⟨run, hrun, hcheck⟩ := (Option.any_eq_true _ _).mp h
  rw [workerSteps, workerState, hrun]
  exact ⟨(replay_run WorkerSys.exec_sound hrun).1, hcheck⟩

/-- One worker crashes with its claim; after the lease the other one publishes the batch. -/
def retrySchedule : List (WorkerLabel Bool) :=
  frozenSchedule ++ [.worker true (.claim 10), .worker true .crash] ++ publishSchedule false 30 ⟨52⟩

/-- In that run there are two attempts, under two keys. -/
theorem attempts_send_frozen_batch_retry :
    (claims (workerSteps retrySchedule)).length = 2 ∧
      ((claims (workerSteps retrySchedule)).map (idempotencyKey workerConfig)).Nodup := by
  have htwo : (followWorkers retrySchedule).any (fun run => (claims run.1).length = 2) = true := by
    decide +kernel
  obtain ⟨hrun, hlength⟩ := followWorkers_run htwo
  simp only [decide_eq_true_eq] at hlength
  exact ⟨hlength, (attempts_send_frozen_batch Projector.emptyGame hrun).1⟩

end HiveChameleon.Publisher
