import HiveChameleon.Projector.Projector
import HiveChameleon.Projector.Sound

/-!
# Projector.Storable — which blocks of operations the store takes

Acceptance is decided by `validate`, storability by casts, unique indexes and triggers.  The two
meet in one condition on the operations of a block: `applyBlock` takes a block whose decisions
`validate` made exactly when every operation of the namespace is storable.
-/

namespace HiveChameleon.Projector

open Gateway Lib

/-! ### The condition -/

/-- The operation that a reverted event is still bound to. -/
def revertedBinding (t : ChainTables) (eventUuid : Uuid) : Option OperationRow :=
  (t.matchEvent.find? eventUuid).bind fun e =>
    if e.operationState = .reverted then t.operation.find? e.operationId else none

/-- An accepted match event of one of the operations has this identifier. -/
def Carried (R : Runtime) (policy : HiveEventValidationPolicy) (block : HafBlock)
    (operations : List HafOperation) (eventUuid : Uuid) : Prop :=
  ∃ operation ∈ operations, ∃ signer json event,
    Accepts R policy operation block signer json event ∧ matchEventType event ≠ none ∧
      event.eventId = eventUuid

/-- The text of an event can be cast to `jsonb`, and the period of a batch to `timestamptz`. -/
structure RowWritable (R : Runtime) (json : String) (event : HiveChameleonEvent) : Prop where
  jsonb : R.jsonb json ≠ none
  period : ∀ batch, event = .matchResultsBatch batch →
    R.timestamptz batch.periodStart ≠ none ∧ R.timestamptz batch.periodEnd ≠ none

/-- **Storable operations.**  The value has no NUL character and no lone surrogate; an accepted match
event that comes back after a revert has the very text of its reverted operation; any other accepted match
event can be written. -/
structure OperationStorable (R : Runtime) (policy : HiveEventValidationPolicy) (t : ChainTables)
    (block : HafBlock) (earlier : List HafOperation) (operation : HafOperation) : Prop where
  isJsonb : operation.value.isJsonb = true
  replay : ∀ signer json event old, Accepts R policy operation block signer json event →
    matchEventType event ≠ none → revertedBinding t event.eventId = some old →
      ¬ Carried R policy block earlier event.eventId → old.payload.json = some json
  write : ∀ signer json event, Accepts R policy operation block signer json event →
    matchEventType event ≠ none →
      revertedBinding t event.eventId = none ∨ Carried R policy block earlier event.eventId →
        RowWritable R json event

/-- Every operation of the namespace is storable after the ones before it. -/
def OperationsStorable (R : Runtime) (policy : HiveEventValidationPolicy) (t : ChainTables)
    (block : HafBlock) (operations : List HafOperation) : Prop :=
  ∀ earlier operation later, operations = earlier ++ operation :: later → InNamespace operation →
    OperationStorable R policy t block earlier operation

/-- What the source promises of the operations of a new block: indexes of the column's width, a
transaction behind each of them, and identities that no current operation has. -/
structure NewOperations (table : Table OperationRow (·.id)) (ids : ℕ → Uuid) (block : HafBlock)
    (operations : List HafOperation) : Prop where
  ids_injective : Function.Injective ids
  id_new : ∀ op ∈ table, ∀ k, op.id ≠ ids k
  in_block : ∀ operation ∈ operations,
    operation.blockNumber = block.number ∧ operation.timestamp = block.timestamp
  index : ∀ operation ∈ operations, operation.operationIndex < 2 ^ 31
  identity : ∀ operation ∈ operations, operation.isVirtual = true ∨ operation.transactionId ≠ none
  source_ids : (operations.map (·.sourceOperationId)).Nodup
  source_id_new : ∀ operation ∈ operations, ∀ op ∈ table, op.state ≠ .reverted →
    op.sourceOperationId ≠ operation.sourceOperationId
  positions : operations.Pairwise fun a b =>
    ¬ (b.transactionId ≠ none ∧ a.transactionId = b.transactionId ∧
      a.operationIndex = b.operationIndex)
  position_new : ∀ operation ∈ operations, ∀ op ∈ table, op.state ≠ .reverted →
    ¬ (operation.transactionId ≠ none ∧ op.transactionId = operation.transactionId ∧
      op.operationIndex = operation.operationIndex)

/-- A new block with new operations that follows the cursor. -/
structure WellPlaced (source : String) (t : ChainTables) (ids : ℕ → Uuid) (block : HafBlock)
    (operations : List HafOperation) : Prop extends NewOperations t.operation ids block operations where
  number : block.number = lastProcessed source t + 1
  parent : ∀ c, currentCheckpointRow t source (lastProcessed source t) = some c →
    c.blockId = block.previousId
  checkpoint_id : ∀ c ∈ t.blockCheckpoint, c.id ≠ ids 0

/-! ### What a row repeats -/

/-- The evidence of a decision repeats its operation and block. -/
structure Repeats (evidence : RawOperationEvidence) (operation : HafOperation) (block : HafBlock) :
    Prop where
  sourceOperationId : evidence.sourceOperationId = operation.sourceOperationId
  transactionId : evidence.transactionId = operation.transactionId
  operationIndex : evidence.operationIndex = operation.operationIndex
  isVirtual : evidence.isVirtual = operation.isVirtual
  blockNumber : evidence.blockNumber = operation.blockNumber
  blockId : evidence.blockId = block.id
  blockTimestamp : evidence.blockTimestamp = block.timestamp
  payload : evidence.payload = operation.value
  lowercase : evidence.primaryAccount.toList.map Char.toLower = evidence.primaryAccount.toList

theorem HiveAccount.toLower (account : HiveAccount) :
    account.name.toList.map Char.toLower = account.name.toList := by
  have h := account.normalized
  simp only [hiveAccountSchema, Bool.and_eq_true, beq_iff_eq] at h
  exact h.1.2

section Decision

variable {R : Runtime} {policy : HiveEventValidationPolicy} {operation : HafOperation}
  {block : HafBlock} {decision : OperationDecision}

theorem repeats_of_validate (h : validate R policy operation block = some decision) :
    Repeats decision.evidence operation block := by
  rcases validate_evidence h with heq | ⟨auths, postingAuths, id, json, -, heq⟩
  · rw [heq]
    have hunknown : "unknown".toList.map Char.toLower = "unknown".toList := by decide
    exact ⟨rfl, rfl, rfl, rfl, rfl, rfl, rfl, rfl, hunknown⟩
  · rw [heq]
    refine ⟨rfl, rfl, rfl, rfl, rfl, rfl, rfl, rfl, ?_⟩
    simp only [buildEvidence]
    cases postingAuths.head?.or auths.head? with
    | none => decide
    | some account => exact HiveAccount.toLower account

theorem operationChecks_of_validate (h : validate R policy operation block = some decision)
    (hindex : operation.operationIndex < 2 ^ 31)
    (hidentity : operation.isVirtual = true ∨ operation.transactionId ≠ none) (id cp : Uuid)
    (observedAt : Timestamp) :
    operationChecks (operationRow id cp decision observedAt) = .ok () := by
  have hrepeats := repeats_of_validate h
  simp only [operationChecks, bind_eq_ok, exists_unit, require_eq_ok]
  refine ⟨?_, ?_, hrepeats.lowercase, ⟨rfl, rfl⟩, ?_⟩
  · show decision.evidence.operationIndex < 2 ^ 31
    rw [hrepeats.operationIndex]
    exact hindex
  · show decision.evidence.isVirtual = true ∨ decision.evidence.transactionId ≠ none
    rw [hrepeats.isVirtual, hrepeats.transactionId]
    exact hidentity
  · rcases validate_cases h with ⟨signer, json, event, haccepts⟩ | ⟨hstate, hreason, -⟩
    · obtain rfl := Option.some.inj (h.symm.trans haccepts.validate)
      exact .inr (.inl ⟨rfl, Option.some_ne_none _, rfl⟩)
    · exact .inr (.inr ⟨hstate, Option.some_ne_none _, hreason⟩)

end Decision

/-! ### The statements of one decision -/

section Statements

variable {R : Runtime} {policy : HiveEventValidationPolicy} {operation : HafOperation}
  {block : HafBlock} {signer : HiveAccount} {json : String} {event : HiveChameleonEvent}
  {tx tx' : ChainTx}

theorem insertOperation_iff {row : OperationRow} :
    insertOperation row tx = .ok tx' ↔
      row.payload.isJsonb = true ∧ hcValidateOperationInsert tx.chain row = .ok () ∧
      operationChecks row = .ok () ∧
      (∀ op ∈ tx.chain.operation,
        ¬ (op.state ≠ .reverted ∧ op.sourceOperationId = row.sourceOperationId)) ∧
      (∀ op ∈ tx.chain.operation, ¬ (op.state ≠ .reverted ∧ row.transactionId ≠ none ∧
        op.transactionId = row.transactionId ∧ op.operationIndex = row.operationIndex)) ∧
      ∃ table, ((∀ op ∈ tx.chain.operation, op.id ≠ row.id) ∧
        table.rows = tx.chain.operation.rows ++ [row]) ∧
        ⟨{ tx.chain with operation := table }, tx.deferred ++
          [.checkpointOperationState row.checkpointId, .operationMatchEventState row.id]⟩ = tx' := by
  simp only [insertOperation, bind_eq_ok, exists_unit, require_eq_ok, pure_eq_ok,
    Table.insert_eq_ok, Table.mem_rows]

theorem Accepts.publisher (h : Accepts R policy operation block signer json event)
    (hmatch : matchEventType event ≠ none) :
    ∃ eventType publisher, matchEventType event = some eventType ∧
      eventPublisher event = some publisher ∧ publisher.name = signer.name := by
  have hallowed := h.allowed
  cases event with
  | matchResultsBatch e =>
    simp only [isSignerAllowed, Bool.and_eq_true, beq_iff_eq] at hallowed
    exact ⟨_, _, rfl, rfl, hallowed.2⟩
  | matchResultCorrected e =>
    simp only [isSignerAllowed, Bool.and_eq_true, beq_iff_eq] at hallowed
    exact ⟨_, _, rfl, rfl, hallowed.2⟩
  | matchResultInvalidated e =>
    simp only [isSignerAllowed, Bool.and_eq_true, beq_iff_eq] at hallowed
    exact ⟨_, _, rfl, rfl, hallowed.2⟩
  | collectibleIssued e => exact absurd rfl hmatch
  | collectibleRevoked e => exact absurd rfl hmatch

/-- The row of an accepted operation. -/
def acceptedRow (id cp : Uuid) (operation : HafOperation) (block : HafBlock) (signer : HiveAccount)
    (event : HiveChameleonEvent) (observedAt : Timestamp) : OperationRow :=
  operationRow id cp
    ⟨buildEvidence operation block [] [signer] hiveChameleonApplicationId, .accepted, none,
      some event⟩ observedAt

/-- The event that PostgreSQL reads in an accepted operation is the one that was parsed. -/
theorem Accepts.jsonb_eq (h : Accepts R policy operation block signer json event)
    {read : HiveChameleonEvent} (hread : operation.value.json.bind R.jsonb = some read) :
    read = event := by
  rw [h.value] at hread
  exact R.jsonb_eq (safeParse_of_parse h.parse) hread

theorem Accepts.evidence (h : Accepts R policy operation block signer json event)
    {id cp : Uuid} {observedAt : Timestamp} {e : MatchEventRow}
    (hpublisher : signer.name = e.publisherHiveAccount) (hincluded : block.timestamp = e.includedAt)
    (hjsonb : R.jsonb json ≠ none) (hagrees : payloadAgrees R operation.value event e) :
    EventEvidence R (acceptedRow id cp operation block signer event observedAt) e where
  operationType := .inr h.operationType
  requiredAuthority := rfl
  applicationId := rfl
  primaryAccount := hpublisher
  validationState := rfl
  includedAt := hincluded
  payload := by
    obtain ⟨read, hread⟩ := Option.ne_none_iff_exists'.mp hjsonb
    have hpayload : operation.value.json.bind R.jsonb = some read := by
      rw [h.value]
      exact hread
    obtain rfl := h.jsonb_eq hpayload
    exact ⟨read, hpayload, hagrees⟩

/-- A conflict is no failure: the trigger and the checks decide. -/
theorem insertMatchEvent_ok_iff {row : MatchEventRow} :
    (∃ tx', insertMatchEvent R row tx = .ok tx') ↔
      (∃ op, matchEventEvidence R tx.chain row = .ok op) ∧ matchEventChecks row = .ok () := by
  constructor
  · rintro ⟨tx', hok⟩
    simp only [insertMatchEvent, hcValidateMatchEventInsert, bind_eq_ok, exists_unit, pure_eq_ok]
      at hok
    obtain ⟨⟨op, hop, -⟩, hchecks, -⟩ := hok
    exact ⟨⟨op, hop⟩, hchecks⟩
  · rintro ⟨⟨op, hop⟩, hchecks⟩
    have htrigger : hcValidateMatchEventInsert R tx.chain row = .ok () :=
      bind_eq_ok.mpr ⟨op, hop, rfl⟩
    by_cases hconflict : matchEventConflict tx.chain row
    · refine ⟨tx, bind_eq_ok.mpr ⟨(), htrigger, bind_eq_ok.mpr ⟨(), hchecks, ?_⟩⟩⟩
      rw [if_pos hconflict]
      rfl
    · have hfresh : ∀ e ∈ tx.chain.matchEvent, e.eventUuid ≠ row.eventUuid := fun e he heq =>
        hconflict (by simp only [matchEventConflict, List.any_eq_true]; exact ⟨e, he, by simp [heq]⟩)
      cases hinsert : tx.chain.matchEvent.insert? row with
      | none =>
        obtain ⟨e, he, heq⟩ := Table.insert?_eq_none.mp hinsert
        exact absurd heq (hfresh e he)
      | some table =>
        refine ⟨⟨{ tx.chain with matchEvent := table },
          tx.deferred ++ [.operationMatchEventState row.operationId]⟩,
          bind_eq_ok.mpr ⟨(), htrigger, bind_eq_ok.mpr ⟨(), hchecks, ?_⟩⟩⟩
        rw [if_neg hconflict]
        exact bind_eq_ok.mpr ⟨table, Table.insert_eq_ok.mpr (Table.insert?_eq_some.mp hinsert), rfl⟩

theorem bindNullableTimestamptz_some {text : IsoTimestamp} {time : Option Timestamp} :
    bindNullableTimestamptz R (some text) = .ok time ↔
      ∃ read, R.timestamptz text = some read ∧ time = some read := by
  simp only [bindNullableTimestamptz, bindTimestamptz, bind_eq_ok, pure_eq_ok]
  cases R.timestamptz text with
  | none =>
    constructor
    · rintro ⟨_, h, -⟩
      cases h
    · rintro ⟨_, h, -⟩
      cases h
  | some read =>
    constructor
    · rintro ⟨_, hread, rfl⟩
      exact ⟨_, congrArg some (Except.ok.inj hread), rfl⟩
    · rintro ⟨_, hread, rfl⟩
      exact ⟨_, congrArg Except.ok (Option.some.inj hread), rfl⟩

/-- The columns of a new event agree with its payload as soon as the period could be bound. -/
theorem Accepts.payloadAgrees (h : Accepts R policy operation block signer json event)
    {eventType : MatchEventType} {publisher : HiveAccount} {id : Uuid}
    {periodStart periodEnd : Option Timestamp}
    (htype : matchEventType event = some eventType) (hpublisher : eventPublisher event = some publisher)
    (hsigner : publisher.name = signer.name)
    (hstart : bindNullableTimestamptz R (matchEventFields event).2.1 = .ok periodStart)
    (hend : bindNullableTimestamptz R (matchEventFields event).2.2.1 = .ok periodEnd) :
    payloadAgrees R operation.value event (matchEventRow event eventType publisher.name id periodStart
      periodEnd block.timestamp) := by
  rw [h.value]
  refine ⟨rfl, ?_, rfl, rfl, rfl, htype, ?_, fun hbatch => ?_⟩
  · show [signer.name] = [publisher.name]
    rw [hsigner]
  · rw [hpublisher]
    rfl
  · cases event with
    | matchResultsBatch e =>
      obtain ⟨start, hstartRead, rfl⟩ := bindNullableTimestamptz_some.mp hstart
      obtain ⟨stop, hendRead, rfl⟩ := bindNullableTimestamptz_some.mp hend
      refine ⟨rfl, ?_, ?_, hstartRead, hendRead, rfl, e.count_eq.symm⟩
      · rw [hstartRead]
        exact Option.some_ne_none _
      · rw [hendRead]
        exact Option.some_ne_none _
    | matchResultCorrected e => cases hbatch.symm.trans (Option.some.inj htype).symm
    | matchResultInvalidated e => cases hbatch.symm.trans (Option.some.inj htype).symm
    | collectibleIssued e => cases htype
    | collectibleRevoked e => cases htype

/-- What `hc_validate_match_event` and the checks make of the row of a new event. -/
theorem Accepts.insert_iff (h : Accepts R policy operation block signer json event)
    {eventType : MatchEventType} {publisher : HiveAccount} {id cp : Uuid} {observedAt : Timestamp}
    (htype : matchEventType event = some eventType) (hpublisher : eventPublisher event = some publisher)
    (hsigner : publisher.name = signer.name)
    (hop : acceptedRow id cp operation block signer event observedAt ∈ tx.chain.operation) :
    (∃ tx', (do
      let periodStart ← bindNullableTimestamptz R (matchEventFields event).2.1
      let periodEnd ← bindNullableTimestamptz R (matchEventFields event).2.2.1
      insertMatchEvent R (matchEventRow event eventType publisher.name id periodStart periodEnd
        block.timestamp) tx) = .ok tx') ↔ RowWritable R json event := by
  have hfind : tx.chain.operation.find? id =
      some (acceptedRow id cp operation block signer event observedAt) := Table.find?_key hop
  constructor
  · rintro ⟨tx', hok⟩
    simp only [bind_eq_ok] at hok
    obtain ⟨periodStart, hstart, periodEnd, hend, hok⟩ := hok
    obtain ⟨⟨op, hevidence⟩, hchecks⟩ := insertMatchEvent_ok_iff.mp ⟨tx', hok⟩
    obtain ⟨hop', hevidence⟩ := matchEventEvidence_eq_ok.mp hevidence
    obtain rfl := Option.some.inj (hfind.symm.trans hop')
    refine ⟨fun hnone => ?_, ?_⟩
    · obtain ⟨read, hread, -⟩ := hevidence.payload
      have hpayload : operation.value.json.bind R.jsonb = some read := hread
      rw [h.value] at hpayload
      cases hnone.symm.trans hpayload
    · rintro batch rfl
      obtain ⟨start, hstartRead, rfl⟩ := bindNullableTimestamptz_some.mp hstart
      obtain ⟨stop, hendRead, rfl⟩ := bindNullableTimestamptz_some.mp hend
      rw [hstartRead, hendRead]
      exact ⟨Option.some_ne_none _, Option.some_ne_none _⟩
  · intro hwritable
    have hperiod : ∃ periodStart periodEnd,
        bindNullableTimestamptz R (matchEventFields event).2.1 = .ok periodStart ∧
          bindNullableTimestamptz R (matchEventFields event).2.2.1 = .ok periodEnd ∧
          matchEventChecks (matchEventRow event eventType publisher.name id periodStart periodEnd
            block.timestamp) = .ok () := by
      simp only [matchEventChecks, bind_eq_ok, exists_unit, require_eq_ok]
      have hlower := HiveAccount.toLower publisher
      cases event with
      | matchResultsBatch e =>
        obtain ⟨hstarts, hends⟩ := hwritable.period e rfl
        obtain ⟨start, hstart⟩ := Option.ne_none_iff_exists'.mp hstarts
        obtain ⟨stop, hend⟩ := Option.ne_none_iff_exists'.mp hends
        have hle := R.period_le (safeParse_of_parse h.parse) hstart hend
        obtain rfl := Option.some.inj htype
        refine ⟨some start, some stop, bindNullableTimestamptz_some.mpr ⟨_, hstart, rfl⟩,
          bindNullableTimestamptz_some.mpr ⟨_, hend, rfl⟩,
          .inl ⟨rfl, Option.some_ne_none _, start, rfl, stop, rfl, hle⟩, hlower, ?_, ⟨rfl, rfl⟩, rfl,
          .inr ⟨(fun heq => by cases heq), rfl⟩⟩
        show 0 < e.resultCount
        rw [e.count_eq]
        exact e.count_bounds.1
      | matchResultCorrected e =>
        obtain rfl := Option.some.inj htype
        exact ⟨none, none, rfl, rfl, .inr ⟨(fun heq => by cases heq), rfl, rfl, rfl, rfl⟩, hlower, Nat.one_pos,
          ⟨rfl, rfl⟩, rfl, .inr ⟨(fun heq => by cases heq), rfl⟩⟩
      | matchResultInvalidated e =>
        obtain rfl := Option.some.inj htype
        exact ⟨none, none, rfl, rfl, .inr ⟨(fun heq => by cases heq), rfl, rfl, rfl, rfl⟩, hlower, Nat.one_pos,
          ⟨rfl, rfl⟩, rfl, .inr ⟨(fun heq => by cases heq), rfl⟩⟩
      | collectibleIssued e => cases htype
      | collectibleRevoked e => cases htype
    obtain ⟨periodStart, periodEnd, hstart, hend, hchecks⟩ := hperiod
    have hagrees : Projector.payloadAgrees R operation.value event (matchEventRow event eventType
        publisher.name id periodStart periodEnd block.timestamp) :=
      h.payloadAgrees htype hpublisher hsigner hstart hend
    have hevidence := matchEventEvidence_eq_ok.mpr
      ⟨hfind, h.evidence hsigner.symm rfl hwritable.jsonb hagrees⟩
    obtain ⟨tx', hok⟩ := insertMatchEvent_ok_iff.mpr ⟨⟨_, hevidence⟩, hchecks⟩
    exact ⟨tx', bind_eq_ok.mpr ⟨_, hstart, bind_eq_ok.mpr ⟨_, hend, hok⟩⟩⟩

/-- The operation and the text behind a reverted event that comes back. -/
structure Comes (R : Runtime) (tx : ChainTx) (e : MatchEventRow) (old : OperationRow) (id : Uuid) :
    Prop where
  mem : e ∈ tx.chain.matchEvent
  reverted : e.operationState = .reverted
  checks : matchEventChecks e = .ok ()
  bound : tx.chain.operation.find? e.operationId = some old
  evidence : EventEvidence R old e
  old_reverted : old.state = .reverted
  unbound : ∀ e ∈ tx.chain.matchEvent, e.operationId ≠ id

/-- A replay passes the triggers exactly with the text of the reverted operation. -/
theorem Accepts.replay_iff (h : Accepts R policy operation block signer json event)
    {e : MatchEventRow} {old : OperationRow} {id cp : Uuid} {observedAt : Timestamp}
    (hmatch : matchEventType event ≠ none)
    (hop : acceptedRow id cp operation block signer event observedAt ∈ tx.chain.operation)
    (he : Comes R tx e old id) (hid : e.eventUuid = event.eventId) :
    (∃ tx', replayMatchEvent R event.eventId id block.timestamp tx = .ok tx') ↔
      old.payload.json = some json := by
  have hfind : tx.chain.operation.find? id =
      some (acceptedRow id cp operation block signer event observedAt) := Table.find?_key hop
  have hreplays : isReplay e (e.replay id block.timestamp) :=
    ⟨he.reverted, rfl, rfl, fun heq => he.unbound e he.mem heq.symm⟩
  have honly : ∀ e' ∈ tx.chain.matchEvent,
      e'.eventUuid = event.eventId ∧ e'.operationState = .reverted → e' = e := fun e' he' hp =>
    Table.eq_of_key he' he.mem (hp.1.trans hid.symm)
  constructor
  · rintro ⟨tx', hok⟩
    simp only [replayMatchEvent, bind_eq_ok, exists_unit] at hok
    obtain ⟨hrows, -⟩ := updateMatchEvents_eq_ok.mp hok.2
    obtain ⟨htrigger, -⟩ := hrows e he.mem ⟨hid, he.reverted⟩
    simp only [hcValidateMatchEventUpdate, matchEventTransition, bind_eq_ok, exists_unit,
      require_eq_ok] at htrigger
    obtain ⟨op, hop', hreplay, -⟩ := htrigger
    obtain ⟨hop', -⟩ := matchEventEvidence_eq_ok.mp hop'
    obtain rfl := Option.some.inj (hfind.symm.trans hop')
    have hsame := hreplay hreplays
    unfold replayEvidence at hsame
    rw [he.bound] at hsame
    simp only [Option.any_some, Bool.and_eq_true, decide_eq_true_eq] at hsame
    have hjson : operation.value.json = old.payload.json := hsame.2
    rw [← hjson, h.value]
    rfl
  · intro hold
    obtain ⟨eventType, publisher, htype, hpublisher, hsigner⟩ := h.publisher hmatch
    obtain ⟨read, hread, hagrees⟩ := he.evidence.payload
    rw [hold] at hread
    have hread : R.jsonb json = some read := hread
    obtain rfl : read = event := R.jsonb_eq (safeParse_of_parse h.parse) hread
    -- the columns agreed with the same event under the reverted operation
    obtain ⟨auths, postingAuths, custom, text, hpayload⟩ : ∃ auths postingAuths custom text,
        old.payload = .customJson auths postingAuths custom text := by
      cases hvalue : old.payload with
      | customJson auths postingAuths custom text => exact ⟨_, _, _, _, rfl⟩
      | other value => rw [hvalue] at hold; cases hold
    rw [hpayload] at hagrees
    obtain ⟨-, -, -, hversion, huuid, htype', hname, hbatch⟩ := hagrees
    have hname : signer.name = e.publisherHiveAccount := by
      rw [hpublisher] at hname
      exact hsigner.symm.trans (Option.some.inj hname)
    have hnew : Projector.payloadAgrees R operation.value read (e.replay id block.timestamp) := by
      rw [h.value]
      refine ⟨rfl, ?_, rfl, hversion, huuid, htype', ?_, hbatch⟩
      · show [signer.name] = [e.publisherHiveAccount]
        rw [hname]
      · show (eventPublisher read).map (·.name) = some e.publisherHiveAccount
        rw [hpublisher, ← hname, ← hsigner]
        rfl
    have hjsonb : R.jsonb json ≠ none := by
      rw [hread]
      exact Option.some_ne_none _
    have hevidence : matchEventEvidence R tx.chain (e.replay id block.timestamp) =
        .ok (acceptedRow id cp operation block signer read observedAt) :=
      matchEventEvidence_eq_ok.mpr ⟨hfind, h.evidence hname rfl hjsonb hnew⟩
    have htransition : matchEventTransition tx.chain
        (acceptedRow id cp operation block signer read observedAt) e (e.replay id block.timestamp) =
        .ok () := by
      simp only [matchEventTransition, bind_eq_ok, exists_unit, require_eq_ok]
      refine ⟨fun _ => ?_, ⟨rfl, rfl, rfl, rfl, rfl, rfl, rfl, rfl, rfl⟩, fun _ => hreplays,
        .inr hreplays, fun hsame => ?_⟩
      · unfold replayEvidence
        rw [he.bound]
        simp only [Option.any_some, Bool.and_eq_true, decide_eq_true_eq]
        refine ⟨⟨he.old_reverted, rfl⟩, ?_⟩
        show operation.value.json = old.payload.json
        rw [hold, h.value]
        rfl
      · cases he.reverted.symm.trans hsame
    have hchecks : matchEventChecks (e.replay id block.timestamp) = .ok () := by
      have hold := he.checks
      simp only [matchEventChecks, bind_eq_ok, exists_unit, require_eq_ok] at hold ⊢
      obtain ⟨hshape, hlower, hcount, -, -⟩ := hold
      exact ⟨hshape, hlower, hcount, ⟨rfl, rfl⟩, rfl, .inr ⟨(fun heq => by cases heq), rfl⟩⟩
    refine ⟨_, bind_eq_ok.mpr ⟨(), require_eq_ok.mpr fun e' he' => .inr (he.unbound e' he'),
      updateMatchEvents_eq_ok.mpr ⟨fun e' he' hp => ?_, rfl⟩⟩⟩
    obtain rfl := honly e' he' hp
    exact ⟨bind_eq_ok.mpr ⟨_, hevidence, htransition⟩, hchecks⟩

end Statements

/-! ### The decisions of a block -/

/-- The deferred triggers that a block can queue. -/
def Queued (start : ChainTables) (cp : Uuid) : DeferredTrigger → Prop
  | .checkpointOperationState id => id = cp
  | .operationMatchEventState id => ∀ op ∈ start.operation, op.id ≠ id
  | .matchEventResultHeads eventUuid =>
    ∃ e ∈ start.matchEvent, e.eventUuid = eventUuid ∧ e.operationState = .reverted
  | .matchResultChangeHead _ => False

/-- The tables a block starts from once its checkpoint is in. -/
structure Opened (source : String) (start : ChainTables) (ids : ℕ → Uuid) (block : HafBlock)
    (observedAt : Timestamp) (operations : List HafOperation) : Prop
    extends NewOperations start.operation ids block operations where
  checkpoint : start.blockCheckpoint.find? (ids 0) =
    some (checkpointRow (ids 0) source block observedAt)
  event_state : ∀ e ∈ start.matchEvent,
    ∃ op ∈ start.operation, op.id = e.operationId ∧ op.state = e.operationState

/-- **The loop invariant of `applyBlock`**: the operations so far are the rows of the decisions so
far, and a reverted event waits exactly until one of them carries it. -/
structure Applying (R : Runtime) (policy : HiveEventValidationPolicy) (start : ChainTables)
    (ids : ℕ → Uuid) (block : HafBlock) (observedAt : Timestamp) (earlier : List HafOperation)
    (drawn : ℕ) (tx : ChainTx) : Prop where
  stored : Stored (ids 0) start tx.chain
  events : EventsSound R tx.chain
  added : ∀ op ∈ tx.chain.operation, op ∈ start.operation ∨
    ∃ operation ∈ earlier, ∃ decision, ∃ k < drawn,
      Repeats decision.evidence operation block ∧
        op = operationRow (ids k) (ids 0) decision observedAt
  pending : ∀ e ∈ start.matchEvent, e.operationState = .reverted →
    ¬ Carried R policy block earlier e.eventUuid → e ∈ tx.chain.matchEvent
  replayed : ∀ e ∈ tx.chain.matchEvent, e.operationState = .reverted →
    ¬ Carried R policy block earlier e.eventUuid
  queued : ∀ d ∈ tx.deferred, Queued start (ids 0) d

section Loop

variable {R : Runtime} {policy : HiveEventValidationPolicy} {source : String}
  {start : ChainTables} {ids : ℕ → Uuid} {block : HafBlock} {observedAt : Timestamp}
  {earlier later : List HafOperation} {operation : HafOperation} {decision : OperationDecision}
  {drawn : ℕ} {tx tx' : ChainTx} {signer : HiveAccount} {json : String} {event : HiveChameleonEvent}

theorem carried_append {eventUuid : Uuid} :
    Carried R policy block (earlier ++ [operation]) eventUuid ↔
      Carried R policy block earlier eventUuid ∨ Carried R policy block [operation] eventUuid := by
  constructor
  · rintro ⟨op, hop, hrest⟩
    rcases List.mem_append.mp hop with hop | hop
    · exact .inl ⟨op, hop, hrest⟩
    · exact .inr ⟨op, hop, hrest⟩
  · rintro (⟨op, hop, hrest⟩ | ⟨op, hop, hrest⟩)
    · exact ⟨op, List.mem_append_left _ hop, hrest⟩
    · exact ⟨op, List.mem_append_right _ hop, hrest⟩

theorem Accepts.unique (h : Accepts R policy operation block signer json event)
    {signer' : HiveAccount} {json' : String} {event' : HiveChameleonEvent}
    (h' : Accepts R policy operation block signer' json' event') :
    signer' = signer ∧ json' = json ∧ event' = event := by
  have hvalue := h'.value.symm.trans h.value
  simp only [OperationValue.customJson.injEq, JsString.text.injEq, List.cons.injEq, and_true,
    true_and] at hvalue
  obtain ⟨rfl, rfl⟩ := hvalue
  exact ⟨rfl, rfl, Except.ok.inj (h'.parse.symm.trans h.parse)⟩

theorem Accepts.carried_iff (h : Accepts R policy operation block signer json event)
    (hmatch : matchEventType event ≠ none) {eventUuid : Uuid} :
    Carried R policy block [operation] eventUuid ↔ event.eventId = eventUuid := by
  constructor
  · rintro ⟨op, hop, signer', json', event', h', -, hid⟩
    obtain rfl := List.mem_singleton.mp hop
    obtain ⟨-, -, rfl⟩ := h.unique h'
    exact hid
  · intro hid
    exact ⟨operation, List.mem_singleton_self _, signer, json, event, h, hmatch, hid⟩

/-- The row of a decision goes in exactly when its value is a `jsonb`. -/
theorem Applying.insert_ok_iff (happ : Applying R policy start ids block observedAt earlier drawn tx)
    (hopened : Opened source start ids block observedAt (earlier ++ operation :: later))
    (hvalidate : validate R policy operation block = some decision) :
    (∃ mid, insertOperation (operationRow (ids drawn) (ids 0) decision observedAt) tx = .ok mid) ↔
      operation.value.isJsonb = true := by
  have hrepeats := repeats_of_validate hvalidate
  have hmem : operation ∈ earlier ++ operation :: later :=
    List.mem_append_right _ List.mem_cons_self
  have hbefore : ∀ a ∈ earlier, a ∈ earlier ++ operation :: later := fun a ha =>
    List.mem_append_left _ ha
  constructor
  · rintro ⟨mid, hok⟩
    have hjson := (insertOperation_iff.mp hok).1
    have hpayload : decision.evidence.payload.isJsonb = true := hjson
    rw [hrepeats.payload] at hpayload
    exact hpayload
  · intro hjson
    have hcheckpoint : tx.chain.blockCheckpoint.find? (ids 0) =
        some (checkpointRow (ids 0) source block observedAt) := by
      rw [happ.stored.blockCheckpoint]
      exact hopened.checkpoint
    have htrigger : hcValidateOperationInsert tx.chain
        (operationRow (ids drawn) (ids 0) decision observedAt) = .ok () := by
      have hid : (operationRow (ids drawn) (ids 0) decision observedAt).checkpointId = ids 0 :=
        rfl
      unfold hcValidateOperationInsert
      rw [hid, hcheckpoint]
      refine require_eq_ok.mpr ⟨(fun heq => by cases heq), ?_, hrepeats.blockId.symm, hrepeats.blockTimestamp.symm⟩
      show block.number = decision.evidence.blockNumber
      rw [hrepeats.blockNumber]
      exact (hopened.in_block operation hmem).1.symm
    have hchecks := operationChecks_of_validate hvalidate (hopened.index operation hmem)
      (hopened.identity operation hmem) (ids drawn) (ids 0) observedAt
    have hsource : ∀ op ∈ tx.chain.operation, ¬ (op.state ≠ .reverted ∧
        op.sourceOperationId = decision.evidence.sourceOperationId) := by
      rintro op hop ⟨hstate, heq⟩
      rw [hrepeats.sourceOperationId] at heq
      rcases happ.added op hop with hop | ⟨before, hbefore', d, k, -, hrow, rfl⟩
      · exact hopened.source_id_new operation hmem op hop hstate heq
      · have hnodup := hopened.source_ids
        rw [List.map_append, List.map_cons] at hnodup
        have hdisjoint := (List.nodup_append.mp hnodup).2.2
        refine hdisjoint _ (List.mem_map_of_mem hbefore') _ List.mem_cons_self ?_
        exact hrow.sourceOperationId.symm.trans heq
    have hindex : ∀ op ∈ tx.chain.operation, ¬ (op.state ≠ .reverted ∧
        decision.evidence.transactionId ≠ none ∧
        op.transactionId = decision.evidence.transactionId ∧
        op.operationIndex = decision.evidence.operationIndex) := by
      rintro op hop ⟨hstate, htransaction, heq, hposition⟩
      rw [hrepeats.transactionId] at htransaction heq
      rw [hrepeats.operationIndex] at hposition
      rcases happ.added op hop with hop | ⟨before, hbefore', d, k, -, hrow, rfl⟩
      · exact hopened.position_new operation hmem op hop hstate ⟨htransaction, heq, hposition⟩
      · have hpairwise := (List.pairwise_append.mp hopened.positions).2.2
        exact hpairwise before hbefore' operation List.mem_cons_self
          ⟨htransaction, hrow.transactionId.symm.trans heq,
            hrow.operationIndex.symm.trans hposition⟩
    have hfresh : ∀ op ∈ tx.chain.operation, op.id ≠ ids drawn := by
      intro op hop heq
      rcases happ.added op hop with hop | ⟨before, -, d, k, hk, -, rfl⟩
      · exact hopened.id_new op hop drawn heq
      · exact absurd (hopened.ids_injective heq) (Nat.ne_of_lt hk)
    cases hinsert : tx.chain.operation.insert?
        (operationRow (ids drawn) (ids 0) decision observedAt) with
    | none =>
      obtain ⟨op, hop, heq⟩ := Table.insert?_eq_none.mp hinsert
      exact absurd heq (hfresh op hop)
    | some table =>
      refine ⟨_, insertOperation_iff.mpr ⟨?_, htrigger, hchecks, hsource, hindex, table,
        Table.insert?_eq_some.mp hinsert, rfl⟩⟩
      show decision.evidence.payload.isJsonb = true
      rw [hrepeats.payload]
      exact hjson

/-- No match event: storing the decision is inserting its operation. -/
theorem storeDecision_plain (hvalidate : validate R policy operation block = some decision)
    (hplain : ∀ signer json event, Accepts R policy operation block signer json event →
      matchEventType event = none) (id cp : Uuid) :
    storeDecision R cp id decision observedAt tx =
      insertOperation (operationRow id cp decision observedAt) tx := by
  unfold storeDecision
  cases insertOperation (operationRow id cp decision observedAt) tx with
  | error e => rfl
  | ok mid =>
    rcases validate_cases hvalidate with ⟨signer, json, event, haccepts⟩ | ⟨-, -, hevent⟩
    · obtain rfl := Option.some.inj (hvalidate.symm.trans haccepts.validate)
      have hnone := hplain signer json event haccepts
      simp only [bind, Except.bind, upsertIncludedMatchEvent, hnone, if_true]
      rfl
    · simp only [bind, Except.bind, hevent]
      rfl

/-- The reverted event that an accepted operation brings back waits in the tables. -/
theorem Applying.reverted_iff (happ : Applying R policy start ids block observedAt earlier drawn tx)
    {eventUuid : Uuid} :
    (∃ e ∈ tx.chain.matchEvent, e.eventUuid = eventUuid ∧ e.operationState = .reverted) ↔
      (∃ e ∈ start.matchEvent, e.eventUuid = eventUuid ∧ e.operationState = .reverted) ∧
        ¬ Carried R policy block earlier eventUuid := by
  constructor
  · rintro ⟨e, he, rfl, hstate⟩
    refine ⟨?_, happ.replayed e he hstate⟩
    rcases happ.stored.event e he with hin | ⟨hincluded, -⟩
    · exact ⟨e, hin, rfl, hstate⟩
    · cases hincluded.symm.trans hstate
  · rintro ⟨⟨e, he, rfl, hstate⟩, hcarried⟩
    exact ⟨e, happ.pending e he hstate hcarried, rfl, hstate⟩

theorem revertedBinding_eq_some {t : ChainTables} {eventUuid : Uuid} {old : OperationRow} :
    revertedBinding t eventUuid = some old ↔
      ∃ e ∈ t.matchEvent, e.eventUuid = eventUuid ∧ e.operationState = .reverted ∧
        t.operation.find? e.operationId = some old := by
  unfold revertedBinding
  constructor
  · intro h
    obtain ⟨e, hfind, h⟩ := Option.bind_eq_some_iff.mp h
    obtain ⟨he, hid⟩ := Table.find?_eq_some.mp hfind
    by_cases hstate : e.operationState = .reverted
    · rw [if_pos hstate] at h
      exact ⟨e, he, hid, hstate, h⟩
    · rw [if_neg hstate] at h
      cases h
  · rintro ⟨e, he, rfl, hstate, h⟩
    rw [Table.find?_key he, Option.bind_some, if_pos hstate]
    exact h

/-- With a reverted event of this identifier, the upsert is a replay. -/
theorem upsert_replay {eventType : MatchEventType} {publisher : HiveAccount} {id : Uuid}
    {time : Timestamp} (htype : matchEventType event = some eventType)
    (hpublisher : eventPublisher event = some publisher)
    (hreverted : ∃ e ∈ tx.chain.matchEvent,
      e.eventUuid = event.eventId ∧ e.operationState = .reverted) :
    upsertIncludedMatchEvent R id event time tx = replayMatchEvent R event.eventId id time tx := by
  unfold upsertIncludedMatchEvent
  rw [htype, hpublisher]
  refine if_pos ?_
  simp only [List.any_eq_true, Bool.and_eq_true, decide_eq_true_eq, Table.mem_rows]
  exact hreverted

theorem upsert_insert {eventType : MatchEventType} {publisher : HiveAccount} {id : Uuid}
    {time : Timestamp} (htype : matchEventType event = some eventType)
    (hpublisher : eventPublisher event = some publisher)
    (hnone : ¬ ∃ e ∈ tx.chain.matchEvent,
      e.eventUuid = event.eventId ∧ e.operationState = .reverted) :
    upsertIncludedMatchEvent R id event time tx = (do
      let periodStart ← bindNullableTimestamptz R (matchEventFields event).2.1
      let periodEnd ← bindNullableTimestamptz R (matchEventFields event).2.2.1
      insertMatchEvent R (matchEventRow event eventType publisher.name id periodStart periodEnd
        time) tx) := by
  unfold upsertIncludedMatchEvent
  rw [htype, hpublisher]
  refine if_neg fun h => hnone ?_
  simpa only [List.any_eq_true, Bool.and_eq_true, decide_eq_true_eq, Table.mem_rows] using h

/-- The event of an accepted operation, after the operation went in. -/
theorem Applying.upsert_ok_iff
    (happ : Applying R policy start ids block observedAt earlier drawn tx)
    (hstart : ∀ e ∈ start.matchEvent,
      ∃ op ∈ start.operation, op.id = e.operationId ∧ op.state = e.operationState)
    (haccepts : Accepts R policy operation block signer json event)
    (hmatch : matchEventType event ≠ none) {mid : ChainTx}
    (hmid : insertOperation (acceptedRow (ids drawn) (ids 0) operation block signer event observedAt)
      tx = .ok mid) :
    (∃ tx', upsertIncludedMatchEvent R (ids drawn) event block.timestamp mid = .ok tx') ↔
      (∀ old, revertedBinding start event.eventId = some old →
        ¬ Carried R policy block earlier event.eventId → old.payload.json = some json) ∧
      (revertedBinding start event.eventId = none ∨ Carried R policy block earlier event.eventId →
        RowWritable R json event) := by
  obtain ⟨eventType, publisher, htype, hpublisher, hsigner⟩ := haccepts.publisher hmatch
  obtain ⟨-, -, -, -, -, table, ⟨hfresh, hrows⟩, hmideq⟩ := insertOperation_iff.mp hmid
  have hevents : mid.chain.matchEvent = tx.chain.matchEvent := by rw [← hmideq]
  have htable : mid.chain.operation.rows = tx.chain.operation.rows ++
      [acceptedRow (ids drawn) (ids 0) operation block signer event observedAt] := by
    rw [← hmideq]
    exact hrows
  have hop : acceptedRow (ids drawn) (ids 0) operation block signer event observedAt ∈
      mid.chain.operation := by
    rw [Table.mem_def, htable]
    exact List.mem_append_right _ (List.mem_singleton_self _)
  have hkept : ∀ op ∈ tx.chain.operation, op ∈ mid.chain.operation := fun op h => by
    rw [Table.mem_def, htable]
    exact List.mem_append_left _ h
  by_cases hreverted : ∃ e ∈ tx.chain.matchEvent,
      e.eventUuid = event.eventId ∧ e.operationState = .reverted
  · obtain ⟨⟨e, he, hid, hstate⟩, hcarried⟩ := happ.reverted_iff.mp hreverted
    obtain ⟨old, hold, holdid, holdstate⟩ := hstart e he
    have hbinding : revertedBinding start event.eventId = some old :=
      revertedBinding_eq_some.mpr ⟨e, he, hid, hstate, Table.find?_eq_some.mpr ⟨hold, holdid⟩⟩
    have hetx : e ∈ tx.chain.matchEvent := happ.pending e he hstate (hid ▸ hcarried)
    obtain ⟨bound, hbound, hboundid, hevidence⟩ := happ.events.evidence e hetx
    have holdtx : old ∈ tx.chain.operation := happ.stored.mem_operation hold
    obtain rfl : bound = old := Table.eq_of_key hbound holdtx (hboundid.trans holdid.symm)
    have hcomes : Comes R mid e bound (ids drawn) := by
      refine ⟨hevents ▸ hetx, hstate, happ.events.checks e hetx,
        Table.find?_eq_some.mpr ⟨hkept bound hbound, holdid⟩, hevidence, holdstate.trans hstate,
        fun e' he' heq => ?_⟩
      rw [hevents] at he'
      obtain ⟨op', hop', hopid', -⟩ := happ.events.evidence e' he'
      exact hfresh op' hop' (hopid'.trans heq)
    rw [upsert_replay htype hpublisher (hevents ▸ hreverted),
      haccepts.replay_iff hmatch hop hcomes hid]
    constructor
    · intro hjson
      refine ⟨fun old' hold' _ => ?_, fun hor => ?_⟩
      · obtain rfl := Option.some.inj (hbinding.symm.trans hold')
        exact hjson
      · rcases hor with hnone | hin
        · cases hnone.symm.trans hbinding
        · exact absurd hin hcarried
    · rintro ⟨hreplay, -⟩
      exact hreplay bound hbinding hcarried
  · rw [upsert_insert htype hpublisher (hevents ▸ hreverted),
      haccepts.insert_iff htype hpublisher hsigner hop]
    have hor : revertedBinding start event.eventId = none ∨
        Carried R policy block earlier event.eventId := by
      by_cases hcarried : Carried R policy block earlier event.eventId
      · exact .inr hcarried
      · refine .inl (Option.eq_none_iff_forall_not_mem.mpr fun old hold => ?_)
        obtain ⟨e, he, hid, hstate, -⟩ := revertedBinding_eq_some.mp hold
        exact hreverted (happ.reverted_iff.mpr ⟨⟨e, he, hid, hstate⟩, hcarried⟩)
    constructor
    · intro hwritable
      refine ⟨fun old hold hcarried => ?_, fun _ => hwritable⟩
      rcases hor with hnone | hin
      · cases hnone.symm.trans hold
      · exact absurd hin hcarried
    · rintro ⟨-, hwrite⟩
      exact hwrite hor

/-- For an accepted match event the condition is about that event. -/
theorem Accepts.storable_iff (haccepts : Accepts R policy operation block signer json event)
    (hmatch : matchEventType event ≠ none) :
    OperationStorable R policy start block earlier operation ↔
      operation.value.isJsonb = true ∧
        (∀ old, revertedBinding start event.eventId = some old →
          ¬ Carried R policy block earlier event.eventId → old.payload.json = some json) ∧
        (revertedBinding start event.eventId = none ∨ Carried R policy block earlier event.eventId →
          RowWritable R json event) := by
  constructor
  · intro h
    exact ⟨h.isJsonb, fun old => h.replay signer json event old haccepts hmatch,
      h.write signer json event haccepts hmatch⟩
  · rintro ⟨hjson, hreplay, hwrite⟩
    refine ⟨hjson, fun s j e old ha _ => ?_, fun s j e ha _ => ?_⟩
    · obtain ⟨rfl, rfl, rfl⟩ := haccepts.unique ha
      exact hreplay old
    · obtain ⟨rfl, rfl, rfl⟩ := haccepts.unique ha
      exact hwrite

/-- **One decision is stored exactly when its operation is storable.** -/
theorem Applying.storeDecision_ok_iff
    (happ : Applying R policy start ids block observedAt earlier drawn tx)
    (hopened : Opened source start ids block observedAt (earlier ++ operation :: later))
    (hvalidate : validate R policy operation block = some decision) :
    (∃ tx', storeDecision R (ids 0) (ids drawn) decision observedAt tx = .ok tx') ↔
      OperationStorable R policy start block earlier operation := by
  have hinsert := happ.insert_ok_iff hopened hvalidate
  by_cases hplain : ∀ signer json event, Accepts R policy operation block signer json event →
      matchEventType event = none
  · rw [storeDecision_plain hvalidate hplain, hinsert]
    exact ⟨fun h => ⟨h, fun s j e _ ha hm => absurd (hplain s j e ha) hm,
      fun s j e ha hm => absurd (hplain s j e ha) hm⟩, fun h => h.isJsonb⟩
  · simp only [not_forall] at hplain
    obtain ⟨signer, json, event, haccepts, hmatch⟩ := hplain
    obtain rfl := Option.some.inj (hvalidate.symm.trans haccepts.validate)
    rw [haccepts.storable_iff hmatch, ← hinsert]
    constructor
    · rintro ⟨tx', hok⟩
      simp only [storeDecision, bind_eq_ok] at hok
      obtain ⟨mid, hins, hups⟩ := hok
      have hups : upsertIncludedMatchEvent R (ids drawn) event block.timestamp mid = .ok tx' := hups
      exact ⟨⟨mid, hins⟩, (happ.upsert_ok_iff hopened.event_state haccepts hmatch hins).mp ⟨tx', hups⟩⟩
    · rintro ⟨⟨mid, hins⟩, hcond⟩
      obtain ⟨tx', hups⟩ :=
        (happ.upsert_ok_iff hopened.event_state haccepts hmatch hins).mpr hcond
      exact ⟨tx', bind_eq_ok.mpr ⟨mid, hins, hups⟩⟩

/-- An operation that carries no match event leaves the reverted events waiting. -/
theorem carried_plain (hplain : ∀ signer json event,
      Accepts R policy operation block signer json event → matchEventType event = none)
    {eventUuid : Uuid} :
    Carried R policy block (earlier ++ [operation]) eventUuid ↔
      Carried R policy block earlier eventUuid := by
  rw [carried_append]
  refine or_iff_left ?_
  rintro ⟨op, hop, signer, json, event, haccepts, hmatch, -⟩
  obtain rfl := List.mem_singleton.mp hop
  exact hmatch (hplain signer json event haccepts)

theorem Applying.skip (happ : Applying R policy start ids block observedAt earlier drawn tx)
    (hvalidate : validate R policy operation block = none) :
    Applying R policy start ids block observedAt (earlier ++ [operation]) drawn tx := by
  have hplain : ∀ signer json event, Accepts R policy operation block signer json event →
      matchEventType event = none := fun signer json event haccepts =>
    absurd haccepts.inNamespace (validate_eq_none.mp hvalidate)
  refine ⟨happ.stored, happ.events, fun op hop => ?_, fun e he hstate hcarried => ?_,
    fun e he hstate => ?_, happ.queued⟩
  · rcases happ.added op hop with hin | ⟨before, hbefore, hrest⟩
    · exact .inl hin
    · exact .inr ⟨before, List.mem_append_left _ hbefore, hrest⟩
  · exact happ.pending e he hstate fun h => hcarried ((carried_plain hplain).mpr h)
  · exact fun h => happ.replayed e he hstate ((carried_plain hplain).mp h)

/-- The events and triggers after one stored decision. -/
structure EventsStepped (R : Runtime) (policy : HiveEventValidationPolicy) (start : ChainTables)
    (cp : Uuid) (block : HafBlock) (operations : List HafOperation) (tx : ChainTx) : Prop where
  pending : ∀ e ∈ start.matchEvent, e.operationState = .reverted →
    ¬ Carried R policy block operations e.eventUuid → e ∈ tx.chain.matchEvent
  replayed : ∀ e ∈ tx.chain.matchEvent, e.operationState = .reverted →
    ¬ Carried R policy block operations e.eventUuid
  queued : ∀ d ∈ tx.deferred, Queued start cp d

theorem Applying.queued_insert
    (happ : Applying R policy start ids block observedAt earlier drawn tx)
    (hnew : ∀ op ∈ start.operation, ∀ k, op.id ≠ ids k) :
    ∀ d ∈ tx.deferred ++ [.checkpointOperationState (ids 0), .operationMatchEventState (ids drawn)],
      Queued start (ids 0) d := by
  intro d hd
  rcases List.mem_append.mp hd with hd | hd
  · exact happ.queued d hd
  · rcases List.mem_cons.mp hd with rfl | hd
    · rfl
    · obtain rfl := List.mem_singleton.mp hd
      exact fun op hop => hnew op hop drawn

theorem Applying.stepped_plain
    (happ : Applying R policy start ids block observedAt earlier drawn tx)
    (hnew : ∀ op ∈ start.operation, ∀ k, op.id ≠ ids k)
    (hplain : ∀ signer json event, Accepts R policy operation block signer json event →
      matchEventType event = none)
    (hok : insertOperation (operationRow (ids drawn) (ids 0) decision observedAt) tx = .ok tx') :
    EventsStepped R policy start (ids 0) block (earlier ++ [operation]) tx' := by
  obtain ⟨-, -, -, -, -, table, -, rfl⟩ := insertOperation_iff.mp hok
  refine ⟨fun e he hstate hcarried => ?_, fun e he hstate hcarried => ?_, happ.queued_insert hnew⟩
  · exact happ.pending e he hstate fun h => hcarried ((carried_plain hplain).mpr h)
  · exact happ.replayed e he hstate ((carried_plain hplain).mp hcarried)

theorem Applying.stepped_replay
    (happ : Applying R policy start ids block observedAt earlier drawn tx)
    (hnew : ∀ op ∈ start.operation, ∀ k, op.id ≠ ids k)
    (haccepts : Accepts R policy operation block signer json event)
    (hmatch : matchEventType event ≠ none) {mid : ChainTx}
    (hmid : insertOperation (operationRow (ids drawn) (ids 0) decision observedAt) tx = .ok mid)
    (hok : replayMatchEvent R event.eventId (ids drawn) block.timestamp mid = .ok tx') :
    EventsStepped R policy start (ids 0) block (earlier ++ [operation]) tx' := by
  obtain ⟨-, -, -, -, -, table, -, rfl⟩ := insertOperation_iff.mp hmid
  simp only [replayMatchEvent, bind_eq_ok, exists_unit] at hok
  obtain ⟨-, rfl⟩ := updateMatchEvents_eq_ok.mp hok.2
  have hcarries : ∀ eventUuid, Carried R policy block (earlier ++ [operation]) eventUuid ↔
      Carried R policy block earlier eventUuid ∨ event.eventId = eventUuid := fun eventUuid => by
    rw [carried_append, haccepts.carried_iff hmatch]
  refine ⟨fun e he hstate hcarried => ?_, fun e he hstate hcarried => ?_, fun d hd => ?_⟩
  · rw [hcarries, not_or] at hcarried
    refine Table.mem_modify_of_not (happ.pending e he hstate hcarried.1) ?_
    exact fun hp => hcarried.2 hp.1.symm
  · rcases Table.mem_modify_cases he with ⟨old, -, -, rfl⟩ | ⟨hin, hnot⟩
    · cases hstate
    · rcases (hcarries e.eventUuid).mp hcarried with hcarried | hid
      · exact happ.replayed e hin hstate hcarried
      · exact hnot ⟨hid.symm, hstate⟩
  · rcases List.mem_append.mp hd with hd | hd
    · exact happ.queued_insert hnew d hd
    · obtain ⟨e, he, hd⟩ := List.mem_flatMap.mp hd
      obtain ⟨hin, hp⟩ := List.mem_filter.mp he
      have hp : e.eventUuid = event.eventId ∧ e.operationState = .reverted := by simpa using hp
      rcases List.mem_cons.mp hd with rfl | hd
      · exact fun op hop => hnew op hop drawn
      · obtain rfl := List.mem_singleton.mp hd
        rcases happ.stored.event e hin with hstart | ⟨hincluded, -⟩
        · exact ⟨e, hstart, rfl, hp.2⟩
        · cases hincluded.symm.trans hp.2

theorem Applying.stepped_insert
    (happ : Applying R policy start ids block observedAt earlier drawn tx)
    (hnew : ∀ op ∈ start.operation, ∀ k, op.id ≠ ids k)
    (haccepts : Accepts R policy operation block signer json event)
    (hmatch : matchEventType event ≠ none) {mid : ChainTx}
    (hnone : ¬ ∃ e ∈ tx.chain.matchEvent,
      e.eventUuid = event.eventId ∧ e.operationState = .reverted)
    (hmid : insertOperation (operationRow (ids drawn) (ids 0) decision observedAt) tx = .ok mid)
    {row : MatchEventRow} (hrow : row.operationState = .included ∧ row.operationId = ids drawn)
    (hok : insertMatchEvent R row mid = .ok tx') :
    EventsStepped R policy start (ids 0) block (earlier ++ [operation]) tx' := by
  obtain ⟨-, -, -, -, -, table, -, rfl⟩ := insertOperation_iff.mp hmid
  have hcarries : ∀ eventUuid, Carried R policy block (earlier ++ [operation]) eventUuid ↔
      Carried R policy block earlier eventUuid ∨ event.eventId = eventUuid := fun eventUuid => by
    rw [carried_append, haccepts.carried_iff hmatch]
  have hpending : ∀ e ∈ start.matchEvent, e.operationState = .reverted →
      ¬ Carried R policy block (earlier ++ [operation]) e.eventUuid → e ∈ tx.chain.matchEvent := by
    intro e he hstate hcarried
    rw [hcarries, not_or] at hcarried
    exact happ.pending e he hstate hcarried.1
  have hreplayed : ∀ e ∈ tx.chain.matchEvent, e.operationState = .reverted →
      ¬ Carried R policy block (earlier ++ [operation]) e.eventUuid := by
    intro e he hstate hcarried
    rcases (hcarries e.eventUuid).mp hcarried with hcarried | hid
    · exact happ.replayed e he hstate hcarried
    · exact hnone ⟨e, he, hid.symm, hstate⟩
  simp only [insertMatchEvent, bind_eq_ok, exists_unit] at hok
  obtain ⟨-, -, hok⟩ := hok
  split at hok
  · obtain rfl := pure_eq_ok.mp hok
    exact ⟨hpending, hreplayed, happ.queued_insert hnew⟩
  · simp only [bind_eq_ok, Table.insert_eq_ok, pure_eq_ok] at hok
    obtain ⟨events, ⟨-, hrows⟩, rfl⟩ := hok
    refine ⟨fun e he hstate hcarried => ?_, fun e he hstate hcarried => ?_, fun d hd => ?_⟩
    · show e ∈ events
      rw [Table.mem_def, hrows]
      exact List.mem_append_left _ (hpending e he hstate hcarried)
    · have he : e ∈ events := he
      rw [Table.mem_def, hrows] at he
      rcases List.mem_append.mp he with hin | hin
      · exact hreplayed e hin hstate hcarried
      · obtain rfl := List.mem_singleton.mp hin
        cases hrow.1.symm.trans hstate
    · rcases List.mem_append.mp hd with hd | hd
      · exact happ.queued_insert hnew d hd
      · obtain rfl := List.mem_singleton.mp hd
        exact fun op hop => hrow.2 ▸ hnew op hop drawn

/-- **One stored decision keeps the loop invariant.** -/
theorem Applying.step (happ : Applying R policy start ids block observedAt earlier drawn tx)
    (hnew : ∀ op ∈ start.operation, ∀ k, op.id ≠ ids k)
    (hvalidate : validate R policy operation block = some decision)
    (hok : storeDecision R (ids 0) (ids drawn) decision observedAt tx = .ok tx') :
    Applying R policy start ids block observedAt (earlier ++ [operation]) (drawn + 1) tx' := by
  have hstepped : EventsStepped R policy start (ids 0) block (earlier ++ [operation]) tx' := by
    by_cases hplain : ∀ signer json event, Accepts R policy operation block signer json event →
        matchEventType event = none
    · rw [storeDecision_plain hvalidate hplain] at hok
      exact happ.stepped_plain hnew hplain hok
    · simp only [not_forall] at hplain
      obtain ⟨signer, json, event, haccepts, hmatch⟩ := hplain
      obtain rfl := Option.some.inj (hvalidate.symm.trans haccepts.validate)
      obtain ⟨eventType, publisher, htype, hpublisher, -⟩ := haccepts.publisher hmatch
      simp only [storeDecision, bind_eq_ok] at hok
      obtain ⟨mid, hmid, hups⟩ := hok
      have hups : upsertIncludedMatchEvent R (ids drawn) event block.timestamp mid = .ok tx' := hups
      have hevents : mid.chain.matchEvent = tx.chain.matchEvent := by
        obtain ⟨-, -, -, -, -, table, -, rfl⟩ := insertOperation_iff.mp hmid
        rfl
      by_cases hreverted : ∃ e ∈ tx.chain.matchEvent,
          e.eventUuid = event.eventId ∧ e.operationState = .reverted
      · rw [upsert_replay htype hpublisher (hevents ▸ hreverted)] at hups
        exact happ.stepped_replay hnew haccepts hmatch hmid hups
      · rw [upsert_insert htype hpublisher (hevents ▸ hreverted)] at hups
        simp only [bind_eq_ok] at hups
        obtain ⟨periodStart, -, periodEnd, -, hups⟩ := hups
        exact happ.stepped_insert hnew haccepts hmatch hreverted hmid ⟨rfl, rfl⟩ hups
  refine ⟨happ.stored.trans (storeDecision_stored hok), happ.events.storeDecision hok,
    fun op hop => ?_, hstepped.pending, hstepped.replayed, hstepped.queued⟩
  rw [Table.mem_def, storeDecision_operation hok] at hop
  rcases List.mem_append.mp hop with hop | hop
  · rcases happ.added op hop with hin | ⟨before, hbefore, d, k, hk, hrest⟩
    · exact .inl hin
    · exact .inr ⟨before, List.mem_append_left _ hbefore, d, k, Nat.lt_succ_of_lt hk, hrest⟩
  · refine .inr ⟨operation, List.mem_append_right _ (List.mem_singleton_self _), decision, drawn,
      Nat.lt_succ_self _, repeats_of_validate hvalidate, List.mem_singleton.mp hop⟩

/-- **The loop runs through exactly on storable operations**, each after the ones before it. -/
theorem Applying.storeDecisions_ok_iff :
    ∀ {operations earlier : List HafOperation} {drawn : ℕ} {tx : ChainTx},
      Applying R policy start ids block observedAt earlier drawn tx →
      Opened source start ids block observedAt (earlier ++ operations) →
      ((∃ tx', storeDecisions R ids (ids 0) observedAt drawn
          (operations.filterMap fun operation => validate R policy operation block) tx = .ok tx') ↔
        ∀ before operation after, operations = before ++ operation :: after →
          InNamespace operation →
            OperationStorable R policy start block (earlier ++ before) operation)
  | [], earlier, drawn, tx, happ, hopened => by
    refine ⟨fun _ before operation after heq => ?_, fun _ => ⟨tx, rfl⟩⟩
    exact absurd heq.symm (List.append_ne_nil_of_right_ne_nil _ (List.cons_ne_nil _ _))
  | operation :: operations, earlier, drawn, tx, happ, hopened => by
    have happend : earlier ++ operation :: operations = (earlier ++ [operation]) ++ operations := by
      rw [List.append_assoc, List.singleton_append]
    -- the first operation is judged after `earlier`, the others after `earlier ++ [operation]`
    have hsplit : (∀ before op after, operation :: operations = before ++ op :: after →
          InNamespace op → OperationStorable R policy start block (earlier ++ before) op) ↔
        (InNamespace operation → OperationStorable R policy start block earlier operation) ∧
          ∀ before op after, operations = before ++ op :: after → InNamespace op →
            OperationStorable R policy start block ((earlier ++ [operation]) ++ before) op := by
      constructor
      · intro h
        refine ⟨fun hin => ?_, fun before op after heq hin => ?_⟩
        · have hfirst := h [] operation operations rfl hin
          rwa [List.append_nil] at hfirst
        · have hnext := h (operation :: before) op after (by rw [heq]; rfl) hin
          rwa [List.append_assoc, List.singleton_append]
      · rintro ⟨hfirst, hrest⟩ before op after heq hin
        cases before with
        | nil =>
          obtain ⟨rfl, rfl⟩ := List.cons.inj heq
          rw [List.append_nil]
          exact hfirst hin
        | cons first before =>
          obtain ⟨rfl, htail⟩ := List.cons.inj heq
          have hnext := hrest before op after htail hin
          rwa [List.append_assoc, List.singleton_append] at hnext
    rw [hsplit, List.filterMap_cons]
    cases hvalidate : validate R policy operation block with
    | none =>
      have hout : ¬ InNamespace operation := validate_eq_none.mp hvalidate
      rw [storeDecisions_ok_iff (happ.skip hvalidate) (happend ▸ hopened)]
      exact ⟨fun h => ⟨fun hin => absurd hin hout, h⟩, fun h => h.2⟩
    | some decision =>
      have hin : InNamespace operation := by
        by_contra hout
        cases hvalidate.symm.trans (validate_eq_none.mpr hout)
      have hone := happ.storeDecision_ok_iff hopened hvalidate
      constructor
      · rintro ⟨tx', hok⟩
        simp only [storeDecisions, bind_eq_ok] at hok
        obtain ⟨mid, hmid, hok⟩ := hok
        refine ⟨fun _ => hone.mp ⟨mid, hmid⟩, ?_⟩
        exact (storeDecisions_ok_iff (happ.step hopened.id_new hvalidate hmid)
          (happend ▸ hopened)).mp ⟨tx', hok⟩
      · rintro ⟨hfirst, hrest⟩
        obtain ⟨mid, hmid⟩ := hone.mpr (hfirst hin)
        obtain ⟨tx', hok⟩ := (storeDecisions_ok_iff (happ.step hopened.id_new hvalidate hmid)
          (happend ▸ hopened)).mpr hrest
        exact ⟨tx', bind_eq_ok.mpr ⟨mid, hmid, hok⟩⟩

theorem Applying.storeDecisions :
    ∀ {operations earlier : List HafOperation} {drawn : ℕ} {tx tx' : ChainTx},
      Applying R policy start ids block observedAt earlier drawn tx →
      (∀ op ∈ start.operation, ∀ k, op.id ≠ ids k) →
      storeDecisions R ids (ids 0) observedAt drawn
        (operations.filterMap fun operation => validate R policy operation block) tx = .ok tx' →
      ∃ drawn', Applying R policy start ids block observedAt (earlier ++ operations) drawn' tx'
  | [], earlier, drawn, tx, tx', happ, _, hok => by
    obtain rfl : tx = tx' := by simpa [Projector.storeDecisions] using hok
    exact ⟨drawn, by rwa [List.append_nil]⟩
  | operation :: operations, earlier, drawn, tx, tx', happ, hnew, hok => by
    have happend : earlier ++ operation :: operations = (earlier ++ [operation]) ++ operations := by
      rw [List.append_assoc, List.singleton_append]
    rw [happend]
    rw [List.filterMap_cons] at hok
    cases hvalidate : validate R policy operation block with
    | none =>
      rw [hvalidate] at hok
      exact Applying.storeDecisions (happ.skip hvalidate) hnew hok
    | some decision =>
      rw [hvalidate] at hok
      simp only [Projector.storeDecisions, bind_eq_ok] at hok
      obtain ⟨mid, hmid, hok⟩ := hok
      exact Applying.storeDecisions (happ.step hnew hvalidate hmid) hnew hok

theorem Applying.deferred_ok {v : ViewTables}
    (happ : Applying R policy start ids block observedAt earlier drawn tx)
    (hopened : Opened source start ids block observedAt earlier)
    (hcheckpoint : ∀ op ∈ start.operation, op.checkpointId ≠ ids 0)
    (hviews : ViewsSettled start v) {t : ChainTables}
    (hblock : t.blockCheckpoint = tx.chain.blockCheckpoint)
    (hoperation : t.operation = tx.chain.operation) (hevent : t.matchEvent = tx.chain.matchEvent) :
    ∀ d ∈ tx.deferred, d.check t v = .ok () := by
  intro d hd
  have hqueued := happ.queued d hd
  cases d with
  | checkpointOperationState id =>
    obtain rfl : id = ids 0 := hqueued
    show hcCheckCheckpointOperationState t (ids 0) = .ok ()
    unfold hcCheckCheckpointOperationState
    rw [hblock, happ.stored.blockCheckpoint, hopened.checkpoint]
    refine require_eq_ok.mpr fun op hop hid => ?_
    rw [hoperation] at hop
    rcases happ.added op hop with hin | ⟨-, -, decision, k, -, -, rfl⟩
    · exact absurd hid (hcheckpoint op hin)
    · rfl
  | operationMatchEventState id =>
    show hcCheckOperationMatchEventState t id = .ok ()
    unfold hcCheckOperationMatchEventState
    rw [hoperation]
    cases hfind : tx.chain.operation.find? id with
    | none => rfl
    | some op =>
      obtain ⟨hop, hid⟩ := Table.find?_eq_some.mp hfind
      refine require_eq_ok.mpr fun e he hbound => ?_
      rw [hevent] at he
      obtain ⟨op', hop', hid', hevidence⟩ := happ.events.evidence e he
      obtain rfl : op' = op := Table.eq_of_key hop' hop (hid'.trans (hbound.trans hid.symm))
      refine ⟨?_, hevidence.validationState⟩
      rcases happ.stored.event e he with hin | ⟨hstate, op'', hop'', hid'', -, hstate''⟩
      · -- an event of before hangs on an operation of before
        obtain ⟨old, hold, hold', -⟩ := hopened.event_state e hin
        exact absurd (hold'.trans hbound) (hqueued old hold)
      · obtain rfl : op'' = op' := Table.eq_of_key hop'' hop' (hid''.trans hid'.symm)
        exact hstate''.trans hstate.symm
  | matchEventResultHeads eventUuid =>
    obtain ⟨e, he, hid, hstate⟩ := hqueued
    -- a reverted event has no result: everything materialized is irreversible
    have hunsettled : ¬ Settled start eventUuid := by
      rintro ⟨e', he', hid', hstate'⟩
      obtain rfl : e' = e := Table.eq_of_key he' he (hid'.trans hid.symm)
      cases hstate.symm.trans hstate'
    have hnone : affectedResults v eventUuid = [] := by
      refine List.append_eq_nil_iff.mpr ⟨?_, ?_⟩
      · rw [List.map_eq_nil_iff, List.filter_eq_nil_iff]
        intro result hresult hmatch
        simp only [Bool.or_eq_true, decide_eq_true_eq] at hmatch
        rcases hmatch with heq | heq
        · exact hunsettled (heq ▸ hviews.initial result hresult)
        · exact hunsettled (heq ▸ hviews.current result hresult)
      · rw [List.map_eq_nil_iff, List.filter_eq_nil_iff]
        intro change hchange hmatch
        simp only [Bool.or_eq_true, decide_eq_true_eq] at hmatch
        obtain ⟨h₁, h₂, h₃⟩ := hviews.change change hchange
        rcases hmatch with (heq | heq) | heq
        · exact hunsettled (heq ▸ h₁)
        · exact hunsettled (heq ▸ h₂)
        · exact hunsettled (heq ▸ h₃)
    show hcCheckMatchEventResultHeads t v eventUuid = .ok ()
    unfold hcCheckMatchEventResultHeads
    rw [hnone]
    rfl
  | matchResultChangeHead change => exact absurd hqueued id

end Loop

/-! ### The whole block -/

section Block

variable {R : Runtime} {policy : HiveEventValidationPolicy} {source : String} {ids : ℕ → Uuid}
  {block : HafBlock} {observedAt : Timestamp} {operations : List HafOperation} {db db' : Db}

theorem insertCheckpoint_iff {row : BlockCheckpointRow} {tx tx' : ChainTx} :
    insertCheckpoint row tx = .ok tx' ↔
      stateEvidence row.state row.irreversibleAt row.revertedAt ∧
      (∀ c ∈ tx.chain.blockCheckpoint, ¬ (c.source = row.source ∧ c.blockId = row.blockId)) ∧
      (∀ c ∈ tx.chain.blockCheckpoint,
        ¬ (c.Current row.source ∧ c.blockNumber = row.blockNumber)) ∧
      ∃ table, ((∀ c ∈ tx.chain.blockCheckpoint, c.id ≠ row.id) ∧
        table.rows = tx.chain.blockCheckpoint.rows ++ [row]) ∧
        ⟨{ tx.chain with blockCheckpoint := table },
          tx.deferred ++ [.checkpointOperationState row.id]⟩ = tx' := by
  simp only [insertCheckpoint, bind_eq_ok, exists_unit, require_eq_ok, pure_eq_ok,
    Table.insert_eq_ok, Table.mem_rows]

theorem operationsStorable_congr {t t' : ChainTables} (hevent : t'.matchEvent = t.matchEvent)
    (hoperation : t'.operation = t.operation) :
    OperationsStorable R policy t' block operations ↔
      OperationsStorable R policy t block operations := by
  have hbinding : ∀ eventUuid, revertedBinding t' eventUuid = revertedBinding t eventUuid := by
    intro eventUuid
    unfold revertedBinding
    rw [hevent, hoperation]
  have hone : ∀ earlier operation, OperationStorable R policy t' block earlier operation ↔
      OperationStorable R policy t block earlier operation := by
    intro earlier operation
    constructor
    · rintro ⟨hjson, hreplay, hwrite⟩
      simp only [hbinding] at hreplay hwrite
      exact ⟨hjson, hreplay, hwrite⟩
    · rintro ⟨hjson, hreplay, hwrite⟩
      simp only [← hbinding] at hreplay hwrite
      exact ⟨hjson, hreplay, hwrite⟩
  simp only [OperationsStorable, hone]

/-- A placed block opens: its checkpoint goes in, and the loop invariant holds. -/
theorem Sound.opens (h : Sound R source db) (policy : HiveEventValidationPolicy)
    (observedAt : Timestamp)
    (hplaced : WellPlaced source db.chain ids block operations)
    (hfresh : ∀ c ∈ db.chain.blockCheckpoint, ¬ (c.source = source ∧ c.blockId = block.id)) :
    ∃ tx, insertCheckpoint (checkpointRow (ids 0) source block observedAt)
        ⟨ensureCursor source db.chain, []⟩ = .ok tx ∧
      tx.chain.matchEvent = db.chain.matchEvent ∧ tx.chain.operation = db.chain.operation ∧
      tx.chain.syncCursor = (ensureCursor source db.chain).syncCursor ∧
      Opened source tx.chain ids block observedAt operations ∧
      Applying R policy tx.chain ids block observedAt [] 1 tx := by
  have hrow := hplaced.checkpoint_id
  have hheight : ∀ c ∈ db.chain.blockCheckpoint,
      ¬ (c.Current source ∧ c.blockNumber = block.number) := by
    rintro c hc ⟨hcurrent, hnumber⟩
    have hle := (h.consistent.in_range c hc hcurrent).2
    have hnext := hplaced.number
    omega
  cases hinsert : db.chain.blockCheckpoint.insert? (checkpointRow (ids 0) source block observedAt) with
  | none =>
    obtain ⟨c, hc, heq⟩ := Table.insert?_eq_none.mp hinsert
    exact absurd heq (hrow c hc)
  | some table =>
    obtain ⟨hkey, hrows⟩ := Table.insert?_eq_some.mp hinsert
    have hmem : checkpointRow (ids 0) source block observedAt ∈ table := by
      rw [Table.mem_def, hrows]
      exact List.mem_append_right _ (List.mem_singleton_self _)
    refine ⟨⟨{ ensureCursor source db.chain with blockCheckpoint := table },
      [.checkpointOperationState (ids 0)]⟩, insertCheckpoint_iff.mpr ⟨⟨rfl, rfl⟩, ?_, ?_, table,
        ⟨?_, ?_⟩, rfl⟩, ensureCursor_matchEvent, ensureCursor_operation, rfl, ?_, ?_⟩
    · simpa [checkpointRow] using hfresh
    · simpa [checkpointRow] using hheight
    · simpa using hkey
    · simpa using hrows
    · refine { toNewOperations := ?_, checkpoint := Table.find?_key hmem, event_state := ?_ }
      · show NewOperations (ensureCursor source db.chain).operation ids block operations
        rw [ensureCursor_operation]
        exact hplaced.toNewOperations
      · simpa using h.consistent.event_state
    · refine ⟨.refl _ _, (h.events.ensureCursor source).of_eq rfl fun op hop => hop,
        fun op hop => .inl hop, fun e he _ _ => he, fun e _ _ hcarried => ?_, fun d hd => ?_⟩
      · obtain ⟨op, hop, -⟩ := hcarried
        exact absurd hop List.not_mem_nil
      · obtain rfl := List.mem_singleton.mp hd
        rfl

/-- **A placed block is applied exactly when its operations are storable.** -/
theorem Sound.applyBlock_ok_iff (h : Sound R source db) (policy : HiveEventValidationPolicy)
    (observedAt : Timestamp)
    (hplaced : WellPlaced source db.chain ids block operations)
    (hfresh : ∀ c ∈ db.chain.blockCheckpoint, ¬ (c.source = source ∧ c.blockId = block.id)) :
    (∃ db', Projector.applyBlock R source block
        (operations.filterMap fun operation => validate R policy operation block) ids observedAt db =
          .ok db') ↔
      OperationsStorable R policy db.chain block operations := by
  obtain ⟨tx, hcheckpoint, hevent, hoperation, hcursor, hopened, happ⟩ :=
    h.opens policy observedAt hplaced hfresh
  rw [← operationsStorable_congr hevent hoperation]
  have hloop := @Applying.storeDecisions_ok_iff R policy source tx.chain ids block observedAt
    operations [] 1 tx happ hopened
  simp only [List.nil_append] at hloop
  show _ ↔ ∀ before operation after, operations = before ++ operation :: after → _ → _
  rw [← hloop]
  constructor
  · rintro ⟨db', hok⟩
    simp only [Projector.applyBlock, bind_eq_ok, exists_unit, require_eq_ok, Prod.exists,
      lockCursor_eq_ok] at hok
    obtain ⟨t, cursor, ⟨rfl, rfl⟩, -, -, tx₀, hcheckpoint', tx', hstore, -⟩ := hok
    obtain rfl : tx = tx₀ := Except.ok.inj (hcheckpoint.symm.trans hcheckpoint')
    exact ⟨tx', hstore⟩
  · rintro ⟨tx', hstore⟩
    obtain ⟨drawn, happ'⟩ := happ.storeDecisions hopened.id_new hstore
    have hstored := storeDecisions_stored hstore
    have hcursor' : tx'.chain.syncCursor = (ensureCursor source db.chain).syncCursor := by
      rw [hstored.syncCursor, hcursor]
    have hupdate : ∀ row, tx'.chain.syncCursor.find? source = some row →
        row.lastIrreversibleBlock ≤ block.number := by
      intro row hrow
      have hrow' : (ensureCursor source db.chain).syncCursor.find? source = some row := by
        rw [← hcursor']
        exact hrow
      have hirreversible := lastIrreversible_of_find hrow'
      rw [lastIrreversible_ensureCursor] at hirreversible
      have hle := h.consistent.irreversible_le
      have hnext := hplaced.number
      omega
    have hparent : ((currentCheckpointRow db.chain source (lastProcessed source db.chain)).map
          (·.blockId) = none ∨
        (currentCheckpointRow db.chain source (lastProcessed source db.chain)).map (·.blockId) =
          some block.previousId) := by
      cases hc : currentCheckpointRow db.chain source (lastProcessed source db.chain) with
      | none => exact .inl rfl
      | some c => exact .inr (congrArg some (hplaced.parent c hc))
    have hold : ∀ op ∈ tx.chain.operation, op.checkpointId ≠ ids 0 := by
      intro op hop heq
      rw [hoperation] at hop
      obtain ⟨c, hc, hcid, -⟩ := h.consistent.operation_state op hop
      exact hplaced.checkpoint_id c hc (hcid.trans heq)
    have hviews : ViewsSettled tx.chain db.views := by
      refine h.views.frozen ⟨fun c hc hs => ?_, fun op hop _ => by rwa [hoperation],
        fun e he _ => by rwa [hevent]⟩
      obtain ⟨-, -, -, table, hchain, hrows⟩ := insertCheckpoint_eq_ok hcheckpoint
      rw [hchain]
      show c ∈ table
      rw [Table.mem_def, hrows]
      simpa using Or.inl hc
    have hopened' : Opened source tx.chain ids block observedAt ([] ++ operations) := hopened
    refine ⟨_, bind_eq_ok.mpr ⟨(ensureCursor source db.chain, _), lockCursor_eq_ok.mpr ⟨rfl, rfl⟩,
      bind_eq_ok.mpr ⟨(), require_eq_ok.mpr hplaced.number,
      bind_eq_ok.mpr ⟨(), require_eq_ok.mpr hparent,
      bind_eq_ok.mpr ⟨tx, hcheckpoint, bind_eq_ok.mpr ⟨tx', hstore,
      bind_eq_ok.mpr ⟨_, updateCursor_eq_ok.mpr ⟨hupdate, rfl⟩, commit_eq_ok.mpr ⟨?_, rfl⟩⟩⟩⟩⟩⟩⟩⟩
    exact happ'.deferred_ok hopened' hold hviews rfl rfl rfl

/-- `validateBlockOperations` passes the operations of a placed block. -/
theorem validateBlockOperationsFrom_eq {cfg : ProjectorConfig} :
    ∀ {operations : List HafOperation} {sourceIds : List String},
      (∀ operation ∈ operations,
        operation.blockNumber = block.number ∧ operation.timestamp = block.timestamp) →
      (operations.map (·.sourceOperationId)).Nodup →
      (∀ operation ∈ operations, operation.sourceOperationId ∉ sourceIds) →
      validateBlockOperationsFrom cfg block sourceIds operations =
        .ok (operations.filterMap fun operation => validate cfg.runtime cfg.policy operation block)
  | [], _, _, _, _ => rfl
  | operation :: operations, sourceIds, hblock, hnodup, hnew => by
    obtain ⟨hnotin, hnodup⟩ := List.nodup_cons.mp hnodup
    have hnew' : ∀ op ∈ operations,
        op.sourceOperationId ∉ operation.sourceOperationId :: sourceIds := by
      intro op hop hin
      rcases List.mem_cons.mp hin with heq | hin
      · exact hnotin (List.mem_map.mpr ⟨op, hop, heq⟩)
      · exact hnew op (List.mem_cons_of_mem _ hop) hin
    have hrest : validateBlockOperationsFrom cfg block (operation.sourceOperationId :: sourceIds)
        operations = .ok _ :=
      validateBlockOperationsFrom_eq (fun op hop => hblock op (List.mem_cons_of_mem _ hop)) hnodup
        hnew'
    refine bind_eq_ok.mpr ⟨(), require_eq_ok.mpr (hblock operation List.mem_cons_self),
      bind_eq_ok.mpr ⟨(), require_eq_ok.mpr (hnew operation List.mem_cons_self),
      bind_eq_ok.mpr ⟨_, hrest, ?_⟩⟩⟩
    rw [List.filterMap_cons]
    cases validate cfg.runtime cfg.policy operation block with
    | none => rfl
    | some decision => rfl

theorem storeDecisions_row {cp : Uuid} :
    ∀ {decisions : List OperationDecision} {drawn : ℕ} {tx tx' : ChainTx},
      storeDecisions R ids cp observedAt drawn decisions tx = .ok tx' →
        ∀ decision ∈ decisions, ∃ id, operationRow id cp decision observedAt ∈ tx'.chain.operation
  | [], _, _, _, _, decision, hdecision => absurd hdecision List.not_mem_nil
  | first :: decisions, drawn, tx, tx', hok, decision, hdecision => by
    simp only [storeDecisions, bind_eq_ok] at hok
    obtain ⟨mid, hmid, hok⟩ := hok
    rcases List.mem_cons.mp hdecision with rfl | hdecision
    · refine ⟨ids drawn, (storeDecisions_stored hok).mem_operation ?_⟩
      rw [Table.mem_def, storeDecision_operation hmid]
      exact List.mem_append_right _ (List.mem_singleton_self _)
    · exact storeDecisions_row hok decision hdecision

theorem applyBlock_row {decisions : List OperationDecision}
    (hok : Projector.applyBlock R source block decisions ids observedAt db = .ok db') :
    ∀ decision ∈ decisions, ∃ id, operationRow id (ids 0) decision observedAt ∈ db'.chain.operation := by
  intro decision hdecision
  simp only [Projector.applyBlock, bind_eq_ok, exists_unit, require_eq_ok, Prod.exists,
    lockCursor_eq_ok] at hok
  obtain ⟨t, cursor, ⟨rfl, rfl⟩, -, -, tx, -, tx', hstore, t', hcursor, hcommit⟩ := hok
  obtain ⟨-, rfl⟩ := updateCursor_eq_ok.mp hcursor
  obtain ⟨-, rfl⟩ := commit_eq_ok.mp hcommit
  exact storeDecisions_row hstore decision hdecision

/-- Validating the operations of a block and storing what came out succeeds, and every operation of
the namespace ends accepted or rejected. -/
def Indexed (cfg : ProjectorConfig) (source : String) (ids : ℕ → Uuid) (observedAt : Timestamp)
    (block : HafBlock) (operations : List HafOperation) (db : Db) : Prop :=
  ∃ decisions db', validateBlockOperations cfg block operations = .ok decisions ∧
    applyBlock cfg.runtime source block decisions ids observedAt db = .ok db' ∧
    ∀ operation ∈ operations, InNamespace operation →
      ∃ op ∈ db'.chain.operation, op.sourceOperationId = operation.sourceOperationId ∧
        op.checkpointId = ids 0 ∧ (op.validationState = .accepted ∨ op.validationState = .rejected)

/-- **A block is indexed exactly when it is new and its operations are storable**, from any state
that the projector's own calls lead to. -/
theorem indexed_iff_storable {cfg : ProjectorConfig} {game : GameTables}
    (hreachable : Reachable (StoreStep cfg.runtime source) (Db.fresh game) db)
    (hplaced : WellPlaced source db.chain ids block operations) :
    Indexed cfg source ids observedAt block operations db ↔
      (∀ c ∈ db.chain.blockCheckpoint, ¬ (c.source = source ∧ c.blockId = block.id)) ∧
        OperationsStorable cfg.runtime cfg.policy db.chain block operations := by
  have hsound := sound_of_reachable hreachable
  have hdecisions : validateBlockOperations cfg block operations =
      .ok (operations.filterMap fun operation => validate cfg.runtime cfg.policy operation block) :=
    validateBlockOperationsFrom_eq hplaced.in_block hplaced.source_ids fun _ _ => List.not_mem_nil
  constructor
  · rintro ⟨decisions, db', hvalidated, hok, -⟩
    obtain rfl := Except.ok.inj (hdecisions.symm.trans hvalidated)
    have hfresh := (applyBlock_spec hok).1.fresh_block
    exact ⟨hfresh, (hsound.applyBlock_ok_iff cfg.policy observedAt hplaced hfresh).mp ⟨db', hok⟩⟩
  · rintro ⟨hfresh, hstorable⟩
    obtain ⟨db', hok⟩ :=
      (hsound.applyBlock_ok_iff cfg.policy observedAt hplaced hfresh).mpr hstorable
    refine ⟨_, db', hdecisions, hok, fun operation hoperation hin => ?_⟩
    obtain ⟨decision, hvalidate⟩ : ∃ decision,
        validate cfg.runtime cfg.policy operation block = some decision :=
      Option.ne_none_iff_exists'.mp fun hnone => validate_eq_none.mp hnone hin
    obtain ⟨id, hrow⟩ := applyBlock_row hok decision
      (List.mem_filterMap.mpr ⟨operation, hoperation, hvalidate⟩)
    refine ⟨_, hrow, (repeats_of_validate hvalidate).sourceOperationId, rfl, ?_⟩
    rcases validate_cases hvalidate with ⟨signer, json, event, haccepts⟩ | ⟨hstate, -⟩
    · obtain rfl := Option.some.inj (hvalidate.symm.trans haccepts.validate)
      exact .inl rfl
    · exact .inr hstate

end Block

/-! ### A value that halts the projector -/

/-- The first block of a chain. -/
def firstBlock : HafBlock := ⟨1, "block-1", "genesis", 0⟩

/-- Any account's `custom_json` under the application's id, with a NUL character as its text. -/
def nulOperation : HafOperation :=
  exampleOperation "1" "tx-1" 0 firstBlock (String.singleton (Char.ofNat 0))

/-- A value under the application's id that is no `custom_json` object. -/
def strayOperation : HafOperation where
  sourceOperationId := "1"
  transactionId := some "tx-1"
  operationIndex := 0
  isVirtual := false
  blockNumber := 1
  timestamp := 0
  operationType := "custom_json_operation"
  value := .other (.object (.cons "id" (.string hiveChameleonApplicationId) .nil))

theorem wellPlaced_first {game : GameTables} {operation : HafOperation}
    (hblock : operation.blockNumber = 1 ∧ operation.timestamp = 0)
    (hindex : operation.operationIndex < 2 ^ 31) (htransaction : operation.transactionId ≠ none) :
    WellPlaced "hive" (Db.fresh game).chain (fun k => ⟨k⟩) firstBlock [operation] where
  ids_injective k k' h := Uuid.mk.inj h
  id_new op hop := absurd hop Table.not_mem_empty
  in_block op hop := List.mem_singleton.mp hop ▸ hblock
  index op hop := List.mem_singleton.mp hop ▸ hindex
  identity op hop := .inr (List.mem_singleton.mp hop ▸ htransaction)
  source_ids := List.nodup_singleton _
  source_id_new _ _ op hop := absurd hop Table.not_mem_empty
  positions := List.pairwise_singleton _ _
  position_new _ _ op hop := absurd hop Table.not_mem_empty
  number := rfl
  parent c hc := by cases hc
  checkpoint_id c hc := absurd hc Table.not_mem_empty

theorem indexed_iff_storable_stray :
    Indexed (exampleConfig (exampleRuntime [])) "hive" (fun k => ⟨k⟩) 0 firstBlock [strayOperation]
      (Db.fresh emptyGame) := by
  refine (indexed_iff_storable ⟨[], .refl _⟩
      (wellPlaced_first ⟨rfl, rfl⟩ (by decide) (Option.some_ne_none _))).mpr
    ⟨fun c hc => absurd hc Table.not_mem_empty, ?_⟩
  have hnone : ∀ signer json event, ¬ Accepts (exampleRuntime []) ⟨["publisher"], ["issuer"], 300000⟩
      strayOperation firstBlock signer json event := by
    rintro signer json event ⟨-, -, hvalue, -, -, -⟩
    cases hvalue
  intro earlier operation later heq _
  have hmem : operation ∈ [strayOperation] := by
    rw [heq]
    exact List.mem_append_right _ List.mem_cons_self
  obtain rfl := List.mem_singleton.mp hmem
  exact ⟨by decide, fun signer json event _ h => absurd h (hnone signer json event),
    fun signer json event h => absurd h (hnone signer json event)⟩

/-- **One operation halts the projector**: `validate` rejects it, and the rejected row cannot be
written. -/
theorem nul_not_indexed :
    ¬ ∀ (cfg : ProjectorConfig) (source : String) (game : GameTables) (db : Db) (ids : ℕ → Uuid)
        (observedAt : Timestamp) (block : HafBlock) (operations : List HafOperation),
      Reachable (StoreStep cfg.runtime source) (Db.fresh game) db →
      WellPlaced source db.chain ids block operations →
      (∀ c ∈ db.chain.blockCheckpoint, ¬ (c.source = source ∧ c.blockId = block.id)) →
      Indexed cfg source ids observedAt block operations db := by
  intro hall
  have hplaced : WellPlaced "hive" (Db.fresh emptyGame).chain (fun k => ⟨k⟩) firstBlock [nulOperation] :=
    wellPlaced_first ⟨rfl, rfl⟩ (by decide) (Option.some_ne_none _)
  obtain ⟨decisions, db', hvalidated, hok, -⟩ := hall (exampleConfig (exampleRuntime [])) "hive" _ _
    (fun k => ⟨k⟩) 0 firstBlock [nulOperation] ⟨[], .refl _⟩ hplaced
    fun c hc => absurd hc Table.not_mem_empty
  have hdecisions : validateBlockOperations (exampleConfig (exampleRuntime [])) firstBlock
      [nulOperation] = .ok _ :=
    validateBlockOperationsFrom_eq hplaced.in_block hplaced.source_ids fun _ _ => List.not_mem_nil
  obtain rfl := Except.ok.inj (hdecisions.symm.trans hvalidated)
  have hstorable := ((sound_fresh _ "hive" _).applyBlock_ok_iff _ 0 hplaced
    fun c hc => absurd hc Table.not_mem_empty).mp ⟨db', hok⟩
  have hjson := (hstorable [] nulOperation [] rfl (by decide)).isJsonb
  exact absurd hjson (by decide)

end HiveChameleon.Projector
