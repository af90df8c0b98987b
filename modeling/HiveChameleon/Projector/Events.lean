import HiveChameleon.Projector.Safety

/-!
# Projector.Events — what a store call does to the projected match events

For a reader of `match_event` beside the projector: operations stay under their identifiers, an
event keeps its operation or moves to one that did not exist before, and an event carries the
times of its state.
-/

namespace HiveChameleon.Projector

open Gateway Lib

/-- Every event carries the times that `chk_match_event_state_evidence` asks of its state, and no
two events are bound to one operation. -/
structure EventsFiled (t : ChainTables) : Prop where
  evidence : ∀ e ∈ t.matchEvent, stateEvidence e.operationState e.irreversibleAt e.revertedAt
  operationKey : OperationKey t

/-- The operations of `t` are still there, and an event of `t'` is bound as it was in `t` or to an
operation that `t` did not have. -/
structure EventsMoved (t t' : ChainTables) : Prop where
  operation : ∀ op ∈ t.operation, ∃ op' ∈ t'.operation, op'.id = op.id
  event : ∀ e ∈ t'.matchEvent,
    (∃ e₀ ∈ t.matchEvent, e₀.eventUuid = e.eventUuid ∧ e₀.operationId = e.operationId) ∨
      ∀ op ∈ t.operation, op.id ≠ e.operationId

namespace EventsMoved

theorem refl (t : ChainTables) : EventsMoved t t :=
  ⟨fun op hop => ⟨op, hop, rfl⟩, fun e he => .inl ⟨e, he, rfl, rfl⟩⟩

end EventsMoved

section

variable {source : String} {t t' : ChainTables}

/-- The finality state of a projected event. -/
def eventState (t : ChainTables) (eventUuid : Uuid) : Option OperationState :=
  (t.matchEvent.find? eventUuid).map (·.operationState)

theorem eventState_eq_some {eventUuid : Uuid} {s : OperationState} :
    eventState t eventUuid = some s ↔
      ∃ e ∈ t.matchEvent, e.eventUuid = eventUuid ∧ e.operationState = s := by
  simp only [eventState, Option.map_eq_some_iff, Table.find?_eq_some, and_assoc]

theorem Consistent.eventsMoved_applied {block : HafBlock} {id : Uuid} {observedAt : Timestamp}
    (h : Consistent source t) (ha : Applied source block id observedAt t t') : EventsMoved t t' where
  operation op hop := ⟨op, ha.mem_operation hop, rfl⟩
  event e he := by
    rcases ha.event_cases he with he | ⟨-, op, hop, hid, hcp, -⟩
    · exact .inl ⟨e, he, rfl, rfl⟩
    · right
      intro old hold heq
      -- an operation of the new checkpoint cannot have been there with an old checkpoint
      have hsame : old = op := Table.eq_of_key (ha.mem_operation hold) hop (heq.trans hid.symm)
      obtain ⟨c, hc, hcid, -⟩ := h.operation_state old hold
      exact ha.fresh_id c hc (by rw [hcid, hsame, hcp])

theorem EventsFiled.applied {block : HafBlock} {id : Uuid} {observedAt : Timestamp}
    (h : EventsFiled t) (ha : Applied source block id observedAt t t') : EventsFiled t' := by
  obtain ⟨mid, -, -, hmid, -, hstored⟩ := ha.stored
  refine ⟨fun e he => ?_, hstored.operationKey (by unfold OperationKey; rw [hmid]; exact h.operationKey)⟩
  rcases hstored.evidence e he with he | he
  · exact h.evidence e (hmid ▸ he)
  · exact he

theorem EventsFiled.modify (h : EventsFiled t) {p : MatchEventRow → Prop} [DecidablePred p]
    {set : Table.Assignment MatchEventRow.eventUuid}
    (hevent : t'.matchEvent = t.matchEvent.modify p set)
    (hop : ∀ e, (set e).operationId = e.operationId)
    (hevidence : ∀ e, stateEvidence (set e).operationState (set e).irreversibleAt (set e).revertedAt) :
    EventsFiled t' where
  evidence e he := by
    rw [hevent] at he
    rcases Table.mem_modify_cases he with ⟨old, -, -, rfl⟩ | ⟨he, -⟩
    · exact hevidence old
    · exact h.evidence e he
  operationKey e he e' he' heq := by
    rw [hevent] at he he'
    obtain ⟨a, ha, rfl⟩ := Table.mem_modify.mp he
    obtain ⟨b, hb, rfl⟩ := Table.mem_modify.mp he'
    have hkeep : ∀ r, (Table.updated p set r).operationId = r.operationId := fun r =>
      Table.updated_eq (g := fun r : MatchEventRow => r.operationId) hop r
    rw [h.operationKey a ha b hb (by rw [← hkeep a, heq, hkeep])]

theorem eventsMoved_reverted {ancestorBlock : ℕ} {time : Timestamp} :
    EventsMoved t (revertedTables source ancestorBlock time t) where
  operation op hop := ⟨_, Table.updated_mem_modify hop, Table.key_updated op⟩
  event e he := by
    rcases Table.mem_modify_cases he with ⟨old, hold, -, rfl⟩ | ⟨he, -⟩
    · exact .inl ⟨old, hold, rfl, rfl⟩
    · exact .inl ⟨e, he, rfl, rfl⟩

theorem eventsMoved_finalized {blockNumber : ℕ} {time : Timestamp} :
    EventsMoved t (finalizedTables source blockNumber time t) where
  operation op hop := ⟨_, Table.updated_mem_modify hop, Table.key_updated op⟩
  event e he := by
    rcases Table.mem_modify_cases he with ⟨old, hold, -, rfl⟩ | ⟨he, -⟩
    · exact .inl ⟨old, hold, rfl, rfl⟩
    · exact .inl ⟨e, he, rfl, rfl⟩

theorem EventsFiled.ensureCursor (h : EventsFiled t) : EventsFiled (ensureCursor source t) :=
  ⟨by simpa using h.evidence, by simpa [OperationKey] using h.operationKey⟩

theorem EventsMoved.after_ensureCursor (h : EventsMoved (ensureCursor source t) t') :
    EventsMoved t t' where
  operation op hop := h.operation op (by simpa using hop)
  event e he := by simpa using h.event e he

/-- **One store request, seen from the events.** -/
theorem Consistent.answer_events {R : Runtime} {q : Request} {db db' : Db}
    {r : Except Failure q.Response} (h : Consistent source db.chain)
    (hans : storeAnswer R source q db r db') :
    EventsMoved db.chain db'.chain ∧ (EventsFiled db.chain → EventsFiled db'.chain) := by
  rcases storeAnswer_cases hans with
    rfl | ⟨block, decisions, ids, time, rfl, hok⟩ | ⟨ancestor, time, rfl, hok⟩ | ⟨n, ids, time, rfl, hok⟩
  · exact ⟨.refl _, id⟩
  · obtain ⟨ha, -, -⟩ := applyBlock_spec hok
    exact ⟨h.eventsMoved_applied ha, fun he => he.applied ha⟩
  · obtain ⟨-, rfl⟩ := revertAfter_spec hok
    exact ⟨eventsMoved_reverted.after_ensureCursor,
      fun he => he.ensureCursor.modify rfl (fun _ => rfl) fun _ => ⟨rfl, Option.some_ne_none _⟩⟩
  · obtain ⟨-, hchain, -⟩ := finalizeThrough_spec hok
    rw [hchain]
    exact ⟨eventsMoved_finalized.after_ensureCursor,
      fun he => he.ensureCursor.modify rfl (fun _ => rfl) fun _ => ⟨Option.some_ne_none _, rfl⟩⟩

/-! ### Events stay -/

/-- The events of `t` are in `t'` under the same identifiers. -/
def EventsKept (t t' : ChainTables) : Prop :=
  ∀ e ∈ t.matchEvent, ∃ e' ∈ t'.matchEvent, e'.eventUuid = e.eventUuid

theorem EventsKept.refl (t : ChainTables) : EventsKept t t := fun e he => ⟨e, he, rfl⟩

theorem EventsKept.trans {t'' : ChainTables} (h : EventsKept t t') (h' : EventsKept t' t'') :
    EventsKept t t'' := by
  intro e he
  obtain ⟨e', he', heq⟩ := h e he
  obtain ⟨e'', he'', heq'⟩ := h' e' he'
  exact ⟨e'', he'', heq'.trans heq⟩

theorem EventsKept.of_eq (h : t'.matchEvent = t.matchEvent) : EventsKept t t' :=
  fun e he => ⟨e, h ▸ he, rfl⟩

theorem EventsKept.modify {p : MatchEventRow → Prop} [DecidablePred p]
    {set : Table.Assignment MatchEventRow.eventUuid}
    (h : t'.matchEvent = t.matchEvent.modify p set) : EventsKept t t' :=
  fun e he => ⟨Table.updated p set e, h ▸ Table.updated_mem_modify he, Table.key_updated e⟩

theorem EventsKept.eventState_ne_none (h : EventsKept t t') {eventUuid : Uuid}
    (hs : eventState t eventUuid ≠ none) : eventState t' eventUuid ≠ none := by
  obtain ⟨s, hs⟩ := Option.ne_none_iff_exists'.mp hs
  obtain ⟨e, he, heq, -⟩ := eventState_eq_some.mp hs
  obtain ⟨e', he', heq'⟩ := h e he
  have hsome : eventState t' eventUuid = some e'.operationState :=
    eventState_eq_some.mpr ⟨e', he', heq'.trans heq, rfl⟩
  rw [hsome]
  exact Option.some_ne_none _

theorem insertMatchEvent_keeps {R : Runtime} {row : MatchEventRow} {tx tx' : ChainTx}
    (h : insertMatchEvent R row tx = .ok tx') : EventsKept tx.chain tx'.chain := by
  simp only [insertMatchEvent, bind_eq_ok, exists_unit] at h
  obtain ⟨-, -, h⟩ := h
  split at h
  · obtain rfl := pure_eq_ok.mp h
    exact .refl _
  · simp only [bind_eq_ok, Table.insert_eq_ok, pure_eq_ok] at h
    obtain ⟨table, ⟨-, hrows⟩, rfl⟩ := h
    intro e he
    refine ⟨e, ?_, rfl⟩
    change e ∈ table
    rw [Table.mem_def, hrows]
    exact List.mem_append_left _ he

theorem upsertIncludedMatchEvent_keeps {R : Runtime} {operationId : Uuid} {event : HiveChameleonEvent}
    {time : Timestamp} {tx tx' : ChainTx}
    (h : upsertIncludedMatchEvent R operationId event time tx = .ok tx') :
    EventsKept tx.chain tx'.chain := by
  unfold upsertIncludedMatchEvent at h
  split at h
  · split at h
    · simp only [replayMatchEvent, bind_eq_ok, exists_unit, require_eq_ok] at h
      obtain ⟨-, rfl⟩ := updateMatchEvents_eq_ok.mp h.2
      exact .modify rfl
    · simp only [bind_eq_ok] at h
      obtain ⟨start, -, stop, -, h⟩ := h
      exact insertMatchEvent_keeps h
  · obtain rfl := pure_eq_ok.mp h
    exact .refl _

theorem storeDecision_keeps {R : Runtime} {cp operationId : Uuid} {decision : OperationDecision}
    {observedAt : Timestamp} {tx tx' : ChainTx}
    (h : storeDecision R cp operationId decision observedAt tx = .ok tx') :
    EventsKept tx.chain tx'.chain := by
  simp only [storeDecision, bind_eq_ok] at h
  obtain ⟨mid, hins, h⟩ := h
  obtain ⟨-, -, table, hchain, -⟩ := insertOperation_eq_ok hins
  have hmid : EventsKept tx.chain mid.chain := .of_eq (by rw [hchain])
  split at h
  · split at h
    · exact hmid.trans (upsertIncludedMatchEvent_keeps h)
    · obtain rfl := pure_eq_ok.mp h; exact hmid
  · obtain rfl := pure_eq_ok.mp h; exact hmid

theorem storeDecisions_keeps {R : Runtime} {ids : ℕ → Uuid} {cp : Uuid} {observedAt : Timestamp} :
    ∀ {decisions : List OperationDecision} {drawn : ℕ} {tx tx' : ChainTx},
      storeDecisions R ids cp observedAt drawn decisions tx = .ok tx' →
        EventsKept tx.chain tx'.chain
  | [], _, tx, tx', h => by
    obtain rfl : tx = tx' := by simpa [storeDecisions] using h
    exact .refl _
  | decision :: decisions, drawn, tx, tx', h => by
    simp only [storeDecisions, bind_eq_ok] at h
    obtain ⟨mid, hmid, h⟩ := h
    exact (storeDecision_keeps hmid).trans (storeDecisions_keeps h)

theorem applyBlock_keeps {R : Runtime} {block : HafBlock} {decisions : List OperationDecision}
    {ids : ℕ → Uuid} {observedAt : Timestamp} {db db' : Db}
    (h : applyBlock R source block decisions ids observedAt db = .ok db') :
    EventsKept db.chain db'.chain := by
  simp only [applyBlock, bind_eq_ok, exists_unit, require_eq_ok, Prod.exists, lockCursor_eq_ok] at h
  obtain ⟨t, cursor, ⟨rfl, rfl⟩, -, -, tx, hcheckpoint, tx', hstore, t', hcursor, hcommit⟩ := h
  obtain ⟨-, -, -, table, hchain, -⟩ := insertCheckpoint_eq_ok hcheckpoint
  obtain ⟨-, rfl⟩ := updateCursor_eq_ok.mp hcursor
  obtain ⟨-, rfl⟩ := commit_eq_ok.mp hcommit
  have hstart : EventsKept db.chain tx.chain := .of_eq (by rw [hchain]; simp)
  exact hstart.trans (storeDecisions_keeps hstore)

theorem storeAnswer_keeps {R : Runtime} {q : Request} {db db' : Db} {r : Except Failure q.Response}
    (hans : storeAnswer R source q db r db') : EventsKept db.chain db'.chain := by
  have hstart : EventsKept db.chain (ensureCursor source db.chain) := .of_eq (by simp)
  rcases storeAnswer_cases hans with
    rfl | ⟨block, decisions, ids, time, rfl, hok⟩ | ⟨ancestor, time, rfl, hok⟩ | ⟨n, ids, time, rfl, hok⟩
  · exact .refl _
  · exact applyBlock_keeps hok
  · obtain ⟨-, rfl⟩ := revertAfter_spec hok
    exact hstart.trans (.modify rfl)
  · obtain ⟨-, hchain, -⟩ := finalizeThrough_spec hok
    rw [hchain]
    exact hstart.trans (.modify rfl)

end

/-! ### Example events -/

/-- A runtime that reads these events in these texts, and dates everything at zero. -/
def exampleRuntime (events : List (String × HiveChameleonEvent)) : Runtime where
  safeParse text := (events.find? (·.1 = text)).map (·.2)
  isCanonical _ := true
  jsonb text := (events.find? (·.1 = text)).map (·.2)
  timestamptz _ := some 0
  dateParse _ := 0
  refusal _ := .nonCanonicalPayload
  jsonb_eq h h' := Option.some.inj (h'.symm.trans h)
  period_le _ hstart hend := (Option.some.inj (hstart.symm.trans hend)).le

def examplePublisher : HiveAccount := ⟨"publisher", by decide⟩

def exampleSha256 : Sha256 :=
  ⟨"0000000000000000000000000000000000000000000000000000000000000000", by decide⟩

def exampleResult (roundId : Uuid) : MatchResult where
  roundId := roundId
  resultSchema := ⟨"result-1", by decide⟩
  scoringRules := ⟨"scoring-1", by decide⟩
  map := ⟨⟨1⟩, ⟨2⟩, exampleSha256⟩
  server := ⟨"build-1", ⟨"protocol-1", by decide⟩, by decide⟩
  resultSha256 := exampleSha256

/-- A batch of one result. -/
def exampleBatch (eventId batchId roundId : Uuid) : MatchResultsBatch where
  eventId := eventId
  occurredAt := ⟨"2026-07-16T00:00:00.000Z"⟩
  batchId := batchId
  periodStart := ⟨"2026-07-16T00:00:00.000Z"⟩
  periodEnd := ⟨"2026-07-16T00:00:00.000Z"⟩
  publisher := examplePublisher
  resultCount := 1
  results := [exampleResult roundId]
  count_eq := rfl
  count_bounds := by simp
  rounds_nodup := by simp

/-- The operation that publishes a text in a block. -/
def exampleOperation (id txId : String) (operationIndex : ℕ) (block : HafBlock) (json : String) :
    HafOperation where
  sourceOperationId := id
  transactionId := some txId
  operationIndex := operationIndex
  isVirtual := false
  blockNumber := block.number
  timestamp := block.timestamp
  operationType := "custom_json_operation"
  value := .customJson [] [examplePublisher] hiveChameleonApplicationId json

def exampleConfig (R : Runtime) : ProjectorConfig where
  runtime := R
  policy := ⟨["publisher"], ["issuer"], 300000⟩

end HiveChameleon.Projector
