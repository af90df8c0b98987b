import HiveChameleon.Publisher.System

/-!
# Publisher.Reconcile — when `reconcileProjectedFinality` runs to completion

The publication tables stay in order in every run of the publisher's workers beside the projector.
In such tables the reconcile transaction fails on one kind of row only: a stranded one, whose
projected event is in a state that the row cannot follow.
-/

namespace HiveChameleon.Publisher

open Gateway Lib Nakama

variable {ι : Type} {R : PublisherRuntime} {source : String}
  {t t' : Projector.ChainTables} {p p' : PublicationTables}

/-! ### The transactions keep the tables in order -/

section Kept

/-- What the projector did between two transactions does not touch the publication tables. -/
theorem Filed.projector (h : Filed t p) (hmoved : Projector.EventsMoved t t') : Filed t' p where
  checks := h.checks
  itemSet := h.itemSet
  notTerminal := h.notTerminal
  event_inj := h.event_inj
  revision := h.revision
  round := h.round
  operation row hrow o ho := by
    obtain ⟨op, hop, rfl⟩ := h.operation row hrow o ho
    exact hmoved.operation op hop
  bound row hrow e he ho := by
    rcases hmoved.event e he with ⟨e₀, he₀, huuid, hid⟩ | hnew
    · rw [← huuid]
      exact h.bound row hrow e₀ he₀ (by rw [ho, hid])
    · -- the row's operation was there before, the event's was not
      obtain ⟨op, hop, hid⟩ := h.operation row hrow e.operationId ho
      exact absurd hid (hnew op hop)

theorem Filed.recordRequest {round : RoundRef} {revision : RevisionRef} {row : RequestRow}
    (h : Filed t p) (hok : recordRequest round revision row p = .ok p') : Filed t p' := by
  simp only [Publisher.recordRequest, bind_eq_ok, exists_unit, require_eq_ok, Table.insert_eq_ok,
    commit_eq_ok, List.mem_singleton, forall_eq, hcValidatePublicationRequest] at hok
  obtain ⟨⟨hqueued, hround⟩, revisions, ⟨-, hrevisions⟩, ⟨v, hv, hvround, hvtype⟩, requests,
    ⟨-, hrequests⟩, hcheck, rfl⟩ := hok
  have hrounds : ∃ r ∈ (p.round.insert? round).getD p.round, r.id = row.roundId := by
    cases hins : p.round.insert? round with
    | none =>
      obtain ⟨r, hr, hid⟩ := Table.insert?_eq_none.mp hins
      exact ⟨r, hr, hid.trans hround.symm⟩
    | some table =>
      refine ⟨round, ?_, hround.symm⟩
      rw [Option.getD_some, Table.mem_def, (Table.insert?_eq_some.mp hins).2]
      simp
  have hrounds_mem : ∀ r ∈ p.round, r ∈ (p.round.insert? round).getD p.round := by
    intro r hr
    cases hins : p.round.insert? round with
    | none => exact hr
    | some table =>
      rw [Option.getD_some, Table.mem_def, (Table.insert?_eq_some.mp hins).2]
      exact List.mem_append_left _ hr
  have hrequest : ∀ r ∈ requests, r ∈ p.request ∨ r = row := by
    intro r hr
    rw [Table.mem_def, hrequests] at hr
    exact (List.mem_append.mp hr).imp id List.mem_singleton.mp
  refine ⟨h.checks, h.itemSet, h.notTerminal, h.event_inj, fun r hr => ?_, fun r hr => ?_,
    h.operation, h.bound⟩
  · rcases hrequest r hr with hr | rfl
    · obtain ⟨v, hv, hrest⟩ := h.revision r hr
      refine ⟨v, ?_, hrest⟩
      change v ∈ revisions
      rw [Table.mem_def, hrevisions]
      exact List.mem_append_left _ hv
    · obtain ⟨hmem, hid⟩ := Table.find?_eq_some.mp hv
      exact ⟨v, hmem, hid, hvround, hvtype⟩
  · rcases hrequest r hr with hr | rfl
    · obtain ⟨r', hr', hrest⟩ := h.round r hr
      exact ⟨r', hrounds_mem r' hr', hrest⟩
    · obtain ⟨r', hr', hid⟩ := hrounds
      refine ⟨r', hr', hid, ?_⟩
      have hfind := Table.find?_eq_some.mpr ⟨hr', hid⟩
      simpa [DeferredPublication.check, hcCheckPublicationRequestRoundState, hqueued, hfind]
        using hcheck

/-- The inserted items: all of one outbox row, and nothing else changes. -/
theorem insertItems_spec {outboxId : Uuid} {ids : ℕ → Uuid} :
    ∀ {candidates : List MatchPublicationCandidate} {position : ℕ} {tx tx' : PublicationTx},
      insertItems outboxId ids position candidates tx = .ok tx' →
        ∃ table items, tx'.tables = { tx.tables with item := table } ∧
          table.rows = tx.tables.item.rows ++ items ∧ (∀ item ∈ items, item.outboxId = outboxId) ∧
          ∀ d ∈ tx.deferred, d ∈ tx'.deferred
  | [], _, tx, tx', h => by
    obtain rfl : tx = tx' := by simpa [insertItems] using h
    exact ⟨tx.tables.item, [], rfl, by simp, by simp, fun d hd => hd⟩
  | candidate :: candidates, position, tx, tx', h => by
    simp only [insertItems, insertItem, bind_eq_ok, exists_unit, require_eq_ok, pure_eq_ok,
      Table.insert_eq_ok] at h
    obtain ⟨mid, ⟨-, -, -, table, ⟨-, hrows⟩, rfl⟩, h⟩ := h
    obtain ⟨table', items, htables, hrows', hitems, hdeferred⟩ := insertItems_spec h
    refine ⟨table', ⟨ids position, outboxId, candidate.publicationRequestId, candidate.roundId,
      candidate.resultRevisionId, position⟩ :: items, htables, ?_, ?_, fun d hd =>
        hdeferred d (List.mem_append_left _ hd)⟩
    · rw [hrows', hrows, List.append_assoc]; rfl
    · intro item hitem
      rcases List.mem_cons.mp hitem with rfl | hitem
      · rfl
      · exact hitems item hitem

/-- A new outbox row that passes its checks, with its items, keeps the tables in order. -/
theorem Filed.append (h : Filed t p) {row : OutboxRow} {outbox : Table OutboxRow (·.id)}
    {item : Table PublicationItemRow (·.id)} {items : List PublicationItemRow}
    (hkey : ∀ other ∈ p.outbox, other.id ≠ row.id)
    (hevent : ∀ other ∈ p.outbox, other.eventUuid ≠ row.eventUuid)
    (houtbox : outbox.rows = p.outbox.rows ++ [row]) (hitem : item.rows = p.item.rows ++ items)
    (hitems : ∀ i ∈ items, i.outboxId = row.id) (hchecks : outboxChecks row = .ok ())
    (hset : hcCheckPublicationItemSet { p with outbox := outbox, item := item } row.id = .ok ())
    (hstate : row.state = .queued) (hoperation : row.operationId = none) :
    Filed t { p with outbox := outbox, item := item } := by
  have hmem : ∀ other ∈ outbox, other ∈ p.outbox ∨ other = row := by
    intro other hother
    rw [Table.mem_def, houtbox] at hother
    exact (List.mem_append.mp hother).imp id List.mem_singleton.mp
  have hold : ∀ other ∈ p.outbox, other ∈ outbox := by
    intro other hother
    rw [Table.mem_def, houtbox]
    exact List.mem_append_left _ hother
  refine ⟨fun other hother => ?_, fun other hother => ?_, fun other hother => ?_,
    fun a ha b hb heq => ?_, h.revision, h.round, fun other hother o ho => ?_,
    fun other hother e he ho => ?_⟩
  · rcases hmem other hother with hother | rfl
    · exact h.checks other hother
    · exact hchecks
  · rcases hmem other hother with hother | rfl
    · refine itemSet_congr (p := p) ?_ ?_ (h.itemSet other hother)
      · rw [Table.find?_eq_some.mpr ⟨hother, rfl⟩]
        exact congrArg _ (Table.find?_eq_some.mpr ⟨hold other hother, rfl⟩)
      · change item.rows.filter _ = _
        have hnone : items.filter (fun i => i.outboxId = other.id) = [] := by
          rw [List.filter_eq_nil_iff]
          intro i hi
          rw [decide_eq_true_eq, hitems i hi]
          exact (hkey other hother).symm
        rw [hitem, List.filter_append, hnone, List.append_nil]
    · exact hset
  · rcases hmem other hother with hother | rfl
    · exact h.notTerminal other hother
    · rw [hstate]; exact nofun
  · rcases hmem a ha with hina | rfl <;> rcases hmem b hb with hinb | rfl
    · exact h.event_inj a hina b hinb heq
    · exact absurd heq (hevent a hina)
    · exact absurd heq.symm (hevent b hinb)
    · rfl
  · rcases hmem other hother with hother | rfl
    · exact h.operation other hother o ho
    · rw [hoperation] at ho; cases ho
  · rcases hmem other hother with hother | rfl
    · exact h.bound other hother e he ho
    · rw [hoperation] at ho; cases ho

/-- What `freezeNextBatch` leaves: the old rows and the frozen one. -/
theorem freezeNextBatch_outbox {frozen : FrozenMatchBatch} {publisherAccount : String}
    {ids : ℕ → Uuid} {now : Timestamp}
    (hok : freezeNextBatch frozen publisherAccount ids now p = .ok p') :
    p'.outbox.rows = p.outbox.rows ++ [frozenOutboxRow frozen publisherAccount now] := by
  simp only [freezeNextBatch, insertOutbox, bind_eq_ok, exists_unit, require_eq_ok, pure_eq_ok,
    Table.insert_eq_ok] at hok
  obtain ⟨tx₁, ⟨-, -, -, table, ⟨-, hrows⟩, rfl⟩, tx₂, hitems, tx₃, hrequests, -, hcommit⟩ := hok
  obtain ⟨item, items, htables, -, -, -⟩ := insertItems_spec hitems
  obtain ⟨-, rfl⟩ := updateRequests_eq_ok.mp hrequests
  obtain ⟨-, rfl⟩ := commit_eq_ok.mp hcommit
  change tx₂.tables.outbox.rows = _
  rw [htables]; exact hrows

theorem Filed.freezeNextBatch {frozen : FrozenMatchBatch} {publisherAccount : String}
    {ids : ℕ → Uuid} {now : Timestamp} (h : Filed t p)
    (hok : freezeNextBatch frozen publisherAccount ids now p = .ok p') : Filed t p' := by
  simp only [Publisher.freezeNextBatch, insertOutbox, bind_eq_ok, exists_unit, require_eq_ok,
    pure_eq_ok, Table.insert_eq_ok] at hok
  obtain ⟨tx₁, ⟨hchecks, hevent, -, table, ⟨hkey, hrows⟩, rfl⟩, tx₂, hitems, tx₃, hrequests, -,
    hcommit⟩ := hok
  obtain ⟨item, items, htables, hitem, hids, hdeferred⟩ := insertItems_spec hitems
  obtain ⟨-, rfl⟩ := updateRequests_eq_ok.mp hrequests
  obtain ⟨hdef, rfl⟩ := commit_eq_ok.mp hcommit
  have hset := hdef (.itemSet frozen.outboxId)
    (List.mem_append_left _ (hdeferred _ (by simp [frozenOutboxRow])))
  rw [htables] at hset
  refine Filed.modifyRequests ?_ fun row => ⟨rfl, rfl, rfl⟩
  rw [htables]
  exact h.append hkey hevent hrows hitem hids hchecks hset rfl rfl

theorem Filed.deferInvalidRequest {publicationRequestId : Uuid} {code : String}
    {now retryAt : Timestamp} (h : Filed t p)
    (hok : deferInvalidRequest publicationRequestId code now retryAt p = .ok p') : Filed t p' := by
  simp only [Publisher.deferInvalidRequest, bind_eq_ok] at hok
  obtain ⟨tx, hupdate, hcommit⟩ := hok
  obtain ⟨-, rfl⟩ := updateRequests_eq_ok.mp hupdate
  obtain ⟨-, rfl⟩ := commit_eq_ok.mp hcommit
  exact h.modifyRequests fun row => ⟨rfl, rfl, rfl⟩

theorem Filed.updateOutbox {tx : PublicationTx} {q : OutboxRow → Prop} [DecidablePred q]
    {set : Table.Assignment OutboxRow.id} (h : Filed t p)
    (hframe : ∀ row, (set row).eventUuid = row.eventUuid ∧ (set row).resultCount = row.resultCount)
    (hoperation : ∀ row, (set row).operationId = row.operationId)
    (hstate : ∀ row ∈ p.outbox, (set row).state ≠ .terminalFailed)
    (hupdate : updateOutbox q set ⟨p, []⟩ = .ok tx) (hcommit : tx.commit = .ok p') : Filed t p' := by
  obtain ⟨hcheck, rfl⟩ := updateOutbox_commit hupdate hcommit
  refine h.modifyOutbox hframe (fun row hrow hq => (hcheck row hrow hq).2)
    (fun row hrow _ => hstate row hrow) (fun row hrow _ o ho => ?_) fun row hrow _ e he ho => ?_
  · rw [hoperation] at ho; exact h.operation row hrow o ho
  · rw [hoperation] at ho; exact h.bound row hrow e he ho

theorem claimNextOutbox_eq_ok {now leaseUntil : Timestamp} {attempt : Option MatchOutboxAttempt} :
    claimNextOutbox R now leaseUntil p = .ok (attempt, p') ↔
      claimCandidate now p = none ∧ attempt = none ∧ p' = p ∨
      ∃ row tx, claimCandidate now p = some row ∧
        updateOutbox (fun other => other.id = row.id) ⟨.claim now leaseUntil, fun _ => rfl⟩ ⟨p, []⟩ =
          .ok tx ∧ consistentPayload R row = true ∧ tx.commit = .ok p' ∧
        attempt = some ⟨row.id, row.eventUuid, row.attemptCount + 1⟩ := by
  unfold claimNextOutbox
  cases hcandidate : claimCandidate now p with
  | none =>
    simp only [Except.ok.injEq, Prod.mk.injEq, true_and, reduceCtorEq, false_and, exists_false,
      or_false, eq_comm (b := attempt), eq_comm (b := p')]
  | some row =>
    simp only [bind_eq_ok, exists_unit, require_eq_ok, pure_eq_ok, Prod.mk.injEq, reduceCtorEq,
      false_and, false_or, Option.some.injEq, exists_and_left, exists_eq_left']
    constructor
    · rintro ⟨tx, hupdate, hpayload, q, hcommit, rfl, rfl⟩
      exact ⟨tx, hupdate, hpayload, hcommit, rfl⟩
    · rintro ⟨tx, hupdate, hpayload, hcommit, rfl⟩
      exact ⟨tx, hupdate, hpayload, p', hcommit, rfl, rfl⟩

theorem Filed.claimNextOutbox {now leaseUntil : Timestamp} {attempt : Option MatchOutboxAttempt}
    (h : Filed t p) (hok : claimNextOutbox R now leaseUntil p = .ok (attempt, p')) :
    Filed t p' := by
  rcases claimNextOutbox_eq_ok.mp hok with ⟨-, -, rfl⟩ | ⟨row, tx, -, hupdate, -, hcommit, -⟩
  · exact h
  · exact h.updateOutbox (fun _ => ⟨rfl, rfl⟩) (fun _ => rfl) h.notTerminal hupdate hcommit

theorem Filed.markBroadcast {outboxId : Uuid} {transactionId : String} {broadcastAt : Timestamp}
    (h : Filed t p) (hok : markBroadcast outboxId transactionId broadcastAt p = .ok p') :
    Filed t p' := by
  simp only [Publisher.markBroadcast, bind_eq_ok] at hok
  obtain ⟨tx, hupdate, hcommit⟩ := hok
  exact h.updateOutbox (fun _ => ⟨rfl, rfl⟩) (fun _ => rfl)
    (fun _ _ => (by decide : OutboxState.broadcast ≠ .terminalFailed)) hupdate hcommit

theorem Filed.markRetryableFailure {outboxId : Uuid} {transactionId : Option String}
    {failureCode : String} {retryAt now : Timestamp} (h : Filed t p)
    (hok : markRetryableFailure outboxId transactionId failureCode retryAt now p = .ok p') :
    Filed t p' := by
  simp only [Publisher.markRetryableFailure, bind_eq_ok] at hok
  obtain ⟨tx, hupdate, hcommit⟩ := hok
  exact h.updateOutbox (fun _ => ⟨rfl, rfl⟩) (fun _ => rfl)
    (fun _ _ => (by decide : OutboxState.retryableFailed ≠ .terminalFailed)) hupdate hcommit

end Kept

/-! ### The reconcile transaction -/

section Reconcile

variable {now : Timestamp} {row : OutboxRow} {e : Projector.MatchEventRow}

theorem eventState_of_projectedEvent (he : projectedEvent t row = some e) :
    Projector.eventState t row.eventUuid = some e.operationState := by
  rw [Projector.eventState, show t.matchEvent.find? row.eventUuid = some e from he]; rfl

theorem mem_of_projectedEvent (he : projectedEvent t row = some e) :
    e ∈ t.matchEvent ∧ e.eventUuid = row.eventUuid :=
  Table.find?_eq_some.mp he

theorem reconcile_frame (t : Projector.ChainTables) (now : Timestamp) (row : OutboxRow) :
    (row.reconcile t now).toFrozenColumns = row.toFrozenColumns ∧
      (row.reconcile t now).attemptCount = row.attemptCount ∧
      (row.reconcile t now).hiveTransactionId = row.hiveTransactionId := by
  unfold OutboxRow.reconcile; split <;> exact ⟨rfl, rfl, rfl⟩

theorem reconcile_state (he : projectedEvent t row = some e) :
    (row.reconcile t now).state = .ofOperationState e.operationState := by
  simp only [OutboxRow.reconcile, he]

theorem reconcile_operationId (he : projectedEvent t row = some e) :
    (row.reconcile t now).operationId = some e.operationId := by
  simp only [OutboxRow.reconcile, he]

/-- A row whose projected event is in a state that the row cannot follow: the event became
irreversible while the row is still reverted, or is included and the row records no transaction. -/
def Stranded (t : Projector.ChainTables) (row : OutboxRow) : Prop :=
  Projector.eventState t row.eventUuid = some .irreversible ∧ row.state = .reverted ∨
  Projector.eventState t row.eventUuid = some .included ∧ row.hiveTransactionId = none ∧
    row.state ≠ .included ∧ row.state ≠ .irreversible

theorem Stranded.needsReconcile (h : Stranded t row) : NeedsReconcile t row := by
  have hevent : ∃ s, Projector.eventState t row.eventUuid = some s ∧
      .ofOperationState s ≠ row.state ∧ row.state ≠ .irreversible := by
    rcases h with ⟨hs, hrow⟩ | ⟨hs, -, hinc, hirr⟩
    · exact ⟨_, hs, by rw [hrow]; decide, by rw [hrow]; decide⟩
    · exact ⟨_, hs, fun heq => hinc heq.symm, hirr⟩
  obtain ⟨s, hs, hne, hirr⟩ := hevent
  obtain ⟨e, he, rfl⟩ := Option.map_eq_some_iff.mp hs
  exact ⟨⟨e, he, hne⟩, hirr⟩

/-- What the row checks ask of the frozen columns. -/
def FrozenColumns.WellFormed (f : FrozenColumns) : Prop :=
  (f.eventType = .matchResultsBatch ∧ f.batchUuid ≠ none ∧
      (∃ start ∈ f.publicationPeriodStart, ∃ stop ∈ f.publicationPeriodEnd, start ≤ stop) ∨
    f.eventType ≠ .matchResultsBatch ∧ f.batchUuid = none ∧
      f.publicationPeriodStart = none ∧ f.publicationPeriodEnd = none ∧ f.resultCount = 1) ∧
  f.publisherHiveAccount.toList.map Char.toLower = f.publisherHiveAccount.toList ∧
  0 < f.resultCount ∧
  (0 < f.payloadByteCount ∧ f.canonicalPayload.utf8ByteSize = f.payloadByteCount)

theorem outboxChecks_eq_ok : outboxChecks row = .ok () ↔
    row.toFrozenColumns.WellFormed ∧
    (row.state = .included →
      row.hiveTransactionId ≠ none ∧ row.operationId ≠ none ∧ row.includedAt ≠ none) ∧
    (row.state = .irreversible → row.operationId ≠ none ∧ row.irreversibleAt ≠ none) ∧
    (row.state = .reverted → row.operationId ≠ none ∧ row.revertedAt ≠ none) := by
  simp only [outboxChecks, FrozenColumns.WellFormed, bind_eq_ok, exists_unit, require_eq_ok,
    and_assoc]

/-- The checks that bear on the finality columns, for a row that follows its event. -/
theorem outboxChecks_reconcile (hchecks : outboxChecks row = .ok ())
    (he : projectedEvent t row = some e)
    (hevidence : Projector.stateEvidence e.operationState e.irreversibleAt e.revertedAt) :
    outboxChecks (row.reconcile t now) = .ok () ↔
      (e.operationState = .included → row.hiveTransactionId ≠ none) := by
  have hframe := (outboxChecks_eq_ok.mp hchecks).1
  rw [outboxChecks_eq_ok, (reconcile_frame t now row).1, and_iff_right hframe]
  simp only [OutboxRow.reconcile, he]
  cases hs : e.operationState with
  | included => simp [OutboxState.ofOperationState]
  | irreversible =>
    rw [hs] at hevidence
    simpa [OutboxState.ofOperationState] using hevidence.1
  | reverted =>
    rw [hs] at hevidence
    simpa [OutboxState.ofOperationState] using hevidence.2

theorem hcFreezeMatchOutboxPayload_reconcile (he : projectedEvent t row = some e)
    (hneeds : NeedsReconcile t row) (hterminal : row.state ≠ .terminalFailed) :
    hcFreezeMatchOutboxPayload row (row.reconcile t now) = .ok () ↔
      ¬ (e.operationState = .irreversible ∧ row.state = .reverted) := by
  obtain ⟨hframe, hcount, -⟩ := reconcile_frame t now row
  obtain ⟨⟨e', he', hne⟩, hirr⟩ := hneeds
  obtain rfl : e = e' := Option.some.inj (he.symm.trans he')
  simp only [hcFreezeMatchOutboxPayload, bind_eq_ok, exists_unit, require_eq_ok, hframe, hcount,
    OutboxRow.reconcile_id, reconcile_state he, le_refl, true_and, and_self, implies_true, and_true]
  cases hrow : row.state <;> cases hs : e.operationState <;>
    simp_all [OutboxState.ofOperationState, OutboxState.successors]

theorem row_reconciles_iff (h : Filed t p) (hevents : Projector.EventsFiled t)
    (hrow : row ∈ p.outbox) (hneeds : NeedsReconcile t row) :
    (hcFreezeMatchOutboxPayload row (row.reconcile t now) = .ok () ∧
      outboxChecks (row.reconcile t now) = .ok ()) ↔ ¬ Stranded t row := by
  obtain ⟨⟨e, he, hne⟩, hirr⟩ := hneeds
  have he : projectedEvent t row = some e := he
  have hevidence := hevents.evidence e (mem_of_projectedEvent he).1
  rw [hcFreezeMatchOutboxPayload_reconcile he ⟨⟨e, he, hne⟩, hirr⟩ (h.notTerminal row hrow),
    outboxChecks_reconcile (h.checks row hrow) he hevidence, Stranded,
    eventState_of_projectedEvent he]
  simp only [Option.some.injEq, not_or, not_and, ne_eq, not_not]
  refine and_congr Iff.rfl ⟨fun htx hs hnone => absurd hnone (htx hs), fun hstr hs hnone => ?_⟩
  -- an included event whose row is not included yet
  have hinc : row.state ≠ .included := fun heq => hne (by rw [hs, heq]; rfl)
  exact hirr (hstr hs hnone hinc)

theorem Filed.reconciledTables (hc : Projector.Consistent source t) (hevents : Projector.EventsFiled t)
    (h : Filed t p) (hchecks : ∀ row ∈ p.outbox, NeedsReconcile t row →
      outboxChecks (row.reconcile t now) = .ok ()) : Filed t (reconciledTables t now p) := by
  have hoperation : ∀ row, NeedsReconcile t row → ∃ e ∈ t.matchEvent, e.eventUuid = row.eventUuid ∧
      (row.reconcile t now).operationId = some e.operationId ∧
      (row.reconcile t now).state = .ofOperationState e.operationState := by
    rintro row ⟨⟨e, he, -⟩, -⟩
    have he : projectedEvent t row = some e := he
    obtain ⟨hmem, hid⟩ := mem_of_projectedEvent he
    exact ⟨e, hmem, hid, reconcile_operationId he, reconcile_state he⟩
  refine Filed.modifyRequests (Filed.modifyOutbox h (fun row => ?_) hchecks ?_ ?_ ?_)
    fun request => ⟨rfl, rfl, rfl⟩
  · obtain ⟨hframe, -⟩ := reconcile_frame t now row
    exact ⟨congrArg FrozenColumns.eventUuid hframe, congrArg FrozenColumns.resultCount hframe⟩
  · intro row hrow hneeds
    obtain ⟨e, -, -, -, hs⟩ := hoperation row hneeds
    show (row.reconcile t now).state ≠ _
    rw [hs]; cases e.operationState <;> decide
  · intro row hrow hneeds o ho
    obtain ⟨e, he, -, hid, -⟩ := hoperation row hneeds
    obtain ⟨op, hop, hopid, -⟩ := hc.event_state e he
    refine ⟨op, hop, ?_⟩
    have ho : (row.reconcile t now).operationId = some o := ho
    rw [hid, Option.some.injEq] at ho
    rw [hopid, ho]
  · intro row hrow hneeds e' he' ho
    obtain ⟨e, he, huuid, hid, -⟩ := hoperation row hneeds
    have ho : (row.reconcile t now).operationId = some e'.operationId := ho
    rw [hid, Option.some.injEq] at ho
    rw [← hevents.operationKey e he e' he' ho, huuid]

/-- No two rows come to the same operation, and the operations exist. -/
theorem operationIdsFree_of_filed (hc : Projector.Consistent source t)
    (hevents : Projector.EventsFiled t) (h : Filed t p) : operationIdsFree t now p := by
  rintro row hrow ⟨⟨e, he, -⟩, -⟩
  have he : projectedEvent t row = some e := he
  obtain ⟨hmem, huuid⟩ := mem_of_projectedEvent he
  rw [reconcile_operationId he]
  refine ⟨fun other hother hne => ?_, ?_⟩
  · -- the operation of `e` is of no other row
    have hbound : other.operationId ≠ some e.operationId := fun ho =>
      hne (congrArg OutboxRow.id (h.event_inj other hother row hrow
        ((h.bound other hother e hmem ho).symm.trans huuid)))
    refine ⟨hbound.symm, fun ho => ?_⟩
    cases he' : projectedEvent t other with
    | none =>
      simp only [OutboxRow.reconcile, he'] at ho
      exact hbound ho.symm
    | some e' =>
      obtain ⟨hmem', huuid'⟩ := mem_of_projectedEvent he'
      rw [reconcile_operationId he', Option.some.injEq] at ho
      have hsame := hevents.operationKey e hmem e' hmem' ho
      exact hne (congrArg OutboxRow.id (h.event_inj other hother row hrow
        (by rw [← huuid, ← huuid', hsame])))
  · obtain ⟨op, hop, hid, -⟩ := hc.event_state e hmem
    exact ⟨_, rfl, by rw [Table.find?_eq_some.mpr ⟨hop, hid⟩]; rfl⟩

theorem reconcileProjectedFinality_eq_ok {r : ℕ × PublicationTables} :
    reconcileProjectedFinality t now p = .ok r ↔
      (∀ row ∈ p.outbox, NeedsReconcile t row →
        hcFreezeMatchOutboxPayload row (row.reconcile t now) = .ok () ∧
          outboxChecks (row.reconcile t now) = .ok ()) ∧
      operationIdsFree t now p ∧
      (∀ request ∈ p.request, publishedRequest t now p request →
        hcValidatePublicationRequestUpdate p request (request.publish now) = .ok () ∧
          requestChecks (request.publish now) = .ok ()) ∧
      (∀ row ∈ p.outbox, NeedsReconcile t row →
        hcCheckPublicationItemSet (reconciledTables t now p) row.id = .ok ()) ∧
      (∀ request ∈ p.request, publishedRequest t now p request →
        hcCheckPublicationRequestRoundState p (request.publish now) = .ok ()) ∧
      r = ((p.outbox.rows.filter fun row => NeedsReconcile t row).length,
        reconciledTables t now p) := by
  simp only [reconcileProjectedFinality, bind_eq_ok, exists_unit, require_eq_ok, updateOutbox_eq_ok,
    updateRequests_eq_ok, commit_eq_ok, pure_eq_ok]
  constructor
  · rintro ⟨-, ⟨hrows, rfl⟩, hfree, -, ⟨hrequests, rfl⟩, -, ⟨hdeferred, rfl⟩, rfl⟩
    refine ⟨hrows, hfree, hrequests, fun row hrow hneeds => ?_, fun request hr hp => ?_, rfl⟩
    · exact hdeferred (.itemSet row.id) (List.mem_append_left _ (List.mem_append_right _
        (List.mem_map_of_mem (List.mem_filter.mpr ⟨hrow, decide_eq_true hneeds⟩))))
    · exact hdeferred (.requestRoundState (request.publish now)) (List.mem_append_right _
        (List.mem_map.mpr ⟨request, List.mem_filter.mpr ⟨hr, decide_eq_true hp⟩, rfl⟩))
  · rintro ⟨hrows, hfree, hrequests, hitems, hround, rfl⟩
    refine ⟨_, ⟨hrows, rfl⟩, hfree, _, ⟨hrequests, rfl⟩, _, ⟨?_, rfl⟩, rfl⟩
    intro d hd
    rcases List.mem_append.mp hd with hd | hd
    · rcases List.mem_append.mp hd with hd | hd
      · cases hd
      · obtain ⟨row, hrow, rfl⟩ := List.mem_map.mp hd
        obtain ⟨hmem, hneeds⟩ := List.mem_filter.mp hrow
        exact hitems row hmem (of_decide_eq_true hneeds)
    · obtain ⟨request, hrequest, rfl⟩ := List.mem_map.mp hd
      obtain ⟨hmem, hpub⟩ := List.mem_filter.mp hrequest
      exact hround request hmem (of_decide_eq_true hpub)

/-- **When reconciling completes**: in tables that are in order, if and only if no row is
stranded. -/
theorem reconcile_completes_iff (hc : Projector.Consistent source t)
    (hevents : Projector.EventsFiled t) (h : Filed t p) :
    (∃ r, reconcileProjectedFinality t now p = .ok r) ↔ ∀ row ∈ p.outbox, ¬ Stranded t row := by
  constructor
  · rintro ⟨r, hok⟩ row hrow hstr
    have hrows := (reconcileProjectedFinality_eq_ok.mp hok).1
    exact (row_reconciles_iff h hevents hrow hstr.needsReconcile).mp
      (hrows row hrow hstr.needsReconcile) hstr
  · intro hnone
    have hrows : ∀ row ∈ p.outbox, NeedsReconcile t row →
        hcFreezeMatchOutboxPayload row (row.reconcile t now) = .ok () ∧
          outboxChecks (row.reconcile t now) = .ok () := fun row hrow hneeds =>
      (row_reconciles_iff h hevents hrow hneeds).mpr (hnone row hrow)
    have hfiled := h.reconciledTables hc hevents fun row hrow hneeds => (hrows row hrow hneeds).2
    refine ⟨_, reconcileProjectedFinality_eq_ok.mpr ⟨hrows, operationIdsFree_of_filed hc hevents h,
      fun request hr _ => ⟨?_, ?_⟩, fun row hrow hneeds => ?_, fun request hr _ => ?_, rfl⟩⟩
    · obtain ⟨v, hv, hid, hround, htype⟩ := h.revision request hr
      have hfind : p.revision.find? request.resultRevisionId = some v :=
        Table.find?_eq_some.mpr ⟨hv, hid⟩
      simp [hcValidatePublicationRequestUpdate, hcValidatePublicationRequest, RequestRow.publish,
        hfind, hround, htype]
    · simp [requestChecks, RequestRow.publish]
    · have hmem : row.reconcile t now ∈ (reconciledTables t now p).outbox :=
        Table.mem_modify_of hrow hneeds
      have hset := hfiled.itemSet _ hmem
      rwa [show (row.reconcile t now).id = row.id from OutboxRow.reconcile_id t now row] at hset
    · obtain ⟨round, hround, hid, hcompleted⟩ := h.round request hr
      have hfind : p.round.find? request.roundId = some round :=
        Table.find?_eq_some.mpr ⟨hround, hid⟩
      simp [hcCheckPublicationRequestRoundState, RequestRow.publish, hfind, hcompleted]

end Reconcile

/-! ### Runs -/

section Runs

/-- The invariant of the publisher beside the projector. -/
structure PublicationInv (source : String) (S : PublicationSys ι) : Prop where
  consistent : Projector.Consistent source S.db.chain
  events : Projector.EventsFiled S.db.chain
  filed : Filed S.db.chain S.tables

theorem publicationInv_start (source : String) (game : Projector.GameTables) :
    PublicationInv source (PublicationSys.start ι game) where
  consistent := Projector.consistent_empty source
  events := ⟨fun _ h => absurd h Table.not_mem_empty, fun _ h => absurd h Table.not_mem_empty⟩
  filed := filed_fresh game

/-- No row is stranded. -/
def Clear (S : PublicationSys ι) : Prop := ∀ row ∈ S.tables.outbox, ¬ Stranded S.db.chain row

/-- A transition that strands a row: the projector moves a row's event where the row cannot follow,
or a batch is frozen under an event id that is already projected as included. -/
def Strands (t : Transition (PublicationSys ι) (PublicationLabel ι)) : Prop :=
  match t.label with
  | .projector _ => ∃ row ∈ t.pre.tables.outbox, Stranded t.post.db.chain row
  | .freeze frozen _ _ _ => Projector.eventState t.pre.db.chain frozen.eventId = some .included
  | _ => False

instance (t : Projector.ChainTables) (row : OutboxRow) : Decidable (Stranded t row) :=
  inferInstanceAs (Decidable (_ ∨ _))

instance (t : Transition (PublicationSys ι) (PublicationLabel ι)) : Decidable (Strands t) :=
  match t with
  | ⟨pre, .projector _, post⟩ =>
    inferInstanceAs (Decidable (∃ row ∈ pre.tables.outbox.rows, Stranded post.db.chain row))
  | ⟨pre, .freeze frozen _ _ _, _⟩ =>
    inferInstanceAs (Decidable (Projector.eventState pre.db.chain frozen.eventId = some .included))
  | ⟨_, .request .., _⟩ | ⟨_, .defer .., _⟩ | ⟨_, .claim .., _⟩ | ⟨_, .broadcast _, _⟩
  | ⟨_, .markBroadcast .., _⟩ | ⟨_, .markRetryableFailure .., _⟩ | ⟨_, .reconcile _, _⟩
  | ⟨_, .crash _, _⟩ => inferInstanceAs (Decidable False)

/-- `reconcileProjectedFinality` runs to completion, whatever the time. -/
def ReconcileCompletes (S : PublicationSys ι) : Prop :=
  ∀ now, ∃ r, reconcileProjectedFinality S.db.chain now S.tables = .ok r

theorem reconcileCompletes_iff {S : PublicationSys ι} (h : PublicationInv source S) :
    ReconcileCompletes S ↔ Clear S :=
  ⟨fun hall => (reconcile_completes_iff h.consistent h.events h.filed).mp (hall 0),
    fun hclear _ => (reconcile_completes_iff h.consistent h.events h.filed).mpr hclear⟩

theorem recordRequest_outbox {round : RoundRef} {revision : RevisionRef} {row : RequestRow}
    (hok : recordRequest round revision row p = .ok p') : p'.outbox = p.outbox := by
  simp only [recordRequest, bind_eq_ok, exists_unit, commit_eq_ok] at hok
  obtain ⟨-, -, -, -, -, -, -, rfl⟩ := hok
  rfl

theorem deferInvalidRequest_outbox {publicationRequestId : Uuid} {code : String}
    {now retryAt : Timestamp}
    (hok : deferInvalidRequest publicationRequestId code now retryAt p = .ok p') :
    p'.outbox = p.outbox := by
  simp only [deferInvalidRequest, bind_eq_ok, updateRequests_eq_ok, commit_eq_ok] at hok
  obtain ⟨-, ⟨-, rfl⟩, -, rfl⟩ := hok
  rfl

theorem markBroadcast_outbox {outboxId : Uuid} {transactionId : String} {broadcastAt : Timestamp}
    (hok : markBroadcast outboxId transactionId broadcastAt p = .ok p') :
    (∀ row ∈ p.outbox, row.id = outboxId →
      hcFreezeMatchOutboxPayload row (row.markBroadcast transactionId broadcastAt) = .ok ()) ∧
      p' = { p with outbox := p.outbox.modify (fun row => row.id = outboxId)
                      ⟨.markBroadcast transactionId broadcastAt, fun _ => rfl⟩ } := by
  simp only [markBroadcast, bind_eq_ok] at hok
  obtain ⟨tx, hupdate, hcommit⟩ := hok
  obtain ⟨hcheck, rfl⟩ := updateOutbox_commit hupdate hcommit
  exact ⟨fun row hrow hid => (hcheck row hrow hid).1, rfl⟩

theorem markRetryableFailure_outbox {outboxId : Uuid} {transactionId : Option String}
    {failureCode : String} {retryAt now : Timestamp}
    (hok : markRetryableFailure outboxId transactionId failureCode retryAt now p = .ok p') :
    (∀ row ∈ p.outbox, row.id = outboxId → hcFreezeMatchOutboxPayload row
        (row.markRetryableFailure transactionId failureCode retryAt now) = .ok ()) ∧
      p' = { p with outbox := p.outbox.modify (fun row => row.id = outboxId)
                      ⟨.markRetryableFailure transactionId failureCode retryAt now, fun _ => rfl⟩ } := by
  simp only [markRetryableFailure, bind_eq_ok] at hok
  obtain ⟨tx, hupdate, hcommit⟩ := hok
  obtain ⟨hcheck, rfl⟩ := updateOutbox_commit hupdate hcommit
  exact ⟨fun row hrow hid => (hcheck row hrow hid).1, rfl⟩

theorem hcFreezeMatchOutboxPayload_transition {old new : OutboxRow}
    (h : hcFreezeMatchOutboxPayload old new = .ok ()) :
    old.state = new.state ∨ new.state ∈ old.state.successors := by
  simp only [hcFreezeMatchOutboxPayload, bind_eq_ok, exists_unit, require_eq_ok] at h
  exact h.2.1

theorem not_stranded_reconciledTables {now : Timestamp} :
    ∀ row ∈ (reconciledTables t now p).outbox, ¬ Stranded t row := by
  intro row' hrow' hstr
  rcases Table.mem_modify_cases hrow' with ⟨row, hrow, ⟨⟨e, he, hne⟩, hirr⟩, rfl⟩ | ⟨hrow, hnot⟩
  · have he : projectedEvent t row = some e := he
    have hstr : Stranded t (row.reconcile t now) := hstr
    have huuid : (row.reconcile t now).eventUuid = row.eventUuid :=
      congrArg FrozenColumns.eventUuid (reconcile_frame t now row).1
    simp only [Stranded, huuid, eventState_of_projectedEvent he, reconcile_state he,
      Option.some.injEq] at hstr
    rcases hstr with ⟨hs, hstate⟩ | ⟨hs, -, hstate, -⟩
    · rw [hs] at hstate; cases hstate
    · rw [hs] at hstate; exact hstate rfl
  · exact hnot hstr.needsReconcile

variable [DecidableEq ι]

theorem publicationInv_step {S S' : PublicationSys ι} {l : PublicationLabel ι}
    (h : PublicationInv source S) (hl : PublicationStep R source S l S') :
    PublicationInv source S' := by
  obtain ⟨hc, hevents, hfiled⟩ := h
  cases hl with
  | projector hguard hans =>
    obtain ⟨hmoved, hkept⟩ := hc.answer_events hans
    exact ⟨(hc.answer hguard hans).1, hkept hevents, hfiled.projector hmoved⟩
  | request hok => exact ⟨hc, hevents, hfiled.recordRequest hok⟩
  | freeze hok => exact ⟨hc, hevents, hfiled.freezeNextBatch hok⟩
  | defer hok => exact ⟨hc, hevents, hfiled.deferInvalidRequest hok⟩
  | claim _ hok => exact ⟨hc, hevents, hfiled.claimNextOutbox hok⟩
  | broadcast _ => exact ⟨hc, hevents, hfiled⟩
  | markBroadcast _ hok => exact ⟨hc, hevents, hfiled.markBroadcast hok⟩
  | markRetryableFailure _ hok => exact ⟨hc, hevents, hfiled.markRetryableFailure hok⟩
  | reconcile hok =>
    obtain ⟨hrows, -, -, -, -, hr⟩ := reconcileProjectedFinality_eq_ok.mp hok
    obtain ⟨-, rfl⟩ := Prod.mk.inj hr
    exact ⟨hc, hevents, hfiled.reconciledTables hc hevents fun row hrow hneeds =>
      (hrows row hrow hneeds).2⟩
  | crash => exact ⟨hc, hevents, hfiled⟩

theorem clear_step {S S' : PublicationSys ι} {l : PublicationLabel ι} (h : Clear S)
    (hl : PublicationStep R source S l S') (hnone : ¬ Strands ⟨S, l, S'⟩) : Clear S' := by
  cases hl with
  | projector hguard hans => exact fun row hrow hstr => hnone ⟨row, hrow, hstr⟩
  | request hok => exact fun row hrow => h row (recordRequest_outbox hok ▸ hrow)
  | freeze hok =>
    intro row hrow hstr
    have hrow : row ∈ _ := hrow
    rw [Table.mem_def, freezeNextBatch_outbox hok] at hrow
    rcases List.mem_append.mp hrow with hrow | hrow
    · exact h row hrow hstr
    · obtain rfl := List.mem_singleton.mp hrow
      rcases hstr with ⟨-, hstate⟩ | ⟨hs, -⟩
      · cases hstate
      · exact hnone hs
  | defer hok => exact fun row hrow => h row (deferInvalidRequest_outbox hok ▸ hrow)
  | claim _ hok =>
    rcases claimNextOutbox_eq_ok.mp hok with ⟨-, -, rfl⟩ | ⟨claimed, tx, -, hupdate, -, hcommit, -⟩
    · exact h
    · obtain ⟨-, rfl⟩ := updateOutbox_commit hupdate hcommit
      intro row hrow hstr
      rcases Table.mem_modify_cases hrow with ⟨old, hold, -, rfl⟩ | ⟨hrow, -⟩
      · exact h old hold hstr
      · exact h row hrow hstr
  | broadcast _ => exact h
  | markBroadcast _ hok =>
    obtain ⟨-, rfl⟩ := markBroadcast_outbox hok
    intro row hrow hstr
    rcases Table.mem_modify_cases hrow with ⟨old, hold, -, rfl⟩ | ⟨hrow, -⟩
    · rcases hstr with ⟨-, hstate⟩ | ⟨-, htx, -⟩
      · cases hstate
      · cases htx
    · exact h row hrow hstr
  | @markRetryableFailure _ _ _ _ _ _ _ transactionId _ _ _ _ hok =>
    obtain ⟨hcheck, rfl⟩ := markRetryableFailure_outbox hok
    intro row hrow hstr
    rcases Table.mem_modify_cases hrow with ⟨old, hold, hid, rfl⟩ | ⟨hrow, -⟩
    · rcases hstr with ⟨-, hstate⟩ | ⟨hs, htx, -⟩
      · cases hstate
      · -- the row had no transaction before either, and was in a state that allows the mark
        have htrans := hcFreezeMatchOutboxPayload_transition (hcheck old hold hid)
        have hnone : old.hiveTransactionId = none := by
          cases transactionId with
          | none => exact htx
          | some _ => cases htx
        refine h old hold (.inr ⟨hs, hnone, fun hstate => ?_, fun hstate => ?_⟩)
        · rw [hstate] at htrans; revert htrans; simp [OutboxRow.markRetryableFailure, OutboxState.successors]
        · rw [hstate] at htrans; revert htrans; simp [OutboxRow.markRetryableFailure, OutboxState.successors]
    · exact h row hrow hstr
  | reconcile hok =>
    obtain ⟨-, -, -, -, -, hr⟩ := reconcileProjectedFinality_eq_ok.mp hok
    obtain ⟨-, rfl⟩ := Prod.mk.inj hr
    exact not_stranded_reconciledTables
  | crash => exact h

theorem not_clear_of_strands {S S' : PublicationSys ι} {l : PublicationLabel ι}
    (hl : PublicationStep R source S l S') (hstr : Strands ⟨S, l, S'⟩) : ¬ Clear S' := by
  intro hclear
  cases hl with
  | projector hguard hans =>
    obtain ⟨row, hrow, hstr⟩ := hstr
    exact hclear row hrow hstr
  | @freeze _ _ p' _ frozen publisherAccount _ now hok =>
    have hmem : frozenOutboxRow frozen publisherAccount now ∈ p'.outbox := by
      rw [Table.mem_def, freezeNextBatch_outbox hok]; simp
    exact hclear _ hmem (.inr ⟨hstr, rfl, by simp [frozenOutboxRow], by simp [frozenOutboxRow]⟩)
  | _ => exact hstr

/-- **Reconciling in every reachable state.**  Along a run of publisher workers beside the
projector, `reconcileProjectedFinality` completes in every state if and only if no step of the run
stranded a row. -/
theorem reconcile_completes_along_run_iff (game : Projector.GameTables)
    {ts : List (Transition (PublicationSys ι) (PublicationLabel ι))} {S : PublicationSys ι}
    (h : Run (PublicationStep R source) (.start ι game) ts S) :
    (ReconcileCompletes S ∧ ∀ t ∈ ts, ReconcileCompletes t.post) ↔ ∀ t ∈ ts, ¬ Strands t := by
  obtain ⟨hS, hinv⟩ := h.invariant' (fun _ _ _ hm hl => publicationInv_step hm hl)
    (publicationInv_start source game)
  constructor
  · rintro ⟨-, hall⟩ t ht hstr
    exact not_clear_of_strands (h.step_of_mem t ht) hstr
      ((reconcileCompletes_iff (hinv t ht).2).mp (hall t ht))
  · intro hnone
    have hstart : Clear (PublicationSys.start ι game) := fun row hrow => absurd hrow Table.not_mem_empty
    obtain ⟨hclear, hall⟩ := h.invariant (G := fun t => ¬ Strands t)
      (fun _ _ _ hm hG hl => clear_step hm hl hG) hstart hnone
    exact ⟨(reconcileCompletes_iff hS).mpr hclear,
      fun t ht => (reconcileCompletes_iff (hinv t ht).2).mpr (hall t ht).2⟩

end Runs

/-! ### A crash between the broadcast and its mark -/

def publishedBatch : MatchResultsBatch := Projector.exampleBatch ⟨31⟩ ⟨32⟩ ⟨33⟩

def publisherRuntime : PublisherRuntime where
  toRuntime := Projector.exampleRuntime [("batch", .matchResultsBatch publishedBatch)]
  sha256Hex _ := Projector.exampleSha256.hex

theorem parse_batch : parseHiveChameleonEvent publisherRuntime.toRuntime "batch" =
    .ok (.matchResultsBatch publishedBatch) := by decide

theorem parse_ne_batch {payload : String} {event : HiveChameleonEvent} (hpayload : payload ≠ "batch") :
    parseHiveChameleonEvent publisherRuntime.toRuntime payload ≠ .ok event := by
  have hnone : publisherRuntime.safeParse payload = none := by
    show (([("batch", _)] : List (String × HiveChameleonEvent)).find? _).map _ = none
    rw [List.find?_cons_of_neg (by simpa using Ne.symm hpayload)]
    rfl
  intro h
  unfold parseHiveChameleonEvent at h
  rw [hnone] at h
  split at h <;> cases h

def publishedFrozen : FrozenMatchBatch where
  outboxId := ⟨21⟩
  eventId := ⟨31⟩
  batchId := ⟨32⟩
  canonicalPayload := "batch"
  payloadSha256 := Projector.exampleSha256.hex
  payloadByteCount := 5
  publicationPeriodStart := 0
  publicationPeriodEnd := 0
  candidates := [⟨⟨11⟩, ⟨12⟩, ⟨33⟩⟩]

/-- The block that carries the batch, and what the projector decides on its operation. -/
def publishedBlock : Projector.HafBlock := ⟨1, "b1", "b0", 3⟩

def publishedDecisions : List Projector.OperationDecision :=
  (Projector.validateBlockOperations (Projector.exampleConfig publisherRuntime.toRuntime)
    publishedBlock [Projector.exampleOperation "op1" "tx1" 0 publishedBlock "batch"]).toOption.getD []

/-- A round is recorded, its request frozen, and the batch claimed and broadcast. -/
def broadcastSchedule : List (PublicationLabel Unit) :=
  [.request ⟨⟨33⟩, .completed⟩ ⟨⟨12⟩, ⟨33⟩, .initial⟩
    ⟨⟨11⟩, ⟨33⟩, ⟨12⟩, .initial, .queued, 0, none, none, none, none⟩,
   .freeze publishedFrozen "publisher" (fun _ => ⟨41⟩) 1, .claim () 10 20, .broadcast ()]

/-- The worker crashes after the broadcast; then the projector includes the batch. -/
def crashSchedule : List (PublicationLabel Unit) :=
  broadcastSchedule ++ [.crash (), .projector (.applyBlock publishedBlock publishedDecisions)]

/-- Follows a schedule of one worker on a fresh database. -/
def follow (schedule : List (PublicationLabel Unit)) :
    Option (List (Transition (PublicationSys Unit) (PublicationLabel Unit)) × PublicationSys Unit) :=
  replay (PublicationSys.exec publisherRuntime "haf" 1000) (.start Unit Projector.emptyGame) schedule

def stepsOf (schedule : List (PublicationLabel Unit)) :
    List (Transition (PublicationSys Unit) (PublicationLabel Unit)) :=
  ((follow schedule).map (·.1)).getD []

def stateOf (schedule : List (PublicationLabel Unit)) : PublicationSys Unit :=
  ((follow schedule).map (·.2)).getD (.start Unit Projector.emptyGame)

theorem follow_run {schedule : List (PublicationLabel Unit)} (h : (follow schedule).isSome = true) :
    Run (PublicationStep publisherRuntime "haf") (.start Unit Projector.emptyGame)
      (stepsOf schedule) (stateOf schedule) := by
  obtain ⟨⟨ts, S⟩, hrun⟩ := Option.isSome_iff_exists.mp h
  rw [stepsOf, stateOf, hrun]
  exact (replay_run PublicationSys.exec_sound hrun).1

theorem labels_stepsOf {schedule : List (PublicationLabel Unit)} (h : (follow schedule).isSome = true) :
    (stepsOf schedule).map Transition.label = schedule := by
  obtain ⟨⟨ts, S⟩, hrun⟩ := Option.isSome_iff_exists.mp h
  rw [stepsOf, hrun]
  exact (replay_run PublicationSys.exec_sound hrun).2

theorem not_reconcileCompletes_crash : ¬ ReconcileCompletes (stateOf crashSchedule) := by
  intro h
  obtain ⟨r, hr⟩ := h 0
  have hnone : (reconcileProjectedFinality (stateOf crashSchedule).db.chain 0
    (stateOf crashSchedule).tables).toOption.isSome = false := by decide
  rw [hr] at hnone
  cases hnone

/-- The run after which `reconcileProjectedFinality` raises. -/
theorem reconcile_raises_after_crash :
    Run (PublicationStep publisherRuntime "haf") (.start Unit Projector.emptyGame)
        (stepsOf crashSchedule) (stateOf crashSchedule) ∧
      ¬ ReconcileCompletes (stateOf crashSchedule) :=
  ⟨follow_run (by decide), not_reconcileCompletes_crash⟩

/-- The worker marks the broadcast before the projector includes the batch. -/
def markedSchedule : List (PublicationLabel Unit) :=
  broadcastSchedule ++ [.markBroadcast () "tx1" 11 true,
    .projector (.applyBlock publishedBlock publishedDecisions), .reconcile 12]

/-- In the run with the crash a step stranded the row; in the run with the mark reconciling completes in
every state. -/
theorem reconcile_completes_along_run_iff_crash : (∃ t ∈ stepsOf crashSchedule, Strands t) ∧
    (∀ t ∈ stepsOf markedSchedule, ReconcileCompletes t.post) ∧
    (stateOf markedSchedule).tables.outbox.rows.map (·.state) = [.included] := by
  refine ⟨?_, ?_, by decide⟩
  · by_contra hnone
    have hrun : Run (PublicationStep publisherRuntime "haf") (.start Unit Projector.emptyGame)
      (stepsOf crashSchedule) (stateOf crashSchedule) := follow_run (by decide)
    have hall := (reconcile_completes_along_run_iff Projector.emptyGame hrun).mpr
      fun t ht hstr => hnone ⟨t, ht, hstr⟩
    exact not_reconcileCompletes_crash hall.1
  · have hrun : Run (PublicationStep publisherRuntime "haf") (.start Unit Projector.emptyGame)
      (stepsOf markedSchedule) (stateOf markedSchedule) := follow_run (by decide)
    exact ((reconcile_completes_along_run_iff Projector.emptyGame hrun).mpr (by decide)).2

end HiveChameleon.Publisher
