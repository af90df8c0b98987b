import HiveChameleon.Publisher.Store

/-!
# Publisher.System — the publisher's workers beside the projector

The joint state of the projected tables, the publication tables and what each publisher worker
holds, with the store transactions of both sides in any order.  A transaction that fails changes
nothing and is no step; a worker may crash between any two.  `Filed` is the invariant of the
publication tables and of their references into the projection.
-/

namespace HiveChameleon.Publisher

open Gateway Lib Nakama

/-- What committed rounds hand over: a completed round, a revision of it and its queued request. -/
def recordRequest (round : RoundRef) (revision : RevisionRef) (request : RequestRow)
    (p : PublicationTables) : Except PublisherFailure PublicationTables := do
  require (request.state = .queued ∧ request.roundId = round.id)
    (.sql (.constraint "fk_match_publication_request_round"))
  let rounds := (p.round.insert? round).getD p.round
  let revisions ← p.revision.insert revision (.sql (.constraint "round_result_revision_pkey"))
  hcValidatePublicationRequest { p with round := rounds, revision := revisions } request
  let requests ← p.request.insert request (.sql (.constraint "match_publication_request_pkey"))
  let tx : PublicationTx :=
    ⟨{ p with round := rounds, revision := revisions, request := requests },
      [.requestRoundState request]⟩
  tx.commit

/-- The joint state: the projection, the publication tables, and the attempt each worker holds. -/
structure PublicationSys (ι : Type) where
  db : Projector.Db
  tables : PublicationTables
  held : ι → Option MatchOutboxAttempt

/-- The transactions with their arguments, the broadcasts and the crashes. -/
inductive PublicationLabel (ι : Type) where
  | projector (q : Projector.Request)
  | request (round : RoundRef) (revision : RevisionRef) (row : RequestRow)
  | freeze (frozen : FrozenMatchBatch) (publisherAccount : String) (ids : ℕ → Uuid)
      (now : Timestamp)
  | defer (publicationRequestId : Uuid) (code : String) (now retryAt : Timestamp)
  | claim (i : ι) (now leaseUntil : Timestamp)
  | broadcast (i : ι)
  | markBroadcast (i : ι) (transactionId : String) (broadcastAt : Timestamp) (acknowledged : Bool)
  | markRetryableFailure (i : ι) (transactionId : Option String) (failureCode : String)
      (retryAt now : Timestamp) (acknowledged : Bool)
  | reconcile (now : Timestamp)
  | crash (i : ι)

variable {ι : Type}

/-- The state after a transaction that committed. -/
def PublicationSys.committed (S : PublicationSys ι)
    (result : Except PublisherFailure PublicationTables) : Option (PublicationSys ι) :=
  result.toOption.map fun p => { S with tables := p }

theorem PublicationSys.committed_eq_some {S S' : PublicationSys ι}
    {result : Except PublisherFailure PublicationTables} :
    S.committed result = some S' ↔ ∃ p, result = .ok p ∧ { S with tables := p } = S' := by
  simp only [committed, Option.map_eq_some_iff, toOption_eq_some]

variable [DecidableEq ι]

/-- What a worker holds after a mark: nothing once the store acknowledged it. -/
def heldAfterMark (held : ι → Option MatchOutboxAttempt) (i : ι) (acknowledged : Bool) :
    ι → Option MatchOutboxAttempt :=
  if acknowledged then Function.update held i none else held

/-- One step: a store call of the projector, a transaction of a publisher worker, a broadcast of
the attempt it holds, or a crash. -/
inductive PublicationStep (R : PublisherRuntime) (source : String) :
    PublicationSys ι → PublicationLabel ι → PublicationSys ι → Prop where
  | projector {db db' : Projector.Db} {p : PublicationTables}
      {held : ι → Option MatchOutboxAttempt} {q : Projector.Request}
      {r : Except Projector.Failure q.Response} (hguard : Projector.revertGuard source q db)
      (h : Projector.storeAnswer R.toRuntime source q db r db') :
      PublicationStep R source ⟨db, p, held⟩ (.projector q) ⟨db', p, held⟩
  | request {db : Projector.Db} {p p' : PublicationTables} {held : ι → Option MatchOutboxAttempt}
      {round : RoundRef} {revision : RevisionRef} {row : RequestRow}
      (h : recordRequest round revision row p = .ok p') :
      PublicationStep R source ⟨db, p, held⟩ (.request round revision row) ⟨db, p', held⟩
  | freeze {db : Projector.Db} {p p' : PublicationTables} {held : ι → Option MatchOutboxAttempt}
      {frozen : FrozenMatchBatch} {publisherAccount : String} {ids : ℕ → Uuid} {now : Timestamp}
      (h : freezeNextBatch frozen publisherAccount ids now p = .ok p') :
      PublicationStep R source ⟨db, p, held⟩ (.freeze frozen publisherAccount ids now) ⟨db, p', held⟩
  | defer {db : Projector.Db} {p p' : PublicationTables} {held : ι → Option MatchOutboxAttempt}
      {publicationRequestId : Uuid} {code : String} {now retryAt : Timestamp}
      (h : deferInvalidRequest publicationRequestId code now retryAt p = .ok p') :
      PublicationStep R source ⟨db, p, held⟩ (.defer publicationRequestId code now retryAt)
        ⟨db, p', held⟩
  | claim {db : Projector.Db} {p p' : PublicationTables} {held : ι → Option MatchOutboxAttempt}
      {i : ι} {now leaseUntil : Timestamp} {attempt : Option MatchOutboxAttempt}
      (hidle : held i = none) (h : claimNextOutbox R now leaseUntil p = .ok (attempt, p')) :
      PublicationStep R source ⟨db, p, held⟩ (.claim i now leaseUntil)
        ⟨db, p', Function.update held i attempt⟩
  | broadcast {db : Projector.Db} {p : PublicationTables} {held : ι → Option MatchOutboxAttempt}
      {i : ι} {attempt : MatchOutboxAttempt} (hheld : held i = some attempt) :
      PublicationStep R source ⟨db, p, held⟩ (.broadcast i) ⟨db, p, held⟩
  | markBroadcast {db : Projector.Db} {p p' : PublicationTables}
      {held : ι → Option MatchOutboxAttempt} {i : ι} {acknowledged : Bool}
      {attempt : MatchOutboxAttempt} {transactionId : String} {broadcastAt : Timestamp}
      (hheld : held i = some attempt)
      (h : markBroadcast attempt.outboxId transactionId broadcastAt p = .ok p') :
      PublicationStep R source ⟨db, p, held⟩
        (.markBroadcast i transactionId broadcastAt acknowledged)
        ⟨db, p', heldAfterMark held i acknowledged⟩
  | markRetryableFailure {db : Projector.Db} {p p' : PublicationTables}
      {held : ι → Option MatchOutboxAttempt} {i : ι} {acknowledged : Bool}
      {attempt : MatchOutboxAttempt} {transactionId : Option String} {failureCode : String}
      {retryAt now : Timestamp} (hheld : held i = some attempt)
      (h : markRetryableFailure attempt.outboxId transactionId failureCode retryAt now p = .ok p') :
      PublicationStep R source ⟨db, p, held⟩
        (.markRetryableFailure i transactionId failureCode retryAt now acknowledged)
        ⟨db, p', heldAfterMark held i acknowledged⟩
  | reconcile {db : Projector.Db} {p p' : PublicationTables} {held : ι → Option MatchOutboxAttempt}
      {now : Timestamp} {changedCount : ℕ}
      (h : reconcileProjectedFinality db.chain now p = .ok (changedCount, p')) :
      PublicationStep R source ⟨db, p, held⟩ (.reconcile now) ⟨db, p', held⟩
  | crash {db : Projector.Db} {p : PublicationTables} {held : ι → Option MatchOutboxAttempt}
      {i : ι} : PublicationStep R source ⟨db, p, held⟩ (.crash i)
        ⟨db, p, Function.update held i none⟩

/-- The state after the mark of a held attempt. -/
def PublicationSys.marked (S : PublicationSys ι) (i : ι) (acknowledged : Bool)
    (mark : Uuid → Except PublisherFailure PublicationTables) : Option (PublicationSys ι) :=
  (S.held i).bind fun attempt => (mark attempt.outboxId).toOption.map fun p =>
    { S with tables := p, held := heldAfterMark S.held i acknowledged }

/-- Executes a step, the projector's with acknowledged calls at a given time. -/
def PublicationSys.exec (R : PublisherRuntime) (source : String) (time : Timestamp)
    (S : PublicationSys ι) : PublicationLabel ι → Option (PublicationSys ι)
  | .projector q =>
    if Projector.revertGuard source q S.db then
      some { S with db := (Projector.serve R.toRuntime source (.ofBlocks [] 0 [], time) q S.db).2 }
    else none
  | .request round revision row => S.committed (recordRequest round revision row S.tables)
  | .freeze frozen publisherAccount ids now =>
    S.committed (freezeNextBatch frozen publisherAccount ids now S.tables)
  | .defer publicationRequestId code now retryAt =>
    S.committed (deferInvalidRequest publicationRequestId code now retryAt S.tables)
  | .claim i now leaseUntil =>
    if S.held i = none then
      (claimNextOutbox R now leaseUntil S.tables).toOption.map fun (attempt, p) =>
        { S with tables := p, held := Function.update S.held i attempt }
    else none
  | .broadcast i => (S.held i).map fun _ => S
  | .markBroadcast i transactionId broadcastAt acknowledged =>
    S.marked i acknowledged fun outboxId =>
      markBroadcast outboxId transactionId broadcastAt S.tables
  | .markRetryableFailure i transactionId failureCode retryAt now acknowledged =>
    S.marked i acknowledged fun outboxId =>
      markRetryableFailure outboxId transactionId failureCode retryAt now S.tables
  | .reconcile now =>
    (reconcileProjectedFinality S.db.chain now S.tables).toOption.map fun (_, p) =>
      { S with tables := p }
  | .crash i => some { S with held := Function.update S.held i none }

theorem PublicationSys.marked_eq_some {S S' : PublicationSys ι} {i : ι} {acknowledged : Bool}
    {mark : Uuid → Except PublisherFailure PublicationTables} :
    S.marked i acknowledged mark = some S' ↔ ∃ attempt, S.held i = some attempt ∧
      ∃ p, mark attempt.outboxId = .ok p ∧
        { S with tables := p, held := heldAfterMark S.held i acknowledged } = S' := by
  simp only [marked, Option.bind_eq_some_iff, Option.map_eq_some_iff, toOption_eq_some]

theorem PublicationSys.exec_sound {R : PublisherRuntime} {source : String} {time : Timestamp}
    (S : PublicationSys ι) (l : PublicationLabel ι) (S' : PublicationSys ι)
    (h : S.exec R source time l = some S') : PublicationStep R source S l S' := by
  cases l with
  | projector q =>
    simp only [exec, Option.ite_none_right_eq_some, Option.some.injEq] at h
    obtain ⟨hguard, rfl⟩ := h
    exact .projector hguard (Projector.serve_answers _ _ _ _ _)
  | request => obtain ⟨p, hp, rfl⟩ := committed_eq_some.mp h; exact .request hp
  | freeze => obtain ⟨p, hp, rfl⟩ := committed_eq_some.mp h; exact .freeze hp
  | defer => obtain ⟨p, hp, rfl⟩ := committed_eq_some.mp h; exact .defer hp
  | claim =>
    simp only [exec, Option.ite_none_right_eq_some, Option.map_eq_some_iff, toOption_eq_some,
      Prod.exists] at h
    obtain ⟨hidle, attempt, p, hp, rfl⟩ := h
    exact .claim hidle hp
  | broadcast =>
    obtain ⟨attempt, hheld, rfl⟩ := Option.map_eq_some_iff.mp h
    exact .broadcast hheld
  | markBroadcast =>
    simp only [exec, marked_eq_some] at h
    obtain ⟨attempt, hheld, p, hp, rfl⟩ := h
    exact .markBroadcast hheld hp
  | markRetryableFailure =>
    simp only [exec, marked_eq_some] at h
    obtain ⟨attempt, hheld, p, hp, rfl⟩ := h
    exact .markRetryableFailure hheld hp
  | reconcile =>
    simp only [exec, Option.map_eq_some_iff, toOption_eq_some, Prod.exists] at h
    obtain ⟨changedCount, p, hp, rfl⟩ := h
    exact .reconcile hp
  | crash =>
    obtain rfl := Option.some.inj h
    exact .crash

/-- A fresh database with idle workers. -/
def PublicationSys.start (ι : Type) (game : Projector.GameTables) : PublicationSys ι :=
  ⟨.fresh game, .fresh, fun _ => none⟩

/-! ### The invariant of the tables -/

/-- The publication tables are in order, and what they know of the projection is right: every row
passes its checks, its items are complete, requests name completed rounds, and an operation
identifier of a row belongs to that row's event. -/
structure Filed (t : Projector.ChainTables) (p : PublicationTables) : Prop where
  checks : ∀ row ∈ p.outbox, outboxChecks row = .ok ()
  itemSet : ∀ row ∈ p.outbox, hcCheckPublicationItemSet p row.id = .ok ()
  notTerminal : ∀ row ∈ p.outbox, row.state ≠ .terminalFailed
  event_inj : ∀ row ∈ p.outbox, ∀ other ∈ p.outbox, row.eventUuid = other.eventUuid → row = other
  revision : ∀ r ∈ p.request, ∃ v ∈ p.revision, v.id = r.resultRevisionId ∧
    v.roundId = r.roundId ∧ v.revisionType = r.requestType
  round : ∀ r ∈ p.request, ∃ round ∈ p.round, round.id = r.roundId ∧ round.status = .completed
  operation : ∀ row ∈ p.outbox, ∀ o ∈ row.operationId, ∃ op ∈ t.operation, op.id = o
  bound : ∀ row ∈ p.outbox, ∀ e ∈ t.matchEvent, row.operationId = some e.operationId →
    e.eventUuid = row.eventUuid

theorem filed_fresh (game : Projector.GameTables) :
    Filed (Projector.Db.fresh game).chain .fresh where
  checks _ h := absurd h Table.not_mem_empty
  itemSet _ h := absurd h Table.not_mem_empty
  notTerminal _ h := absurd h Table.not_mem_empty
  event_inj _ h := absurd h Table.not_mem_empty
  revision _ h := absurd h Table.not_mem_empty
  round _ h := absurd h Table.not_mem_empty
  operation _ h := absurd h Table.not_mem_empty
  bound _ h := absurd h Table.not_mem_empty

/-! ### Statement specifications -/

section Spec

variable {tx tx' : PublicationTx} {p p' : PublicationTables} {t : Projector.ChainTables}

theorem updateOutbox_eq_ok {q : OutboxRow → Prop} [DecidablePred q]
    {set : Table.Assignment OutboxRow.id} :
    updateOutbox q set tx = .ok tx' ↔
      (∀ row ∈ tx.tables.outbox, q row →
        hcFreezeMatchOutboxPayload row (set row) = .ok () ∧ outboxChecks (set row) = .ok ()) ∧
      tx' = ⟨{ tx.tables with outbox := tx.tables.outbox.modify q set },
        tx.deferred ++ (tx.tables.outbox.rows.filter fun row => q row).map fun row =>
          .itemSet row.id⟩ := by
  simp only [updateOutbox, bind_eq_ok, exists_unit, Table.update_eq_ok, pure_eq_ok]
  constructor
  · rintro ⟨table, ⟨hcheck, rfl⟩, rfl⟩; exact ⟨hcheck, rfl⟩
  · rintro ⟨hcheck, rfl⟩; exact ⟨_, ⟨hcheck, rfl⟩, rfl⟩

theorem updateRequests_eq_ok {q : RequestRow → Prop} [DecidablePred q]
    {set : Table.Assignment RequestRow.id} :
    updateRequests q set tx = .ok tx' ↔
      (∀ row ∈ tx.tables.request, q row →
        hcValidatePublicationRequestUpdate tx.tables row (set row) = .ok () ∧
          requestChecks (set row) = .ok ()) ∧
      tx' = ⟨{ tx.tables with request := tx.tables.request.modify q set },
        tx.deferred ++ (tx.tables.request.rows.filter fun row => q row).map fun row =>
          .requestRoundState (set row)⟩ := by
  simp only [updateRequests, bind_eq_ok, exists_unit, Table.update_eq_ok, pure_eq_ok]
  constructor
  · rintro ⟨table, ⟨hcheck, rfl⟩, rfl⟩; exact ⟨hcheck, rfl⟩
  · rintro ⟨hcheck, rfl⟩; exact ⟨_, ⟨hcheck, rfl⟩, rfl⟩

theorem commit_eq_ok : tx.commit = .ok p' ↔
    (∀ d ∈ tx.deferred, d.check tx.tables = .ok ()) ∧ p' = tx.tables := by
  simp only [PublicationTx.commit, bind_eq_ok, exists_unit, checkAll_eq_ok, pure_eq_ok,
    eq_comm (a := p')]

theorem updateOutbox_commit {q : OutboxRow → Prop} [DecidablePred q]
    {set : Table.Assignment OutboxRow.id}
    (h : updateOutbox q set ⟨p, []⟩ = .ok tx) (hcommit : tx.commit = .ok p') :
    (∀ row ∈ p.outbox, q row →
      hcFreezeMatchOutboxPayload row (set row) = .ok () ∧ outboxChecks (set row) = .ok ()) ∧
      p' = { p with outbox := p.outbox.modify q set } := by
  obtain ⟨hcheck, rfl⟩ := updateOutbox_eq_ok.mp h
  obtain ⟨-, rfl⟩ := commit_eq_ok.mp hcommit
  exact ⟨hcheck, rfl⟩

theorem itemSet_congr {id : Uuid}
    (hrow : (p'.outbox.find? id).map (·.resultCount) = (p.outbox.find? id).map (·.resultCount))
    (hitem : (p'.item.rows.filter fun item => item.outboxId = id) =
      p.item.rows.filter fun item => item.outboxId = id)
    (h : hcCheckPublicationItemSet p id = .ok ()) : hcCheckPublicationItemSet p' id = .ok () := by
  unfold hcCheckPublicationItemSet at h ⊢
  rw [hitem]
  cases hold : p.outbox.find? id with
  | none =>
    rw [hold, Option.map_none, Option.map_eq_none_iff] at hrow
    rw [hrow]
  | some old =>
    rw [hold, Option.map_some, Option.map_eq_some_iff] at hrow
    obtain ⟨new, hnew, hcount⟩ := hrow
    rw [hold] at h
    rw [hnew]
    simp only [hcount]
    exact h

/-- Changing outbox rows, each to one that passes its checks and keeps its event, its count and
the meaning of its operation, keeps the tables in order. -/
theorem Filed.modifyOutbox (h : Filed t p) {q : OutboxRow → Prop} [DecidablePred q]
    {set : Table.Assignment OutboxRow.id}
    (hframe : ∀ row, (set row).eventUuid = row.eventUuid ∧ (set row).resultCount = row.resultCount)
    (hchecks : ∀ row ∈ p.outbox, q row → outboxChecks (set row) = .ok ())
    (hstate : ∀ row ∈ p.outbox, q row → (set row).state ≠ .terminalFailed)
    (hoperation : ∀ row ∈ p.outbox, q row → ∀ o ∈ (set row).operationId,
      ∃ op ∈ t.operation, op.id = o)
    (hbound : ∀ row ∈ p.outbox, q row → ∀ e ∈ t.matchEvent,
      (set row).operationId = some e.operationId → e.eventUuid = row.eventUuid) :
    Filed t { p with outbox := p.outbox.modify q set } where
  checks row' h' := by
    rcases Table.mem_modify_cases h' with ⟨row, hrow, hq, rfl⟩ | ⟨hrow, -⟩
    · exact hchecks row hrow hq
    · exact h.checks row' hrow
  itemSet row' h' := by
    obtain ⟨row, hrow, rfl⟩ := Table.mem_modify.mp h'
    rw [Table.key_updated (p := q) (f := set)]
    refine itemSet_congr (p := p) ?_ rfl (h.itemSet row hrow)
    change ((p.outbox.modify q set).find? row.id).map _ = _
    rw [Table.find?_modify, Option.map_map]
    congr 1
    funext a
    exact Table.updated_eq (g := fun r : OutboxRow => r.resultCount) (fun r => (hframe r).2) a
  notTerminal row' h' := by
    rcases Table.mem_modify_cases h' with ⟨row, hrow, hq, rfl⟩ | ⟨hrow, -⟩
    · exact hstate row hrow hq
    · exact h.notTerminal row' hrow
  event_inj row' h' other' ho' heq := by
    obtain ⟨row, hrow, rfl⟩ := Table.mem_modify.mp h'
    obtain ⟨other, hother, rfl⟩ := Table.mem_modify.mp ho'
    have hevent : ∀ r, (Table.updated q set r).eventUuid = r.eventUuid := fun r =>
      Table.updated_eq (g := fun r : OutboxRow => r.eventUuid) (fun r => (hframe r).1) r
    rw [h.event_inj row hrow other hother (by rw [← hevent row, heq, hevent])]
  revision := h.revision
  round := h.round
  operation row' h' o ho := by
    rcases Table.mem_modify_cases h' with ⟨row, hrow, hq, rfl⟩ | ⟨hrow, -⟩
    · exact hoperation row hrow hq o ho
    · exact h.operation row' hrow o ho
  bound row' h' e he hop := by
    rcases Table.mem_modify_cases h' with ⟨row, hrow, hq, rfl⟩ | ⟨hrow, -⟩
    · rw [(hframe row).1]; exact hbound row hrow hq e he hop
    · exact h.bound row' hrow e he hop

theorem Filed.modifyRequests (h : Filed t p) {q : RequestRow → Prop} [DecidablePred q]
    {set : Table.Assignment RequestRow.id}
    (hframe : ∀ row, (set row).roundId = row.roundId ∧
      (set row).resultRevisionId = row.resultRevisionId ∧ (set row).requestType = row.requestType) :
    Filed t { p with request := p.request.modify q set } where
  checks := h.checks
  itemSet row hrow := h.itemSet row hrow
  notTerminal := h.notTerminal
  event_inj := h.event_inj
  revision r' hr' := by
    obtain ⟨r, hr, rfl⟩ := Table.mem_modify.mp hr'
    rw [Table.updated_eq (g := fun r : RequestRow => r.resultRevisionId) (fun r => (hframe r).2.1),
      Table.updated_eq (g := fun r : RequestRow => r.roundId) (fun r => (hframe r).1),
      Table.updated_eq (g := fun r : RequestRow => r.requestType) (fun r => (hframe r).2.2)]
    exact h.revision r hr
  round r' hr' := by
    obtain ⟨r, hr, rfl⟩ := Table.mem_modify.mp hr'
    rw [Table.updated_eq (g := fun r : RequestRow => r.roundId) (fun r => (hframe r).1)]
    exact h.round r hr
  operation := h.operation
  bound := h.bound

end Spec

end HiveChameleon.Publisher
