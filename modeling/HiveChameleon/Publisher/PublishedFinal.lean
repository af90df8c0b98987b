import HiveChameleon.Projector.Sound
import HiveChameleon.Publisher.Conservation

/-!
# Publisher.PublishedFinal — a published request is final on the chain

`reconcileProjectedFinality` publishes the requests of a row from the projected state of the row's
event.  What it read can change no more: along a run of publishers beside the projector, the published
requests are those of the rows whose event the projection holds as irreversible, and they stay so.
-/

namespace HiveChameleon.Publisher

open Gateway Lib Nakama

variable {ι : Type} {P : PlannerConfig} {R : PublisherRuntime} {source : String}
  {t : Projector.ChainTables} {p p' : PublicationTables}

/-- The projection holds the row's event as irreversible, bound to the operation that the row records,
which is irreversible too, was accepted, and carries the event. -/
def Delivered (R : PublisherRuntime) (t : Projector.ChainTables) (row : OutboxRow) : Prop :=
  ∃ e ∈ t.matchEvent, ∃ op ∈ t.operation, e.eventUuid = row.eventUuid ∧ op.id = e.operationId ∧
    row.operationId = some op.id ∧ e.operationState = .irreversible ∧ op.state = .irreversible ∧
      Projector.EventEvidence R.toRuntime op e

/-- Every request of the row's items is published. -/
def AllPublished (p : PublicationTables) (row : OutboxRow) : Prop :=
  ∀ item ∈ p.item, item.outboxId = row.id → ∀ request ∈ p.request,
    request.id = item.publicationRequestId → request.state = .published

/-- **What a transaction does to final rows**: they stay, and so do published requests; a row becomes
irreversible when its event is, with its requests published; and new items are of no final row. -/
structure Finalizes (t : Projector.ChainTables) (p p' : PublicationTables) : Prop where
  row : ∀ row ∈ p.outbox, row.state = .irreversible → row ∈ p'.outbox
  request : ∀ request ∈ p.request, request.state = .published → request ∈ p'.request
  final : ∀ row ∈ p'.outbox, row.state = .irreversible → row ∈ p.outbox ∨
    (∃ e ∈ t.matchEvent, e.eventUuid = row.eventUuid ∧ row.operationId = some e.operationId ∧
      e.operationState = .irreversible) ∧ AllPublished p' row
  item : ∀ item ∈ p'.item, item ∈ p.item ∨
    ∀ row ∈ p'.outbox, row.id = item.outboxId → row.state ≠ .irreversible

section Transactions

theorem Finalizes.refl : Finalizes t p p where
  row _ hrow _ := hrow
  request _ hrequest _ := hrequest
  final _ hrow _ := .inl hrow
  item _ hitem := .inl hitem

theorem Finalizes.modifyOutbox {q : OutboxRow → Prop} [DecidablePred q]
    {set : Table.Assignment OutboxRow.id}
    (hq : ∀ row ∈ p.outbox, q row → row.state ≠ .irreversible ∧ (set row).state ≠ .irreversible) :
    Finalizes t p { p with outbox := p.outbox.modify q set } where
  row row hrow hstate := Table.mem_modify_of_not hrow fun hp => (hq row hrow hp).1 hstate
  request _ hrequest _ := hrequest
  final row' hrow' hstate := by
    rcases Table.mem_modify_cases hrow' with ⟨row, hrow, hp, rfl⟩ | ⟨hrow, -⟩
    · exact absurd hstate (hq row hrow hp).2
    · exact .inl hrow
  item _ hitem := .inl hitem

/-- A mark writes no final state, and the lifecycle trigger keeps it off final rows. -/
theorem Finalizes.mark {outboxId : Uuid} {set : Table.Assignment OutboxRow.id}
    (hcheck : ∀ row ∈ p.outbox, row.id = outboxId → hcFreezeMatchOutboxPayload row (set row) = .ok ())
    (hset : ∀ row, (set row).state ≠ .irreversible) :
    Finalizes t p { p with outbox := p.outbox.modify (fun row => row.id = outboxId) set } :=
  .modifyOutbox fun row hrow hid =>
    ⟨fun hstate => hset row (irreversible_of_transition (hcheck row hrow hid) hstate), hset row⟩

theorem finalizes_recordRequest {round : RoundRef} {revision : RevisionRef} {row : RequestRow}
    (hok : recordRequest round revision row p = .ok p') : Finalizes t p p' := by
  simp only [recordRequest, bind_eq_ok, exists_unit, require_eq_ok, Table.insert_eq_ok,
    commit_eq_ok] at hok
  obtain ⟨-, revisions, -, -, requests, ⟨-, hrequests⟩, -, rfl⟩ := hok
  refine ⟨fun row hrow _ => hrow, fun request hrequest _ => ?_, fun row hrow _ => .inl hrow,
    fun item hitem => .inl hitem⟩
  show request ∈ requests
  rw [Table.mem_def, hrequests]
  exact List.mem_append_left _ hrequest

theorem finalizes_claim {now leaseUntil : Timestamp} {attempt : Option MatchOutboxAttempt}
    (hok : claimNextOutbox R now leaseUntil p = .ok (attempt, p')) : Finalizes t p p' := by
  rcases claimNextOutbox_eq_ok.mp hok with ⟨-, -, rfl⟩ | ⟨claimed, tx, hcandidate, hupdate, -, hcommit, -⟩
  · exact .refl
  · obtain ⟨-, rfl⟩ := updateOutbox_commit hupdate hcommit
    obtain ⟨hclaimed, -, hstate, -⟩ := claimCandidate_mem hcandidate
    refine .modifyOutbox fun row hrow hid => ?_
    obtain rfl := Table.eq_of_key hrow hclaimed hid
    have hne : row.state ≠ .irreversible := by
      rcases hstate with h | h | h <;> rw [h] <;> decide
    exact ⟨hne, hne⟩

theorem finalizes_freeze {frozen : FrozenMatchBatch} {publisherAccount : String} {ids : ℕ → Uuid}
    {now : Timestamp} (h : FrozenInto frozen publisherAccount ids now p p') : Finalizes t p p' where
  row row hrow _ := by
    rw [Table.mem_def, h.outbox]
    exact List.mem_append_left _ hrow
  request request hrequest hstate := by
    rw [h.request]
    refine Table.mem_modify_of_not hrequest ?_
    rintro ⟨-, hqueued | hfailed⟩
    · cases hstate.symm.trans hqueued
    · cases hstate.symm.trans hfailed
  final row hrow hstate := by
    rw [Table.mem_def, h.outbox] at hrow
    rcases List.mem_append.mp hrow with hrow | hrow
    · exact .inl hrow
    · rw [List.mem_singleton.mp hrow] at hstate
      cases hstate
  item item hitem := by
    rw [Table.mem_def, h.item] at hitem
    rcases List.mem_append.mp hitem with hitem | hitem
    · exact .inl hitem
    · right
      intro row hrow hid hstate
      rw [Table.mem_def, h.outbox] at hrow
      rcases List.mem_append.mp hrow with hrow | hrow
      · exact h.outbox_fresh row hrow (hid.trans ((mem_frozenItems _ _ _ _).1 item hitem).1)
      · rw [List.mem_singleton.mp hrow] at hstate
        cases hstate

theorem finalizes_defer {id : Uuid} {now : Timestamp} {code : PlanningErrorCode}
    (hok : deferCandidate id now code p = .ok p')
    (hqueued : ∀ request ∈ p.request, request.id = id → request.state ≠ .published) :
    Finalizes t p p' := by
  simp only [deferCandidate, deferInvalidRequest, bind_eq_ok] at hok
  obtain ⟨tx, hupdate, hcommit⟩ := hok
  obtain ⟨-, rfl⟩ := updateRequests_eq_ok.mp hupdate
  obtain ⟨-, rfl⟩ := commit_eq_ok.mp hcommit
  exact ⟨fun row hrow _ => hrow, fun request hrequest hstate =>
    Table.mem_modify_of_not hrequest fun hid => hqueued request hrequest hid hstate,
    fun row hrow _ => .inl hrow, fun item hitem => .inl hitem⟩

/-- The reconcile transaction makes a row final when its event is, and publishes its requests. -/
theorem finalizes_reconcile (t : Projector.ChainTables) (now : Timestamp) (p : PublicationTables) :
    Finalizes t p (reconciledTables t now p) where
  row row hrow hstate := Table.mem_modify_of_not hrow fun hneeds => hneeds.2 hstate
  request request hrequest hstate := Table.mem_modify_of_not hrequest fun hpublish => hpublish.2 hstate
  final row' hrow' hstate := by
    rcases Table.mem_modify_cases hrow' with ⟨row, hrow, hneeds, rfl⟩ | ⟨hrow, -⟩
    · have hfinal : (row.reconcile t now).state = .irreversible := hstate
      obtain ⟨⟨e, he, -⟩, -⟩ := id hneeds
      have he : projectedEvent t row = some e := he
      obtain ⟨hmem, huuid⟩ := mem_of_projectedEvent he
      have hevent : (row.reconcile t now).eventUuid = row.eventUuid :=
        congrArg FrozenColumns.eventUuid (reconcile_frame t now row).1
      right
      refine ⟨⟨e, hmem, huuid.trans hevent.symm, reconcile_operationId he, ?_⟩, ?_⟩
      · rw [reconcile_state he] at hfinal
        cases hs : e.operationState <;> rw [hs] at hfinal <;> first | rfl | cases hfinal
      · intro item hitem hid request' hrequest' hrequestId
        have hid : item.outboxId = row.id := hid.trans (OutboxRow.reconcile_id t now row)
        rcases Table.mem_modify_cases hrequest' with ⟨request, -, -, rfl⟩ | ⟨hrequest, hnot⟩
        · rfl
        · by_contra hunpublished
          exact hnot ⟨⟨item, hitem, hrequestId.symm, row, hrow, hid.symm, hneeds, hfinal⟩, hunpublished⟩
    · exact .inl hrow
  item _ hitem := .inl hitem

end Transactions

/-! ### Steps -/

section Steps

variable [DecidableEq ι] {S S' : PublicationSys ι}

/-- **Every step** leaves final rows and published requests as they are. -/
theorem finalizes_step {l : PublisherLabel ι} (hl : PublisherStep P source S l S') :
    Finalizes S.db.chain S.tables S'.tables := by
  cases hl with
  | other hother hstep =>
    cases hstep with
    | projector => exact .refl
    | request hok => exact finalizes_recordRequest hok
    | freeze => exact absurd trivial hother
    | defer => exact absurd trivial hother
    | claim _ hok => exact finalizes_claim hok
    | broadcast => exact .refl
    | markBroadcast _ hok =>
      obtain ⟨hcheck, rfl⟩ := markBroadcast_outbox hok
      exact .mark hcheck fun _ => nofun
    | markRetryableFailure _ hok =>
      obtain ⟨hcheck, rfl⟩ := markRetryableFailure_outbox hok
      exact .mark hcheck fun _ => nofun
    | reconcile hok =>
      obtain ⟨-, -, -, -, -, hr⟩ := reconcileProjectedFinality_eq_ok.mp hok
      obtain ⟨-, rfl⟩ := Prod.mk.inj hr
      exact finalizes_reconcile _ _ _
    | crash => exact .refl
  | freezeNextBatch hrows hok =>
    rcases freezeCandidates_cases hok with ⟨-, rfl⟩ | ⟨row, hrow, code, -, hdefer⟩ |
      ⟨frozen, candidates, -, -, -, hfreeze⟩
    · exact .refl
    · refine finalizes_defer hdefer fun request hrequest hid hstate => ?_
      obtain ⟨candidate, hcandidate, his⟩ := hrows.candidate row hrow
      obtain rfl := Table.eq_of_key hrequest hcandidate (hid.trans his.id.symm)
      rcases his.state with hqueued | hfailed
      · cases hstate.symm.trans hqueued
      · cases hstate.symm.trans hfailed
    · exact finalizes_freeze (freezeNextBatch_spec hfreeze)

/-- **Final publication**: tables in order beside a sound projection, with the rows that are final
delivered and their requests published. -/
structure FinalPublication (P : PlannerConfig) (source : String) (S : PublicationSys ι) : Prop where
  consistent : Projector.Consistent source S.db.chain
  events : Projector.EventsSound P.runtime.toRuntime S.db.chain
  conserved : Conserved P.runtime S.tables
  delivered : ∀ row ∈ S.tables.outbox, row.state = .irreversible → Delivered P.runtime S.db.chain row
  published : ∀ row ∈ S.tables.outbox, row.state = .irreversible → AllPublished S.tables row

omit [DecidableEq ι] in
theorem finalPublication_start (game : Projector.GameTables) :
    FinalPublication P source (PublicationSys.start ι game) where
  consistent := Projector.consistent_empty source
  events := Projector.eventsSound_empty _
  conserved := conserved_fresh
  delivered _ hrow := absurd hrow Table.not_mem_empty
  published _ hrow := absurd hrow Table.not_mem_empty

theorem sound_answer {R : Runtime} {q : Projector.Request} {db db' : Projector.Db}
    {r : Except Projector.Failure q.Response} (hc : Projector.Consistent source db.chain)
    (hevents : Projector.EventsSound R db.chain) (hguard : Projector.revertGuard source q db)
    (hans : Projector.storeAnswer R source q db r db') :
    Projector.Consistent source db'.chain ∧ Projector.Frozen db.chain db'.chain ∧
      Projector.EventsSound R db'.chain := by
  obtain ⟨hconsistent, hfrozen⟩ := hc.answer hguard hans
  refine ⟨hconsistent, hfrozen, ?_⟩
  rcases Projector.storeAnswer_cases hans with
    rfl | ⟨block, decisions, ids, time, rfl, hok⟩ | ⟨ancestor, time, rfl, hok⟩ | ⟨n, ids, time, rfl, hok⟩
  · exact hevents
  · exact hevents.applyBlock hok
  · exact hevents.revertAfter hok
  · exact hevents.finalizeThrough hok

theorem Delivered.frozen {t' : Projector.ChainTables} {row : OutboxRow} (h : Delivered R t row)
    (hfrozen : Projector.Frozen t t') : Delivered R t' row := by
  obtain ⟨e, he, op, hop, huuid, hid, hrecorded, hevent, hstate, hevidence⟩ := h
  exact ⟨e, hfrozen.event e he hevent, op, hfrozen.operation op hop hstate, huuid, hid, hrecorded,
    hevent, hstate, hevidence⟩

theorem delivered_of_event (hc : Projector.Consistent source t)
    (hevents : Projector.EventsSound R.toRuntime t) {row : OutboxRow} {e : Projector.MatchEventRow}
    (he : e ∈ t.matchEvent) (huuid : e.eventUuid = row.eventUuid)
    (hrecorded : row.operationId = some e.operationId) (hstate : e.operationState = .irreversible) :
    Delivered R t row := by
  obtain ⟨op, hop, hid, hevidence⟩ := hevents.evidence e he
  obtain ⟨op', hop', hid', hopstate⟩ := hc.event_state e he
  obtain rfl := Table.eq_of_key hop hop' (hid.trans hid'.symm)
  exact ⟨e, he, op, hop, huuid, hid, hrecorded.trans (congrArg some hid.symm), hstate,
    hopstate.trans hstate, hevidence⟩

theorem sound_step {l : PublisherLabel ι} (h : FinalPublication P source S)
    (hl : PublisherStep P source S l S') :
    Projector.Consistent source S'.db.chain ∧ Projector.Frozen S.db.chain S'.db.chain ∧
      Projector.EventsSound P.runtime.toRuntime S'.db.chain := by
  have hsame : S'.db = S.db → Projector.Consistent source S'.db.chain ∧
      Projector.Frozen S.db.chain S'.db.chain ∧
        Projector.EventsSound P.runtime.toRuntime S'.db.chain := by
    intro heq
    rw [heq]
    exact ⟨h.consistent, .refl _, h.events⟩
  cases hl with
  | other _ hstep =>
    cases hstep with
    | projector hguard hans => exact sound_answer h.consistent h.events hguard hans
    | _ => exact hsame rfl
  | freezeNextBatch => exact hsame rfl

theorem FinalPublication.step {l : PublisherLabel ι} (h : FinalPublication P source S)
    (hl : PublisherStep P source S l S') : FinalPublication P source S' := by
  obtain ⟨hconsistent, hfrozen, hevents⟩ := sound_step h hl
  have hfinal := finalizes_step hl
  refine ⟨hconsistent, hevents, conserved_step h.conserved hl, fun row hrow hstate => ?_,
    fun row hrow hstate => ?_⟩
  · rcases hfinal.final row hrow hstate with hold | ⟨⟨e, he, huuid, hrecorded, hevent⟩, -⟩
    · exact (h.delivered row hold hstate).frozen hfrozen
    · exact (delivered_of_event h.consistent h.events he huuid hrecorded hevent).frozen hfrozen
  · rcases hfinal.final row hrow hstate with hold | ⟨-, hall⟩
    · intro item hitem hid request hrequest hrequestId
      rcases hfinal.item item hitem with holditem | hnone
      · -- the request of an old item is an old one, published already
        obtain ⟨old, holdrequest, holdId, -⟩ := h.conserved.requested item holditem
        have hpublished := h.published row hold hstate item holditem hid old holdrequest holdId
        have hkept := hfinal.request old holdrequest hpublished
        obtain rfl := Table.eq_of_key hrequest hkept (hrequestId.trans holdId.symm)
        exact hpublished
      · exact absurd hstate (hnone row hrow hid.symm)
    · exact hall

end Steps

/-! ### Runs -/

section Runs

variable [DecidableEq ι] {S : PublicationSys ι}

theorem final_stays {ts : List (Transition (PublicationSys ι) (PublisherLabel ι))}
    {S₀ : PublicationSys ι} (h : Run (PublisherStep P source) S₀ ts S) :
    (∀ row ∈ S₀.tables.outbox, row.state = .irreversible → row ∈ S.tables.outbox) ∧
      ∀ request ∈ S₀.tables.request, request.state = .published → request ∈ S.tables.request := by
  induction h with
  | refl => exact ⟨fun _ hrow _ => hrow, fun _ hrequest _ => hrequest⟩
  | snoc _ hl ih =>
    have hfinal := finalizes_step hl
    exact ⟨fun row hrow hstate => hfinal.row row (ih.1 row hrow hstate) hstate,
      fun request hrequest hstate => hfinal.request request (ih.2 request hrequest hstate) hstate⟩

/-- **Published is final.**  Along every run of publishers beside the projector, forks, crashes and
late marks included: a request is published exactly when it is an item of a row that is irreversible;
the event of such a row is irreversible in the projection, bound to the operation that the row records,
which is irreversible, was accepted and carries that event; and whatever was published or irreversible
after some step is in the tables still, with all its columns. -/
theorem published_iff_final (game : Projector.GameTables)
    {ts : List (Transition (PublicationSys ι) (PublisherLabel ι))}
    (h : Run (PublisherStep P source) (.start ι game) ts S) :
    (∀ request ∈ S.tables.request, request.state = .published ↔
      ∃ item ∈ S.tables.item, item.publicationRequestId = request.id ∧
        ∃ row ∈ S.tables.outbox, row.id = item.outboxId ∧ row.state = .irreversible) ∧
    (∀ row ∈ S.tables.outbox, row.state = .irreversible → Delivered P.runtime S.db.chain row) ∧
    ∀ t ∈ ts, (∀ row ∈ t.post.tables.outbox, row.state = .irreversible → row ∈ S.tables.outbox) ∧
      ∀ request ∈ t.post.tables.request, request.state = .published →
        request ∈ S.tables.request := by
  have hinv := (h.invariant' (fun _ _ _ hm hl => hm.step hl) (finalPublication_start game)).1
  refine ⟨fun request hrequest => ⟨fun hstate => ?_, ?_⟩, hinv.delivered, fun t ht => ?_⟩
  · obtain ⟨item, hitem, hid⟩ := (hinv.conserved.batched_iff request hrequest).mp (.inr hstate)
    exact ⟨item, hitem, hid, hinv.conserved.published request hrequest hstate item hitem hid⟩
  · rintro ⟨item, hitem, hid, row, hrow, hrowId, hstate⟩
    exact hinv.published row hrow hstate item hitem hrowId.symm request hrequest hid.symm
  · obtain ⟨us, vs, -, -, -, hrest⟩ := h.split_of_mem ht
    exact final_stays hrest

end Runs

/-- The recorded request is frozen. -/
def frozenState : PublicationSys Unit :=
  { recordedState with
    tables := ((freezeCandidates plannerConfig freezeCall recordedState.tables).toOption.map
      Prod.snd).getD recordedState.tables }

def includedState : PublicationSys Unit :=
  frozenState.after (.projector (.applyBlock publishedBlock publishedDecisions))

def finalizedState : PublicationSys Unit := includedState.after (.projector (.finalizeThrough 1))

def reconciledState : PublicationSys Unit := finalizedState.after (.reconcile 30)

/-- A frozen batch is included, finalized and reconciled: its request is published. -/
theorem published_iff_final_reconciled :
    ∃ ts, Run (PublisherStep plannerConfig "haf") (.start Unit Projector.emptyGame) ts reconciledState ∧
      (∃ request ∈ reconciledState.tables.request.rows, request.state = .published) ∧
        ∀ row ∈ reconciledState.tables.outbox, row.state = .irreversible →
          Delivered publisherRuntime reconciledState.db.chain row := by
  have hother : ∀ {S : PublicationSys Unit} {l : PublicationLabel Unit}, ¬ l.Freezing →
      (S.exec publisherRuntime "haf" 1000 l).isSome = true →
        PublisherStep plannerConfig "haf" S (.other l) (S.after l) :=
    fun hl h => .other hl (after_step h)
  have hrequest : PublisherStep plannerConfig "haf" (.start Unit Projector.emptyGame)
      (.other (.request ⟨⟨33⟩, .completed⟩ ⟨⟨12⟩, ⟨33⟩, .initial⟩
        ⟨⟨11⟩, ⟨33⟩, ⟨12⟩, .initial, .queued, 0, none, none, none, none⟩)) recordedState :=
    hother id (by decide)
  have hok : (freezeCandidates plannerConfig freezeCall recordedState.tables).toOption.isSome = true := by
    decide
  obtain ⟨⟨frozen, p⟩, hfreeze⟩ := Option.isSome_iff_exists.mp hok
  have hstate : frozenState = { recordedState with tables := p } := by
    rw [frozenState, hfreeze]
    rfl
  have hfrozen : PublisherStep plannerConfig "haf" recordedState (.freezeNextBatch freezeCall frozen)
      frozenState := by
    rw [hstate]
    exact .freezeNextBatch freezeCall_rows (toOption_eq_some.mp hfreeze)
  have hincluded : PublisherStep plannerConfig "haf" frozenState _ includedState :=
    hother id (by decide +kernel)
  have hfinalized : PublisherStep plannerConfig "haf" includedState _ finalizedState :=
    hother id (by decide +kernel)
  have hreconciled : PublisherStep plannerConfig "haf" finalizedState _ reconciledState :=
    hother id (by decide +kernel)
  have hrun := ((((Run.single hrequest).snoc hfrozen).snoc hincluded).snoc hfinalized).snoc hreconciled
  exact ⟨_, hrun, by decide +kernel, (published_iff_final Projector.emptyGame hrun).2.1⟩

end HiveChameleon.Publisher
