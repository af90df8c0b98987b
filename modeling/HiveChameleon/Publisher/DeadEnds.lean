import HiveChameleon.Publisher.Quiet

/-!
# Publisher.DeadEnds — which outbox items the publisher can release by itself

An item that is neither settled nor projected should come back to a claim without the chain: after
its retry time, or by further steps of the workers.  `reconcileProjectedFinality` moves an item
only after its projected event, and no claim takes an item in state `broadcast`; so a broadcast item
whose event never enters the projection is released by nobody but a worker that still holds it.
-/

namespace HiveChameleon.Publisher

open Gateway Lib Nakama

section

variable {ι : Type}

/-- A step of the publisher: neither the projector's nor that of a committing round. -/
def OwnStep : PublicationLabel ι → Prop
  | .projector _ => False
  | .request _ _ _ => False
  | _ => True

/-- An item in state `broadcast` that waits for its event to be projected, and that no worker
holds. -/
def Abandoned (S : PublicationSys ι) (row : OutboxRow) : Prop :=
  row.state = .broadcast ∧ Projector.eventState S.db.chain row.eventUuid = none ∧
    ∀ i, ∀ a ∈ S.held i, a.outboxId ≠ row.id

/-- Worker `i` holds the item alone, and its event is not projected. -/
def LastHolder (S : PublicationSys ι) (i : ι) : Prop :=
  ∃ a ∈ S.held i, Projector.eventState S.db.chain a.eventId = none ∧
    ∀ j, j ≠ i → ∀ b ∈ S.held j, b.outboxId ≠ a.outboxId

/-- A step after which nobody can release an item: its last holder lets go of it, having marked it
as broadcast, before its event is projected. -/
def Abandons (t : Transition (PublicationSys ι) (PublicationLabel ι)) : Prop :=
  match t.label with
  | .markBroadcast i _ _ acknowledged => acknowledged = true ∧ LastHolder t.pre i
  | .crash i => LastHolder t.pre i ∧ ∀ a ∈ t.pre.held i, ∀ row ∈ t.pre.tables.outbox,
      row.id = a.outboxId → row.state = .broadcast
  | _ => False

/-- Every row is a batch, and an included row has a projected event. -/
structure Tracked (S : PublicationSys ι) : Prop where
  batch : ∀ row ∈ S.tables.outbox, row.eventType = .matchResultsBatch
  projected : ∀ row ∈ S.tables.outbox, row.state = .included →
    Projector.eventState S.db.chain row.eventUuid ≠ none

variable {S S' : PublicationSys ι} {p : PublicationTables} {t : Projector.ChainTables}

/-! ### Marks and reconciliations that complete -/

theorem updateOutbox_completes {q : OutboxRow → Prop} [DecidablePred q]
    {set : Table.Assignment OutboxRow.id}
    (hcheck : ∀ row ∈ p.outbox, q row →
      hcFreezeMatchOutboxPayload row (set row) = .ok () ∧ outboxChecks (set row) = .ok ())
    (hfiled : Filed t { p with outbox := p.outbox.modify q set }) :
    ∃ tx, updateOutbox q set ⟨p, []⟩ = .ok tx ∧
      tx.commit = .ok { p with outbox := p.outbox.modify q set } := by
  refine ⟨_, updateOutbox_eq_ok.mpr ⟨hcheck, rfl⟩, commit_eq_ok.mpr ⟨?_, rfl⟩⟩
  intro d hd
  rw [List.nil_append, List.mem_map] at hd
  obtain ⟨row, hrow, rfl⟩ := hd
  have hmem : row ∈ p.outbox := (List.mem_filter.mp hrow).1
  have hset := hfiled.itemSet _ (Table.updated_mem_modify (p := q) (f := set) hmem)
  rw [Table.key_updated (p := q) (f := set) row] at hset
  exact hset

theorem markRetryableFailure_completes (h : Filed t p) {row : OutboxRow} (hrow : row ∈ p.outbox)
    (hstate : row.state = .broadcast) (failureCode : String) (retryAt now : Timestamp) :
    markRetryableFailure row.id none failureCode retryAt now p = .ok
      { p with outbox := p.outbox.modify (fun other => other.id = row.id)
                  ⟨.markRetryableFailure none failureCode retryAt now, fun _ => rfl⟩ } := by
  have hsame : ∀ other ∈ p.outbox, other.id = row.id → other = row := fun other hother hid =>
    Table.eq_of_key hother hrow hid
  have hcheck : ∀ other ∈ p.outbox, other.id = row.id →
      hcFreezeMatchOutboxPayload other
          (other.markRetryableFailure none failureCode retryAt now) = .ok () ∧
        outboxChecks (other.markRetryableFailure none failureCode retryAt now) = .ok () := by
    intro other hother hid
    obtain rfl := hsame other hother hid
    constructor
    · simp [hcFreezeMatchOutboxPayload, OutboxRow.markRetryableFailure, hstate,
        OutboxState.successors, bind_eq_ok, require_eq_ok]
    · obtain ⟨hframe, -⟩ := outboxChecks_eq_ok.mp (h.checks other hother)
      exact outboxChecks_eq_ok.mpr ⟨hframe, (fun heq => by cases heq), (fun heq => by cases heq),
        (fun heq => by cases heq)⟩
  have hfiled : Filed t { p with
      outbox := p.outbox.modify (fun other => other.id = row.id)
        ⟨.markRetryableFailure none failureCode retryAt now, fun _ => rfl⟩ } := by
    refine h.modifyOutbox (fun _ => ⟨rfl, rfl⟩) (fun other hother hid => (hcheck other hother hid).2)
      (fun _ _ _ => ?_) (fun other hother _ => h.operation other hother)
      fun other hother _ => h.bound other hother
    exact (by decide : OutboxState.retryableFailed ≠ .terminalFailed)
  obtain ⟨tx, hupdate, hcommit⟩ := updateOutbox_completes hcheck hfiled
  simp only [markRetryableFailure, bind_eq_ok]
  exact ⟨tx, hupdate, hcommit⟩

theorem abandoned_of_other {db : Projector.Db} {held held' : ι → Option MatchOutboxAttempt}
    {row : OutboxRow} {outboxId : Uuid} {set : Table.Assignment OutboxRow.id}
    (h : Abandoned ⟨db, p, held⟩ row) (hrow : row ∈ p.outbox) (hne : outboxId ≠ row.id)
    (hheld : ∀ j, ∀ a ∈ held' j, a ∈ held j ∨ a.outboxId = outboxId) :
    row ∈ (p.outbox.modify (fun other => other.id = outboxId) set) ∧
      Abandoned ⟨db, { p with outbox := p.outbox.modify (fun other => other.id = outboxId) set },
        held'⟩ row := by
  obtain ⟨hstate, hevent, hnone⟩ := h
  refine ⟨Table.mem_modify_of_not hrow (Ne.symm hne), hstate, hevent, fun j a ha => ?_⟩
  rcases hheld j a ha with ha | hid
  · exact hnone j a ha
  · rw [hid]; exact hne

theorem abandoned_before_mark {db : Projector.Db} {held held' : ι → Option MatchOutboxAttempt}
    {row : OutboxRow} {p' : PublicationTables} (h : Abandoned ⟨db, p', held'⟩ row)
    (hheld : ∀ j, ∀ a ∈ held j, a ∈ held' j ∨ a.outboxId ≠ row.id) :
    Abandoned ⟨db, p, held⟩ row := by
  obtain ⟨hstate, hevent, hnone⟩ := h
  refine ⟨hstate, hevent, fun j a ha => ?_⟩
  rcases hheld j a ha with ha | hne
  · exact hnone j a ha
  · exact hne

theorem Tracked.modify {db : Projector.Db} {held held' : ι → Option MatchOutboxAttempt}
    {q : OutboxRow → Prop} [DecidablePred q] {set : Table.Assignment OutboxRow.id}
    {requests : Table RequestRow (·.id)} (h : Tracked ⟨db, p, held⟩)
    (hframe : ∀ row, (set row).eventType = row.eventType ∧ (set row).eventUuid = row.eventUuid)
    (hstate : ∀ row ∈ p.outbox, q row → (set row).state = .included → row.state = .included ∨
      Projector.eventState db.chain row.eventUuid ≠ none) :
    Tracked ⟨db, { p with outbox := p.outbox.modify q set, request := requests }, held'⟩ where
  batch row' hrow' := by
    rcases Table.mem_modify_cases hrow' with ⟨row, hrow, -, rfl⟩ | ⟨hrow, -⟩
    · rw [(hframe row).1]; exact h.batch row hrow
    · exact h.batch row' hrow
  projected row' hrow' hinc := by
    rcases Table.mem_modify_cases hrow' with ⟨row, hrow, hq, rfl⟩ | ⟨hrow, -⟩
    · rw [(hframe row).2]
      rcases hstate row hrow hq hinc with hold | hevent
      · exact h.projected row hrow hold
      · exact hevent
    · exact h.projected row' hrow hinc

/-! ### Releasing an item -/

variable [DecidableEq ι] {R : PublisherRuntime} {source : String} {l : PublicationLabel ι}

/-- The publisher alone brings the item back to a claim: it is claimable now, or once its retry time
has passed, or after further steps of the publisher. -/
def Releasable (R : PublisherRuntime) (source : String) (S : PublicationSys ι) (outboxId : Uuid) :
    Prop :=
  ∃ us S', Run (PublicationStep R source) S us S' ∧ (∀ u ∈ us, OwnStep u.label) ∧
    ∃ now, ∃ row ∈ S'.tables.outbox, row.id = outboxId ∧ row.Claimable now

/-- **No dead end**: every item that is not irreversible and whose event is not projected as included
or irreversible can be released by the publisher alone. -/
def NoDeadEnd (R : PublisherRuntime) (source : String) (S : PublicationSys ι) : Prop :=
  ∀ row ∈ S.tables.outbox, row.state ≠ .irreversible →
    Projector.eventState S.db.chain row.eventUuid ≠ some .included →
    Projector.eventState S.db.chain row.eventUuid ≠ some .irreversible →
    Releasable R source S row.id

theorem claimable_of_state {row : OutboxRow} (hbatch : row.eventType = .matchResultsBatch)
    (hstate : row.state = .queued ∨ row.state = .retryableFailed ∨ row.state = .reverted) :
    ∃ now, row.Claimable now := by
  refine ⟨row.nextRetryAt.getD 0, hbatch, hstate, fun retryAt hretry => ?_⟩
  have hget : row.nextRetryAt.getD 0 = retryAt := by rw [Option.mem_def.mp hretry, Option.getD_some]
  exact hget.ge

theorem releasable_of_claimable {row : OutboxRow} (hrow : row ∈ S.tables.outbox)
    (h : ∃ now, row.Claimable now) : Releasable R source S row.id := by
  obtain ⟨now, hclaim⟩ := h
  have hnone : ∀ u ∈ ([] : List (Transition (PublicationSys ι) (PublicationLabel ι))),
      OwnStep u.label := fun u hu => absurd hu List.not_mem_nil
  exact ⟨[], S, .refl S, hnone, now, row, hrow, rfl, hclaim⟩

theorem releasable_of_step {row row' : OutboxRow} (hl : PublicationStep R source S l S')
    (hown : OwnStep l) (hrow : row' ∈ S'.tables.outbox) (hid : row'.id = row.id)
    (h : ∃ now, row'.Claimable now) : Releasable R source S row.id := by
  obtain ⟨now, hclaim⟩ := h
  refine ⟨[⟨S, l, S'⟩], S', .single hl, fun u hu => ?_, now, row', hrow, hid, hclaim⟩
  rw [List.mem_singleton.mp hu]
  exact hown

theorem releasable_of_reverted (hinv : PublicationInv source S) (hclear : Clear S)
    {row : OutboxRow} (hrow : row ∈ S.tables.outbox)
    (hbatch : row.eventType = .matchResultsBatch) (hne : row.state ≠ .reverted)
    (hirr : row.state ≠ .irreversible)
    (hevent : Projector.eventState S.db.chain row.eventUuid = some .reverted) :
    Releasable R source S row.id := by
  obtain ⟨⟨changedCount, p'⟩, hok⟩ := (reconcileCompletes_iff hinv).mpr hclear 0
  have hstep : PublicationStep R source S (.reconcile 0) { S with tables := p' } := .reconcile hok
  obtain ⟨-, -, -, -, -, hr⟩ := reconcileProjectedFinality_eq_ok.mp hok
  obtain ⟨-, rfl⟩ := Prod.mk.inj hr
  obtain ⟨e, he, hs⟩ := Option.map_eq_some_iff.mp hevent
  have he : projectedEvent S.db.chain row = some e := he
  have hstate : (row.reconcile S.db.chain 0).state = .reverted := by
    rw [reconcile_state he, hs]; rfl
  have hneeds : NeedsReconcile S.db.chain row := by
    refine ⟨⟨e, he, ?_⟩, hirr⟩
    rw [hs]
    exact fun heq => hne heq.symm
  have hmem : row.reconcile S.db.chain 0 ∈ (reconciledTables S.db.chain 0 S.tables).outbox :=
    Table.mem_modify_of hrow hneeds
  have hbatch' : (row.reconcile S.db.chain 0).eventType = .matchResultsBatch := by
    rw [(reconcile_frame S.db.chain 0 row).1]; exact hbatch
  exact releasable_of_step hstep trivial hmem (OutboxRow.reconcile_id _ _ row)
    (claimable_of_state hbatch' (.inr (.inr hstate)))

/-- A worker that still holds a broadcast item can record a failure and so release it. -/
theorem releasable_of_held (hinv : PublicationInv source S) {row : OutboxRow}
    (hrow : row ∈ S.tables.outbox) (hbatch : row.eventType = .matchResultsBatch)
    (hstate : row.state = .broadcast) {i : ι} {a : MatchOutboxAttempt} (ha : S.held i = some a)
    (hid : a.outboxId = row.id) : Releasable R source S row.id := by
  have hok := markRetryableFailure_completes hinv.filed hrow hstate "publication_failed" 0 0
  rw [← hid] at hok
  have hmem : row.markRetryableFailure none "publication_failed" 0 0 ∈
      S.tables.outbox.modify (fun other => other.id = a.outboxId)
        ⟨.markRetryableFailure none "publication_failed" 0 0, fun _ => rfl⟩ :=
    Table.mem_modify_of hrow hid.symm
  have hstep : PublicationStep R source S
      (.markRetryableFailure i none "publication_failed" 0 0 true) _ := .markRetryableFailure ha hok
  exact releasable_of_step hstep trivial hmem rfl (claimable_of_state hbatch (.inr (.inl rfl)))

/-! ### Abandoned items -/

/-- **Nobody releases an abandoned item**: no step of the publisher changes it. -/
theorem abandoned_step {row : OutboxRow} (hrow : row ∈ S.tables.outbox) (h : Abandoned S row)
    (hl : PublicationStep R source S l S') (hown : OwnStep l) :
    row ∈ S'.tables.outbox ∧ Abandoned S' row := by
  obtain ⟨hstate, hevent, hnone⟩ := h
  cases hl with
  | projector _ _ => exact absurd hown not_false
  | request _ => exact absurd hown not_false
  | freeze hok =>
    refine ⟨?_, hstate, hevent, hnone⟩
    rw [Table.mem_def, freezeNextBatch_outbox hok]
    exact List.mem_append_left _ hrow
  | defer hok => exact ⟨deferInvalidRequest_outbox hok ▸ hrow, hstate, hevent, hnone⟩
  | @claim db p p' held i now leaseUntil handed hidle hok =>
    rcases claimNextOutbox_eq_ok.mp hok with
      ⟨-, rfl, rfl⟩ | ⟨claimed, tx, hclaimed, hupdate, -, hcommit, rfl⟩
    · exact ⟨hrow, hstate, hevent, fun j a ha => hnone j a (mem_of_update_none j a ha)⟩
    · obtain ⟨-, rfl⟩ := updateOutbox_commit hupdate hcommit
      obtain ⟨hmem, -, hclaimable, -⟩ := claimCandidate_mem hclaimed
      -- a claim takes no broadcast item
      have hne : claimed.id ≠ row.id := by
        intro hid
        rw [Table.eq_of_key hmem hrow hid, hstate] at hclaimable
        simp at hclaimable
      refine abandoned_of_other ⟨hstate, hevent, hnone⟩ hrow hne fun j a ha => ?_
      by_cases hj : j = i
      · subst hj
        rw [Function.update_self, Option.mem_some_iff] at ha
        exact .inr (congrArg MatchOutboxAttempt.outboxId ha.symm)
      · rw [Function.update_of_ne hj] at ha
        exact .inl ha
  | broadcast _ => exact ⟨hrow, hstate, hevent, hnone⟩
  | markBroadcast hheld hok =>
    obtain ⟨-, rfl⟩ := markBroadcast_outbox hok
    exact abandoned_of_other ⟨hstate, hevent, hnone⟩ hrow (hnone _ _ hheld)
      fun j a ha => .inl (mem_of_heldAfterMark j a ha)
  | markRetryableFailure hheld hok =>
    obtain ⟨-, rfl⟩ := markRetryableFailure_outbox hok
    exact abandoned_of_other ⟨hstate, hevent, hnone⟩ hrow (hnone _ _ hheld)
      fun j a ha => .inl (mem_of_heldAfterMark j a ha)
  | @reconcile db p p' held now changedCount hok =>
    obtain ⟨-, -, -, -, -, hr⟩ := reconcileProjectedFinality_eq_ok.mp hok
    obtain ⟨-, rfl⟩ := Prod.mk.inj hr
    refine ⟨Table.mem_modify_of_not hrow ?_, hstate, hevent, hnone⟩
    rintro ⟨⟨e, he, -⟩, -⟩
    rw [eventState_of_projectedEvent he] at hevent
    cases hevent
  | crash => exact ⟨hrow, hstate, hevent, fun j a ha => hnone j a (mem_of_update_none j a ha)⟩

theorem not_releasable_of_abandoned {row : OutboxRow} (hrow : row ∈ S.tables.outbox)
    (h : Abandoned S row) : ¬ Releasable R source S row.id := by
  rintro ⟨us, S', hrun, hown, now, other, hother, hid, -, hclaimable, -⟩
  obtain ⟨⟨hmem, hstate, -⟩, -⟩ := hrun.invariant
    (I := fun S => row ∈ S.tables.outbox ∧ Abandoned S row) (G := fun u => OwnStep u.label)
    (fun _ _ _ hI hG hl => abandoned_step hI.1 hI.2 hl hG) ⟨hrow, h⟩ hown
  obtain rfl := Table.eq_of_key hother hmem hid
  rw [hstate] at hclaimable
  simp at hclaimable

theorem noDeadEnd_iff (hinv : PublicationInv source S) (htracked : Tracked S) (hclear : Clear S) :
    NoDeadEnd R source S ↔ ∀ row ∈ S.tables.outbox, ¬ Abandoned S row := by
  constructor
  · intro h row hrow hab
    have hstate : row.state = .broadcast := hab.1
    have hevent : Projector.eventState S.db.chain row.eventUuid = none := hab.2.1
    refine not_releasable_of_abandoned hrow hab (h row hrow ?_ ?_ ?_)
    · rw [hstate]; decide
    · rw [hevent]; exact nofun
    · rw [hevent]; exact nofun
  · intro hnone row hrow hirr hinc hevirr
    have hbatch := htracked.batch row hrow
    cases hevent : Projector.eventState S.db.chain row.eventUuid with
    | none =>
      cases hstate : row.state with
      | queued => exact releasable_of_claimable hrow (claimable_of_state hbatch (.inl hstate))
      | retryableFailed =>
        exact releasable_of_claimable hrow (claimable_of_state hbatch (.inr (.inl hstate)))
      | reverted =>
        exact releasable_of_claimable hrow (claimable_of_state hbatch (.inr (.inr hstate)))
      | irreversible => exact absurd hstate hirr
      | terminalFailed => exact absurd hstate (hinv.filed.notTerminal row hrow)
      | included => exact absurd hevent (htracked.projected row hrow hstate)
      | broadcast =>
        by_contra hstuck
        refine hnone row hrow ⟨hstate, hevent, fun i a ha hid => hstuck ?_⟩
        exact releasable_of_held hinv hrow hbatch hstate ha hid
    | some s =>
      cases s with
      | included => exact absurd hevent hinc
      | irreversible => exact absurd hevent hevirr
      | reverted =>
        by_cases hstate : row.state = .reverted
        · exact releasable_of_claimable hrow (claimable_of_state hbatch (.inr (.inr hstate)))
        · exact releasable_of_reverted hinv hclear hrow hbatch hstate hirr hevent

/-! ### Steps -/

theorem tracked_step (h : Tracked S) (hl : PublicationStep R source S l S') : Tracked S' := by
  cases hl with
  | projector _ hans =>
    exact ⟨h.batch, fun row hrow hinc =>
      (Projector.storeAnswer_keeps hans).eventState_ne_none (h.projected row hrow hinc)⟩
  | request hok =>
    have hrows := recordRequest_outbox hok
    exact ⟨fun row hrow => h.batch row (hrows ▸ hrow), fun row hrow => h.projected row (hrows ▸ hrow)⟩
  | freeze hok =>
    have hrows := freezeNextBatch_outbox hok
    constructor
    · intro row hrow
      rw [Table.mem_def, hrows] at hrow
      rcases List.mem_append.mp hrow with hrow | hrow
      · exact h.batch row hrow
      · rw [List.mem_singleton.mp hrow]; rfl
    · intro row hrow hinc
      rw [Table.mem_def, hrows] at hrow
      rcases List.mem_append.mp hrow with hrow | hrow
      · exact h.projected row hrow hinc
      · rw [List.mem_singleton.mp hrow] at hinc; cases hinc
  | defer hok =>
    have hrows := deferInvalidRequest_outbox hok
    exact ⟨fun row hrow => h.batch row (hrows ▸ hrow), fun row hrow => h.projected row (hrows ▸ hrow)⟩
  | claim _ hok =>
    rcases claimNextOutbox_eq_ok.mp hok with ⟨-, -, rfl⟩ | ⟨claimed, tx, -, hupdate, -, hcommit, -⟩
    · exact ⟨h.batch, h.projected⟩
    · obtain ⟨-, rfl⟩ := updateOutbox_commit hupdate hcommit
      exact h.modify (fun _ => ⟨rfl, rfl⟩) fun _ _ _ hinc => .inl hinc
  | broadcast _ => exact h
  | markBroadcast _ hok =>
    obtain ⟨-, rfl⟩ := markBroadcast_outbox hok
    refine h.modify (fun _ => ⟨rfl, rfl⟩) fun _ _ _ hinc => ?_
    exact absurd hinc (by decide : OutboxState.broadcast ≠ .included)
  | markRetryableFailure _ hok =>
    obtain ⟨-, rfl⟩ := markRetryableFailure_outbox hok
    refine h.modify (fun _ => ⟨rfl, rfl⟩) fun _ _ _ hinc => ?_
    exact absurd hinc (by decide : OutboxState.retryableFailed ≠ .included)
  | reconcile hok =>
    obtain ⟨-, -, -, -, -, hr⟩ := reconcileProjectedFinality_eq_ok.mp hok
    obtain ⟨-, rfl⟩ := Prod.mk.inj hr
    refine h.modify (fun row => ?_) fun row _ hneeds _ => .inr ?_
    · obtain ⟨hframe, -⟩ := reconcile_frame _ _ row
      exact ⟨congrArg FrozenColumns.eventType hframe, congrArg FrozenColumns.eventUuid hframe⟩
    · obtain ⟨⟨e, he, -⟩, -⟩ := hneeds
      rw [eventState_of_projectedEvent he]
      exact Option.some_ne_none _
  | crash => exact ⟨h.batch, h.projected⟩

/-- Who holds something after a mark held it before, and only the marking worker lets go. -/
theorem mem_heldAfterMark {held : ι → Option MatchOutboxAttempt} {i : ι} {acknowledged : Bool}
    (j : ι) (a : MatchOutboxAttempt) (h : a ∈ held j) :
    a ∈ heldAfterMark held i acknowledged j ∨ j = i := by
  by_cases hj : j = i
  · exact .inr hj
  · left
    unfold heldAfterMark
    split
    · rw [Function.update_of_ne hj]; exact h
    · exact h

theorem ne_of_mem_update_none {held : ι → Option MatchOutboxAttempt} {i : ι} (j : ι)
    (a : MatchOutboxAttempt) (h : a ∈ Function.update held i none j) : j ≠ i := by
  rintro rfl
  rw [Function.update_self] at h
  cases h

theorem no_abandoned_step (hheld : HeldInv S) (hnone : ∀ row ∈ S.tables.outbox, ¬ Abandoned S row)
    (hl : PublicationStep R source S l S') (habandons : ¬ Abandons ⟨S, l, S'⟩) :
    ∀ row ∈ S'.tables.outbox, ¬ Abandoned S' row := by
  intro row hrow hab
  cases hl with
  | projector _ hans =>
    refine hnone row hrow ⟨hab.1, ?_, hab.2.2⟩
    by_contra hevent
    exact (Projector.storeAnswer_keeps hans).eventState_ne_none hevent hab.2.1
  | request hok => exact hnone row (recordRequest_outbox hok ▸ hrow) hab
  | freeze hok =>
    rw [Table.mem_def, freezeNextBatch_outbox hok] at hrow
    rcases List.mem_append.mp hrow with hrow | hrow
    · exact hnone row hrow hab
    · have hstate := hab.1
      rw [List.mem_singleton.mp hrow] at hstate
      cases hstate
  | defer hok => exact hnone row (deferInvalidRequest_outbox hok ▸ hrow) hab
  | @claim db p p' held i now leaseUntil handed hidle hok =>
    have hkept : ∀ j, ∀ a ∈ held j, a ∈ Function.update held i handed j ∨ a.outboxId ≠ row.id := by
      intro j a ha
      have hj : j ≠ i := by
        rintro rfl
        rw [hidle] at ha
        cases ha
      rw [Function.update_of_ne hj]
      exact .inl ha
    rcases claimNextOutbox_eq_ok.mp hok with
      ⟨-, -, rfl⟩ | ⟨claimed, tx, hclaimed, hupdate, -, hcommit, -⟩
    · exact hnone row hrow (abandoned_before_mark hab hkept)
    · obtain ⟨-, rfl⟩ := updateOutbox_commit hupdate hcommit
      rcases Table.mem_modify_cases hrow with ⟨old, hold, hid, rfl⟩ | ⟨hrow, -⟩
      · obtain ⟨hmem, -, hclaimable, -⟩ := claimCandidate_mem hclaimed
        have hstate : old.state = .broadcast := hab.1
        rw [← Table.eq_of_key hold hmem hid, hstate] at hclaimable
        simp at hclaimable
      · exact hnone row hrow (abandoned_before_mark hab hkept)
  | broadcast _ => exact hnone row hrow hab
  | @markBroadcast db p p' held i acknowledged attempt transactionId broadcastAt hi hok =>
    obtain ⟨-, rfl⟩ := markBroadcast_outbox hok
    have hkept : ∀ j, ∀ a ∈ held j, a ∈ heldAfterMark held i acknowledged j ∨ j = i :=
      mem_heldAfterMark
    have hunheld : ∀ j, ∀ a ∈ heldAfterMark held i acknowledged j, a.outboxId ≠ row.id := hab.2.2
    rcases Table.mem_modify_cases hrow with ⟨old, hold, hid, rfl⟩ | ⟨hrow, hid⟩
    · -- the marked row: its last holder was acknowledged
      obtain ⟨held_row, hmem, hrowid, hevent, -⟩ := hheld.row i attempt hi
      obtain rfl := Table.eq_of_key hold hmem (hid.trans hrowid.symm)
      cases acknowledged with
      | false => exact hunheld i attempt hi hid.symm
      | true =>
        refine habandons ⟨rfl, attempt, hi, ?_, fun j hj b hb hbid => ?_⟩
        · rw [← hevent]; exact hab.2.1
        · rcases hkept j b hb with hb | hji
          · exact hunheld j b hb (hbid.trans hid.symm)
          · exact hj hji
    · refine hnone row hrow (abandoned_before_mark hab fun j a ha => ?_)
      rcases hkept j a ha with ha | rfl
      · exact .inl ha
      · rw [Option.some.inj (ha.symm.trans hi)]
        exact .inr (Ne.symm hid)
  | @markRetryableFailure db p p' held i acknowledged attempt transactionId code retryAt now hi hok =>
    obtain ⟨-, rfl⟩ := markRetryableFailure_outbox hok
    have hkept : ∀ j, ∀ a ∈ held j, a ∈ heldAfterMark held i acknowledged j ∨ j = i :=
      mem_heldAfterMark
    rcases Table.mem_modify_cases hrow with ⟨old, hold, hid, rfl⟩ | ⟨hrow, hid⟩
    · exact absurd hab.1 (by decide : OutboxState.retryableFailed ≠ .broadcast)
    · refine hnone row hrow (abandoned_before_mark hab fun j a ha => ?_)
      rcases hkept j a ha with ha | rfl
      · exact .inl ha
      · rw [Option.some.inj (ha.symm.trans hi)]
        exact .inr (Ne.symm hid)
  | @reconcile db p p' held now changedCount hok =>
    obtain ⟨-, -, -, -, -, hr⟩ := reconcileProjectedFinality_eq_ok.mp hok
    obtain ⟨-, rfl⟩ := Prod.mk.inj hr
    rcases Table.mem_modify_cases hrow with ⟨old, hold, ⟨⟨e, he, -⟩, -⟩, rfl⟩ | ⟨hrow, -⟩
    · have hstate : (old.reconcile db.chain now).state = .broadcast := hab.1
      rw [reconcile_state he] at hstate
      cases hs : e.operationState <;> rw [hs] at hstate <;> cases hstate
    · exact hnone row hrow hab
  | @crash db p held i =>
    by_cases hi : ∃ a ∈ held i, a.outboxId = row.id
    · -- the crashed worker held the row, and it alone
      obtain ⟨a, ha, hid⟩ := hi
      obtain ⟨held_row, hmem, hrowid, hevent, -⟩ := hheld.row i a ha
      obtain rfl := Table.eq_of_key hrow hmem (hid.symm.trans hrowid.symm)
      refine habandons ⟨⟨a, ha, ?_, fun j hj b hb hbid => ?_⟩, fun b hb other hother hbid => ?_⟩
      · rw [← hevent]; exact hab.2.1
      · refine hab.2.2 j b ?_ (hbid.trans hid)
        change Function.update held i none j = some b
        rw [Function.update_of_ne hj]
        exact hb
      · obtain rfl := Option.some.inj (hb.symm.trans ha)
        obtain rfl := Table.eq_of_key hother hrow (hbid.trans hid)
        exact hab.1
    · refine hnone row hrow (abandoned_before_mark hab fun j a ha => ?_)
      by_cases hj : j = i
      · subst hj; exact .inr fun hid => hi ⟨a, ha, hid⟩
      · rw [Function.update_of_ne hj]; exact .inl ha

theorem abandoned_of_abandons (hheld : HeldInv S) (hl : PublicationStep R source S l S')
    (habandons : Abandons ⟨S, l, S'⟩) : ∃ row ∈ S'.tables.outbox, Abandoned S' row := by
  cases hl with
  | @markBroadcast db p p' held i acknowledged attempt transactionId broadcastAt hi hok =>
    obtain ⟨rfl, a, ha, hevent, hlast⟩ := habandons
    obtain rfl := Option.some.inj (hi.symm.trans ha)
    obtain ⟨-, rfl⟩ := markBroadcast_outbox hok
    obtain ⟨row, hrow, hid, hrowevent, -⟩ := hheld.row i attempt hi
    refine ⟨row.markBroadcast transactionId broadcastAt, Table.mem_modify_of hrow hid, rfl, ?_, ?_⟩
    · change Projector.eventState db.chain row.eventUuid = none
      rw [hrowevent]; exact hevent
    · intro j b hb hbid
      have hj : j ≠ i := ne_of_mem_update_none j b hb
      have hb : b ∈ held j := mem_of_update_none j b hb
      exact hlast j hj b hb (hbid.trans hid)
  | @crash db p held i =>
    obtain ⟨⟨a, ha, hevent, hlast⟩, hstate⟩ := habandons
    obtain ⟨row, hrow, hid, hrowevent, -⟩ := hheld.row i a ha
    refine ⟨row, hrow, hstate a ha row hrow hid, ?_, fun j b hb hbid => ?_⟩
    · change Projector.eventState db.chain row.eventUuid = none
      rw [hrowevent]; exact hevent
    · have hj : j ≠ i := ne_of_mem_update_none j b hb
      exact hlast j hj b (mem_of_update_none j b hb) (hbid.trans hid)
  | _ => exact absurd habandons not_false

/-! ### Runs -/

/-- **Where the dead ends come from.**  In a run that strands no row, every state is free of dead
ends if and only if no step of the run lets go of a broadcast item before its event is projected. -/
theorem no_dead_end_along_run_iff (game : Projector.GameTables)
    {ts : List (Transition (PublicationSys ι) (PublicationLabel ι))}
    (h : Run (PublicationStep R source) (.start ι game) ts S) (hstrands : ∀ t ∈ ts, ¬ Strands t) :
    (NoDeadEnd R source S ∧ ∀ t ∈ ts, NoDeadEnd R source t.post) ↔ ∀ t ∈ ts, ¬ Abandons t := by
  have hstart : ∀ row ∈ (PublicationSys.start ι game).tables.outbox, False := fun row hrow =>
    absurd hrow Table.not_mem_empty
  obtain ⟨hS, hinv⟩ := h.invariant'
    (I := fun S => PublicationInv source S ∧ HeldInv S ∧ Tracked S)
    (fun _ _ _ hm hl => ⟨publicationInv_step hm.1 hl, heldInv_step hm.2.1 hl, tracked_step hm.2.2 hl⟩)
    ⟨publicationInv_start source game, ⟨nofun, nofun⟩,
      ⟨fun row hrow => (hstart row hrow).elim, fun row hrow => (hstart row hrow).elim⟩⟩
  obtain ⟨hSclear, hclear⟩ := h.invariant (I := Clear) (G := fun t => ¬ Strands t)
    (fun _ _ _ hm hG hl => clear_step hm hl hG) (fun row hrow => (hstart row hrow).elim) hstrands
  constructor
  · rintro ⟨-, hall⟩ t ht habandons
    obtain ⟨row, hrow, hab⟩ := abandoned_of_abandons (hinv t ht).1.2.1 (h.step_of_mem t ht) habandons
    obtain ⟨hpost, -, htracked⟩ := (hinv t ht).2
    exact (noDeadEnd_iff hpost htracked (hclear t ht).2).mp (hall t ht) row hrow hab
  · intro hnone
    obtain ⟨⟨-, hSnone⟩, hallnone⟩ := h.invariant
      (I := fun S => (HeldInv S) ∧ ∀ row ∈ S.tables.outbox, ¬ Abandoned S row)
      (G := fun t => ¬ Abandons t)
      (fun _ _ _ hm hG hl => ⟨heldInv_step hm.1 hl, no_abandoned_step hm.1 hm.2 hl hG⟩)
      ⟨⟨nofun, nofun⟩, fun row hrow => (hstart row hrow).elim⟩ hnone
    refine ⟨(noDeadEnd_iff hS.1 hS.2.2 hSclear).mpr hSnone, fun t ht => ?_⟩
    obtain ⟨hpost, -, htracked⟩ := (hinv t ht).2
    exact (noDeadEnd_iff hpost htracked (hclear t ht).2).mpr (hallnone t ht).2.2

end

/-! ### A batch that never enters a block -/

/-- A batch is claimed, broadcast and marked. -/
def silentSchedule : List (PublicationLabel Unit) :=
  broadcastSchedule ++ [.markBroadcast () "tx1" 11 true]

/-- The row of the batch in state `broadcast`. -/
def silentRow : OutboxRow :=
  ((frozenOutboxRow publishedFrozen "publisher" 1).claim 10 20).markBroadcast "tx1" 11

theorem silentRow_abandoned : silentRow ∈ (stateOf silentSchedule).tables.outbox ∧
    Abandoned (stateOf silentSchedule) silentRow := by
  have hrow : silentRow ∈ (stateOf silentSchedule).tables.outbox.rows := by decide
  refine ⟨hrow, rfl, by decide, fun i a ha => ?_⟩
  have hnone : (stateOf silentSchedule).held () = none := by decide
  rw [hnone] at ha
  cases ha

theorem not_noDeadEnd_silent : ¬ NoDeadEnd publisherRuntime "haf" (stateOf silentSchedule) := by
  intro h
  obtain ⟨hrow, hab⟩ := silentRow_abandoned
  have hevent : Projector.eventState (stateOf silentSchedule).db.chain silentRow.eventUuid = none :=
    hab.2.1
  refine not_releasable_of_abandoned hrow hab (h silentRow hrow (by decide) ?_ ?_)
  · rw [hevent]; exact nofun
  · rw [hevent]; exact nofun

/-- After the mark of an ordinary broadcast the publisher cannot bring the item back by itself. -/
theorem broadcast_item_is_dead_end :
    Run (PublicationStep publisherRuntime "haf") (.start Unit Projector.emptyGame)
        (stepsOf silentSchedule) (stateOf silentSchedule) ∧
      ¬ NoDeadEnd publisherRuntime "haf" (stateOf silentSchedule) :=
  ⟨follow_run (by decide), not_noDeadEnd_silent⟩

/-- The broadcast fails, and the worker records the failure. -/
def retriedSchedule : List (PublicationLabel Unit) :=
  broadcastSchedule ++ [.markRetryableFailure () none "timeout" 30 12 true]

/-- In the run with the mark a step abandoned the item; in the run with the recorded failure no state
has a dead end. -/
theorem no_dead_end_along_run_iff_silent : (∃ t ∈ stepsOf silentSchedule, Abandons t) ∧
    ∀ t ∈ stepsOf retriedSchedule, NoDeadEnd publisherRuntime "haf" t.post := by
  constructor
  · by_contra hnone
    have hrun : Run (PublicationStep publisherRuntime "haf") (.start Unit Projector.emptyGame)
      (stepsOf silentSchedule) (stateOf silentSchedule) := follow_run (by decide)
    have hall := (no_dead_end_along_run_iff Projector.emptyGame hrun (by decide)).mpr
      fun t ht habandons => hnone ⟨t, ht, habandons⟩
    exact not_noDeadEnd_silent hall.1
  · have hrun : Run (PublicationStep publisherRuntime "haf") (.start Unit Projector.emptyGame)
      (stepsOf retriedSchedule) (stateOf retriedSchedule) := follow_run (by decide)
    refine ((no_dead_end_along_run_iff Projector.emptyGame hrun (by decide)).mpr ?_).2
    intro t ht habandons
    have hlabel := List.mem_map_of_mem (f := Transition.label) ht
    rw [labels_stepsOf (by decide)] at hlabel
    simp only [retriedSchedule, broadcastSchedule, List.cons_append, List.nil_append, List.mem_cons,
      List.not_mem_nil, or_false] at hlabel
    rcases hlabel with h | h | h | h | h <;> simp only [Abandons, h] at habandons

end HiveChameleon.Publisher
