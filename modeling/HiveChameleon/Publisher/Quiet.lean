import HiveChameleon.Publisher.Reconcile

/-!
# Publisher.Quiet — an item rests once the outcome of its attempt is recorded

After the acknowledged mark of an attempt its item should be neither claimed nor broadcast until
its projected event moves or the recorded retry time comes.  The store compares states only, so
two things break this: a mark made while the event is already reverted is undone by the next
reconcile, and a worker whose claim was superseded still broadcasts and marks.
-/

namespace HiveChameleon.Publisher

open Gateway Lib Nakama

section

variable {ι : Type}

/-- The store acknowledged how an attempt ended: broadcast, or failed until a retry time. -/
inductive Recorded (t : Transition (PublicationSys ι) (PublicationLabel ι)) :
    MatchOutboxAttempt → Option Timestamp → Prop where
  | broadcast {i : ι} {attempt : MatchOutboxAttempt} {transactionId : String}
      {broadcastAt : Timestamp} (hheld : t.pre.held i = some attempt)
      (h : t.label = .markBroadcast i transactionId broadcastAt true) : Recorded t attempt none
  | failure {i : ι} {attempt : MatchOutboxAttempt} {transactionId : Option String}
      {failureCode : String} {retryAt now : Timestamp} (hheld : t.pre.held i = some attempt)
      (h : t.label = .markRetryableFailure i transactionId failureCode retryAt now true) :
      Recorded t attempt (some retryAt)

/-- A claim before the retry time, if there is one; other steps carry no time that matters. -/
def BeforeRetry (limit : Option Timestamp) : PublicationLabel ι → Prop
  | .claim _ now _ => ∀ retryAt ∈ limit, now < retryAt
  | _ => True

/-- The item is handed out by a claim or broadcast. -/
def Reattempts (t : Transition (PublicationSys ι) (PublicationLabel ι)) (outboxId : Uuid) : Prop :=
  match t.label with
  | .claim i _ _ => ∃ attempt ∈ t.post.held i, attempt.outboxId = outboxId
  | .broadcast i => ∃ attempt ∈ t.pre.held i, attempt.outboxId = outboxId
  | _ => False

/-- **Rest after a mark**: between the acknowledged mark of an attempt and a change of the projected
state of its event, or the retry time, the item is neither claimed nor broadcast. -/
def RestsAfterMarks (ts : List (Transition (PublicationSys ι) (PublicationLabel ι))) : Prop :=
  ∀ us m vs c ws, ts = us ++ m :: (vs ++ c :: ws) →
    ∀ attempt limit, Recorded m attempt limit →
      (∀ t ∈ vs, Projector.eventState t.post.db.chain attempt.eventId =
        Projector.eventState m.post.db.chain attempt.eventId) →
      (∀ t ∈ vs ++ [c], BeforeRetry limit t.label) → ¬ Reattempts c attempt.outboxId

/-- The attempt a worker holds is the latest claim of its item. -/
def HoldsLatest (S : PublicationSys ι) (i : ι) : Prop :=
  ∀ attempt ∈ S.held i, ∀ row ∈ S.tables.outbox.rows, row.id = attempt.outboxId →
    attempt.attemptCount = row.attemptCount

/-- The event of the item that a worker holds is not projected as reverted. -/
def HoldsUnreverted (S : PublicationSys ι) (i : ι) : Prop :=
  ∀ attempt ∈ S.held i, Projector.eventState S.db.chain attempt.eventId ≠ some .reverted

/-- The condition under which items rest: a worker broadcasts and marks only under the latest claim
of the item, and marks only while the item's event is not projected as reverted. -/
def Timely (t : Transition (PublicationSys ι) (PublicationLabel ι)) : Prop :=
  match t.label with
  | .broadcast i => HoldsLatest t.pre i
  | .markBroadcast i _ _ _ => HoldsLatest t.pre i ∧ HoldsUnreverted t.pre i
  | .markRetryableFailure i _ _ _ _ _ => HoldsLatest t.pre i ∧ HoldsUnreverted t.pre i
  | _ => True

instance (S : PublicationSys ι) (i : ι) : Decidable (HoldsLatest S i) := by
  unfold HoldsLatest; infer_instance

instance (S : PublicationSys ι) (i : ι) : Decidable (HoldsUnreverted S i) := by
  unfold HoldsUnreverted; infer_instance

instance (t : Transition (PublicationSys ι) (PublicationLabel ι)) : Decidable (Timely t) := by
  unfold Timely; split <;> infer_instance

/-! ### What the workers hold -/

/-- A held attempt names an item and a claim of it, each claim is held once, and no count of claims
is ahead of the item's. -/
structure HeldInv (S : PublicationSys ι) : Prop where
  row : ∀ i, ∀ a ∈ S.held i, ∃ row ∈ S.tables.outbox, row.id = a.outboxId ∧
    row.eventUuid = a.eventId ∧ a.attemptCount ≤ row.attemptCount
  distinct : ∀ i j, ∀ a ∈ S.held i, ∀ b ∈ S.held j, a.outboxId = b.outboxId →
    a.attemptCount = b.attemptCount → i = j

/-- Rows stay, under their event, and their counts of claims do not decrease. -/
def RowsKept (p p' : PublicationTables) : Prop :=
  ∀ row ∈ p.outbox, ∃ row' ∈ p'.outbox, row'.id = row.id ∧ row'.eventUuid = row.eventUuid ∧
    row.attemptCount ≤ row'.attemptCount

theorem RowsKept.refl (p : PublicationTables) : RowsKept p p :=
  fun row hrow => ⟨row, hrow, rfl, rfl, le_refl _⟩

theorem rowsKept_modify {p : PublicationTables} {q : OutboxRow → Prop} [DecidablePred q]
    {set : Table.Assignment OutboxRow.id} {requests : Table RequestRow (·.id)}
    (hframe : ∀ row, (set row).eventUuid = row.eventUuid ∧
      row.attemptCount ≤ (set row).attemptCount) :
    RowsKept p { p with outbox := p.outbox.modify q set, request := requests } := by
  intro row hrow
  refine ⟨_, Table.updated_mem_modify hrow, Table.key_updated row, ?_⟩
  unfold Table.updated
  split
  · exact hframe row
  · exact ⟨rfl, le_refl _⟩

theorem HeldInv.shrink {S S' : PublicationSys ι} (h : HeldInv S)
    (hrows : RowsKept S.tables S'.tables) (hheld : ∀ i, ∀ a ∈ S'.held i, a ∈ S.held i) :
    HeldInv S' where
  row i a ha := by
    obtain ⟨row, hrow, hid, hevent, hle⟩ := h.row i a (hheld i a ha)
    obtain ⟨row', hrow', hid', hevent', hle'⟩ := hrows row hrow
    exact ⟨row', hrow', hid'.trans hid, hevent'.trans hevent, hle.trans hle'⟩
  distinct i j a ha b hb := h.distinct i j a (hheld i a ha) b (hheld j b hb)

theorem claimCandidate_mem {now : Timestamp} {p : PublicationTables} {row : OutboxRow}
    (h : claimCandidate now p = some row) : row ∈ p.outbox ∧ row.Claimable now := by
  have hmem := List.mem_of_head? h
  rw [List.mem_insertionSort, List.mem_filter, decide_eq_true_eq] at hmem
  exact hmem

/-! ### The rest of an item -/

/-- The item of an attempt rests: it waits for the chain or for its retry time, its event is not
projected as reverted, and whoever holds a claim of it holds an older one. -/
structure Resting (attempt : MatchOutboxAttempt) (limit : Option Timestamp)
    (S : PublicationSys ι) : Prop where
  row : ∃ row ∈ S.tables.outbox, row.id = attempt.outboxId ∧ row.eventUuid = attempt.eventId ∧
    row.attemptCount = attempt.attemptCount ∧
    (row.state = .retryableFailed ∧ row.nextRetryAt = limit ∧ limit ≠ none ∨
      row.state = .broadcast ∨ row.state = .included ∨ row.state = .irreversible)
  spent : ∀ j, ∀ a ∈ S.held j, a.outboxId = attempt.outboxId →
    a.attemptCount < attempt.attemptCount
  unreverted : Projector.eventState S.db.chain attempt.eventId ≠ some .reverted

variable {attempt : MatchOutboxAttempt} {limit : Option Timestamp} {S : PublicationSys ι}

theorem Resting.not_claimed {now : Timestamp} {claimed : OutboxRow} (h : Resting attempt limit S)
    (htime : ∀ retryAt ∈ limit, now < retryAt)
    (hclaimed : claimCandidate now S.tables = some claimed) : claimed.id ≠ attempt.outboxId := by
  intro hid
  obtain ⟨hmem, -, hstate, hretry⟩ := claimCandidate_mem hclaimed
  obtain ⟨row, hrow, hrowid, -, -, hrest⟩ := h.row
  obtain rfl := Table.eq_of_key hmem hrow (hid.trans hrowid.symm)
  rcases hrest with ⟨hs, hnext, hlimit⟩ | hs | hs | hs
  · obtain ⟨retryAt, hsome⟩ := Option.ne_none_iff_exists'.mp hlimit
    have hle := hretry retryAt (hnext.trans hsome)
    have hlt := htime retryAt hsome
    exact absurd hle (Int.not_le.mpr hlt)
  all_goals rw [hs] at hstate; simp at hstate

theorem Resting.not_held {i : ι} (h : Resting attempt limit S) (hlatest : HoldsLatest S i) :
    ∀ a ∈ S.held i, a.outboxId ≠ attempt.outboxId := by
  intro a ha hid
  obtain ⟨row, hrow, hrowid, -, hcount, -⟩ := h.row
  have hlt := h.spent i a ha hid
  have heq := hlatest a ha row hrow (hrowid.trans hid.symm)
  omega

theorem Resting.other {db : Projector.Db} {p : PublicationTables}
    {held held' : ι → Option MatchOutboxAttempt} {outboxId : Uuid}
    {set : Table.Assignment OutboxRow.id} (h : Resting attempt limit ⟨db, p, held⟩)
    (hne : outboxId ≠ attempt.outboxId)
    (hheld : ∀ j, ∀ a ∈ held' j, a ∈ held j ∨ a.outboxId ≠ attempt.outboxId) :
    Resting attempt limit
      ⟨db, { p with outbox := p.outbox.modify (fun row => row.id = outboxId) set }, held'⟩ where
  row := by
    obtain ⟨row, hrow, hid, hrest⟩ := h.row
    exact ⟨row, Table.mem_modify_of_not hrow (by rw [hid]; exact hne.symm), hid, hrest⟩
  spent j a ha hid := by
    rcases hheld j a ha with ha | hother
    · exact h.spent j a ha hid
    · exact absurd hid hother
  unreverted := h.unreverted

theorem Resting.reconciled {db : Projector.Db} {p : PublicationTables}
    {held : ι → Option MatchOutboxAttempt} {now : Timestamp}
    (h : Resting attempt limit ⟨db, p, held⟩) :
    Resting attempt limit ⟨db, reconciledTables db.chain now p, held⟩ where
  row := by
    obtain ⟨row, hrow, hid, hevent, hcount, hrest⟩ := h.row
    by_cases hneeds : NeedsReconcile db.chain row
    · obtain ⟨hframe, hcount', -⟩ := reconcile_frame db.chain now row
      have hmem : row.reconcile db.chain now ∈ (reconciledTables db.chain now p).outbox :=
        Table.mem_modify_of hrow hneeds
      obtain ⟨⟨e, he, -⟩, -⟩ := hneeds
      have he : projectedEvent db.chain row = some e := he
      refine ⟨row.reconcile db.chain now, hmem, (OutboxRow.reconcile_id _ _ row).trans hid,
        (congrArg FrozenColumns.eventUuid hframe).trans hevent, hcount'.trans hcount, .inr ?_⟩
      -- the event is not reverted, so the row follows it to a state that no claim takes
      have hstate := h.unreverted
      rw [← hevent, eventState_of_projectedEvent he] at hstate
      rw [reconcile_state he]
      cases hs : e.operationState with
      | included => exact .inr (.inl rfl)
      | irreversible => exact .inr (.inr rfl)
      | reverted => exact absurd (congrArg some hs) hstate
    · exact ⟨row, Table.mem_modify_of_not hrow hneeds, hid, hevent, hcount, hrest⟩
  spent := h.spent
  unreverted := h.unreverted

/-! ### Steps -/

variable [DecidableEq ι] {R : PublisherRuntime} {source : String} {S' : PublicationSys ι}
  {l : PublicationLabel ι}

theorem mem_of_heldAfterMark {held : ι → Option MatchOutboxAttempt} {i : ι} {acknowledged : Bool}
    (j : ι) (a : MatchOutboxAttempt) (h : a ∈ heldAfterMark held i acknowledged j) : a ∈ held j := by
  unfold heldAfterMark at h
  split at h
  · by_cases hj : j = i
    · subst hj; rw [Function.update_self] at h; cases h
    · rwa [Function.update_of_ne hj] at h
  · exact h

theorem mem_of_update_none {held : ι → Option MatchOutboxAttempt} {i : ι} (j : ι)
    (a : MatchOutboxAttempt) (h : a ∈ Function.update held i none j) : a ∈ held j := by
  have hmark : a ∈ heldAfterMark held i true j := h
  exact mem_of_heldAfterMark j a hmark

theorem HeldInv.claim {db : Projector.Db} {p p' : PublicationTables}
    {held : ι → Option MatchOutboxAttempt} {i : ι} {now leaseUntil : Timestamp}
    {attempt : Option MatchOutboxAttempt} (h : HeldInv ⟨db, p, held⟩)
    (hok : claimNextOutbox R now leaseUntil p = .ok (attempt, p')) :
    HeldInv ⟨db, p', Function.update held i attempt⟩ := by
  rcases claimNextOutbox_eq_ok.mp hok with ⟨-, rfl, rfl⟩ | ⟨row, tx, hrow, hupdate, -, hcommit, rfl⟩
  · exact h.shrink (.refl _) mem_of_update_none
  · obtain ⟨-, rfl⟩ := updateOutbox_commit hupdate hcommit
    obtain ⟨hmem, -⟩ := claimCandidate_mem hrow
    have hother : ∀ j, ∀ a ∈ held j, a.outboxId = row.id → a.attemptCount < row.attemptCount + 1 := by
      intro j a ha hid
      obtain ⟨row', hrow', hid', -, hle⟩ := h.row j a ha
      rw [Table.eq_of_key hrow' hmem (hid'.trans hid)] at hle
      omega
    have hcases : ∀ j, ∀ a ∈ Function.update held i
        (some (⟨row.id, row.eventUuid, row.attemptCount + 1⟩ : MatchOutboxAttempt)) j,
        j = i ∧ a = ⟨row.id, row.eventUuid, row.attemptCount + 1⟩ ∨ a ∈ held j := by
      intro j a ha
      by_cases hj : j = i
      · subst hj
        rw [Function.update_self, Option.mem_some_iff] at ha
        exact .inl ⟨rfl, ha.symm⟩
      · rw [Function.update_of_ne hj] at ha
        exact .inr ha
    constructor
    · intro j a ha
      rcases hcases j a ha with ⟨-, rfl⟩ | ha
      · exact ⟨row.claim now leaseUntil, Table.mem_modify_of hmem rfl, rfl, rfl, le_refl _⟩
      · obtain ⟨row', hrow', hid, hevent, hle⟩ := h.row j a ha
        have hkept : RowsKept p { p with
            outbox := p.outbox.modify (fun other => other.id = row.id)
              ⟨.claim now leaseUntil, fun _ => rfl⟩
            request := p.request } :=
          rowsKept_modify fun _ => ⟨rfl, Nat.le_succ _⟩
        obtain ⟨row'', hrow'', hid', hevent', hle'⟩ := hkept row' hrow'
        exact ⟨row'', hrow'', hid'.trans hid, hevent'.trans hevent, hle.trans hle'⟩
    · intro j k a ha b hb hid hcount
      rcases hcases j a ha with ⟨rfl, rfl⟩ | hina <;> rcases hcases k b hb with ⟨rfl, rfl⟩ | hinb
      · rfl
      · exact absurd hcount.symm (hother k b hinb hid.symm).ne
      · exact absurd hcount (hother j a hina hid).ne
      · exact h.distinct j k a hina b hinb hid hcount

theorem heldInv_step (h : HeldInv S) (hl : PublicationStep R source S l S') : HeldInv S' := by
  cases hl with
  | projector _ _ => exact h.shrink (.refl _) fun _ _ ha => ha
  | request hok =>
    refine h.shrink (fun row hrow => ⟨row, ?_, rfl, rfl, le_refl _⟩) fun _ _ ha => ha
    exact recordRequest_outbox hok ▸ hrow
  | freeze hok =>
    refine h.shrink (fun row hrow => ⟨row, ?_, rfl, rfl, le_refl _⟩) fun _ _ ha => ha
    rw [Table.mem_def, freezeNextBatch_outbox hok]
    exact List.mem_append_left _ hrow
  | defer hok =>
    refine h.shrink (fun row hrow => ⟨row, ?_, rfl, rfl, le_refl _⟩) fun _ _ ha => ha
    exact deferInvalidRequest_outbox hok ▸ hrow
  | claim _ hok => exact h.claim hok
  | broadcast _ => exact h
  | markBroadcast _ hok =>
    obtain ⟨-, rfl⟩ := markBroadcast_outbox hok
    exact h.shrink (rowsKept_modify fun _ => ⟨rfl, le_refl _⟩) mem_of_heldAfterMark
  | markRetryableFailure _ hok =>
    obtain ⟨-, rfl⟩ := markRetryableFailure_outbox hok
    exact h.shrink (rowsKept_modify fun _ => ⟨rfl, le_refl _⟩) mem_of_heldAfterMark
  | reconcile hok =>
    obtain ⟨-, -, -, -, -, hr⟩ := reconcileProjectedFinality_eq_ok.mp hok
    obtain ⟨-, rfl⟩ := Prod.mk.inj hr
    refine h.shrink (rowsKept_modify fun row => ?_) fun _ _ ha => ha
    obtain ⟨hframe, hcount, -⟩ := reconcile_frame _ _ row
    exact ⟨congrArg FrozenColumns.eventUuid hframe, hcount.ge⟩
  | crash => exact h.shrink (.refl _) mem_of_update_none

theorem Resting.not_reattempts (h : Resting attempt limit S)
    (hl : PublicationStep R source S l S') (htimely : Timely ⟨S, l, S'⟩)
    (htime : BeforeRetry limit l) : ¬ Reattempts ⟨S, l, S'⟩ attempt.outboxId := by
  cases hl with
  | @claim _ _ _ held i now leaseUntil handed hidle hok =>
    rintro ⟨a, ha, hid⟩
    have ha : a ∈ Function.update held i handed i := ha
    rw [Function.update_self] at ha
    rcases claimNextOutbox_eq_ok.mp hok with ⟨-, rfl, -⟩ | ⟨row, tx, hrow, -, -, -, rfl⟩
    · cases ha
    · obtain rfl := Option.mem_some_iff.mp ha
      exact h.not_claimed htime hrow hid
  | broadcast _ =>
    rintro ⟨a, ha, hid⟩
    exact h.not_held htimely a ha hid
  | _ => exact id

/-- **A step keeps an item at rest** while its event does not move and its retry time has not come. -/
theorem Resting.step (h : Resting attempt limit S) (hl : PublicationStep R source S l S')
    (htimely : Timely ⟨S, l, S'⟩) (htime : BeforeRetry limit l)
    (hevent : Projector.eventState S'.db.chain attempt.eventId =
      Projector.eventState S.db.chain attempt.eventId) : Resting attempt limit S' := by
  cases hl with
  | projector _ _ => exact ⟨h.row, h.spent, fun hs => h.unreverted (hevent.symm.trans hs)⟩
  | request hok =>
    obtain ⟨row, hrow, hrest⟩ := h.row
    exact ⟨⟨row, recordRequest_outbox hok ▸ hrow, hrest⟩, h.spent, h.unreverted⟩
  | freeze hok =>
    obtain ⟨row, hrow, hrest⟩ := h.row
    refine ⟨⟨row, ?_, hrest⟩, h.spent, h.unreverted⟩
    rw [Table.mem_def, freezeNextBatch_outbox hok]
    exact List.mem_append_left _ hrow
  | defer hok =>
    obtain ⟨row, hrow, hrest⟩ := h.row
    exact ⟨⟨row, deferInvalidRequest_outbox hok ▸ hrow, hrest⟩, h.spent, h.unreverted⟩
  | @claim _ _ _ held i now leaseUntil handed hidle hok =>
    rcases claimNextOutbox_eq_ok.mp hok with
      ⟨-, rfl, rfl⟩ | ⟨row, tx, hrow, hupdate, -, hcommit, rfl⟩
    · exact ⟨h.row, fun j a ha => h.spent j a (mem_of_update_none j a ha), h.unreverted⟩
    · obtain ⟨-, rfl⟩ := updateOutbox_commit hupdate hcommit
      have hne := h.not_claimed htime hrow
      refine h.other hne fun j a ha => ?_
      by_cases hj : j = i
      · subst hj
        rw [Function.update_self] at ha
        obtain rfl := Option.mem_some_iff.mp ha
        exact .inr hne
      · rw [Function.update_of_ne hj] at ha
        exact .inl ha
  | broadcast _ => exact h
  | markBroadcast hheld hok =>
    obtain ⟨-, rfl⟩ := markBroadcast_outbox hok
    exact h.other (h.not_held htimely.1 _ hheld) fun j a ha => .inl (mem_of_heldAfterMark j a ha)
  | markRetryableFailure hheld hok =>
    obtain ⟨-, rfl⟩ := markRetryableFailure_outbox hok
    exact h.other (h.not_held htimely.1 _ hheld) fun j a ha => .inl (mem_of_heldAfterMark j a ha)
  | reconcile hok =>
    obtain ⟨-, -, -, -, -, hr⟩ := reconcileProjectedFinality_eq_ok.mp hok
    obtain ⟨-, rfl⟩ := Prod.mk.inj hr
    exact h.reconciled
  | crash => exact ⟨h.row, fun j a ha => h.spent j a (mem_of_update_none j a ha), h.unreverted⟩

theorem HeldInv.spent {i : ι} (h : HeldInv S) (hlatest : HoldsLatest S i)
    (hheld : S.held i = some attempt) (j : ι) (a : MatchOutboxAttempt)
    (ha : a ∈ heldAfterMark S.held i true j) (hid : a.outboxId = attempt.outboxId) :
    a.attemptCount < attempt.attemptCount := by
  have hj : j ≠ i := by
    rintro rfl
    rw [heldAfterMark, if_pos rfl, Function.update_self] at ha
    cases ha
  have ha := mem_of_heldAfterMark j a ha
  obtain ⟨row, hrow, hrowid, -, hle⟩ := h.row j a ha
  have heq := hlatest attempt hheld row hrow (hrowid.trans hid)
  have hne : a.attemptCount ≠ attempt.attemptCount := fun hcount =>
    hj (h.distinct j i a ha attempt hheld hid hcount)
  omega

theorem Recorded.resting (hrec : Recorded ⟨S, l, S'⟩ attempt limit) (hheld : HeldInv S)
    (hl : PublicationStep R source S l S') (htimely : Timely ⟨S, l, S'⟩) :
    Resting attempt limit S' := by
  cases hl with
  | markBroadcast hi hok =>
    cases hrec with
    | failure _ h => cases h
    | broadcast hi' h =>
      cases h
      obtain rfl := Option.some.inj (hi.symm.trans hi')
      obtain ⟨-, rfl⟩ := markBroadcast_outbox hok
      obtain ⟨row, hrow, hid, hevent, -⟩ := hheld.row _ _ hi
      exact ⟨⟨_, Table.mem_modify_of hrow hid, hid, hevent, (htimely.1 _ hi row hrow hid).symm,
        .inr (.inl rfl)⟩, hheld.spent htimely.1 hi, htimely.2 _ hi⟩
  | markRetryableFailure hi hok =>
    cases hrec with
    | broadcast _ h => cases h
    | failure hi' h =>
      cases h
      obtain rfl := Option.some.inj (hi.symm.trans hi')
      obtain ⟨-, rfl⟩ := markRetryableFailure_outbox hok
      obtain ⟨row, hrow, hid, hevent, -⟩ := hheld.row _ _ hi
      exact ⟨⟨_, Table.mem_modify_of hrow hid, hid, hevent, (htimely.1 _ hi row hrow hid).symm,
        .inl ⟨rfl, rfl, Option.some_ne_none _⟩⟩, hheld.spent htimely.1 hi, htimely.2 _ hi⟩
  | _ => cases hrec with
    | broadcast _ h => cases h
    | failure _ h => cases h

/-- **Items rest after their marks.**  In a run of publisher workers beside the projector whose
workers broadcast and mark only under the latest claim, and mark only while the event is not
projected as reverted, no item is claimed or broadcast again before its event moves or its retry
time comes. -/
theorem rests_after_marks (game : Projector.GameTables)
    {ts : List (Transition (PublicationSys ι) (PublicationLabel ι))}
    (h : Run (PublicationStep R source) (.start ι game) ts S) (htimely : ∀ t ∈ ts, Timely t) :
    RestsAfterMarks ts := by
  rintro us m vs c ws rfl attempt limit hrec hevent htime
  obtain ⟨S₀, hus, hrest⟩ := h.of_append
  obtain ⟨rfl, hm, hrest⟩ := hrest.of_cons
  obtain ⟨S₁, hvs, hrest⟩ := hrest.of_append
  obtain ⟨rfl, hc, -⟩ := hrest.of_cons
  have hstart : HeldInv (PublicationSys.start ι game) := ⟨nofun, nofun⟩
  have hheld := (hus.invariant' (fun _ _ _ hI hl => heldInv_step hI hl) hstart).1
  have hresting : Resting attempt limit m.post := hrec.resting hheld hm (htimely m (by simp))
  -- along the steps in between the event stays as the mark left it
  obtain ⟨⟨hresting, -⟩, -⟩ := hvs.invariant
    (I := fun S => Resting attempt limit S ∧ Projector.eventState S.db.chain attempt.eventId =
      Projector.eventState m.post.db.chain attempt.eventId)
    (G := fun t => Timely t ∧ BeforeRetry limit t.label ∧
      Projector.eventState t.post.db.chain attempt.eventId =
        Projector.eventState m.post.db.chain attempt.eventId)
    (fun _ _ _ hI hG hl => ⟨hI.1.step hl hG.1 hG.2.1 (hG.2.2.trans hI.2.symm), hG.2.2⟩)
    ⟨hresting, rfl⟩
    (fun t ht => ⟨htimely t (by simp [ht]), htime t (by simp [ht]), hevent t ht⟩)
  exact hresting.not_reattempts hc (htimely c (by simp)) (htime c (by simp))

end

/-- A batch is claimed, broadcast, marked and included, and a later claim finds nothing to do. -/
theorem rests_after_marks_included :
    RestsAfterMarks (stepsOf (broadcastSchedule ++ [.markBroadcast () "tx1" 11 true,
      .projector (.applyBlock publishedBlock publishedDecisions), .reconcile 30, .claim () 40 50])) :=
  rests_after_marks Projector.emptyGame (follow_run (by decide)) (by decide)

/-! ### A broadcast of a reverted event -/

/-- The batch is included and reverted, and broadcast again. -/
def rebroadcastSchedule : List (PublicationLabel Unit) :=
  broadcastSchedule ++
    [.markBroadcast () "tx1" 11 true, .projector (.applyBlock publishedBlock publishedDecisions),
     .reconcile 30, .projector (.revertAfter 0), .reconcile 40, .claim () 40 50, .broadcast ()]

/-- The state after one more step. -/
def PublicationSys.after (S : PublicationSys Unit) (l : PublicationLabel Unit) : PublicationSys Unit :=
  (S.exec publisherRuntime "haf" 1000 l).getD S

theorem after_step {S : PublicationSys Unit} {l : PublicationLabel Unit}
    (h : (S.exec publisherRuntime "haf" 1000 l).isSome = true) :
    PublicationStep publisherRuntime "haf" S l (S.after l) := by
  obtain ⟨S', hS'⟩ := Option.isSome_iff_exists.mp h
  rw [PublicationSys.after, hS']
  exact PublicationSys.exec_sound S l S' hS'

def rebroadcast : PublicationSys Unit := stateOf rebroadcastSchedule

def remarked : PublicationSys Unit := rebroadcast.after (.markBroadcast () "tx2" 41 true)

def rereconciled : PublicationSys Unit := remarked.after (.reconcile 60)

def reclaimed : PublicationSys Unit := rereconciled.after (.claim () 60 70)

/-- After the second mark the event stays reverted, and the next cycle claims the item again. -/
theorem item_claimed_again_while_reverted :
    ∃ ts, Run (PublicationStep publisherRuntime "haf") (.start Unit Projector.emptyGame) ts
        reclaimed ∧ ¬ RestsAfterMarks ts := by
  have hrun : Run (PublicationStep publisherRuntime "haf") (.start Unit Projector.emptyGame)
    (stepsOf rebroadcastSchedule) rebroadcast := follow_run (by decide)
  have hmark : PublicationStep publisherRuntime "haf" rebroadcast
    (.markBroadcast () "tx2" 41 true) remarked := after_step (by decide)
  have hreconcile : PublicationStep publisherRuntime "haf" remarked (.reconcile 60) rereconciled :=
    after_step (by decide)
  have hclaim : PublicationStep publisherRuntime "haf" rereconciled (.claim () 60 70) reclaimed :=
    after_step (by decide)
  have hheld : rebroadcast.held () = some ⟨⟨21⟩, ⟨31⟩, 2⟩ := by decide
  have hagain : reclaimed.held () = some ⟨⟨21⟩, ⟨31⟩, 3⟩ := by decide
  refine ⟨_, ((hrun.snoc hmark).snoc hreconcile).snoc hclaim, fun hrests => ?_⟩
  refine hrests (stepsOf rebroadcastSchedule)
    ⟨rebroadcast, .markBroadcast () "tx2" 41 true, remarked⟩
    [⟨remarked, .reconcile 60, rereconciled⟩] ⟨rereconciled, .claim () 60 70, reclaimed⟩ []
    (by simp) _ none (.broadcast hheld rfl) ?_ ?_ ⟨_, hagain, rfl⟩
  · intro t ht
    rw [List.mem_singleton.mp ht]
    decide
  · intro t ht
    rcases List.mem_cons.mp ht with rfl | ht
    · trivial
    · rw [List.mem_singleton.mp ht]
      exact nofun

end HiveChameleon.Publisher
