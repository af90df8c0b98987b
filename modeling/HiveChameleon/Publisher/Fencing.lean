import HiveChameleon.Publisher.Journal

/-!
# Publisher.Fencing — leases, and the marks of superseded workers

A claim leases an item and numbers the attempt, but a mark names the item only.  A worker whose
item was claimed again in the meantime still writes its own outcome over the newer one.  Where
every mark is made under the item's latest claim, a row is what that claim and the chain made of it.
-/

namespace HiveChameleon.Publisher

open Gateway Lib Nakama

section

variable {W : WorkerConfig} {ι : Type}

/-! ### Writes -/

/-- The attempt that a committed mark is made for, and what the mark sets. -/
def markOf (t : Transition (WorkerSys W ι) (WorkerLabel ι)) :
    Option (ClaimedAttempt W × Table.Assignment OutboxRow.id) :=
  match t.label with
  | .worker i (.markBroadcast broadcastAt outcome) =>
    match t.pre.stage i with
    | .submitted attempt _ event =>
      if outcome = .failed then none
      else some (attempt, ⟨.markBroadcast event.transactionId broadcastAt, fun _ => rfl⟩)
    | _ => none
  | .worker i (.markRetryableFailure failedAt now outcome) =>
    match t.pre.stage i with
    | .failing attempt _ transactionId code =>
      if outcome = .failed then none
      else some (attempt, ⟨.markRetryableFailure transactionId (stableFailureCode code)
        (failedAt + retryBackoff W attempt.attemptCount) now, fun _ => rfl⟩)
    | _ => none
  | _ => none

/-- What a transaction of the other parties makes of a row. -/
def otherWrite (t : Projector.ChainTables) (l : PublicationLabel ι) (row : OutboxRow) : OutboxRow :=
  match l with
  | .reconcile now => if NeedsReconcile t row then row.reconcile t now else row
  | _ => row

/-- What a transition makes of a row claimed as `attempt`, where only that attempt marks it. -/
def ownWrite (attempt : ClaimedAttempt W) (t : Transition (WorkerSys W ι) (WorkerLabel ι))
    (row : OutboxRow) : OutboxRow :=
  match t.label with
  | .other l => otherWrite t.pre.db.chain l row
  | .otherIntent _ => row
  | .worker _ _ =>
    match markOf t with
    | none => row
    | some mark =>
      if mark.1.outboxId = attempt.outboxId ∧ mark.1.attemptCount = attempt.attemptCount then
        mark.2 row
      else row

/-- The row of a claim after the transitions that follow it. -/
def outcomeOf (attempt : ClaimedAttempt W) (claimed : OutboxRow)
    (after : List (Transition (WorkerSys W ι) (WorkerLabel ι))) : OutboxRow :=
  after.foldl (fun row t => ownWrite attempt t row) claimed

/-! ### The property -/

/-- The row is what its latest claim and the chain made of it. -/
def ReflectsClaim (ts : List (Transition (WorkerSys W ι) (WorkerLabel ι))) (row : OutboxRow) : Prop :=
  ∃ before c after attempt claimed, ts = before ++ c :: after ∧ handedOut c = some attempt ∧
    attempt.outboxId = row.id ∧ attempt.attemptCount = row.attemptCount ∧
    claimed ∈ c.post.tables.outbox ∧ claimed.id = row.id ∧ row = outcomeOf attempt claimed after

/-- Every claimed row reflects its latest claim. -/
def ReflectsLatest (ts : List (Transition (WorkerSys W ι) (WorkerLabel ι)))
    (S : WorkerSys W ι) : Prop :=
  ∀ row ∈ S.tables.outbox, 0 < row.attemptCount → ReflectsClaim ts row

/-- **Lease fencing** of a run that ends in `S`. -/
structure LeaseFenced (ts : List (Transition (WorkerSys W ι) (WorkerLabel ι)))
    (S : WorkerSys W ι) : Prop where
  /-- The mark of an attempt changes nothing of an item that was claimed after it. -/
  row : ∀ before t after, ts = before ++ t :: after → ∀ mark, markOf t = some mark →
    ∀ b ∈ claims before, b.outboxId = mark.1.outboxId → mark.1.attemptCount < b.attemptCount →
      ∀ row ∈ t.pre.tables.outbox, row.id = b.outboxId → ∃ row' ∈ t.post.tables.outbox,
        row'.id = row.id ∧ row'.state = row.state ∧
          row'.hiveTransactionId = row.hiveTransactionId ∧ row'.nextRetryAt = row.nextRetryAt
  /-- It changes no record of another attempt. -/
  record : ∀ t ∈ ts, ∀ mark, markOf t = some mark → ∀ r ∈ t.pre.journal,
    r.idempotencyKey ≠ idempotencyKey W mark.1 → r ∈ t.post.journal
  latest : ReflectsLatest ts S

/-- A committed mark is made under the item's latest claim. -/
def MarksLatest (t : Transition (WorkerSys W ι) (WorkerLabel ι)) : Prop :=
  ∀ mark ∈ markOf t, ∀ row ∈ t.pre.tables.outbox.rows, row.id = mark.1.outboxId →
    row.attemptCount = mark.1.attemptCount

instance (t : Transition (WorkerSys W ι) (WorkerLabel ι)) : Decidable (MarksLatest t) :=
  inferInstanceAs (Decidable (∀ mark ∈ markOf t, _))

theorem markOf_eq_none {S S' : WorkerSys W ι} {i : ι} {action : WorkerAction}
    (h : ¬ action.CommitsMark) :
    markOf (⟨S, .worker i action, S'⟩ : Transition (WorkerSys W ι) (WorkerLabel ι)) = none := by
  cases action with
  | markBroadcast broadcastAt outcome =>
    have hfailed : outcome = .failed := not_not.mp h
    simp only [markOf, hfailed]
    split <;> rfl
  | markRetryableFailure failedAt now outcome =>
    have hfailed : outcome = .failed := not_not.mp h
    simp only [markOf, hfailed]
    split <;> rfl
  | _ => rfl

/-! ### Rows -/

variable {ts : List (Transition (WorkerSys W ι) (WorkerLabel ι))}
  {t : Transition (WorkerSys W ι) (WorkerLabel ι)} {row row' : OutboxRow}

theorem ReflectsClaim.snoc (h : ReflectsClaim ts row) (hid : row'.id = row.id)
    (hcount : row'.attemptCount = row.attemptCount)
    (hwrite : ∀ attempt : ClaimedAttempt W, attempt.outboxId = row.id →
      attempt.attemptCount = row.attemptCount → ownWrite attempt t row = row') :
    ReflectsClaim (ts ++ [t]) row' := by
  obtain ⟨before, c, after, attempt, claimed, rfl, hhanded, hattempt, hnumber, hmem, hclaimed, hrow⟩ := h
  refine ⟨before, c, after ++ [t], attempt, claimed, ?_, hhanded, hattempt.trans hid.symm,
    hnumber.trans hcount.symm, hmem, hclaimed.trans hid.symm, ?_⟩
  · rw [List.append_assoc, List.cons_append]
  · have hfold : outcomeOf attempt claimed (after ++ [t]) =
        ownWrite attempt t (outcomeOf attempt claimed after) := by
      rw [outcomeOf, List.foldl_append]
      rfl
    rw [hfold, ← hrow, hwrite attempt hattempt hnumber]

theorem row_of_other [DecidableEq ι] {R : PublisherRuntime} {source : String}
    {Q Q' : PublicationSys ι} {l : PublicationLabel ι} (h : PublicationStep R source Q l Q')
    (hother : ¬ ByWorker l) (hrow' : row' ∈ Q'.tables.outbox) :
    row'.attemptCount = 0 ∨ ∃ row ∈ Q.tables.outbox, row' = otherWrite Q.db.chain l row := by
  cases h with
  | projector => exact .inr ⟨row', hrow', rfl⟩
  | request hok => exact .inr ⟨row', recordRequest_outbox hok ▸ hrow', rfl⟩
  | defer hok => exact .inr ⟨row', deferInvalidRequest_outbox hok ▸ hrow', rfl⟩
  | freeze hok =>
    rw [Table.mem_def, freezeNextBatch_outbox hok] at hrow'
    rcases List.mem_append.mp hrow' with hrow' | hrow'
    · exact .inr ⟨row', hrow', rfl⟩
    · rw [List.mem_singleton.mp hrow']
      exact .inl rfl
  | reconcile hok =>
    obtain ⟨-, -, -, -, -, hr⟩ := reconcileProjectedFinality_eq_ok.mp hok
    obtain ⟨-, rfl⟩ := Prod.mk.inj hr
    obtain ⟨row, hrow, rfl⟩ := Table.mem_modify.mp hrow'
    exact .inr ⟨row, hrow, rfl⟩
  | claim => exact absurd trivial hother
  | broadcast => exact absurd trivial hother
  | markBroadcast => exact absurd trivial hother
  | markRetryableFailure => exact absurd trivial hother
  | crash => exact absurd trivial hother

theorem otherWrite_frame (t : Projector.ChainTables) (l : PublicationLabel ι) (row : OutboxRow) :
    (otherWrite t l row).id = row.id ∧ (otherWrite t l row).attemptCount = row.attemptCount := by
  unfold otherWrite
  split
  · rename_i now
    by_cases hneeds : NeedsReconcile t row
    · rw [if_pos hneeds]
      exact ⟨OutboxRow.reconcile_id t now row, (reconcile_frame t now row).2.1⟩
    · rw [if_neg hneeds]
      exact ⟨rfl, rfl⟩
  · exact ⟨rfl, rfl⟩

end

/-! ### Awaits -/

section

variable {W : WorkerConfig} {ι : Type} [DecidableEq ι] {source : String}
  {ts : List (Transition (WorkerSys W ι) (WorkerLabel ι))} {S S' : WorkerSys W ι}
  {l : WorkerLabel ι} {i : ι} {action : WorkerAction}

/-- **The outbox after an await**: as before, or one row claimed, or one row marked. -/
theorem outbox_of_performed (h : Performed S i action S') :
    markOf (⟨S, .worker i action, S'⟩ : Transition (WorkerSys W ι) (WorkerLabel ι)) = none ∧
        S'.tables.outbox = S.tables.outbox ∨
      (∃ now row attempt, action = .claim now ∧ row ∈ S.tables.outbox ∧
        handedOut (⟨S, .worker i action, S'⟩ : Transition (WorkerSys W ι) (WorkerLabel ι)) =
          some attempt ∧ attempt.outboxId = row.id ∧ attempt.attemptCount = row.attemptCount + 1 ∧
        S'.tables = claimedTables W now row S.tables) ∨
      ∃ mark : ClaimedAttempt W × Table.Assignment OutboxRow.id,
        markOf (⟨S, .worker i action, S'⟩ : Transition (WorkerSys W ι) (WorkerLabel ι)) = some mark ∧
        (∀ row, (mark.2 row).attemptCount = row.attemptCount) ∧
        S'.tables.outbox = S.tables.outbox.modify (fun row => row.id = mark.1.outboxId) mark.2 := by
  cases h with
  | nothing hidle => exact .inl ⟨markOf_eq_none not_false, rfl⟩
  | @claim now row attempt hidle hrow hattempt hclaim =>
    obtain ⟨hids, -⟩ := outboxAttemptFromRow_eq_some hattempt
    refine .inr (.inl ⟨now, row, attempt, rfl, (claimCandidate_mem hrow).1, ?_, ?_, ?_, rfl⟩)
    · simp only [handedOut, to_stage_self]
    · rw [hids]
      rfl
    · rw [hids]
      rfl
  | prepare hstage => exact .inl ⟨markOf_eq_none not_false, rfl⟩
  | record hstage hjournal hnext => exact .inl ⟨markOf_eq_none not_false, rfl⟩
  | raise hattempt hmark => exact .inl ⟨markOf_eq_none hmark, rfl⟩
  | sign hstage => exact .inl ⟨markOf_eq_none not_false, rfl⟩
  | submit hstage => exact .inl ⟨markOf_eq_none not_false, rfl⟩
  | @markBroadcast broadcastAt outcome attempt id event p stage hstage hcommitted hp hnext =>
    obtain ⟨-, rfl⟩ := markBroadcast_outbox hp
    refine .inr (.inr ⟨(attempt, ⟨.markBroadcast event.transactionId broadcastAt, fun _ => rfl⟩),
      ?_, fun row => rfl, rfl⟩)
    simp only [markOf, hstage]
    exact if_neg hcommitted
  | @markRetryableFailure failedAt now outcome attempt id transactionId code p hstage hcommitted hp =>
    obtain ⟨-, rfl⟩ := markRetryableFailure_outbox hp
    refine .inr (.inr ⟨(attempt, ⟨.markRetryableFailure transactionId (stableFailureCode code)
      (failedAt + retryBackoff W attempt.attemptCount) now, fun _ => rfl⟩), ?_, fun row => rfl, rfl⟩)
    simp only [markOf, hstage]
    exact if_neg hcommitted
  | drop hmark => exact .inl ⟨markOf_eq_none hmark, rfl⟩

/-- **One step** under the item's latest claim. -/
theorem reflectsLatest_step (h : ReflectsLatest ts S) (hl : WorkerStep W source S l S')
    (hlatest : MarksLatest ⟨S, l, S'⟩) : ReflectsLatest (ts ++ [⟨S, l, S'⟩]) S' := by
  intro row' hrow' hpos
  cases hl with
  | @other l base hother hstep =>
    rcases row_of_other hstep hother hrow' with hzero | ⟨row, hrow, rfl⟩
    · omega
    · obtain ⟨hid, hcount⟩ := otherWrite_frame S.db.chain l row
      exact (h row hrow (hcount ▸ hpos)).snoc hid hcount fun _ _ _ => rfl
  | otherIntent hok => exact (h row' hrow' hpos).snoc rfl rfl fun _ _ _ => rfl
  | @worker _ i action hok =>
    rcases outbox_of_performed (performed_of_perform hok) with
      ⟨hmark, houtbox⟩ | ⟨now, row, attempt, rfl, hrow, hhanded, hid, hnumber, htables⟩ |
      ⟨mark, hmark, hcount, houtbox⟩
    · rw [houtbox] at hrow'
      refine (h row' hrow' hpos).snoc rfl rfl fun attempt _ _ => ?_
      simp only [ownWrite, hmark]
    · rw [htables] at hrow'
      rcases Table.mem_modify_cases hrow' with ⟨old, hold, hsame, rfl⟩ | ⟨hold, -⟩
      · obtain rfl := Table.eq_of_key hold hrow hsame
        refine ⟨ts, _, [], attempt, old.claim now (now + W.claimLeaseMs), rfl, hhanded, hid, hnumber,
          ?_, rfl, rfl⟩
        rw [htables]
        exact hrow'
      · exact (h row' hold hpos).snoc rfl rfl fun _ _ _ => rfl
    · rw [houtbox] at hrow'
      rcases Table.mem_modify_cases hrow' with ⟨row, hrow, hid, rfl⟩ | ⟨hold, hother⟩
      · -- the mark is that of the claim that the row reflects
        have hown := hlatest mark hmark row hrow hid
        refine (h row hrow (hcount row ▸ hpos)).snoc (mark.2.keeps row) (hcount row) fun attempt ha hn => ?_
        simp only [ownWrite, hmark]
        exact if_pos ⟨by rw [ha, ← hid], by rw [hn, ← hown]⟩
      · refine (h row' hold hpos).snoc rfl rfl fun attempt ha hn => ?_
        simp only [ownWrite, hmark]
        exact if_neg fun hsame => hother (by rw [hsame.1, ha])

theorem record_of_mark (hinv : JournalInv ts S) (h : Performed S i action S')
    {mark : ClaimedAttempt W × Table.Assignment OutboxRow.id}
    (hmark : markOf (⟨S, .worker i action, S'⟩ : Transition (WorkerSys W ι) (WorkerLabel ι)) = some mark)
    {r : TransactionIntentRow} (hr : r ∈ S.journal)
    (hkey : r.idempotencyKey ≠ idempotencyKey W mark.1) : r ∈ S'.journal := by
  have hown : ∀ id, (S.stage i).attempt = some mark.1 → (S.stage i).signingAttemptId = some id →
      r.id ≠ id := by
    intro id hattempt hid heq
    obtain ⟨row, hrow, hrowId, hrowKey⟩ := (hinv.stages i).record mark.1 id hattempt hid
    obtain rfl := Table.eq_of_key hr hrow (heq.trans hrowId.symm)
    exact hkey hrowKey
  cases h with
  | @markBroadcast broadcastAt outcome attempt id event p stage hstage hcommitted hp hnext =>
    simp only [markOf, hstage, if_neg hcommitted, Option.some.injEq] at hmark
    obtain rfl := hmark
    exact Table.mem_modify_of_not hr (hown id (by rw [hstage]; rfl) (by rw [hstage]; rfl))
  | @markRetryableFailure failedAt now outcome attempt id transactionId code p hstage hcommitted hp =>
    simp only [markOf, hstage, if_neg hcommitted, Option.some.injEq] at hmark
    obtain rfl := hmark
    refine Table.mem_modify_of_not hr fun hid => ?_
    exact hown r.id (by rw [hstage]; rfl) (by rw [hstage]; exact hid) rfl
  | record hstage hjournal hnext => cases hmark
  | _ => exact hr

theorem record_of_step (hinv : JournalInv ts S) (hl : WorkerStep W source S l S')
    {mark : ClaimedAttempt W × Table.Assignment OutboxRow.id}
    (hmark : markOf (⟨S, l, S'⟩ : Transition (WorkerSys W ι) (WorkerLabel ι)) = some mark)
    {r : TransactionIntentRow} (hr : r ∈ S.journal)
    (hkey : r.idempotencyKey ≠ idempotencyKey W mark.1) : r ∈ S'.journal := by
  cases hl with
  | other => cases hmark
  | otherIntent => cases hmark
  | worker hok => exact record_of_mark hinv (performed_of_perform hok) hmark hr hkey

/-- **Lease fencing where every mark is made under the latest claim.**  In such a run a superseded
attempt changes nothing of a newer one, no mark changes the record of another attempt, and every
claimed row is what its latest claim and the chain made of it. -/
theorem lease_fenced (game : Projector.GameTables)
    (hrun : Run (WorkerStep W source) (.start W ι game) ts S) (hlatest : ∀ t ∈ ts, MarksLatest t) :
    LeaseFenced ts S := by
  constructor
  · rintro before t after rfl mark hmark b hb hid hlt
    obtain ⟨m, hbefore, hafter⟩ := hrun.of_append
    obtain ⟨rfl, -, -⟩ := hafter.of_cons
    -- the row's count is at least that of the newer claim
    obtain ⟨row, hrow, hclaim⟩ := (journalInv_run hbefore).attempts.row b hb
    have hcount := hlatest t (by simp) mark hmark row hrow (hclaim.id.trans hid)
    have hle := hclaim.count
    omega
  · intro t ht mark hmark r hr hkey
    obtain ⟨before, after, -, hbefore, hstep, -⟩ := hrun.split_of_mem ht
    exact record_of_step (journalInv_run hbefore) hstep hmark hr hkey
  · induction hrun with
    | refl => exact fun row hrow => absurd hrow Table.not_mem_empty
    | snoc hrun hl ih =>
      have hbefore := ih fun t ht => hlatest t (List.mem_append_left _ ht)
      exact reflectsLatest_step hbefore hl
        (hlatest _ (List.mem_append_right _ (List.mem_singleton.mpr rfl)))

end

/-- The run in which a crashed worker's item is claimed again, published and marked. -/
theorem lease_fenced_retry :
    LeaseFenced (workerSteps (retrySchedule ++ [.worker false (.markBroadcast 31 .done)]))
      (workerState (retrySchedule ++ [.worker false (.markBroadcast 31 .done)])) := by
  have hchecked : (followWorkers (retrySchedule ++ [.worker false (.markBroadcast 31 .done)])).any
      (fun run => decide (∀ t ∈ run.1, MarksLatest t)) = true := by decide +kernel
  obtain ⟨hrun, hlatest⟩ := followWorkers_run hchecked
  simp only [decide_eq_true_eq] at hlatest
  exact lease_fenced Projector.emptyGame hrun hlatest

/-! ### A superseded worker undoes a newer outcome -/

/-- The first worker claims; after its lease the second one publishes the batch; then the first
one's signing call fails, and it is about to record that. -/
def supersededSchedule : List (WorkerLabel Bool) :=
  frozenSchedule ++ [.worker true (.claim 10), .worker true (.prepare ⟨51⟩ (.ok preparedBatch)),
    .worker true (.record .done)] ++ publishSchedule false 30 ⟨52⟩ ++
    [.worker false (.markBroadcast 31 .done), .worker true (.sign (.error "signer_unavailable"))]

def staleMark : WorkerLabel Bool := .worker true (.markRetryableFailure 32 32 .done)

/-- Before the last mark the batch is broadcast under a second claim, and after it failed. -/
def overwrites (run : List (Transition (WorkerSys workerConfig Bool) (WorkerLabel Bool)) ×
    WorkerSys workerConfig Bool) (S' : WorkerSys workerConfig Bool) : Bool :=
  (markOf (⟨run.2, staleMark, S'⟩ : Transition (WorkerSys workerConfig Bool) (WorkerLabel Bool))).any
      (fun mark => mark.1.outboxId = ⟨21⟩ && mark.1.attemptCount = 1) &&
    (claims run.1).any (fun b => b.outboxId = ⟨21⟩ && b.attemptCount = 2) &&
    run.2.tables.outbox.rows.any (fun row => row.id = ⟨21⟩ && row.state = .broadcast) &&
    S'.tables.outbox.rows.all fun row => row.state = .retryableFailed

theorem not_leaseFenced_of_overwrites
    {ts : List (Transition (WorkerSys workerConfig Bool) (WorkerLabel Bool))}
    {S S' : WorkerSys workerConfig Bool} (h : overwrites (ts, S) S' = true) :
    ¬ LeaseFenced (ts ++ [⟨S, staleMark, S'⟩]) S' := by
  intro hfenced
  simp only [overwrites, Bool.and_eq_true] at h
  obtain ⟨⟨⟨hmark, hnewer⟩, hbefore⟩, hafter⟩ := h
  obtain ⟨mark, hmark, hattempt⟩ := (Option.any_eq_true _ _).mp hmark
  obtain ⟨b, hb, hnewer⟩ := List.any_eq_true.mp hnewer
  obtain ⟨row, hrow, hbroadcast⟩ := List.any_eq_true.mp hbefore
  simp only [Bool.and_eq_true, decide_eq_true_eq] at hattempt hnewer hbroadcast
  have hid : b.outboxId = mark.1.outboxId := hnewer.1.trans hattempt.1.symm
  have hlt : mark.1.attemptCount < b.attemptCount := by
    rw [hattempt.2, hnewer.2]
    decide
  obtain ⟨row', hrow', -, hstate, -⟩ := hfenced.row ts _ [] rfl mark hmark b hb hid hlt row hrow
    (hbroadcast.1.trans hnewer.1.symm)
  have hfailed := of_decide_eq_true (List.all_eq_true.mp hafter row' hrow')
  rw [hstate, hbroadcast.2] at hfailed
  cases hfailed

/-- The batch that the second worker broadcast is marked as failed by the first one. -/
theorem not_lease_fenced_of_superseded :
    ∃ ts S, Run (WorkerStep workerConfig "haf")
      (.start workerConfig Bool Projector.emptyGame) ts S ∧ ¬ LeaseFenced ts S := by
  have hchecked : (followWorkers supersededSchedule).any
      (fun run => (run.2.exec "haf" 1000 staleMark).any (overwrites run)) = true := by decide +kernel
  obtain ⟨⟨ts, S⟩, hfollow, hmarked⟩ := (Option.any_eq_true _ _).mp hchecked
  obtain ⟨S', hmarked, hoverwrites⟩ := (Option.any_eq_true _ _).mp hmarked
  have hrun := (replay_run WorkerSys.exec_sound hfollow).1
  exact ⟨_, _, hrun.snoc (WorkerSys.exec_sound S staleMark S' hmarked),
    not_leaseFenced_of_overwrites hoverwrites⟩

end HiveChameleon.Publisher
