import HiveChameleon.Projector.Sound

/-!
# Projector.Reverting — `revertAfter` always goes through

The statements of a revert, their row triggers and the triggers at commit, on the tables that store
calls leave: nothing refuses a revert but the guard on the irreversible height.  The rows have passed
their checks, finality agrees before and after, and no result hangs on an event that is reverted.
-/

namespace HiveChameleon.Projector

open Gateway Lib

/-! ### Rows that passed their checks -/

/-- Every operation and every checkpoint passes the checks of its table. -/
structure RowsChecked (t : ChainTables) : Prop where
  operation : ∀ op ∈ t.operation, operationChecks op = .ok ()
  checkpoint : ∀ c ∈ t.blockCheckpoint, stateEvidence c.state c.irreversibleAt c.revertedAt

theorem rowsChecked_empty : RowsChecked ⟨Table.empty, Table.empty, Table.empty, Table.empty⟩ where
  operation _ hop := absurd hop Table.not_mem_empty
  checkpoint _ hc := absurd hc Table.not_mem_empty

section Checked

variable {R : Runtime} {source : String} {t t' : ChainTables} {tx tx' : ChainTx} {db db' : Db}

theorem RowsChecked.of_eq (h : RowsChecked t) (hoperation : t'.operation = t.operation)
    (hcheckpoint : t'.blockCheckpoint = t.blockCheckpoint) : RowsChecked t' where
  operation op hop := h.operation op (hoperation ▸ hop)
  checkpoint c hc := h.checkpoint c (hcheckpoint ▸ hc)

theorem RowsChecked.ensureCursor (h : RowsChecked t) : RowsChecked (ensureCursor source t) :=
  h.of_eq ensureCursor_operation ensureCursor_blockCheckpoint

theorem RowsChecked.updateOperations {p : OperationRow → Prop} [DecidablePred p]
    {set : Table.Assignment OperationRow.id} (h : RowsChecked tx.chain)
    (hok : updateOperations p set tx = .ok tx') : RowsChecked tx'.chain := by
  obtain ⟨hrows, rfl⟩ := updateOperations_eq_ok.mp hok
  refine ⟨fun op hop => ?_, h.checkpoint⟩
  rcases Table.mem_modify_cases hop with ⟨old, hold, hp, rfl⟩ | ⟨hop, -⟩
  · exact (hrows old hold hp).2
  · exact h.operation op hop

theorem RowsChecked.updateCheckpoints {p : BlockCheckpointRow → Prop} [DecidablePred p]
    {set : Table.Assignment BlockCheckpointRow.id} (h : RowsChecked tx.chain)
    (hok : updateCheckpoints p set tx = .ok tx') : RowsChecked tx'.chain := by
  obtain ⟨hrows, rfl⟩ := updateCheckpoints_eq_ok.mp hok
  refine ⟨h.operation, fun c hc => ?_⟩
  rcases Table.mem_modify_cases hc with ⟨old, hold, hp, rfl⟩ | ⟨hc, -⟩
  · exact (hrows old hold hp).2
  · exact h.checkpoint c hc

theorem RowsChecked.updateMatchEvents {p : MatchEventRow → Prop} [DecidablePred p]
    {set : Table.Assignment MatchEventRow.eventUuid} (h : RowsChecked tx.chain)
    (hok : updateMatchEvents R p set tx = .ok tx') : RowsChecked tx'.chain := by
  obtain ⟨-, rfl⟩ := updateMatchEvents_eq_ok.mp hok
  exact h.of_eq rfl rfl

theorem RowsChecked.insertCheckpoint {row : BlockCheckpointRow} (h : RowsChecked tx.chain)
    (hok : insertCheckpoint row tx = .ok tx') : RowsChecked tx'.chain := by
  simp only [Projector.insertCheckpoint, bind_eq_ok, exists_unit, require_eq_ok, pure_eq_ok,
    Table.insert_eq_ok] at hok
  obtain ⟨hevidence, -, -, table, ⟨-, hrows⟩, rfl⟩ := hok
  refine ⟨h.operation, fun c hc => ?_⟩
  have hin : c ∈ table := hc
  rw [Table.mem_def, hrows] at hin
  rcases List.mem_append.mp hin with hin | hin
  · exact h.checkpoint c hin
  · rw [List.mem_singleton.mp hin]
    exact hevidence

theorem RowsChecked.storeDecision {cp operationId : Uuid} {decision : OperationDecision}
    {observedAt : Timestamp} (h : RowsChecked tx.chain)
    (hok : storeDecision R cp operationId decision observedAt tx = .ok tx') :
    RowsChecked tx'.chain := by
  have hrows := storeDecision_operation hok
  have hstored := storeDecision_stored hok
  simp only [Projector.storeDecision, Projector.insertOperation, bind_eq_ok, exists_unit] at hok
  obtain ⟨mid, ⟨-, -, hchecks, -⟩, -⟩ := hok
  refine ⟨fun op hop => ?_, fun c hc => h.checkpoint c (hstored.blockCheckpoint ▸ hc)⟩
  rw [Table.mem_def, hrows] at hop
  rcases List.mem_append.mp hop with hop | hop
  · exact h.operation op hop
  · rw [List.mem_singleton.mp hop]
    exact hchecks

theorem RowsChecked.storeDecisions {ids : ℕ → Uuid} {cp : Uuid} {observedAt : Timestamp} :
    ∀ {decisions : List OperationDecision} {drawn : ℕ} {tx tx' : ChainTx}, RowsChecked tx.chain →
      storeDecisions R ids cp observedAt drawn decisions tx = .ok tx' → RowsChecked tx'.chain
  | [], _, tx, tx', h, hok => by
    obtain rfl : tx = tx' := by simpa [Projector.storeDecisions] using hok
    exact h
  | decision :: decisions, drawn, tx, tx', h, hok => by
    simp only [Projector.storeDecisions, bind_eq_ok] at hok
    obtain ⟨mid, hmid, hok⟩ := hok
    exact RowsChecked.storeDecisions (h.storeDecision hmid) hok

theorem RowsChecked.applyBlock {block : HafBlock} {decisions : List OperationDecision}
    {ids : ℕ → Uuid} {observedAt : Timestamp} (h : RowsChecked db.chain)
    (hok : applyBlock R source block decisions ids observedAt db = .ok db') :
    RowsChecked db'.chain := by
  simp only [Projector.applyBlock, bind_eq_ok, exists_unit, require_eq_ok, Prod.exists,
    lockCursor_eq_ok] at hok
  obtain ⟨t, cursor, ⟨rfl, rfl⟩, -, -, tx, hcheckpoint, tx', hstore, t', hcursor, hcommit⟩ := hok
  have hstart : RowsChecked (ChainTx.mk (Projector.ensureCursor source db.chain) []).chain :=
    h.ensureCursor
  have hstored := (hstart.insertCheckpoint hcheckpoint).storeDecisions hstore
  obtain ⟨-, rfl⟩ := updateCursor_eq_ok.mp hcursor
  obtain ⟨-, rfl⟩ := commit_eq_ok.mp hcommit
  exact hstored.of_eq rfl rfl

theorem RowsChecked.revertAfter {n : ℕ} {time : Timestamp} (h : RowsChecked db.chain)
    (hok : revertAfter R source n time db = .ok db') : RowsChecked db'.chain := by
  simp only [Projector.revertAfter, bind_eq_ok, exists_unit, require_eq_ok, Prod.exists,
    lockCursor_eq_ok] at hok
  obtain ⟨t, cursor, ⟨rfl, rfl⟩, -, tx₁, h₁, tx₂, h₂, tx₃, h₃, t', hcursor, hcommit⟩ := hok
  have hstart : RowsChecked (ChainTx.mk (Projector.ensureCursor source db.chain) []).chain :=
    h.ensureCursor
  have hrows := ((hstart.updateMatchEvents h₁).updateOperations h₂).updateCheckpoints h₃
  obtain ⟨-, rfl⟩ := updateCursor_eq_ok.mp hcursor
  obtain ⟨-, rfl⟩ := commit_eq_ok.mp hcommit
  exact hrows.of_eq rfl rfl

theorem RowsChecked.finalizeThrough {n : ℕ} {ids : ℕ → Uuid} {time : Timestamp}
    (h : RowsChecked db.chain) (hok : finalizeThrough R source n ids time db = .ok db') :
    RowsChecked db'.chain := by
  simp only [Projector.finalizeThrough, bind_eq_ok, exists_unit, require_eq_ok, Prod.exists,
    lockCursor_eq_ok] at hok
  obtain ⟨t, cursor, ⟨rfl, rfl⟩, -, tx₁, h₁, tx₂, h₂, tx₃, h₃, t', hcursor, vx, -, hcommit⟩ := hok
  have hstart : RowsChecked (ChainTx.mk (Projector.ensureCursor source db.chain) []).chain :=
    h.ensureCursor
  have hrows := ((hstart.updateMatchEvents h₁).updateOperations h₂).updateCheckpoints h₃
  obtain ⟨-, rfl⟩ := updateCursor_eq_ok.mp hcursor
  obtain ⟨-, rfl⟩ := commit_eq_ok.mp hcommit
  exact hrows.of_eq rfl rfl

end Checked

/-! ### The rows of a revert -/

/-- **Tables that a revert can work on**: finality agrees, and rows and events passed their checks. -/
structure Revertible (R : Runtime) (source : String) (db : Db) : Prop where
  finality : FinalityAgrees source db.chain
  events : EventsSound R db.chain
  views : ViewsSettled db.chain db.views
  rows : RowsChecked db.chain

theorem Sound.revertible {R : Runtime} {source : String} {db : Db} (h : Sound R source db)
    (hrows : RowsChecked db.chain) : Revertible R source db where
  finality := h.consistent.finalityAgrees
  events := h.events
  views := h.views
  rows := hrows

section Rows

variable {R : Runtime} {source : String} {t : ChainTables} {time : Timestamp}

/-- An included event passes the trigger and the checks of its revert. -/
theorem EventsSound.revert_row (h : EventsSound R t) {e : MatchEventRow} (he : e ∈ t.matchEvent)
    (hstate : e.operationState = .included) :
    hcValidateMatchEventUpdate R t e (e.revert time) = .ok () ∧
      matchEventChecks (e.revert time) = .ok () := by
  obtain ⟨op, hop, hid, hevidence⟩ := h.evidence e he
  have hfind : t.operation.find? (e.revert time).operationId = some op :=
    Table.find?_eq_some.mpr ⟨hop, hid⟩
  have hsame : EventEvidence R op (e.revert time) :=
    ⟨hevidence.operationType, hevidence.requiredAuthority, hevidence.applicationId,
      hevidence.primaryAccount, hevidence.validationState, hevidence.includedAt, hevidence.payload⟩
  have hreplay : ¬ isReplay e (e.revert time) := by
    rintro ⟨-, hincluded, -⟩
    cases hincluded
  constructor
  · simp only [hcValidateMatchEventUpdate, bind_eq_ok]
    refine ⟨op, matchEventEvidence_eq_ok.mpr ⟨hfind, hsame⟩, ?_⟩
    simp only [matchEventTransition, bind_eq_ok, exists_unit, require_eq_ok]
    refine ⟨fun h => absurd h hreplay, ⟨rfl, rfl, rfl, rfl, rfl, rfl, rfl, rfl, rfl⟩, ?_,
      .inl (.inr ⟨hstate, .inr rfl⟩), fun heq => ?_⟩
    · rintro (hne | hne)
      · exact absurd rfl hne
      · exact absurd rfl hne
    · rw [hstate] at heq
      cases heq
  · have hchecks := h.checks e he
    simp only [matchEventChecks, bind_eq_ok, exists_unit, require_eq_ok] at hchecks ⊢
    obtain ⟨hshape, hlower, hcount, -, hreason, -⟩ := hchecks
    exact ⟨hshape, hlower, hcount, ⟨rfl, by intro h; cases h⟩, hreason, .inl ⟨rfl, rfl⟩⟩

/-- An included operation passes the trigger and the checks of its revert. -/
theorem RowsChecked.revert_operation (h : RowsChecked t) {op : OperationRow} (hop : op ∈ t.operation)
    (hstate : op.state = .included) :
    hcValidateOperationUpdate op (op.revert time) = .ok () ∧
      operationChecks (op.revert time) = .ok () := by
  have hchecks := h.operation op hop
  constructor
  · simp only [hcValidateOperationUpdate, bind_eq_ok, exists_unit, require_eq_ok]
    refine ⟨⟨rfl, rfl, rfl, rfl, rfl, rfl, rfl, rfl, rfl, rfl, rfl, rfl, rfl, rfl, rfl⟩, ?_, fun _ => rfl,
      .inr ⟨hstate, .inr rfl⟩, ?_, .inl rfl, fun _ => ⟨rfl, rfl⟩⟩
    · intro h
      rw [hstate] at h
      cases h
    · intro h
      rw [hstate] at h
      cases h
  · simp only [operationChecks, bind_eq_ok, exists_unit, require_eq_ok] at hchecks ⊢
    obtain ⟨hindex, hidentity, hlower, hevidence, hvalidation⟩ := hchecks
    rw [hstate] at hevidence
    exact ⟨hindex, hidentity, hlower, ⟨hevidence.1, by intro h; cases h⟩, hvalidation⟩

/-- An included checkpoint passes the trigger and the check of its revert. -/
theorem RowsChecked.revert_checkpoint (h : RowsChecked t) {c : BlockCheckpointRow}
    (hc : c ∈ t.blockCheckpoint) (hstate : c.state = .included) :
    hcValidateCheckpointMutation c (c.revert time) = .ok () ∧
      stateEvidence (c.revert time).state (c.revert time).irreversibleAt (c.revert time).revertedAt := by
  have hevidence := h.checkpoint c hc
  rw [hstate] at hevidence
  constructor
  · simp only [hcValidateCheckpointMutation, bind_eq_ok, exists_unit, require_eq_ok]
    refine ⟨⟨rfl, rfl, rfl, rfl, rfl, rfl, rfl⟩, ?_, fun _ => rfl, .inr ⟨hstate, .inr rfl⟩, ?_⟩
    · intro h
      rw [hstate] at h
      cases h
    · intro h
      rw [hstate] at h
      cases h
  · exact ⟨hevidence.1, by intro h; cases h⟩

/-- A row that is neither irreversible nor reverted is included. -/
theorem state_eq_included {state : OperationState} (hirreversible : state ≠ .irreversible)
    (hreverted : state ≠ .reverted) : state = .included := by
  cases state with
  | included => rfl
  | irreversible => exact absurd rfl hirreversible
  | reverted => exact absurd rfl hreverted

end Rows

/-! ### The triggers at commit -/

section Commit

variable {R : Runtime} {source : String} {t : ChainTables} {v : ViewTables}

/-- Checkpoints and operations agree at commit. -/
theorem FinalityAgrees.checkpointOperationState (h : FinalityAgrees source t) (checkpointId : Uuid) :
    hcCheckCheckpointOperationState t checkpointId = .ok () := by
  unfold hcCheckCheckpointOperationState
  cases hfind : t.blockCheckpoint.find? checkpointId with
  | none => rfl
  | some c =>
    obtain ⟨hc, hid⟩ := Table.find?_eq_some.mp hfind
    refine require_eq_ok.mpr fun op hop hcheckpoint => ?_
    obtain ⟨d, hd, hdid, hstate⟩ := h.operation_state op hop
    have hsame : d = c := Table.eq_of_key hd hc (hdid.trans (hcheckpoint.trans hid.symm))
    rw [← hstate, hsame]

/-- Operations and events agree at commit. -/
theorem FinalityAgrees.operationMatchEventState (h : FinalityAgrees source t)
    (hevents : EventsSound R t) (operationId : Uuid) :
    hcCheckOperationMatchEventState t operationId = .ok () := by
  unfold hcCheckOperationMatchEventState
  cases hfind : t.operation.find? operationId with
  | none => rfl
  | some op =>
    obtain ⟨hop, hid⟩ := Table.find?_eq_some.mp hfind
    refine require_eq_ok.mpr fun e he hbound => ?_
    obtain ⟨op₁, hop₁, hid₁, hstate⟩ := h.event_state e he
    obtain ⟨op₂, hop₂, hid₂, hevidence⟩ := hevents.evidence e he
    have hsame₁ : op₁ = op := Table.eq_of_key hop₁ hop (hid₁.trans (hbound.trans hid.symm))
    have hsame₂ : op₂ = op := Table.eq_of_key hop₂ hop (hid₂.trans (hbound.trans hid.symm))
    exact ⟨hsame₁ ▸ hstate, hsame₂ ▸ hevidence.validationState⟩

/-- No result belongs to an event that is not irreversible. -/
theorem ViewsSettled.affectedResults_eq_nil (h : ViewsSettled t v) {e : MatchEventRow}
    (he : e ∈ t.matchEvent) (hstate : e.operationState ≠ .irreversible) :
    affectedResults v e.eventUuid = [] := by
  have hunsettled : ¬ Settled t e.eventUuid := by
    rintro ⟨e', he', hid, hirreversible⟩
    rw [Table.eq_of_key he' he hid] at hirreversible
    exact hstate hirreversible
  have hresults : v.matchResult.rows.filter (fun result =>
      result.initialEventUuid = e.eventUuid || result.currentEventUuid = e.eventUuid) = [] := by
    refine List.filter_eq_nil_iff.mpr fun result hresult hnames => ?_
    simp only [Bool.or_eq_true, decide_eq_true_eq] at hnames
    rcases hnames with hnames | hnames
    · exact hunsettled (hnames ▸ h.initial result hresult)
    · exact hunsettled (hnames ▸ h.current result hresult)
  have hchanges : v.matchResultChange.rows.filter (fun change =>
      change.eventUuid = e.eventUuid || change.originalEventUuid = e.eventUuid ||
        change.supersedesEventUuid = e.eventUuid) = [] := by
    refine List.filter_eq_nil_iff.mpr fun change hchange hnames => ?_
    obtain ⟨hevent, horiginal, hsuperseded⟩ := h.change change hchange
    simp only [Bool.or_eq_true, decide_eq_true_eq] at hnames
    rcases hnames with (hnames | hnames) | hnames
    · exact hunsettled (hnames ▸ hevent)
    · exact hunsettled (hnames ▸ horiginal)
    · exact hunsettled (hnames ▸ hsuperseded)
  rw [affectedResults, hresults, hchanges]
  rfl

end Commit

/-! ### `revertAfter` -/

section Revert

variable {R : Runtime} {source : String} {db db' : Db} {n : ℕ} {time : Timestamp}

theorem Revertible.ensureCursor (h : Revertible R source db) :
    Revertible R source { db with chain := Projector.ensureCursor source db.chain } where
  finality := ⟨by simpa using h.finality.irreversible_le, by simpa using h.finality.operation_state,
    by simpa using h.finality.event_state⟩
  events := h.events.ensureCursor source
  views := h.views.frozen frozen_ensureCursor
  rows := h.rows.ensureCursor

/-- The three updates of a revert pass their triggers and checks. -/
theorem Revertible.updates (h : Revertible R source db) (time : Timestamp)
    (hguard : lastIrreversible source db.chain ≤ n) :
    (∀ e ∈ db.chain.matchEvent,
        eventOnHeights db.chain source (n < ·) e ∧ e.operationState = .included →
          hcValidateMatchEventUpdate R db.chain e (e.revert time) = .ok () ∧
            matchEventChecks (e.revert time) = .ok ()) ∧
      (∀ op ∈ db.chain.operation, onHeights db.chain source (n < ·) op ∧ op.state ≠ .reverted →
        hcValidateOperationUpdate op (op.revert time) = .ok () ∧
          operationChecks (op.revert time) = .ok ()) ∧
      ∀ c ∈ db.chain.blockCheckpoint, c.source = source ∧ n < c.blockNumber ∧ c.state ≠ .reverted →
        hcValidateCheckpointMutation c (c.revert time) = .ok () ∧
          stateEvidence (c.revert time).state (c.revert time).irreversibleAt
            (c.revert time).revertedAt := by
  refine ⟨fun e he habove => h.events.revert_row he habove.2, fun op hop habove => ?_,
    fun c hc habove => ?_⟩
  · have hirreversible := h.finality.not_irreversible hguard hop habove.1
    exact h.rows.revert_operation hop (state_eq_included hirreversible habove.2)
  · have hirreversible : c.state ≠ .irreversible := by
      intro hs
      have hle := h.finality.irreversible_le c hc habove.1 hs
      have hlt := habove.2.1
      omega
    exact h.rows.revert_checkpoint hc (state_eq_included hirreversible habove.2.2)

/-- **A revert goes through** unless its ancestor is below the irreversible height. -/
theorem Revertible.revertAfter_eq_ok (h : Revertible R source db) :
    revertAfter R source n time db = .ok db' ↔
      lastIrreversible source db.chain ≤ n ∧
        db' = ⟨revertedTables source n time (Projector.ensureCursor source db.chain), db.views, db.game⟩ := by
  refine ⟨revertAfter_spec, ?_⟩
  rintro ⟨hguard, rfl⟩
  have hstart := h.ensureCursor
  have hguard' : lastIrreversible source (Projector.ensureCursor source db.chain) ≤ n := by simpa using hguard
  obtain ⟨hevents, hoperations, hcheckpoints⟩ := hstart.updates time hguard'
  simp only [revertAfter, bind_eq_ok, exists_unit, require_eq_ok, Prod.exists, lockCursor_eq_ok]
  have hafter : FinalityAgrees source
      (revertedTables source n time (Projector.ensureCursor source db.chain)) :=
    hstart.finality.revert hguard'
  have hmove : updateMatchEvents R (fun e => eventOnHeights (Projector.ensureCursor source db.chain)
      source (n < ·) e ∧ e.operationState = .included) ⟨.revert time, fun _ => rfl⟩
        ⟨Projector.ensureCursor source db.chain, []⟩ = .ok _ :=
    updateMatchEvents_eq_ok.mpr ⟨hevents, rfl⟩
  have hsound : EventsSound R
      (revertedTables source n time (Projector.ensureCursor source db.chain)) := by
    have hmoved := (show EventsSound R (ChainTx.mk (Projector.ensureCursor source db.chain) []).chain
      from hstart.events).updateMatchEvents hmove
    exact hmoved.updateOperations rfl rfl fun op => rfl
  refine ⟨_, _, ⟨rfl, rfl⟩, hguard, _, hmove, _,
    updateOperations_eq_ok.mpr ⟨hoperations, rfl⟩, _, updateCheckpoints_eq_ok.mpr ⟨hcheckpoints, rfl⟩,
    _, updateCursor_eq_ok.mpr ⟨fun row hrow => ?_, rfl⟩, commit_eq_ok.mpr ⟨fun d hd => ?_, rfl⟩⟩
  · rw [← lastIrreversible_of_find hrow]
    exact hguard'
  · -- every queued trigger is about the agreement of finality, or about an event of no result
    have hviews : ∀ e ∈ (Projector.ensureCursor source db.chain).matchEvent, e.operationState = .included →
        hcCheckMatchEventResultHeads (revertedTables source n time (Projector.ensureCursor source db.chain))
          db.views e.eventUuid = .ok () := by
      intro e he hstate
      have hnone : affectedResults db.views e.eventUuid = [] :=
        hstart.views.affectedResults_eq_nil he (by rw [hstate]; intro h; cases h)
      unfold hcCheckMatchEventResultHeads
      rw [hnone]
      rfl
    simp only [List.nil_append, List.mem_append, List.mem_flatMap, List.mem_map, List.mem_filter,
      decide_eq_true_eq, List.mem_cons, List.not_mem_nil, or_false] at hd
    rcases hd with (⟨e, ⟨he, -, hstate⟩, rfl | rfl⟩ | ⟨op, -, rfl | rfl⟩) | ⟨c, -, rfl⟩
    · exact hafter.operationMatchEventState hsound _
    · exact hviews e he hstate
    · exact hafter.checkpointOperationState _
    · exact hafter.operationMatchEventState hsound _
    · exact hafter.checkpointOperationState _

theorem revertAfter_eq_error (hlt : n < lastIrreversible source db.chain) :
    revertAfter R source n time db =
      .error (.projector .irreversibleFork "Cannot revert an irreversible checkpoint") := by
  unfold revertAfter
  have hlock : lockCursor source db.chain = .ok (_, _) := lockCursor_eq_ok.mpr ⟨rfl, rfl⟩
  rw [hlock]
  show (require (lastIrreversible source db.chain ≤ n) _ >>= fun _ => _) = _
  rw [require, if_neg (not_le_of_gt hlt)]
  rfl

end Revert

end HiveChameleon.Projector
