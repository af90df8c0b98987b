import HiveChameleon.Projector.Reported
import HiveChameleon.Projector.ResultChain

/-!
# Projector.Provenance — every projected result goes back to a reported operation

A row of `match_result` or `match_result_change` exists only because the source reported an operation
that the validator accepted, in a block that it reported and later reported as irreversible, and the
row repeats what that operation says.  The row triggers compare a row with its event when it is
written; what they compared cannot change afterwards.
-/

namespace HiveChameleon.Projector

open Gateway Lib

/-! ### Statements that write results -/

section Rule

variable {R : Runtime} {game : GameTables} {t : ChainTables} {ids : ℕ → Uuid} {time : Timestamp}
variable {P : ViewTables → Prop}

/-- What the three statements on results keep. -/
structure KeptByStatements (R : Runtime) (game : GameTables) (t : ChainTables)
    (P : ViewTables → Prop) : Prop where
  same : ∀ {v v' : ViewTables}, SameResults v v' → P v → P v'
  result : ∀ {row : MatchResultRow} {vx vx' : ViewTx}, insertMatchResult R t row vx = .ok vx' →
    P vx.views → P vx'.views
  change : ∀ {row : MatchResultChangeRow} {vx inserted : ViewTx},
    insertMatchResultChange R game t row vx = .ok (some inserted) → P vx.views → P inserted.views
  advance : ∀ {id supersedesEventId : Uuid} {set : Table.Assignment MatchResultRow.id}
    {vx vx' : ViewTx}, advanceMatchResult R t id supersedesEventId set vx = .ok vx' →
      P vx.views → P vx'.views

theorem KeptByStatements.materializeResultsFrom (h : KeptByStatements R game t P) {eventId : Uuid} :
    ∀ {results : List MatchResult} {position : ℕ} {vx vx' : ViewTx},
      materializeResultsFrom R game t ids eventId time position results vx = .ok vx' →
        P vx.views → P vx'.views
  | [], _, vx, vx', hok, hP => by
    obtain rfl : vx = vx' := by simpa [Projector.materializeResultsFrom] using hok
    exact hP
  | result :: results, position, vx, vx', hok, hP => by
    simp only [Projector.materializeResultsFrom, materializeInitialMatchResult, bind_eq_ok,
      exists_unit] at hok
    obtain ⟨mid, ⟨-, -, -, hmid⟩, hok⟩ := hok
    refine h.materializeResultsFrom hok ?_
    split at hmid
    · exact h.result hmid hP
    · obtain rfl := pure_eq_ok.mp hmid
      exact hP

theorem KeptByStatements.materializeMatchInvalidation (h : KeptByStatements R game t P)
    {event : MatchResultInvalidated} {vx vx' : ViewTx}
    (hok : materializeMatchInvalidation R game t event vx = .ok vx') (hP : P vx.views) :
    P vx'.views := by
  unfold Projector.materializeMatchInvalidation at hok
  split at hok
  · obtain rfl := pure_eq_ok.mp hok
    exact hP
  · simp only [bind_eq_ok] at hok
    obtain ⟨changed, hchanged, hok⟩ := hok
    cases changed with
    | none =>
      obtain rfl := pure_eq_ok.mp hok
      exact hP
    | some inserted => exact h.advance hok (h.change hchanged hP)

theorem KeptByStatements.materializeOperation (h : KeptByStatements R game t P)
    {operation : OperationRow} {vx vx' : ViewTx}
    (hok : materializeOperation R game t ids time operation vx = .ok vx') (hP : P vx.views) :
    P vx'.views := by
  simp only [Projector.materializeOperation, bind_eq_ok] at hok
  obtain ⟨event, -, hok⟩ := hok
  cases event with
  | matchResultsBatch e =>
    dsimp only at hok
    split at hok
    · obtain rfl := pure_eq_ok.mp hok
      exact hP
    · exact h.materializeResultsFrom hok hP
  | matchResultCorrected e =>
    dsimp only at hok
    split at hok
    · obtain rfl := pure_eq_ok.mp hok
      exact hP
    · cases (materializeMatchCorrection_eq ..).symm.trans hok
  | matchResultInvalidated e =>
    dsimp only at hok
    split at hok
    · obtain rfl := pure_eq_ok.mp hok
      exact hP
    · exact h.materializeMatchInvalidation hok hP
  | collectibleIssued e => exact h.same (materializeCollectibleIssue_same hok) hP
  | collectibleRevoked e => exact h.same (materializeCollectibleRevocation_same hok) hP

/-- **The statement rule**: what each statement on results keeps, a materialization keeps. -/
theorem KeptByStatements.materializeOperations (h : KeptByStatements R game t P) :
    ∀ {operations : List OperationRow} {vx vx' : ViewTx},
      materializeOperations R game t ids time operations vx = .ok vx' → P vx.views → P vx'.views
  | [], vx, vx', hok, hP => by
    obtain rfl : vx = vx' := by simpa [Projector.materializeOperations] using hok
    exact hP
  | operation :: operations, vx, vx', hok, hP => by
    simp only [Projector.materializeOperations, bind_eq_ok] at hok
    obtain ⟨mid, hmid, hok⟩ := hok
    exact h.materializeOperations hok (h.materializeOperation hmid hP)

end Rule

/-! ### Rows and their events -/

/-- The replacement columns repeat a published result. -/
def MatchResultReplacement.agrees (r : MatchResultReplacement) (item : MatchResult) : Prop :=
  item.resultSchema.code = r.resultSchemaVersion ∧ item.scoringRules.code = r.scoringRuleVersion ∧
    item.map.versionId = r.mapVersionId ∧ item.map.contentSha256.hex = r.mapContentSha256 ∧
    item.server.build = r.serverBuildVersion ∧ item.server.protocol.code = r.matchProtocolVersion ∧
    item.resultSha256.hex = r.publicResultSha256

/-- A change repeats its event: its lineage, and the replacement that a correction publishes. -/
def MatchResultChangeRow.repeats (c : MatchResultChangeRow) (event : HiveChameleonEvent) : Prop :=
  c.lineageAgrees event ∧ ∀ r ∈ c.replacement, ∃ e, event = .matchResultCorrected e ∧
    e.replacementResult.roundId = c.roundId ∧ r.agrees e.replacementResult

/-- The event that the payload of the bound operation carries. -/
def carriedEvent (R : Runtime) (t : ChainTables) (eventUuid : Uuid) : Option HiveChameleonEvent :=
  (t.matchEvent.find? eventUuid).bind fun e =>
    (t.operation.find? e.operationId).bind fun op => op.payload.json.bind R.jsonb

/-- The row repeats an item of the batch that its initial event carries. -/
def MatchResultRow.Backed (R : Runtime) (t : ChainTables) (r : MatchResultRow) : Prop :=
  ∃ batch item, carriedEvent R t r.initialEventUuid = some (.matchResultsBatch batch) ∧
    batch.results[r.resultPosition]? = some item ∧ r.agrees item

def MatchResultChangeRow.Backed (R : Runtime) (t : ChainTables) (c : MatchResultChangeRow) : Prop :=
  ∃ event, carriedEvent R t c.eventUuid = some event ∧ c.repeats event

/-- **Backed views**: every result and every change repeats what its event carries. -/
structure ViewsBacked (R : Runtime) (t : ChainTables) (v : ViewTables) : Prop where
  result : ∀ r ∈ v.matchResult, r.Backed R t
  change : ∀ c ∈ v.matchResultChange, c.Backed R t

section Backed

variable {R : Runtime} {game : GameTables} {t t' : ChainTables} {v : ViewTables}

theorem backed_of_hcValidateMatchResult {old : Option MatchResultRow} {new : MatchResultRow}
    (h : hcValidateMatchResult R t v old new = .ok ()) : new.Backed R t := by
  simp only [hcValidateMatchResult, initialEvent, bind_eq_ok, exists_unit, require_eq_ok] at h
  obtain ⟨e, hevent, -, hitem, -⟩ := h
  split at hevent
  · cases hevent
  rename_i found hfind
  obtain rfl := Except.ok.inj hevent
  obtain ⟨item, hitem, hagrees⟩ := (Option.any_eq_true _ _).mp hitem
  simp only [batchItem, Option.bind_eq_bind, Option.bind_eq_some_iff] at hitem
  obtain ⟨op, hop, event, hpayload, hposition⟩ := hitem
  split at hposition
  · rename_i batch
    refine ⟨batch, item, ?_, hposition, of_decide_eq_true hagrees⟩
    rw [carriedEvent, hfind, Option.bind_some, hop, Option.bind_some]
    exact Option.bind_eq_some_iff.mpr hpayload
  · cases hposition

theorem backed_of_hcValidateMatchResultChange {new : MatchResultChangeRow}
    (h : hcValidateMatchResultChange R game t v new = .ok ()) : new.Backed R t := by
  unfold hcValidateMatchResultChange at h
  dsimp only at h
  split at h
  swap
  · cases h
  rename_i projected original superseded e hprojected horiginal hsuperseded hevent
  simp only [bind_eq_ok, exists_unit, require_eq_ok] at h
  obtain ⟨-, -, ⟨event, hpayload, hlineage⟩, h⟩ := h
  refine ⟨event, ?_, hlineage, fun r hr => ?_⟩
  · rw [carriedEvent, hevent]
    exact hpayload
  · have hreplacement : new.replacement = some r := hr
    rw [hreplacement] at h
    obtain ⟨event', hpayload', -, hreplaced⟩ := require_eq_ok.mp h
    obtain rfl := Option.some.inj (hpayload.symm.trans hpayload')
    cases event with
    | matchResultCorrected e =>
      obtain ⟨hround, hrest⟩ := hreplaced
      exact ⟨e, rfl, hround, hrest⟩
    | matchResultsBatch e => cases hreplaced
    | matchResultInvalidated e => cases hreplaced
    | collectibleIssued e => cases hreplaced
    | collectibleRevoked e => cases hreplaced

/-- **The statements keep the views backed.** -/
theorem viewsBacked_keptByStatements : KeptByStatements R game t (ViewsBacked R t) where
  same hsame h := ⟨fun r hr => h.result r (hsame.1 ▸ hr), fun c hc => h.change c (hsame.2 ▸ hc)⟩
  result := by
    intro row vx vx' hok h
    simp only [Projector.insertMatchResult, bind_eq_ok, exists_unit] at hok
    obtain ⟨htrigger, hok⟩ := hok
    split at hok
    · obtain rfl := pure_eq_ok.mp hok
      exact h
    · simp only [bind_eq_ok, exists_unit, pure_eq_ok] at hok
      obtain ⟨-, table, hinsert, rfl⟩ := hok
      refine ⟨fun r hr => ?_, h.change⟩
      rcases (Table.mem_insert hinsert).mp hr with hr | rfl
      · exact h.result r hr
      · exact backed_of_hcValidateMatchResult htrigger
  change := by
    intro row vx inserted hok h
    simp only [Projector.insertMatchResultChange, bind_eq_ok, exists_unit] at hok
    obtain ⟨htrigger, -, hok⟩ := hok
    split at hok
    · cases pure_eq_ok.mp hok
    · simp only [bind_eq_ok, exists_unit, pure_eq_ok, Option.some.injEq] at hok
      obtain ⟨-, -, table, hinsert, rfl⟩ := hok
      refine ⟨h.result, fun c hc => ?_⟩
      rcases (Table.mem_insert hinsert).mp hc with hc | rfl
      · exact h.change c hc
      · exact backed_of_hcValidateMatchResultChange htrigger
  advance := by
    intro id supersedesEventId set vx vx' hok h
    simp only [Projector.advanceMatchResult, bind_eq_ok, Table.update_eq_ok, pure_eq_ok] at hok
    obtain ⟨table, ⟨hcheck, rfl⟩, rfl⟩ := hok
    refine ⟨fun r hr => ?_, h.change⟩
    rcases Table.mem_modify_cases hr with ⟨old, hold, hp, rfl⟩ | ⟨hr, -⟩
    · exact backed_of_hcValidateMatchResult (hcheck old hold hp)
    · exact h.result r hr

theorem carriedEvent_frozen (hstate : ∀ e ∈ t.matchEvent,
      ∃ op ∈ t.operation, op.id = e.operationId ∧ op.state = e.operationState)
    (hfrozen : Frozen t t') {eventUuid : Uuid} (hsettled : Settled t eventUuid) :
    carriedEvent R t' eventUuid = carriedEvent R t eventUuid := by
  obtain ⟨e, he, rfl, hirreversible⟩ := hsettled
  obtain ⟨op, hop, hid, hopstate⟩ := hstate e he
  have he' : e ∈ t'.matchEvent := hfrozen.event e he hirreversible
  have hop' : op ∈ t'.operation := hfrozen.operation op hop (hopstate.trans hirreversible)
  rw [carriedEvent, carriedEvent, Table.find?_key he, Table.find?_key he', Option.bind_some,
    Option.bind_some, ← hid, Table.find?_key hop, Table.find?_key hop']

theorem ViewsBacked.frozen (h : ViewsBacked R t v) (hsettled : ViewsSettled t v)
    (hstate : ∀ e ∈ t.matchEvent,
      ∃ op ∈ t.operation, op.id = e.operationId ∧ op.state = e.operationState)
    (hfrozen : Frozen t t') : ViewsBacked R t' v where
  result r hr := by
    obtain ⟨batch, item, hcarried, hrest⟩ := h.result r hr
    rw [← carriedEvent_frozen hstate hfrozen (hsettled.initial r hr)] at hcarried
    exact ⟨batch, item, hcarried, hrest⟩
  change c hc := by
    obtain ⟨event, hcarried, hrepeats⟩ := h.change c hc
    rw [← carriedEvent_frozen hstate hfrozen (hsettled.change c hc).1] at hcarried
    exact ⟨event, hcarried, hrepeats⟩

end Backed

/-! ### Every request -/

/-- **Traced projections**: tables as reported, events that repeat their operations, and views that
repeat irreversible events in linear chains. -/
structure ProjectionTraced (cfg : ProjectorConfig) (source : String) (known : Reports) (db : Db) :
    Prop where
  filed : FiledAsReported cfg source known db.chain
  events : EventsSound cfg.runtime db.chain
  settled : ViewsSettled db.chain db.views
  backed : ViewsBacked cfg.runtime db.chain db.views
  linear : LinearViews db.chain db.views

section Requests

variable {cfg : ProjectorConfig} {source : String} {known known' : Reports} {db db' : Db}

theorem projectionTraced_fresh (game : GameTables) :
    ProjectionTraced cfg source known (Db.fresh game) where
  filed := filedAsReported_empty
  events := eventsSound_empty cfg.runtime
  settled := viewsSettled_empty _
  backed := ⟨fun _ hr => absurd hr Table.not_mem_empty, fun _ hc => absurd hc Table.not_mem_empty⟩
  linear := linearViews_empty _

theorem ProjectionTraced.le (h : ProjectionTraced cfg source known db)
    (hle : Told.Le known known') : ProjectionTraced cfg source known' db :=
  ⟨h.filed.le hle, h.events, h.settled, h.backed, h.linear⟩

theorem ProjectionTraced.game (h : ProjectionTraced cfg source known db)
    (hgame : GameChanges db db') : ProjectionTraced cfg source known db' := by
  obtain ⟨hchain, hviews⟩ := hgame
  constructor
  · rw [hchain]
    exact h.filed
  · rw [hchain]
    exact h.events
  all_goals rw [hchain, hviews]
  · exact h.settled
  · exact h.backed
  · exact h.linear

theorem ProjectionTraced.carry (h : ProjectionTraced cfg source known db)
    (hfiled : FiledAsReported cfg source known db'.chain)
    (hevents : EventsSound cfg.runtime db'.chain) (hfrozen : Frozen db.chain db'.chain)
    (hviews : db'.views = db.views) : ProjectionTraced cfg source known db' := by
  refine ⟨hfiled, hevents, ?_, ?_, ?_⟩
  all_goals rw [hviews]
  · exact h.settled.frozen hfrozen
  · exact h.backed.frozen h.settled h.filed.heights.agrees.event_state hfrozen
  · exact h.linear.frozen h.settled hfrozen

theorem ProjectionTraced.finalizeThrough {n : ℕ} {ids : ℕ → Uuid} {time : Timestamp}
    (h : ProjectionTraced cfg source known db)
    (hknown : AccountedFor cfg known (.finalizeThrough n))
    (hok : finalizeThrough cfg.runtime source n ids time db = .ok db') :
    ProjectionTraced cfg source known db' := by
  have hfiled := h.filed.finalizeThrough hknown hok
  have hfrozen : Frozen db.chain db'.chain := by
    rw [(finalizeThrough_spec hok).2.1]
    exact frozen_ensureCursor.trans frozen_finalize
  have hsettled :=
    h.settled.finalizeThrough hfrozen hfiled.heights.agrees.event_state hok
  have hevents := h.events.finalizeThrough hok
  have hbacked := h.backed.frozen h.settled h.filed.heights.agrees.event_state hfrozen
  have hlinear := h.linear.frozen h.settled hfrozen
  simp only [Projector.finalizeThrough, bind_eq_ok, exists_unit, require_eq_ok, Prod.exists,
    lockCursor_eq_ok] at hok
  obtain ⟨t, cursor, ⟨rfl, rfl⟩, -, tx₁, -, tx₂, -, tx₃, -, t', -, vx, hmaterialize, hcommit⟩ := hok
  obtain ⟨-, rfl⟩ := commit_eq_ok.mp hcommit
  exact ⟨hfiled, hevents, hsettled,
    viewsBacked_keptByStatements.materializeOperations hmaterialize hbacked,
    (LinearViews.materializeOperations hlinear hmaterialize).1⟩

/-- **One request** keeps the projection traced. -/
theorem ProjectionTraced.answer {q : Request} {r : Except Failure q.Response}
    (h : ProjectionTraced cfg source known db) (hknown : AccountedFor cfg known q)
    (hans : storeAnswer cfg.runtime source q db r db') : ProjectionTraced cfg source known db' := by
  have hfiled := h.filed.answer hknown hans
  rcases storeAnswer_cases hans with
    rfl | ⟨block, decisions, ids, time, rfl, hok⟩ | ⟨ancestor, time, rfl, hok⟩ | ⟨n, ids, time, rfl, hok⟩
  · exact h
  · obtain ⟨ha, hviews, -⟩ := applyBlock_spec hok
    exact h.carry hfiled (h.events.applyBlock hok) ha.frozen hviews
  · have hevents := h.events.revertAfter hok
    obtain ⟨hguard, rfl⟩ := revertAfter_spec hok
    exact h.carry hfiled hevents (frozen_ensureCursor.trans
      (h.filed.heights.ensureCursor.agrees.frozen_revert (by simpa using hguard))) rfl
  · exact h.finalizeThrough hknown hok

end Requests

/-! ### Provenance -/

/-- An operation that the source reported in a block that it reported as irreversible, and that the
validator accepts as this event. -/
structure ReportedEvent (cfg : ProjectorConfig) (known : Reports) (operation : HafOperation)
    (block : HafBlock) (signer : HiveAccount) (json : String) (event : HiveChameleonEvent) : Prop where
  reported : ReportedIn known operation block
  final : ReportedFinal known block.number
  accepted : Accepts cfg.runtime cfg.policy operation block signer json event

/-- An irreversible, accepted operation of the tables. -/
def Final (t : ChainTables) (op : OperationRow) : Prop :=
  op ∈ t.operation ∧ op.state = .irreversible ∧ op.validationState = .accepted

/-- The operation was reported and publishes the event, signed by the account that it names. -/
def OperationTraced (cfg : ProjectorConfig) (known : Reports) (op : OperationRow)
    (event : HiveChameleonEvent) (signer : HiveAccount) : Prop :=
  ∃ operation block json, ReportedEvent cfg known operation block signer json event ∧
    op.payload = operation.value ∧ op.primaryAccount = signer.name ∧
    op.transactionId = operation.transactionId ∧ op.blockNumber = block.number

/-- The event with this identifier is irreversible, and so is its operation, which an allow-listed
publisher signed. -/
def Traced (cfg : ProjectorConfig) (known : Reports) (t : ChainTables) (eventUuid : Uuid)
    (event : HiveChameleonEvent) : Prop :=
  event.eventId = eventUuid ∧ ∃ e ∈ t.matchEvent, e.eventUuid = eventUuid ∧
    e.operationState = .irreversible ∧ ∃ op signer, Final t op ∧ op.id = e.operationId ∧
      e.publisherHiveAccount = signer.name ∧ signer.name ∈ cfg.policy.matchPublishers ∧
      OperationTraced cfg known op event signer

section Provenance

variable {cfg : ProjectorConfig} {source : String} {known : Reports} {db : Db}

/-- **A final operation was reported** and accepted. -/
theorem FiledAsReported.traced {t : ChainTables} (h : FiledAsReported cfg source known t)
    {op : OperationRow} (hfinal : Final t op) :
    ∃ event signer, OperationTraced cfg known op event signer := by
  obtain ⟨hop, hstate, haccepted⟩ := hfinal
  obtain ⟨operation, block, decision, hreported, hvalidate, hrecords⟩ := h.reported op hop
  have hrepeats := repeats_of_validate hvalidate
  have hnumber : op.blockNumber = block.number := by
    rw [← hreported.height, ← hrepeats.blockNumber, ← hrecords.evidence]
    rfl
  have hvalue : op.payload = operation.value := by
    rw [← hrepeats.payload, ← hrecords.evidence]
    rfl
  have htransaction : op.transactionId = operation.transactionId := by
    rw [← hrepeats.transactionId, ← hrecords.evidence]
    rfl
  have hirreversible := h.irreversible hop hstate
  rw [hnumber] at hirreversible
  rcases validate_cases hvalidate with ⟨signer, json, event, haccepts⟩ | ⟨hrejected, -⟩
  · have hprimary : op.primaryAccount = signer.name := by
      have hevidence : decision.evidence =
          buildEvidence operation block [] [signer] hiveChameleonApplicationId := by
        rw [← Option.some.inj (haccepts.validate.symm.trans hvalidate)]
      have hcolumn : op.primaryAccount = decision.evidence.primaryAccount := by
        rw [← hrecords.evidence]
        rfl
      rw [hcolumn, hevidence]
      rfl
    exact ⟨event, signer, operation, block, json, ⟨hreported, hirreversible, haccepts⟩, hvalue,
      hprimary, htransaction, hnumber⟩
  · rw [← hrecords.validationState, haccepted] at hrejected
    cases hrejected

theorem ProjectionTraced.traced (h : ProjectionTraced cfg source known db) {eventUuid : Uuid}
    {event : HiveChameleonEvent} (hsettled : Settled db.chain eventUuid)
    (hcarried : carriedEvent cfg.runtime db.chain eventUuid = some event) :
    Traced cfg known db.chain eventUuid event := by
  obtain ⟨e, he, rfl, hstate⟩ := hsettled
  obtain ⟨op, hop, hid, hevidence⟩ := h.events.evidence e he
  obtain ⟨op', hop', hid', hopstate⟩ := h.filed.heights.agrees.event_state e he
  obtain rfl : op = op' := Table.eq_of_key hop hop' (hid.trans hid'.symm)
  obtain ⟨carried, hpayload, hagrees⟩ := hevidence.payload
  have hsame : carried = event := by
    rw [carriedEvent, Table.find?_key he, Option.bind_some, ← hid, Table.find?_key hop,
      Option.bind_some] at hcarried
    exact Option.some.inj (hpayload.symm.trans hcarried)
  subst hsame
  have hfinal : Final db.chain op := ⟨hop, hopstate.trans hstate, hevidence.validationState⟩
  obtain ⟨accepted, signer, operation, block, json, hreported, hvalue, hprimary, hrest⟩ :=
    h.filed.traced hfinal
  have hjson : operation.value.json.bind cfg.runtime.jsonb = some carried := hvalue ▸ hpayload
  obtain rfl := hreported.accepted.jsonb_eq hjson
  have htype : carried.eventId = e.eventUuid ∧ matchEventType carried = some e.eventType := by
    unfold payloadAgrees at hagrees
    split at hagrees
    · exact ⟨hagrees.2.2.2.2.1, hagrees.2.2.2.2.2.1⟩
    · exact hagrees.elim
  have hallowed : signer.name ∈ cfg.policy.matchPublishers := by
    have h := hreported.accepted.allowed
    cases carried with
    | matchResultsBatch b | matchResultCorrected b | matchResultInvalidated b =>
      simp only [isSignerAllowed, Bool.and_eq_true, List.contains_iff_mem] at h
      exact h.1
    | collectibleIssued b | collectibleRevoked b => cases htype.2
  exact ⟨htype.1, e, he, rfl, hstate, op, signer, hfinal, hid,
    hevidence.primaryAccount.symm.trans hprimary, hallowed, operation, block, json, hreported, hvalue,
    hprimary, hrest⟩

end Provenance

section Runs

variable {ι : Type} [DecidableEq ι] {cfg : ProjectorConfig} {source : String} {game : GameTables}

theorem projectionTraced_of_run
    {ts : List (Transition (ProjectorSys ι) (SysLabel Request Request.Response Failure ι))}
    {S : ProjectorSys ι} (hrun : Run (ProjectorsStep cfg source) (.start cfg game) ts S) :
    ProjectionTraced cfg source (toldIn ts) S.shared :=
  projectors_history (I := fun known db => ProjectionTraced cfg source known db)
    (projectionTraced_fresh game) (fun _ _ _ hle h => h.le hle) (fun _ _ _ hE h => h.game hE)
    (fun _ _ _ _ _ hknown hans h => h.answer hknown hans) hrun

/-- **Provenance of results.**  However many projectors ran, whatever the source answered and
wherever processes and connections broke: every projected result repeats an item of a batch, and
every change repeats a correction or an invalidation, that an allow-listed publisher signed with its
posting authority, that the source reported in a block it also reported as irreversible, and whose
operation is stored as irreversible; and the current state of a result is where the one chain of its
changes leads. -/
theorem projected_results_traced
    {ts : List (Transition (ProjectorSys ι) (SysLabel Request Request.Response Failure ι))}
    {S : ProjectorSys ι} (hrun : Run (ProjectorsStep cfg source) (.start cfg game) ts S) :
    (∀ r ∈ S.shared.views.matchResult, (∃! chain, ResultChain S.shared.views r chain) ∧
      ∃ batch item, Traced cfg (toldIn ts) S.shared.chain r.initialEventUuid (.matchResultsBatch batch) ∧
        batch.results[r.resultPosition]? = some item ∧ r.agrees item) ∧
    ∀ c ∈ S.shared.views.matchResultChange,
      ∃ event, Traced cfg (toldIn ts) S.shared.chain c.eventUuid event ∧ c.repeats event := by
  have h := projectionTraced_of_run hrun
  refine ⟨fun r hr => ⟨?_, ?_⟩, fun c hc => ?_⟩
  · obtain ⟨chain, hchain⟩ := h.linear.chain r hr
    exact ⟨chain, hchain, fun chain' hchain' => hchain'.unique hchain⟩
  · obtain ⟨batch, item, hcarried, hitem, hagrees⟩ := h.backed.result r hr
    exact ⟨batch, item, h.traced (h.settled.initial r hr) hcarried, hitem, hagrees⟩
  · obtain ⟨event, hcarried, hrepeats⟩ := h.backed.change c hc
    exact ⟨event, h.traced (h.settled.change c hc).1 hcarried, hrepeats⟩

end Runs

/-- One projector that reads a batch and its invalidation, and finalizes both: twelve requests. -/
def invalidatedRun : ProjectorSys Unit :=
  (ProjectorSys.start exampleChainConfig exampleGame).follow (serve exampleChainConfig.runtime "haf")
    (fun _ => runOnce exampleChainConfig)
    (List.replicate 12 ((), (.ofBlocks [chainBlock 1, chainBlock 2] 2
      [exampleOperation "op1" "tx1" 0 (chainBlock 1) "batch",
        exampleOperation "op2" "tx2" 0 (chainBlock 2) "invalidation"], 10)))

theorem projected_results_traced_invalidated :
    ∃ ts, Run (ProjectorsStep exampleChainConfig "haf")
        (.start (ι := Unit) exampleChainConfig exampleGame) ts invalidatedRun ∧
      invalidatedRun.shared.views.matchResult.rows.length = 1 ∧
      invalidatedRun.shared.views.matchResultChange.rows.length = 1 ∧
      ∀ c ∈ invalidatedRun.shared.views.matchResultChange,
        ∃ event, Traced exampleChainConfig (toldIn ts) invalidatedRun.shared.chain c.eventUuid event ∧
          c.repeats event := by
  obtain ⟨ts, hts⟩ : ∃ ts, Run (ProjectorsStep exampleChainConfig "haf")
      (.start (ι := Unit) exampleChainConfig exampleGame) ts invalidatedRun :=
    Sys.follow_run (serve_answers exampleChainConfig.runtime "haf") _ _
  exact ⟨ts, hts, by decide +kernel, by decide +kernel, (projected_results_traced hts).2⟩

end HiveChameleon.Projector
