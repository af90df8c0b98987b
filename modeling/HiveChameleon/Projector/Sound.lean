import HiveChameleon.Projector.Events
import HiveChameleon.Projector.Safety

/-!
# Projector.Sound — what every projection satisfies

Over any sequence of store calls: every match event repeats the payload of the operation it is
bound to, and what was materialized hangs on irreversible events only.  The row triggers establish
the first, the order of finalizing and materializing the second.
-/

namespace HiveChameleon.Projector

open Gateway Lib

/-! ### Events and their operations -/

/-- What `hc_validate_match_event` asks of an event and its operation. -/
structure EventEvidence (R : Runtime) (op : OperationRow) (e : MatchEventRow) : Prop where
  operationType : op.operationType = "custom_json" ∨ op.operationType = "custom_json_operation"
  requiredAuthority : op.requiredAuthority = some .posting
  applicationId : op.applicationId = some hiveChameleonApplicationId
  primaryAccount : op.primaryAccount = e.publisherHiveAccount
  validationState : op.validationState = .accepted
  includedAt : op.blockTimestamp = e.includedAt
  payload : ∃ event, op.payload.json.bind R.jsonb = some event ∧ payloadAgrees R op.payload event e

theorem matchEventEvidence_eq_ok {R : Runtime} {t : ChainTables} {e : MatchEventRow}
    {op : OperationRow} :
    matchEventEvidence R t e = .ok op ↔
      t.operation.find? e.operationId = some op ∧ EventEvidence R op e := by
  unfold matchEventEvidence
  cases hfind : t.operation.find? e.operationId with
  | none => simp
  | some found =>
    simp only [bind_eq_ok, exists_unit, require_eq_ok, Option.some.injEq]
    constructor
    · rintro ⟨⟨htype, hauthority, hid, haccount, hstate, htime⟩, h⟩
      split at h
      · cases h
      · rename_i event hevent
        simp only [bind_eq_ok, exists_unit, require_eq_ok, pure_eq_ok] at h
        obtain ⟨hagrees, rfl⟩ := h
        exact ⟨rfl, htype, hauthority, hid, haccount, hstate, htime, event, hevent, hagrees⟩
    · rintro ⟨rfl, h⟩
      obtain ⟨event, hevent, hagrees⟩ := h.payload
      refine ⟨⟨h.operationType, h.requiredAuthority, h.applicationId, h.primaryAccount,
        h.validationState, h.includedAt⟩, ?_⟩
      rw [hevent]
      simp only [bind_eq_ok, exists_unit, require_eq_ok, pure_eq_ok]
      exact ⟨hagrees, trivial⟩

/-- **Sound events**: the columns pass their checks and repeat the operation that is bound. -/
structure EventsSound (R : Runtime) (t : ChainTables) : Prop where
  checks : ∀ e ∈ t.matchEvent, matchEventChecks e = .ok ()
  evidence : ∀ e ∈ t.matchEvent, ∃ op ∈ t.operation, op.id = e.operationId ∧ EventEvidence R op e

section Events

variable {R : Runtime} {source : String} {t t' : ChainTables} {tx tx' : ChainTx}

theorem eventsSound_empty (R : Runtime) :
    EventsSound R ⟨Table.empty, Table.empty, Table.empty, Table.empty⟩ where
  checks _ he := absurd he Table.not_mem_empty
  evidence _ he := absurd he Table.not_mem_empty

theorem EventsSound.of_eq (h : EventsSound R t) (hevent : t'.matchEvent = t.matchEvent)
    (hoperation : ∀ op ∈ t.operation, op ∈ t'.operation) : EventsSound R t' where
  checks e he := h.checks e (hevent ▸ he)
  evidence e he := by
    obtain ⟨op, hop, hrest⟩ := h.evidence e (hevent ▸ he)
    exact ⟨op, hoperation op hop, hrest⟩

/-- An `UPDATE` passes the row trigger and the checks row by row. -/
theorem EventsSound.updateMatchEvents {p : MatchEventRow → Prop} [DecidablePred p]
    {set : Table.Assignment MatchEventRow.eventUuid} (h : EventsSound R tx.chain)
    (hok : updateMatchEvents R p set tx = .ok tx') : EventsSound R tx'.chain := by
  obtain ⟨hrows, rfl⟩ := updateMatchEvents_eq_ok.mp hok
  refine ⟨fun e he => ?_, fun e he => ?_⟩
  · rcases Table.mem_modify_cases he with ⟨old, hold, hp, rfl⟩ | ⟨he, -⟩
    · exact (hrows old hold hp).2
    · exact h.checks e he
  · rcases Table.mem_modify_cases he with ⟨old, hold, hp, rfl⟩ | ⟨he, -⟩
    · have htrigger := (hrows old hold hp).1
      simp only [hcValidateMatchEventUpdate, bind_eq_ok] at htrigger
      obtain ⟨op, hop, -⟩ := htrigger
      obtain ⟨hfind, hevidence⟩ := matchEventEvidence_eq_ok.mp hop
      obtain ⟨hmem, hid⟩ := Table.find?_eq_some.mp hfind
      exact ⟨op, hmem, hid, hevidence⟩
    · exact h.evidence e he

theorem EventsSound.insertMatchEvent {row : MatchEventRow} (h : EventsSound R tx.chain)
    (hok : insertMatchEvent R row tx = .ok tx') : EventsSound R tx'.chain := by
  simp only [Projector.insertMatchEvent, bind_eq_ok, exists_unit] at hok
  obtain ⟨htrigger, hchecks, hok⟩ := hok
  split at hok
  · obtain rfl := pure_eq_ok.mp hok
    exact h
  · simp only [bind_eq_ok, Table.insert_eq_ok, pure_eq_ok] at hok
    obtain ⟨table, ⟨-, hrows⟩, rfl⟩ := hok
    simp only [hcValidateMatchEventInsert, bind_eq_ok, pure_eq_ok] at htrigger
    obtain ⟨op, hop, -⟩ := htrigger
    obtain ⟨hfind, hevidence⟩ := matchEventEvidence_eq_ok.mp hop
    obtain ⟨hmem, hid⟩ := Table.find?_eq_some.mp hfind
    have hcases : ∀ e ∈ table, e ∈ tx.chain.matchEvent ∨ e = row := fun e he => by
      rw [Table.mem_def, hrows] at he
      exact (List.mem_append.mp he).imp id List.mem_singleton.mp
    refine ⟨fun e he => ?_, fun e he => ?_⟩
    · rcases hcases e he with he | rfl
      · exact h.checks e he
      · exact hchecks
    · rcases hcases e he with he | rfl
      · exact h.evidence e he
      · exact ⟨op, hmem, hid, hevidence⟩

theorem EventsSound.upsertIncludedMatchEvent {operationId : Uuid} {event : HiveChameleonEvent}
    {time : Timestamp} (h : EventsSound R tx.chain)
    (hok : upsertIncludedMatchEvent R operationId event time tx = .ok tx') :
    EventsSound R tx'.chain := by
  unfold Projector.upsertIncludedMatchEvent at hok
  split at hok
  · split at hok
    · simp only [replayMatchEvent, bind_eq_ok, exists_unit] at hok
      exact h.updateMatchEvents hok.2
    · simp only [bind_eq_ok] at hok
      obtain ⟨start, -, stop, -, hok⟩ := hok
      exact h.insertMatchEvent hok
  · obtain rfl := pure_eq_ok.mp hok
    exact h

theorem EventsSound.storeDecision {cp operationId : Uuid} {decision : OperationDecision}
    {observedAt : Timestamp} (h : EventsSound R tx.chain)
    (hok : storeDecision R cp operationId decision observedAt tx = .ok tx') :
    EventsSound R tx'.chain := by
  simp only [Projector.storeDecision, bind_eq_ok] at hok
  obtain ⟨mid, hins, hok⟩ := hok
  obtain ⟨-, -, table, hchain, hrows⟩ := insertOperation_eq_ok hins
  have hmid : EventsSound R mid.chain := by
    rw [hchain]
    refine h.of_eq rfl fun op hop => ?_
    show op ∈ table
    rw [Table.mem_def, hrows]
    exact List.mem_append_left _ hop
  split at hok
  · split at hok
    · exact hmid.upsertIncludedMatchEvent hok
    · obtain rfl := pure_eq_ok.mp hok
      exact hmid
  · obtain rfl := pure_eq_ok.mp hok
    exact hmid

theorem EventsSound.storeDecisions {ids : ℕ → Uuid} {cp : Uuid} {observedAt : Timestamp} :
    ∀ {decisions : List OperationDecision} {drawn : ℕ} {tx tx' : ChainTx}, EventsSound R tx.chain →
      storeDecisions R ids cp observedAt drawn decisions tx = .ok tx' → EventsSound R tx'.chain
  | [], _, tx, tx', h, hok => by
    obtain rfl : tx = tx' := by simpa [Projector.storeDecisions] using hok
    exact h
  | decision :: decisions, drawn, tx, tx', h, hok => by
    simp only [Projector.storeDecisions, bind_eq_ok] at hok
    obtain ⟨mid, hmid, hok⟩ := hok
    exact EventsSound.storeDecisions (h.storeDecision hmid) hok

theorem EventsSound.ensureCursor (source : String) (h : EventsSound R t) :
    EventsSound R (ensureCursor source t) :=
  h.of_eq ensureCursor_matchEvent fun op hop => by simpa using hop

theorem EventsSound.applyBlock {block : HafBlock} {decisions : List OperationDecision}
    {ids : ℕ → Uuid} {observedAt : Timestamp} {db db' : Db} (h : EventsSound R db.chain)
    (hok : applyBlock R source block decisions ids observedAt db = .ok db') :
    EventsSound R db'.chain := by
  simp only [Projector.applyBlock, bind_eq_ok, exists_unit, require_eq_ok, Prod.exists,
    lockCursor_eq_ok] at hok
  obtain ⟨t, cursor, ⟨rfl, rfl⟩, -, -, tx, hcheckpoint, tx', hstore, t', hcursor, hcommit⟩ := hok
  obtain ⟨-, -, -, table, hchain, -⟩ := insertCheckpoint_eq_ok hcheckpoint
  obtain ⟨-, rfl⟩ := updateCursor_eq_ok.mp hcursor
  obtain ⟨-, rfl⟩ := commit_eq_ok.mp hcommit
  have hstart : EventsSound R tx.chain := by
    rw [hchain]
    exact (h.ensureCursor source).of_eq rfl fun op hop => hop
  exact (hstart.storeDecisions hstore).of_eq rfl fun op hop => hop

/-- The evidence does not depend on the finality of the operation. -/
theorem EventEvidence.of_operation {op op' : OperationRow} {e : MatchEventRow}
    (h : EventEvidence R op e)
    (heq : op' = { op with
      state := op'.state, irreversibleAt := op'.irreversibleAt, revertedAt := op'.revertedAt }) :
    EventEvidence R op' e := by
  rw [heq]
  exact ⟨h.operationType, h.requiredAuthority, h.applicationId, h.primaryAccount,
    h.validationState, h.includedAt, h.payload⟩

/-- Updates of the operations' finality leave the events sound. -/
theorem EventsSound.updateOperations {p : OperationRow → Prop} [DecidablePred p]
    {set : Table.Assignment OperationRow.id} (h : EventsSound R t)
    (hevent : t'.matchEvent = t.matchEvent) (hoperation : t'.operation = t.operation.modify p set)
    (hset : ∀ op : OperationRow, set op = { op with
      state := (set op).state
      irreversibleAt := (set op).irreversibleAt
      revertedAt := (set op).revertedAt }) : EventsSound R t' where
  checks e he := h.checks e (hevent ▸ he)
  evidence e he := by
    obtain ⟨op, hop, hid, hevidence⟩ := h.evidence e (hevent ▸ he)
    refine ⟨Table.updated p set op, ?_, (Table.key_updated op).trans hid, ?_⟩
    · rw [hoperation]
      exact Table.updated_mem_modify hop
    · by_cases hp : p op
      · rw [Table.updated_of hp]
        exact hevidence.of_operation (hset op)
      · rw [Table.updated_of_not hp]
        exact hevidence

theorem EventsSound.revertAfter {n : ℕ} {time : Timestamp} {db db' : Db}
    (h : EventsSound R db.chain) (hok : revertAfter R source n time db = .ok db') :
    EventsSound R db'.chain := by
  simp only [Projector.revertAfter, bind_eq_ok, exists_unit, require_eq_ok, Prod.exists,
    lockCursor_eq_ok] at hok
  obtain ⟨t, cursor, ⟨rfl, rfl⟩, -, tx₁, h₁, tx₂, h₂, tx₃, h₃, t', hcursor, hcommit⟩ := hok
  have hstart : EventsSound R (ChainTx.mk (Projector.ensureCursor source db.chain) []).chain :=
    h.ensureCursor source
  have hevents := hstart.updateMatchEvents h₁
  obtain ⟨-, rfl⟩ := updateOperations_eq_ok.mp h₂
  obtain ⟨-, rfl⟩ := updateCheckpoints_eq_ok.mp h₃
  obtain ⟨-, rfl⟩ := updateCursor_eq_ok.mp hcursor
  obtain ⟨-, rfl⟩ := commit_eq_ok.mp hcommit
  exact hevents.updateOperations rfl rfl fun op => rfl

theorem EventsSound.finalizeThrough {n : ℕ} {ids : ℕ → Uuid} {time : Timestamp} {db db' : Db}
    (h : EventsSound R db.chain) (hok : finalizeThrough R source n ids time db = .ok db') :
    EventsSound R db'.chain := by
  simp only [Projector.finalizeThrough, bind_eq_ok, exists_unit, require_eq_ok, Prod.exists,
    lockCursor_eq_ok] at hok
  obtain ⟨t, cursor, ⟨rfl, rfl⟩, -, tx₁, h₁, tx₂, h₂, tx₃, h₃, t', hcursor, vx, -, hcommit⟩ := hok
  have hstart : EventsSound R (ChainTx.mk (Projector.ensureCursor source db.chain) []).chain :=
    h.ensureCursor source
  have hevents := hstart.updateMatchEvents h₁
  obtain ⟨-, rfl⟩ := updateOperations_eq_ok.mp h₂
  obtain ⟨-, rfl⟩ := updateCheckpoints_eq_ok.mp h₃
  obtain ⟨-, rfl⟩ := updateCursor_eq_ok.mp hcursor
  obtain ⟨-, rfl⟩ := commit_eq_ok.mp hcommit
  exact hevents.updateOperations rfl rfl fun op => rfl

end Events

/-! ### What was materialized -/

/-- The event is irreversible. -/
def Settled (t : ChainTables) (eventUuid : Uuid) : Prop :=
  ∃ e ∈ t.matchEvent, e.eventUuid = eventUuid ∧ e.operationState = .irreversible

/-- **Settled views**: results and changes name irreversible events only. -/
structure ViewsSettled (t : ChainTables) (v : ViewTables) : Prop where
  initial : ∀ result ∈ v.matchResult, Settled t result.initialEventUuid
  current : ∀ result ∈ v.matchResult, Settled t result.currentEventUuid
  change : ∀ change ∈ v.matchResultChange, Settled t change.eventUuid ∧
    Settled t change.originalEventUuid ∧ Settled t change.supersedesEventUuid

theorem viewsSettled_empty (t : ChainTables) :
    ViewsSettled t ⟨Table.empty, Table.empty, Table.empty, Table.empty⟩ where
  initial _ hr := absurd hr Table.not_mem_empty
  current _ hr := absurd hr Table.not_mem_empty
  change _ hc := absurd hc Table.not_mem_empty

section Views

variable {R : Runtime} {game : GameTables} {t t' : ChainTables} {ids : ℕ → Uuid}
  {time : Timestamp} {vx vx' : ViewTx}

theorem Settled.frozen {eventUuid : Uuid} (h : Settled t eventUuid) (hfrozen : Frozen t t') :
    Settled t' eventUuid := by
  obtain ⟨e, he, hid, hstate⟩ := h
  exact ⟨e, hfrozen.event e he hstate, hid, hstate⟩

theorem ViewsSettled.frozen {v : ViewTables} (h : ViewsSettled t v) (hfrozen : Frozen t t') :
    ViewsSettled t' v where
  initial r hr := (h.initial r hr).frozen hfrozen
  current r hr := (h.current r hr).frozen hfrozen
  change c hc := by
    obtain ⟨h₁, h₂, h₃⟩ := h.change c hc
    exact ⟨h₁.frozen hfrozen, h₂.frozen hfrozen, h₃.frozen hfrozen⟩

/-- The tables of results and changes are untouched. -/
def SameResults (v v' : ViewTables) : Prop :=
  v'.matchResult = v.matchResult ∧ v'.matchResultChange = v.matchResultChange

theorem ViewsSettled.of_same {v v' : ViewTables} (h : ViewsSettled t v) (hsame : SameResults v v') :
    ViewsSettled t v' where
  initial r hr := h.initial r (hsame.1 ▸ hr)
  current r hr := h.current r (hsame.1 ▸ hr)
  change c hc := h.change c (hsame.2 ▸ hc)

theorem ViewsSettled.insertMatchResult {row : MatchResultRow} (h : ViewsSettled t vx.views)
    (hinitial : Settled t row.initialEventUuid) (hcurrent : Settled t row.currentEventUuid)
    (hok : insertMatchResult R t row vx = .ok vx') : ViewsSettled t vx'.views := by
  simp only [Projector.insertMatchResult, bind_eq_ok, exists_unit] at hok
  obtain ⟨-, hok⟩ := hok
  split at hok
  · obtain rfl := pure_eq_ok.mp hok
    exact h
  · simp only [bind_eq_ok, exists_unit, Table.insert_eq_ok, pure_eq_ok] at hok
    obtain ⟨-, table, ⟨-, hrows⟩, rfl⟩ := hok
    have hcases : ∀ r ∈ table, r ∈ vx.views.matchResult ∨ r = row := fun r hr => by
      rw [Table.mem_def, hrows] at hr
      exact (List.mem_append.mp hr).imp id List.mem_singleton.mp
    refine ⟨fun r hr => ?_, fun r hr => ?_, h.change⟩
    · rcases hcases r hr with hr | rfl
      · exact h.initial r hr
      · exact hinitial
    · rcases hcases r hr with hr | rfl
      · exact h.current r hr
      · exact hcurrent

theorem ViewsSettled.materializeInitialMatchResult {eventId : Uuid} {position : ℕ}
    {result : MatchResult} (h : ViewsSettled t vx.views) (hevent : Settled t eventId)
    (hok : materializeInitialMatchResult R game t ids eventId time position result vx = .ok vx') :
    ViewsSettled t vx'.views := by
  simp only [Projector.materializeInitialMatchResult, bind_eq_ok, exists_unit] at hok
  obtain ⟨-, -, -, hok⟩ := hok
  have hdrawn : ViewsSettled t ({ vx with drawn := vx.drawn + 1 } : ViewTx).views := h
  split at hok
  · exact hdrawn.insertMatchResult hevent hevent hok
  · obtain rfl := pure_eq_ok.mp hok
    exact h

theorem ViewsSettled.materializeResultsFrom {eventId : Uuid} (hevent : Settled t eventId) :
    ∀ {results : List MatchResult} {position : ℕ} {vx vx' : ViewTx}, ViewsSettled t vx.views →
      materializeResultsFrom R game t ids eventId time position results vx = .ok vx' →
        ViewsSettled t vx'.views
  | [], _, vx, vx', h, hok => by
    obtain rfl : vx = vx' := by simpa [Projector.materializeResultsFrom] using hok
    exact h
  | result :: results, position, vx, vx', h, hok => by
    simp only [Projector.materializeResultsFrom, bind_eq_ok] at hok
    obtain ⟨mid, hmid, hok⟩ := hok
    exact ViewsSettled.materializeResultsFrom hevent
      (h.materializeInitialMatchResult hevent hmid) hok

theorem ViewsSettled.insertMatchResultChange {row : MatchResultChangeRow} {inserted : ViewTx}
    (h : ViewsSettled t vx.views) (hevent : Settled t row.eventUuid)
    (horiginal : Settled t row.originalEventUuid) (hsuperseded : Settled t row.supersedesEventUuid)
    (hok : insertMatchResultChange R game t row vx = .ok (some inserted)) :
    ViewsSettled t inserted.views := by
  simp only [Projector.insertMatchResultChange, bind_eq_ok, exists_unit] at hok
  obtain ⟨-, -, hok⟩ := hok
  split at hok
  · cases pure_eq_ok.mp hok
  · simp only [bind_eq_ok, exists_unit, Table.insert_eq_ok, pure_eq_ok, Option.some.injEq] at hok
    obtain ⟨-, -, table, ⟨-, hrows⟩, rfl⟩ := hok
    refine ⟨h.initial, h.current, fun c hc => ?_⟩
    have hc : c ∈ table := hc
    rw [Table.mem_def, hrows] at hc
    rcases List.mem_append.mp hc with hc | hc
    · exact h.change c hc
    · rw [List.mem_singleton.mp hc]
      exact ⟨hevent, horiginal, hsuperseded⟩

theorem ViewsSettled.advanceMatchResult {id supersedesEventId eventId : Uuid}
    {set : Table.Assignment MatchResultRow.id} (h : ViewsSettled t vx.views)
    (hinitial : ∀ r : MatchResultRow, (set r).initialEventUuid = r.initialEventUuid)
    (hcurrent : ∀ r : MatchResultRow, (set r).currentEventUuid = eventId)
    (hevent : Settled t eventId)
    (hok : advanceMatchResult R t id supersedesEventId set vx = .ok vx') :
    ViewsSettled t vx'.views := by
  simp only [Projector.advanceMatchResult, bind_eq_ok, Table.update_eq_ok, pure_eq_ok] at hok
  obtain ⟨table, ⟨-, rfl⟩, rfl⟩ := hok
  refine ⟨fun r hr => ?_, fun r hr => ?_, h.change⟩
  · rcases Table.mem_modify_cases hr with ⟨old, hold, -, rfl⟩ | ⟨hr, -⟩
    · rw [hinitial]
      exact h.initial old hold
    · exact h.initial r hr
  · rcases Table.mem_modify_cases hr with ⟨old, hold, -, rfl⟩ | ⟨hr, -⟩
    · rw [hcurrent]
      exact hevent
    · exact h.current r hr

/-- The result that a change names hangs on settled events. -/
theorem ViewsSettled.projectedResult {v : ViewTables} {roundId originalEventId supersedesEventId : Uuid}
    {projected : MatchResultRow} (h : ViewsSettled t v)
    (hfind : projectedResult v roundId originalEventId supersedesEventId = some projected) :
    Settled t originalEventId ∧ Settled t supersedesEventId := by
  have hmem : projected ∈ v.matchResult := List.mem_of_find?_eq_some hfind
  have hmatch := List.find?_some hfind
  simp only [Bool.and_eq_true, decide_eq_true_eq] at hmatch
  obtain ⟨⟨-, hinitial⟩, hcurrent⟩ := hmatch
  exact ⟨hinitial ▸ h.initial projected hmem, hcurrent ▸ h.current projected hmem⟩

theorem ViewsSettled.materializeMatchInvalidation {event : MatchResultInvalidated}
    (h : ViewsSettled t vx.views) (hevent : Settled t event.eventId)
    (hok : materializeMatchInvalidation R game t event vx = .ok vx') :
    ViewsSettled t vx'.views := by
  unfold Projector.materializeMatchInvalidation at hok
  split at hok
  · obtain rfl := pure_eq_ok.mp hok
    exact h
  · rename_i projected hprojected
    obtain ⟨horiginal, hsuperseded⟩ := h.projectedResult hprojected
    simp only [bind_eq_ok] at hok
    obtain ⟨changed, hchanged, hok⟩ := hok
    cases changed with
    | none =>
      obtain rfl := pure_eq_ok.mp hok
      exact h
    | some inserted =>
      exact (h.insertMatchResultChange hevent horiginal hsuperseded hchanged).advanceMatchResult
        (fun _ => rfl) (fun _ => rfl) hevent hok

/-! #### Collectibles leave the results alone -/

theorem insertCollectibleEvent_same {rows : List CollectibleEventRow} {row : CollectibleEventRow}
    {inserted : ViewTx} (hok : insertCollectibleEvent t rows vx = .ok (some (row, inserted))) :
    SameResults vx.views inserted.views := by
  unfold insertCollectibleEvent at hok
  split at hok
  · cases pure_eq_ok.mp hok
  · simp only [bind_eq_ok, exists_unit] at hok
    obtain ⟨-, -, hok⟩ := hok
    split at hok
    · cases pure_eq_ok.mp hok
    · simp only [bind_eq_ok, exists_unit, pure_eq_ok, Option.some.injEq, Prod.mk.injEq] at hok
      obtain ⟨-, -, table, -, -, rfl⟩ := hok
      exact ⟨rfl, rfl⟩

theorem insertCollectibleInstance_same {row : CollectibleInstanceRow}
    (hok : insertCollectibleInstance row vx = .ok vx') : SameResults vx.views vx'.views := by
  unfold insertCollectibleInstance at hok
  split at hok
  · obtain rfl := pure_eq_ok.mp hok
    exact ⟨rfl, rfl⟩
  · simp only [bind_eq_ok, exists_unit, pure_eq_ok] at hok
    obtain ⟨-, -, table, -, rfl⟩ := hok
    exact ⟨rfl, rfl⟩

theorem materializeCollectibleIssue_same {operation : OperationRow} {event : CollectibleIssued}
    (hok : materializeCollectibleIssue R game t operation event time vx = .ok vx') :
    SameResults vx.views vx'.views := by
  unfold materializeCollectibleIssue at hok
  split at hok
  · obtain rfl := pure_eq_ok.mp hok
    exact ⟨rfl, rfl⟩
  · simp only [bind_eq_ok] at hok
    obtain ⟨occurredAt, -, inserted, hinserted, hok⟩ := hok
    cases inserted with
    | none =>
      obtain rfl := pure_eq_ok.mp hok
      exact ⟨rfl, rfl⟩
    | some p =>
      obtain ⟨row, mid⟩ := p
      have hsame := insertCollectibleEvent_same hinserted
      dsimp only at hok
      split at hok
      · obtain rfl := pure_eq_ok.mp hok
        exact hsame
      · obtain ⟨hresult, hchange⟩ := insertCollectibleInstance_same hok
        exact ⟨hresult.trans hsame.1, hchange.trans hsame.2⟩

theorem materializeCollectibleRevocation_same {operation : OperationRow} {event : CollectibleRevoked}
    (hok : materializeCollectibleRevocation R t operation event vx = .ok vx') :
    SameResults vx.views vx'.views := by
  simp only [materializeCollectibleRevocation, bind_eq_ok] at hok
  obtain ⟨occurredAt, -, inserted, hinserted, hok⟩ := hok
  cases inserted with
  | none =>
    obtain rfl := pure_eq_ok.mp hok
    exact ⟨rfl, rfl⟩
  | some p =>
    obtain ⟨row, mid⟩ := p
    have hsame := insertCollectibleEvent_same hinserted
    simp only [bind_eq_ok, pure_eq_ok] at hok
    obtain ⟨table, -, rfl⟩ := hok
    exact hsame

/-! #### The dispatcher -/

/-- The event of an irreversible operation is settled. -/
theorem settled_of_operation (hstate : ∀ e ∈ t.matchEvent,
      ∃ op ∈ t.operation, op.id = e.operationId ∧ op.state = e.operationState)
    {operation : OperationRow} (hmem : operation ∈ t.operation)
    (hirreversible : operation.state = .irreversible) {eventUuid : Uuid}
    (hevent : (t.matchEvent.rows.find? fun e => e.operationId = operation.id).map (·.eventUuid) =
      some eventUuid) : Settled t eventUuid := by
  obtain ⟨e, hfind, hid⟩ := Option.map_eq_some_iff.mp hevent
  have he : e ∈ t.matchEvent := List.mem_of_find?_eq_some hfind
  have hbound : e.operationId = operation.id := by simpa using List.find?_some hfind
  obtain ⟨op, hop, hopid, hopstate⟩ := hstate e he
  obtain rfl : op = operation := Table.eq_of_key hop hmem (hopid.trans hbound)
  exact ⟨e, he, hid, hopstate.symm.trans hirreversible⟩

theorem ViewsSettled.materializeOperation (hstate : ∀ e ∈ t.matchEvent,
      ∃ op ∈ t.operation, op.id = e.operationId ∧ op.state = e.operationState)
    {operation : OperationRow} (hmem : operation ∈ t.operation)
    (hirreversible : operation.state = .irreversible) (h : ViewsSettled t vx.views)
    (hok : materializeOperation R game t ids time operation vx = .ok vx') :
    ViewsSettled t vx'.views := by
  simp only [Projector.materializeOperation, bind_eq_ok] at hok
  obtain ⟨event, -, hok⟩ := hok
  have hsettled : ∀ eventUuid, ¬ (t.matchEvent.rows.find? fun e => e.operationId = operation.id).map
      (·.eventUuid) ≠ some eventUuid → Settled t eventUuid := fun eventUuid hne =>
    settled_of_operation hstate hmem hirreversible (not_not.mp hne)
  cases event with
  | matchResultsBatch e =>
    dsimp only at hok
    split at hok
    · obtain rfl := pure_eq_ok.mp hok
      exact h
    · rename_i hbound
      exact ViewsSettled.materializeResultsFrom (hsettled _ hbound) h hok
  | matchResultCorrected e =>
    dsimp only at hok
    split at hok
    · obtain rfl := pure_eq_ok.mp hok
      exact h
    · cases (materializeMatchCorrection_eq ..).symm.trans hok
  | matchResultInvalidated e =>
    dsimp only at hok
    split at hok
    · obtain rfl := pure_eq_ok.mp hok
      exact h
    · rename_i hbound
      exact h.materializeMatchInvalidation (hsettled _ hbound) hok
  | collectibleIssued e => exact h.of_same (materializeCollectibleIssue_same hok)
  | collectibleRevoked e => exact h.of_same (materializeCollectibleRevocation_same hok)

theorem ViewsSettled.materializeOperations (hstate : ∀ e ∈ t.matchEvent,
      ∃ op ∈ t.operation, op.id = e.operationId ∧ op.state = e.operationState) :
    ∀ {operations : List OperationRow} {vx vx' : ViewTx},
      (∀ op ∈ operations, op ∈ t.operation ∧ op.state = .irreversible) → ViewsSettled t vx.views →
      materializeOperations R game t ids time operations vx = .ok vx' → ViewsSettled t vx'.views
  | [], vx, vx', _, h, hok => by
    obtain rfl : vx = vx' := by simpa [Projector.materializeOperations] using hok
    exact h
  | operation :: operations, vx, vx', hops, h, hok => by
    simp only [Projector.materializeOperations, bind_eq_ok] at hok
    obtain ⟨mid, hmid, hok⟩ := hok
    obtain ⟨hmem, hirreversible⟩ := hops operation List.mem_cons_self
    exact ViewsSettled.materializeOperations hstate
      (fun op hop => hops op (List.mem_cons_of_mem operation hop))
      (h.materializeOperation hstate hmem hirreversible hmid) hok

end Views

/-! ### Every projection -/

/-- **A sound projection**: consistent, with sound events and settled views. -/
structure Sound (R : Runtime) (source : String) (db : Db) : Prop where
  consistent : Consistent source db.chain
  events : EventsSound R db.chain
  views : ViewsSettled db.chain db.views

/-- A call of the store that commits; a revert names an ancestor at or below the cursor. -/
inductive StoreStep (R : Runtime) (source : String) : Db → Request → Db → Prop where
  | applyBlock {db db' : Db} {block : HafBlock} {decisions : List OperationDecision}
      {ids : ℕ → Uuid} {observedAt : Timestamp}
      (h : applyBlock R source block decisions ids observedAt db = .ok db') :
      StoreStep R source db (.applyBlock block decisions) db'
  | revertAfter {db db' : Db} {n : ℕ} {time : Timestamp} (hle : n ≤ lastProcessed source db.chain)
      (h : revertAfter R source n time db = .ok db') : StoreStep R source db (.revertAfter n) db'
  | finalizeThrough {db db' : Db} {n : ℕ} {ids : ℕ → Uuid} {time : Timestamp}
      (h : finalizeThrough R source n ids time db = .ok db') :
      StoreStep R source db (.finalizeThrough n) db'

section Calls

variable {R : Runtime} {source : String} {db db' : Db}

theorem Sound.applyBlock {block : HafBlock} {decisions : List OperationDecision} {ids : ℕ → Uuid}
    {observedAt : Timestamp} (h : Sound R source db)
    (hok : applyBlock R source block decisions ids observedAt db = .ok db') :
    Sound R source db' := by
  obtain ⟨hconsistent, hfrozen⟩ := h.consistent.applyBlock hok
  obtain ⟨-, hviews, -⟩ := applyBlock_spec hok
  refine ⟨hconsistent, h.events.applyBlock hok, ?_⟩
  rw [hviews]
  exact h.views.frozen hfrozen

theorem Sound.revertAfter {n : ℕ} {time : Timestamp} (h : Sound R source db)
    (hle : n ≤ lastProcessed source db.chain) (hok : revertAfter R source n time db = .ok db') :
    Sound R source db' := by
  obtain ⟨hconsistent, hfrozen⟩ := h.consistent.revertAfter hle hok
  have hevents := h.events.revertAfter hok
  obtain ⟨-, rfl⟩ := revertAfter_spec hok
  exact ⟨hconsistent, hevents, h.views.frozen hfrozen⟩

/-- A finalization leaves settled views when it leaves events of the finality of their operations. -/
theorem ViewsSettled.finalizeThrough {n : ℕ} {ids : ℕ → Uuid} {time : Timestamp}
    (h : ViewsSettled db.chain db.views) (hfrozen : Frozen db.chain db'.chain)
    (hstate : ∀ e ∈ db'.chain.matchEvent,
      ∃ op ∈ db'.chain.operation, op.id = e.operationId ∧ op.state = e.operationState)
    (hok : finalizeThrough R source n ids time db = .ok db') : ViewsSettled db'.chain db'.views := by
  have hviews := h.frozen hfrozen
  simp only [Projector.finalizeThrough, bind_eq_ok, exists_unit, require_eq_ok, Prod.exists,
    lockCursor_eq_ok] at hok
  obtain ⟨t, cursor, ⟨rfl, rfl⟩, -, tx₁, -, tx₂, -, tx₃, -, t', -, vx, hmaterialize, hcommit⟩ := hok
  obtain ⟨-, rfl⟩ := commit_eq_ok.mp hcommit
  refine ViewsSettled.materializeOperations hstate (fun op hop => ?_)
    (show ViewsSettled t' (ViewTx.mk db.views _ 0).views from hviews) hmaterialize
  have hselected := (List.mem_insertionSort materializationOrder).mp hop
  obtain ⟨hmem, hfilter⟩ := List.mem_filter.mp hselected
  simp only [Bool.and_eq_true, decide_eq_true_eq] at hfilter
  exact ⟨hmem, hfilter.1.1.1.2⟩

theorem Sound.finalizeThrough {n : ℕ} {ids : ℕ → Uuid} {time : Timestamp} (h : Sound R source db)
    (hok : finalizeThrough R source n ids time db = .ok db') : Sound R source db' := by
  obtain ⟨hconsistent, hfrozen⟩ := h.consistent.finalizeThrough hok
  exact ⟨hconsistent, h.events.finalizeThrough hok,
    h.views.finalizeThrough hfrozen hconsistent.event_state hok⟩

/-- One call keeps the projection sound. -/
theorem Sound.step {q : Request} (h : Sound R source db) (hstep : StoreStep R source db q db') :
    Sound R source db' := by
  cases hstep with
  | applyBlock hok => exact h.applyBlock hok
  | revertAfter hle hok => exact h.revertAfter hle hok
  | finalizeThrough hok => exact h.finalizeThrough hok

theorem sound_fresh (R : Runtime) (source : String) (game : GameTables) :
    Sound R source (Db.fresh game) :=
  ⟨consistent_empty source, eventsSound_empty R, viewsSettled_empty _⟩

/-- **Every projection is sound**, whatever blocks, forks and finalizations led to it. -/
theorem sound_of_reachable {game : GameTables}
    (h : Reachable (StoreStep R source) (Db.fresh game) db) : Sound R source db := by
  obtain ⟨ts, hrun⟩ := h
  exact (Run.invariant' (fun m l m' hm hl => hm.step hl) hrun (sound_fresh R source game)).1

end Calls

end HiveChameleon.Projector
