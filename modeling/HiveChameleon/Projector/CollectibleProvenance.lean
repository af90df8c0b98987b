import HiveChameleon.Projector.Collectibles
import HiveChameleon.Projector.Provenance

/-!
# Projector.CollectibleProvenance — every collectible goes back to a reported issuance

No row trigger guards the collectibles: their statements copy an event's columns, the local
definition, owner and payment, and for a revocation the columns of the issued event.  What they copy
from is an irreversible operation that the validator accepted, so every issuance and revocation was
signed by an allow-listed issuer and every instance repeats its issuance.
-/

namespace HiveChameleon.Projector

open Gateway Lib

/-! ### Rows and their operations -/

/-- The row of an issuance, apart from the local definition and the payment. -/
def CollectibleEventRow.RepeatsIssuance (R : Runtime) (op : OperationRow) (event : CollectibleIssued)
    (e : CollectibleEventRow) : Prop :=
  Issues R op event ∧ R.timestamptz event.occurredAt = some e.occurredAt ∧
    e = {
      eventId := event.eventId
      operationId := op.id
      eventType := .issued
      collectibleId := event.collectibleId
      collectibleDefinitionId := e.collectibleDefinitionId
      ownerHiveUsername := event.owner.name
      issuerHiveUsername := event.issuer.name
      metadataUri := event.metadataUri
      metadataSha256 := event.metadataSha256.hex
      issuanceReason := event.reason.code
      paymentTransactionId := e.paymentTransactionId
      occurredAt := e.occurredAt }

/-- The row of a revocation: the issued event that it names, under the revoking operation. -/
def CollectibleEventRow.RepeatsRevocation (R : Runtime) (v : ViewTables) (op : OperationRow)
    (event : CollectibleRevoked) (e : CollectibleEventRow) : Prop :=
  Revokes R op event ∧ R.timestamptz event.occurredAt = some e.occurredAt ∧
    ∃ issued ∈ v.collectibleEvent, issued.eventType = .issued ∧
      issued.eventId = event.issuedEventId ∧ issued.collectibleId = event.collectibleId ∧
      e = { issued with
        eventId := event.eventId
        operationId := op.id
        eventType := .revoked
        issuerHiveUsername := op.primaryAccount
        occurredAt := e.occurredAt }

/-- The columns of an instance that its issuance fixes. -/
structure CollectibleInstanceRow.RepeatsEvent (i : CollectibleInstanceRow) (e : CollectibleEventRow)
    (op : OperationRow) : Prop where
  issued : e.eventType = .issued
  issuedEventId : i.issuedEventId = e.eventId
  id : i.id = e.collectibleId
  collectibleDefinitionId : i.collectibleDefinitionId = e.collectibleDefinitionId
  issuerHiveAccount : i.issuerHiveAccount = e.issuerHiveUsername
  issuanceReason : i.issuanceReason = e.issuanceReason
  metadataUri : i.metadataUri = e.metadataUri
  metadataSha256 : i.metadataSha256 = e.metadataSha256
  paymentTransactionId : i.paymentTransactionId = e.paymentTransactionId
  transaction : op.transactionId = some i.issuedHiveTransactionId
  blockNumber : op.blockNumber = i.issuedHiveBlockNumber

/-- An instance is finalized and not revoked, or revoked by an event of the tables. -/
def CollectibleInstanceRow.Ended (v : ViewTables) (i : CollectibleInstanceRow) : Prop :=
  i.state = .finalized ∧ i.revokedEventId = none ∨
    i.state = .revoked ∧ ∃ e ∈ v.collectibleEvent, e.eventType = .revoked ∧
      i.revokedEventId = some e.eventId ∧ e.collectibleId = i.id ∧ i.revokedAt = some e.occurredAt

/-- **Backed collectibles**: events repeat final operations, and instances repeat events. -/
structure CollectiblesBacked (R : Runtime) (t : ChainTables) (v : ViewTables) : Prop where
  event : ∀ e ∈ v.collectibleEvent, ∃ op, Final t op ∧ op.id = e.operationId ∧
    ((∃ event, e.RepeatsIssuance R op event) ∨ ∃ event, e.RepeatsRevocation R v op event)
  inst : ∀ i ∈ v.collectibleInstance, i.Ended v ∧
    ∃ e ∈ v.collectibleEvent, ∃ op, Final t op ∧ op.id = e.operationId ∧ i.RepeatsEvent e op

section Backed

variable {R : Runtime} {game : GameTables} {t t' : ChainTables} {v v' : ViewTables}
variable {ids : ℕ → Uuid} {time : Timestamp} {vx vx' : ViewTx}

theorem Final.frozen {op : OperationRow} (h : Final t op) (hfrozen : Frozen t t') : Final t' op :=
  ⟨hfrozen.operation op h.1 h.2.1, h.2⟩

theorem CollectiblesBacked.frozen (h : CollectiblesBacked R t v) (hfrozen : Frozen t t') :
    CollectiblesBacked R t' v where
  event e he := by
    obtain ⟨op, hfinal, hrest⟩ := h.event e he
    exact ⟨op, hfinal.frozen hfrozen, hrest⟩
  inst i hi := by
    obtain ⟨hended, e, he, op, hfinal, hrest⟩ := h.inst i hi
    exact ⟨hended, e, he, op, hfinal.frozen hfrozen, hrest⟩

theorem CollectiblesBacked.of_same (h : CollectiblesBacked R t v) (hsame : SameCollectibles v v') :
    CollectiblesBacked R t v' := by
  obtain ⟨hevents, hinstances⟩ := hsame
  constructor
  · intro e he
    rw [hevents] at he
    unfold CollectibleEventRow.RepeatsRevocation
    rw [hevents]
    exact h.event e he
  · intro i hi
    rw [hinstances] at hi
    unfold CollectibleInstanceRow.Ended
    rw [hevents]
    exact h.inst i hi

theorem CollectibleEventRow.RepeatsRevocation.mono {op : OperationRow} {event : CollectibleRevoked}
    {e : CollectibleEventRow} (h : e.RepeatsRevocation R v op event)
    (hkept : ∀ e ∈ v.collectibleEvent, e ∈ v'.collectibleEvent) :
    e.RepeatsRevocation R v' op event := by
  obtain ⟨hrevokes, htime, issued, hissued, hrest⟩ := h
  exact ⟨hrevokes, htime, issued, hkept issued hissued, hrest⟩

theorem CollectibleInstanceRow.Ended.mono {i : CollectibleInstanceRow} (h : i.Ended v)
    (hkept : ∀ e ∈ v.collectibleEvent, e ∈ v'.collectibleEvent) : i.Ended v' := by
  rcases h with hfinalized | ⟨hstate, e, he, hrest⟩
  · exact .inl hfinalized
  · exact .inr ⟨hstate, e, hkept e he, hrest⟩

/-- A new event repeats its operation, the others are there. -/
theorem CollectiblesBacked.insert {row : CollectibleEventRow} {op : OperationRow}
    (h : CollectiblesBacked R t v) (hfinal : Final t op) (hid : op.id = row.operationId)
    (hrow : (∃ event, row.RepeatsIssuance R op event) ∨ ∃ event, row.RepeatsRevocation R v op event)
    (hevents : ∀ e, e ∈ v'.collectibleEvent ↔ e ∈ v.collectibleEvent ∨ e = row)
    (hinst : ∀ i ∈ v'.collectibleInstance, i ∈ v.collectibleInstance ∨ i.Ended v' ∧
      ∃ e ∈ v'.collectibleEvent, ∃ op, Final t op ∧ op.id = e.operationId ∧ i.RepeatsEvent e op) :
    CollectiblesBacked R t v' := by
  have hkept : ∀ e ∈ v.collectibleEvent, e ∈ v'.collectibleEvent := fun e he =>
    (hevents e).mpr (.inl he)
  refine ⟨fun e he => ?_, fun i hi => ?_⟩
  · rcases (hevents e).mp he with he | rfl
    · obtain ⟨op', hfinal', hid', hrepeats⟩ := h.event e he
      exact ⟨op', hfinal', hid', hrepeats.imp id fun ⟨event, hr⟩ => ⟨event, hr.mono hkept⟩⟩
    · exact ⟨op, hfinal, hid, hrow.imp id fun ⟨event, hr⟩ => ⟨event, hr.mono hkept⟩⟩
  · rcases hinst i hi with hi | hnew
    · obtain ⟨hended, e, he, hrest⟩ := h.inst i hi
      exact ⟨hended.mono hkept, e, hkept e he, hrest⟩
    · exact hnew

theorem timestamptz_of_bind {value : IsoTimestamp} {instant : Timestamp}
    (h : bindTimestamptz R value = .ok instant) : R.timestamptz value = some instant := by
  unfold bindTimestamptz at h
  split at h
  · cases h
  · rename_i found hfound
    obtain rfl := Except.ok.inj h
    exact hfound

/-- The row that an issuance selects first. -/
theorem repeatsIssuance_of_head {op : OperationRow} {event : CollectibleIssued}
    {occurredAt : Timestamp} {row : CollectibleEventRow} (hissues : Issues R op event)
    (htime : bindTimestamptz R event.occurredAt = .ok occurredAt)
    (h : (issuedEventRows game event op.id occurredAt).head? = some row) :
    row.operationId = op.id ∧ row.RepeatsIssuance R op event := by
  have hread := timestamptz_of_bind htime
  unfold issuedEventRows at h
  split at h
  · rename_i definition player hdefinition hplayer
    obtain ⟨-, howner⟩ := Table.find?_eq_some.mp hplayer
    split at h
    · rw [List.head?_map] at h
      obtain ⟨payment, -, rfl⟩ := Option.map_eq_some_iff.mp h
      refine ⟨rfl, hissues, hread, ?_⟩
      dsimp only
      rw [howner]
    · cases h
  · cases h

theorem CollectiblesBacked.issue {op : OperationRow} {event : CollectibleIssued}
    (h : CollectiblesBacked R t vx.views) (hfinal : Final t op) (hissues : Issues R op event)
    (hok : materializeCollectibleIssue R game t op event time vx = .ok vx') :
    CollectiblesBacked R t vx'.views := by
  unfold materializeCollectibleIssue at hok
  split at hok
  · obtain rfl := pure_eq_ok.mp hok
    exact h
  rename_i transactionId hsigned
  simp only [bind_eq_ok] at hok
  obtain ⟨occurredAt, htime, inserted, hinserted, hok⟩ := hok
  cases inserted with
  | none =>
    obtain rfl := pure_eq_ok.mp hok
    exact h
  | some p =>
    obtain ⟨row, mid⟩ := p
    obtain ⟨hhead, -, hinstances, hevents⟩ := insertCollectibleEvent_some hinserted
    obtain ⟨hrowid, hrepeats⟩ := repeatsIssuance_of_head hissues htime hhead
    obtain ⟨hid, htype, hcollectible, -⟩ := issuedEventRows_head hhead
    dsimp only at hok
    have hnone : CollectiblesBacked R t mid.views := by
      refine h.insert hfinal hrowid.symm (.inl ⟨event, hrepeats⟩) hevents fun i hi => .inl ?_
      rw [hinstances] at hi
      exact hi
    split at hok
    · obtain rfl := pure_eq_ok.mp hok
      exact hnone
    rename_i player hplayer
    rcases insertCollectibleInstance_spec hok with ⟨-, rfl⟩ | ⟨-, hsame, hadded⟩
    · exact hnone
    · refine h.insert hfinal hrowid.symm (.inl ⟨event, hrepeats⟩)
        (fun e => by rw [hsame]; exact hevents e) fun i hi => ?_
      rcases (hadded i).mp hi with hi | rfl
      · rw [hinstances] at hi
        exact .inl hi
      · have hrow : row ∈ vx'.views.collectibleEvent := by
          rw [hsame]
          exact (hevents row).mpr (.inr rfl)
        exact .inr ⟨.inl ⟨rfl, rfl⟩, row, hrow, op, hfinal, hrowid.symm,
          ⟨htype, rfl, rfl, rfl, rfl, rfl, rfl, rfl, rfl, hsigned, rfl⟩⟩

/-- The row that a revocation selects. -/
theorem repeatsRevocation_of_head {op : OperationRow} {event : CollectibleRevoked}
    {occurredAt : Timestamp} {row : CollectibleEventRow} (hrevokes : Revokes R op event)
    (htime : bindTimestamptz R event.occurredAt = .ok occurredAt)
    (h : (revokedEventRows v op event occurredAt).head? = some row) :
    row.operationId = op.id ∧ row.occurredAt = occurredAt ∧ row.RepeatsRevocation R v op event := by
  have hread := timestamptz_of_bind htime
  unfold revokedEventRows at h
  split at h
  · cases h
  · rename_i issued hrevocable
    obtain rfl := Option.some.inj h
    unfold revocableEvent at hrevocable
    split at hrevocable
    · rename_i e i hevent hinstance
      obtain ⟨he, hid⟩ := Table.find?_eq_some.mp hevent
      split at hrevocable
      · rename_i hmatch
        obtain rfl := Option.some.inj hrevocable
        exact ⟨rfl, rfl, hrevokes, hread, e, he, hmatch.1, hid, hmatch.2.1, rfl⟩
      · cases hrevocable
    · cases hrevocable

theorem CollectiblesBacked.revoke {op : OperationRow} {event : CollectibleRevoked}
    (h : CollectiblesBacked R t vx.views) (hfinal : Final t op) (hrevokes : Revokes R op event)
    (hok : materializeCollectibleRevocation R t op event vx = .ok vx') :
    CollectiblesBacked R t vx'.views := by
  simp only [materializeCollectibleRevocation, bind_eq_ok] at hok
  obtain ⟨occurredAt, htime, inserted, hinserted, hok⟩ := hok
  cases inserted with
  | none =>
    obtain rfl := pure_eq_ok.mp hok
    exact h
  | some p =>
    obtain ⟨row, mid⟩ := p
    obtain ⟨hhead, -, hinstances, hevents⟩ := insertCollectibleEvent_some hinserted
    obtain ⟨hrowid, hoccurred, hrepeats⟩ := repeatsRevocation_of_head hrevokes htime hhead
    simp only [bind_eq_ok, Table.update_eq_ok, pure_eq_ok] at hok
    obtain ⟨table, ⟨-, rfl⟩, rfl⟩ := hok
    refine h.insert hfinal hrowid.symm (.inr ⟨event, hrepeats⟩) hevents fun i hi => ?_
    rw [hinstances] at hi
    rcases Table.mem_modify_cases hi with ⟨old, hold, ⟨hcollectible, -, -⟩, rfl⟩ | ⟨hi, -⟩
    · -- the instance that the revocation names
      obtain ⟨-, -, issued, -, -, -, hissued, hrow⟩ := hrepeats
      obtain ⟨-, e, he, op', hfinal', hid', hof⟩ := h.inst old hold
      have hrowmem : row ∈ mid.views.collectibleEvent := (hevents row).mpr (.inr rfl)
      have htype : row.eventType = .revoked := by rw [hrow]
      have heventId : row.eventId = event.eventId := by rw [hrow]
      have hsame : row.collectibleId = old.id := by
        rw [hrow]
        exact hissued.trans hcollectible.symm
      refine .inr ⟨.inr ⟨rfl, row, hrowmem, htype, congrArg some heventId.symm, hsame,
        congrArg some hoccurred.symm⟩, e, (hevents e).mpr (.inl he), op', hfinal', hid', ?_⟩
      exact ⟨hof.issued, hof.issuedEventId, hof.id, hof.collectibleDefinitionId,
        hof.issuerHiveAccount, hof.issuanceReason, hof.metadataUri, hof.metadataSha256,
        hof.paymentTransactionId, hof.transaction, hof.blockNumber⟩
    · exact .inl hi

theorem CollectiblesBacked.materializeOperation {op : OperationRow}
    (h : CollectiblesBacked R t vx.views) (hfinal : Final t op)
    (hok : materializeOperation R game t ids time op vx = .ok vx') :
    CollectiblesBacked R t vx'.views := by
  simp only [Projector.materializeOperation, bind_eq_ok] at hok
  obtain ⟨event, hevent, hok⟩ := hok
  cases event with
  | matchResultsBatch e =>
    dsimp only at hok
    split at hok
    · obtain rfl := pure_eq_ok.mp hok
      exact h
    · exact h.of_same (materializeResultsFrom_collectibles hok)
  | matchResultCorrected e =>
    dsimp only at hok
    split at hok
    · obtain rfl := pure_eq_ok.mp hok
      exact h
    · cases (materializeMatchCorrection_eq ..).symm.trans hok
  | matchResultInvalidated e =>
    dsimp only at hok
    split at hok
    · obtain rfl := pure_eq_ok.mp hok
      exact h
    · exact h.of_same (materializeMatchInvalidation_collectibles hok)
  | collectibleIssued e => exact h.issue hfinal hevent hok
  | collectibleRevoked e => exact h.revoke hfinal hevent hok

theorem CollectiblesBacked.materializeOperations : ∀ {operations : List OperationRow}
    {vx vx' : ViewTx}, (∀ op ∈ operations, Final t op) → CollectiblesBacked R t vx.views →
      materializeOperations R game t ids time operations vx = .ok vx' →
        CollectiblesBacked R t vx'.views
  | [], vx, vx', _, h, hok => by
    obtain rfl : vx = vx' := by simpa [Projector.materializeOperations] using hok
    exact h
  | op :: operations, vx, vx', hfinal, h, hok => by
    simp only [Projector.materializeOperations, bind_eq_ok] at hok
    obtain ⟨mid, hmid, hok⟩ := hok
    exact CollectiblesBacked.materializeOperations
      (fun later hlater => hfinal later (List.mem_cons_of_mem op hlater))
      (h.materializeOperation (hfinal op List.mem_cons_self) hmid) hok

end Backed

/-! ### Runs -/

section Runs

variable {cfg : ProjectorConfig} {source : String} {known : Reports} {db db' : Db}

/-- A final operation was reported as the event that its payload carries. -/
theorem FiledAsReported.traced_as {t : ChainTables} (h : FiledAsReported cfg source known t)
    {op : OperationRow} (hfinal : Final t op) {event : HiveChameleonEvent}
    (hevent : eventFromOperationPayload cfg.runtime op.payload = .ok event) :
    ∃ signer, OperationTraced cfg known op event signer := by
  obtain ⟨accepted, signer, operation, block, json, hreported, hvalue, hrest⟩ := h.traced hfinal
  have hsame : accepted = event := by
    rw [hvalue, hreported.accepted.value] at hevent
    simp only [eventFromOperationPayload, OperationValue.json, hreported.accepted.parse] at hevent
    exact Except.ok.inj hevent
  subst hsame
  exact ⟨signer, operation, block, json, hreported, hvalue, hrest⟩

theorem CollectiblesBacked.finalizeThrough {n : ℕ} {ids : ℕ → Uuid} {time : Timestamp}
    (h : CollectiblesBacked cfg.runtime db.chain db.views)
    (hok : finalizeThrough cfg.runtime source n ids time db = .ok db') :
    CollectiblesBacked cfg.runtime db'.chain db'.views := by
  have hfrozen : Frozen db.chain db'.chain := by
    rw [(finalizeThrough_spec hok).2.1]
    exact frozen_ensureCursor.trans frozen_finalize
  have hbacked := h.frozen hfrozen
  simp only [Projector.finalizeThrough, bind_eq_ok, exists_unit, require_eq_ok, Prod.exists,
    lockCursor_eq_ok] at hok
  obtain ⟨t, cursor, ⟨rfl, rfl⟩, -, tx₁, -, tx₂, -, tx₃, -, t', -, vx, hmaterialize, hcommit⟩ := hok
  obtain ⟨-, rfl⟩ := commit_eq_ok.mp hcommit
  refine CollectiblesBacked.materializeOperations (fun op hop => ?_)
    (show CollectiblesBacked cfg.runtime t' (ViewTx.mk db.views _ 0).views from hbacked) hmaterialize
  have hselected := (List.mem_insertionSort materializationOrder).mp hop
  obtain ⟨hmem, hfilter⟩ := List.mem_filter.mp hselected
  simp only [Bool.and_eq_true, decide_eq_true_eq] at hfilter
  exact ⟨hmem, hfilter.1.1.1.2, hfilter.1.2⟩

/-- **One request** keeps the collectibles backed. -/
theorem CollectiblesBacked.answer {q : Request} {r : Except Failure q.Response}
    (hfiled : FiledAsReported cfg source known db.chain)
    (h : CollectiblesBacked cfg.runtime db.chain db.views)
    (hans : storeAnswer cfg.runtime source q db r db') :
    CollectiblesBacked cfg.runtime db'.chain db'.views := by
  rcases storeAnswer_cases hans with
    rfl | ⟨block, decisions, ids, time, rfl, hok⟩ | ⟨ancestor, time, rfl, hok⟩ | ⟨n, ids, time, rfl, hok⟩
  · exact h
  · obtain ⟨ha, hviews, -⟩ := applyBlock_spec hok
    rw [hviews]
    exact h.frozen ha.frozen
  · obtain ⟨hguard, rfl⟩ := revertAfter_spec hok
    exact h.frozen (frozen_ensureCursor.trans
      (hfiled.heights.ensureCursor.agrees.frozen_revert (by simpa using hguard)))
  · exact h.finalizeThrough hok

variable {ι : Type} [DecidableEq ι] {game : GameTables}

/-- **Provenance of collectibles.**  However many projectors ran, whatever the source answered and
wherever processes and connections broke: every collectible event repeats an issuance or a
revocation that an allow-listed issuer signed and that the source reported in a block it also
reported as irreversible, a revocation names an issued event of the tables, and every instance
repeats one issuance, with its transaction and height, and is revoked only by such a revocation. -/
theorem projected_collectibles_traced
    {ts : List (Transition (ProjectorSys ι) (SysLabel Request Request.Response Failure ι))}
    {S : ProjectorSys ι} (hrun : Run (ProjectorsStep cfg source) (.start cfg game) ts S) :
    (∀ e ∈ S.shared.views.collectibleEvent, ∃ op signer,
      Final S.shared.chain op ∧ op.id = e.operationId ∧
      e.issuerHiveUsername = signer.name ∧ signer.name ∈ cfg.policy.collectibleIssuers ∧
      ((∃ event, OperationTraced cfg (toldIn ts) op (.collectibleIssued event) signer ∧
          e.RepeatsIssuance cfg.runtime op event) ∨
        ∃ event, OperationTraced cfg (toldIn ts) op (.collectibleRevoked event) signer ∧
          e.RepeatsRevocation cfg.runtime S.shared.views op event)) ∧
    ∀ i ∈ S.shared.views.collectibleInstance, i.Ended S.shared.views ∧
      ∃ e ∈ S.shared.views.collectibleEvent, ∃ op, Final S.shared.chain op ∧
        op.id = e.operationId ∧ i.RepeatsEvent e op := by
  have hfiled := filedAsReported_of_run hrun
  have hbacked : FiledAsReported cfg source (toldIn ts) S.shared.chain ∧
      CollectiblesBacked cfg.runtime S.shared.chain S.shared.views :=
    projectors_history (I := fun known db => FiledAsReported cfg source known db.chain ∧
        CollectiblesBacked cfg.runtime db.chain db.views)
      ⟨filedAsReported_empty, fun _ he => absurd he Table.not_mem_empty,
        fun _ hi => absurd hi Table.not_mem_empty⟩
      (fun _ _ _ hle h => ⟨h.1.le hle, h.2⟩)
      (fun _ _ _ hE h => by rw [hE.1, hE.2]; exact h)
      (fun _ _ _ _ _ hknown hans h => ⟨h.1.answer hknown hans, h.2.answer h.1 hans⟩) hrun
  refine ⟨fun e he => ?_, hbacked.2.inst⟩
  obtain ⟨op, hfinal, hid, ⟨event, hrepeats⟩ | ⟨event, hrepeats⟩⟩ := hbacked.2.event e he
  · obtain ⟨signer, htraced⟩ := hfiled.traced_as hfinal hrepeats.1
    have hsource := htraced
    obtain ⟨operation, block, json, hreported, -⟩ := hsource
    have hallowed := hreported.accepted.allowed
    simp only [isSignerAllowed, Bool.and_eq_true, List.contains_iff_mem, beq_iff_eq] at hallowed
    refine ⟨op, signer, hfinal, hid, ?_, hallowed.1, .inl ⟨event, htraced, hrepeats⟩⟩
    rw [hrepeats.2.2]
    exact hallowed.2
  · obtain ⟨signer, htraced⟩ := hfiled.traced_as hfinal hrepeats.1
    have hsource := htraced
    obtain ⟨operation, block, json, hreported, -, hprimary, -⟩ := hsource
    have hallowed := hreported.accepted.allowed
    simp only [isSignerAllowed, List.contains_iff_mem] at hallowed
    refine ⟨op, signer, hfinal, hid, ?_, hallowed, .inr ⟨event, htraced, hrepeats⟩⟩
    obtain ⟨-, -, issued, -, -, -, -, hrow⟩ := hrepeats
    rw [hrow]
    exact hprimary

end Runs

/-- One projector that reads an issuance and its revocation, and finalizes both. -/
def revokedRun : ProjectorSys Unit :=
  (ProjectorSys.start exampleIssuerConfig exampleCatalog).follow
    (serve exampleIssuerConfig.runtime "haf") (fun _ => runOnce exampleIssuerConfig)
    (List.replicate 12 ((), (.ofBlocks [chainBlock 1, chainBlock 2] 2
      [issuerOperation "op1" "tx1" (chainBlock 1) "issuance",
        issuerOperation "op2" "tx2" (chainBlock 2) "revocation"], 10)))

theorem projected_collectibles_traced_revoked :
    ∃ ts, Run (ProjectorsStep exampleIssuerConfig "haf")
        (.start (ι := Unit) exampleIssuerConfig exampleCatalog) ts revokedRun ∧
      revokedRun.shared.views.collectibleEvent.rows.length = 2 ∧
      (∃ i ∈ revokedRun.shared.views.collectibleInstance.rows, i.state = .revoked) ∧
      ∀ i ∈ revokedRun.shared.views.collectibleInstance, i.Ended revokedRun.shared.views ∧
        ∃ e ∈ revokedRun.shared.views.collectibleEvent, ∃ op, Final revokedRun.shared.chain op ∧
          op.id = e.operationId ∧ i.RepeatsEvent e op := by
  obtain ⟨ts, hts⟩ : ∃ ts, Run (ProjectorsStep exampleIssuerConfig "haf")
      (.start (ι := Unit) exampleIssuerConfig exampleCatalog) ts revokedRun :=
    Sys.follow_run (serve_answers exampleIssuerConfig.runtime "haf") _ _
  exact ⟨ts, hts, by decide +kernel, by decide +kernel, (projected_collectibles_traced hts).2⟩

end HiveChameleon.Projector
