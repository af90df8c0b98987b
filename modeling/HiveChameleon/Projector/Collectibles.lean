import HiveChameleon.Projector.Calls
import HiveChameleon.Projector.ResultChain

/-!
# Projector.Collectibles — issuances and the collectibles they make

An issuance inserts its event and then its instance, each with its own conflict target.  The two
tables correspond one to one, revocations are final and reuses change nothing, unless an issuance
that passes the selection carries the collectible id of an instance under a new event id: its event
is inserted and its instance is not.
-/

namespace HiveChameleon.Projector

open Gateway Lib

/-- An issued event and the instance that it made; `owners` tells which player a name stood for. -/
structure IssuanceOf (owners : String → Uuid → Prop) (e : CollectibleEventRow)
    (i : CollectibleInstanceRow) : Prop where
  event : e.eventId = i.issuedEventId
  type : e.eventType = .issued
  owner : owners e.ownerHiveUsername i.ownerPlayerId
  collectible : e.collectibleId = i.id
  collectibleDefinition : e.collectibleDefinitionId = i.collectibleDefinitionId
  payment : e.paymentTransactionId = i.paymentTransactionId

/-- A revoked event and the instance that it revoked. -/
structure RevocationOf (e : CollectibleEventRow) (i : CollectibleInstanceRow) : Prop where
  event : i.revokedEventId = some e.eventId
  type : e.eventType = .revoked
  collectible : e.collectibleId = i.id
  state : i.state = .revoked

/-- **Issuances and instances correspond one to one**, and so do revocations and revoked
instances. -/
structure CollectiblesMatched (owners : String → Uuid → Prop) (v : ViewTables) : Prop where
  issuance : ∀ i ∈ v.collectibleInstance, ∃ e ∈ v.collectibleEvent, IssuanceOf owners e i
  issued : ∀ e ∈ v.collectibleEvent, e.eventType = .issued →
    ∃ i ∈ v.collectibleInstance, IssuanceOf owners e i
  revocation : ∀ i ∈ v.collectibleInstance, i.state = .revoked →
    ∃ e ∈ v.collectibleEvent, RevocationOf e i
  revoked : ∀ e ∈ v.collectibleEvent, e.eventType = .revoked →
    ∃ i ∈ v.collectibleInstance, RevocationOf e i

/-- Neither table of collectibles changed. -/
def SameCollectibles (v v' : ViewTables) : Prop :=
  v'.collectibleEvent = v.collectibleEvent ∧ v'.collectibleInstance = v.collectibleInstance

/-- The issuance that an operation publishes. -/
def Issues (R : Runtime) (operation : OperationRow) (event : CollectibleIssued) : Prop :=
  eventFromOperationPayload R operation.payload = .ok (.collectibleIssued event)

def Revokes (R : Runtime) (operation : OperationRow) (event : CollectibleRevoked) : Prop :=
  eventFromOperationPayload R operation.payload = .ok (.collectibleRevoked event)

/-- No event of the tables has this id. -/
def NewEvent (v : ViewTables) (eventId : Uuid) : Prop :=
  ∀ e ∈ v.collectibleEvent, e.eventId ≠ eventId

/-- The issuance carries the collectible id of an instance. -/
def ReusesCollectible (v : ViewTables) (event : CollectibleIssued) : Prop :=
  ∃ i ∈ v.collectibleInstance, i.id = event.collectibleId

/-- The payment that the issuance cites is an instance's. -/
def ReusesPayment (game : GameTables) (v : ViewTables) (event : CollectibleIssued) : Prop :=
  ∃ payment, (citedPayments game event).head? = some (some payment) ∧
    ∃ i ∈ v.collectibleInstance, i.paymentTransactionId = some payment

/-- The definition, the owner and the cited payment of an issuance are known locally. -/
structure KnownLocally (game : GameTables) (event : CollectibleIssued) : Prop where
  exists_definition : ∃ definition, game.collectibleDefinition.find? event.definitionId = some definition ∧
    definition.kind = event.kind ∧ definition.metadataUri = event.metadataUri ∧
      definition.metadataSha256 = event.metadataSha256.hex
  exists_owner : ∃ player, game.player.find? event.owner.name = some player
  exists_payment : citedPayments game event ≠ []

/-- **The defect**: an issuance of an existing collectible under a new event id, which passes the
selection of the event's statement. -/
structure Reissues (R : Runtime) (game : GameTables) (v : ViewTables) (operation : OperationRow)
    (event : CollectibleIssued) : Prop where
  issues : Issues R operation event
  signed : operation.transactionId ≠ none
  known : KnownLocally game event
  newEvent : NewEvent v event.eventId
  reuses : ReusesCollectible v event

/-- What the materialization of one operation does to the collectibles. -/
structure CollectibleStep (R : Runtime) (game : GameTables) (owners : String → Uuid → Prop)
    (v : ViewTables) (operation : OperationRow) (v' : ViewTables) : Prop where
  /-- Events are never changed. -/
  event_kept : ∀ e ∈ v.collectibleEvent, e ∈ v'.collectibleEvent
  /-- An instance is kept, unless it is finalized and the operation is a revocation that names it
  and its issuance. -/
  instance_kept : ∀ i ∈ v.collectibleInstance, i ∈ v'.collectibleInstance ∨
    i.state = .finalized ∧ ∃ event time, Revokes R operation event ∧ event.collectibleId = i.id ∧
      event.issuedEventId = i.issuedEventId ∧
      { i with state := .revoked, revokedEventId := some event.eventId, revokedAt := some time } ∈
        v'.collectibleInstance
  /-- A new instance is the collectible that the operation issues, with its owner and payment. -/
  instance_new : ∀ i ∈ v'.collectibleInstance, (∀ j ∈ v.collectibleInstance, j.id ≠ i.id) →
    i.state = .finalized ∧ ∃ event player, Issues R operation event ∧ i.id = event.collectibleId ∧
      i.issuedEventId = event.eventId ∧ game.player.find? event.owner.name = some player ∧
      i.ownerPlayerId = player.id ∧ i.paymentTransactionId ∈ citedPayments game event
  /-- So is a new issued event. -/
  event_new : ∀ e ∈ v'.collectibleEvent, e ∉ v.collectibleEvent → e.eventType = .issued →
    ∃ event, Issues R operation event ∧ e.eventId = event.eventId ∧
      e.collectibleId = event.collectibleId ∧ e.ownerHiveUsername = event.owner.name ∧
      e.paymentTransactionId ∈ citedPayments game event
  /-- An issuance under a new event id that reuses a collectible or a payment changes nothing. -/
  reuse : ∀ event, Issues R operation event → NewEvent v event.eventId →
    ReusesCollectible v event ∨ ReusesPayment game v event → SameCollectibles v v'
  matched : CollectiblesMatched owners v'

/-! ### The statements of an issuance -/

section Statements

variable {R : Runtime} {game : GameTables} {t : ChainTables} {time : Timestamp} {vx vx' : ViewTx}

theorem insertCollectibleEvent_some {rows : List CollectibleEventRow} {row : CollectibleEventRow}
    {inserted : ViewTx} (hok : insertCollectibleEvent t rows vx = .ok (some (row, inserted))) :
    rows.head? = some row ∧ NewEvent vx.views row.eventId ∧
      inserted.views.collectibleInstance = vx.views.collectibleInstance ∧
      ∀ e, e ∈ inserted.views.collectibleEvent ↔ e ∈ vx.views.collectibleEvent ∨ e = row := by
  unfold insertCollectibleEvent at hok
  split at hok
  · cases pure_eq_ok.mp hok
  · simp only [bind_eq_ok, exists_unit] at hok
    obtain ⟨-, -, hok⟩ := hok
    split at hok
    · cases pure_eq_ok.mp hok
    · simp only [bind_eq_ok, exists_unit, Table.insert_eq_ok, pure_eq_ok, Option.some.injEq,
        Prod.mk.injEq] at hok
      obtain ⟨-, -, table, ⟨hfresh, hrows⟩, rfl, rfl⟩ := hok
      refine ⟨rfl, hfresh, rfl, fun e => ?_⟩
      show e ∈ table ↔ _
      rw [Table.mem_def, hrows, List.mem_append, List.mem_singleton]
      rfl

theorem insertCollectibleEvent_none {rows : List CollectibleEventRow}
    (hok : insertCollectibleEvent t rows vx = .ok none) :
    rows = [] ∨ ∃ row, rows.head? = some row ∧ ¬ NewEvent vx.views row.eventId := by
  unfold insertCollectibleEvent at hok
  split at hok
  · exact .inl rfl
  · rename_i row rows
    simp only [bind_eq_ok, exists_unit] at hok
    obtain ⟨-, -, hok⟩ := hok
    split at hok
    · rename_i hfound
      obtain ⟨e, hfind⟩ := Option.isSome_iff_exists.mp hfound
      obtain ⟨he, hid⟩ := Table.find?_eq_some.mp hfind
      exact .inr ⟨row, rfl, fun hnew => hnew e he hid⟩
    · simp only [bind_eq_ok, pure_eq_ok, reduceCtorEq, and_false, exists_false] at hok

theorem issuedEventRows_eq_nil {event : CollectibleIssued} {operationId : Uuid} :
    issuedEventRows game event operationId time = [] ↔ ¬ KnownLocally game event := by
  unfold issuedEventRows
  constructor
  · rintro hnil ⟨⟨definition, hdefinition, hsame⟩, ⟨player, hplayer⟩, hpayment⟩
    rw [hdefinition, hplayer] at hnil
    simp only [if_pos hsame, List.map_eq_nil_iff] at hnil
    exact hpayment hnil
  · intro hunknown
    split
    · rename_i definition player hdefinition hplayer
      by_cases hsame : definition.kind = event.kind ∧ definition.metadataUri = event.metadataUri ∧
          definition.metadataSha256 = event.metadataSha256.hex
      · rw [if_pos hsame, List.map_eq_nil_iff]
        by_contra hpayment
        exact hunknown ⟨⟨definition, hdefinition, hsame⟩, ⟨player, hplayer⟩, hpayment⟩
      · rw [if_neg hsame]
    · rfl

theorem issuedEventRows_head {event : CollectibleIssued} {operationId : Uuid} {row : CollectibleEventRow}
    (h : (issuedEventRows game event operationId time).head? = some row) :
    row.eventId = event.eventId ∧ row.eventType = .issued ∧
      row.collectibleId = event.collectibleId ∧ row.ownerHiveUsername = event.owner.name ∧
      (citedPayments game event).head? = some row.paymentTransactionId ∧
      ∃ player, game.player.find? event.owner.name = some player := by
  unfold issuedEventRows at h
  split at h
  · rename_i definition player hdefinition hplayer
    split at h
    · rw [List.head?_map] at h
      obtain ⟨payment, hpayment, rfl⟩ := Option.map_eq_some_iff.mp h
      exact ⟨rfl, rfl, rfl, (Table.find?_eq_some.mp hplayer).2, hpayment, player, hplayer⟩
    · cases h
  · cases h

theorem insertCollectibleInstance_spec {row : CollectibleInstanceRow}
    (hok : insertCollectibleInstance row vx = .ok vx') :
    (∃ i ∈ vx.views.collectibleInstance, i.id = row.id) ∧ vx' = vx ∨
      (∀ i ∈ vx.views.collectibleInstance, i.id ≠ row.id ∧
        (row.paymentTransactionId = none ∨ i.paymentTransactionId ≠ row.paymentTransactionId)) ∧
      vx'.views.collectibleEvent = vx.views.collectibleEvent ∧
      ∀ i, i ∈ vx'.views.collectibleInstance ↔ i ∈ vx.views.collectibleInstance ∨ i = row := by
  unfold insertCollectibleInstance at hok
  split at hok
  · rename_i hfound
    obtain rfl := pure_eq_ok.mp hok
    obtain ⟨i, hfind⟩ := Option.isSome_iff_exists.mp hfound
    exact .inl ⟨⟨i, Table.find?_eq_some.mp hfind⟩, rfl⟩
  · simp only [bind_eq_ok, exists_unit, require_eq_ok, Table.insert_eq_ok, pure_eq_ok] at hok
    obtain ⟨-, hpayment, table, ⟨hfresh, hrows⟩, rfl⟩ := hok
    refine .inr ⟨fun i hi => ⟨hfresh i hi, hpayment i hi⟩, rfl, fun i => ?_⟩
    show i ∈ table ↔ _
    rw [Table.mem_def, hrows, List.mem_append, List.mem_singleton]
    rfl

/-- **What an issuance does**: nothing, its event and its instance, or its event alone when it
reissues. -/
theorem materializeCollectibleIssue_spec {operation : OperationRow} {event : CollectibleIssued}
    (hok : materializeCollectibleIssue R game t operation event time vx = .ok vx') :
    (vx' = vx ∧ (operation.transactionId = none ∨ ¬ KnownLocally game event ∨
        ¬ NewEvent vx.views event.eventId)) ∨
      operation.transactionId ≠ none ∧ KnownLocally game event ∧ NewEvent vx.views event.eventId ∧
        ∃ row occurredAt, (issuedEventRows game event operation.id occurredAt).head? = some row ∧
          (∀ e, e ∈ vx'.views.collectibleEvent ↔ e ∈ vx.views.collectibleEvent ∨ e = row) ∧
          (ReusesCollectible vx.views event ∧
              vx'.views.collectibleInstance = vx.views.collectibleInstance ∨
            ¬ ReusesCollectible vx.views event ∧ ¬ ReusesPayment game vx.views event ∧
              ∃ player transactionId, game.player.find? event.owner.name = some player ∧
                ∀ i, i ∈ vx'.views.collectibleInstance ↔ i ∈ vx.views.collectibleInstance ∨
                  i = instanceRow row player.id transactionId operation.blockNumber time) := by
  unfold materializeCollectibleIssue at hok
  split at hok
  · rename_i hunsigned
    obtain rfl := pure_eq_ok.mp hok
    exact .inl ⟨rfl, .inl hunsigned⟩
  · rename_i transactionId hsigned
    simp only [bind_eq_ok] at hok
    obtain ⟨occurredAt, -, inserted, hinserted, hok⟩ := hok
    cases inserted with
    | none =>
      obtain rfl := pure_eq_ok.mp hok
      refine .inl ⟨rfl, .inr ?_⟩
      rcases insertCollectibleEvent_none hinserted with hnil | ⟨row, hhead, hold⟩
      · exact .inl (issuedEventRows_eq_nil.mp hnil)
      · rw [(issuedEventRows_head hhead).1] at hold
        exact .inr hold
    | some p =>
      obtain ⟨row, mid⟩ := p
      obtain ⟨hhead, hnew, hinstances, hevents⟩ := insertCollectibleEvent_some hinserted
      obtain ⟨hid, -, hcollectible, howner, hpayment, player, hplayer⟩ := issuedEventRows_head hhead
      have hknown : KnownLocally game event := by
        by_contra hunknown
        rw [issuedEventRows_eq_nil.mpr hunknown] at hhead
        cases hhead
      refine .inr ⟨by simp [hsigned], hknown, hid ▸ hnew, row, occurredAt, hhead, ?_⟩
      simp only [howner, hplayer] at hok
      rcases insertCollectibleInstance_spec hok with ⟨⟨i, hi, hreused⟩, rfl⟩ | ⟨hfresh, hsame, hadded⟩
      · rw [hinstances] at hi ⊢
        exact ⟨hevents, .inl ⟨⟨i, hi, hreused.trans hcollectible⟩, rfl⟩⟩
      · rw [hinstances] at hfresh hadded
        refine ⟨fun e => ?_, .inr ⟨?_, ?_, player, transactionId, hplayer, hadded⟩⟩
        · rw [hsame]
          exact hevents e
        · rintro ⟨i, hi, hreused⟩
          exact (hfresh i hi).1 (hreused.trans hcollectible.symm)
        · rintro ⟨payment, hcited, i, hi, hpaid⟩
          have hrow : row.paymentTransactionId = some payment := by
            rw [hcited] at hpayment
            exact (Option.some.inj hpayment).symm
          rcases (hfresh i hi).2 with hfree | hother
          · have hnone : row.paymentTransactionId = none := hfree
            rw [hrow] at hnone
            cases hnone
          · exact hother (hpaid.trans hrow.symm)

theorem revocableEvent_eq_some {v : ViewTables} {event : CollectibleRevoked} {issued : CollectibleEventRow}
    (h : revocableEvent v event = some issued) :
    issued.collectibleId = event.collectibleId ∧ ∃ i ∈ v.collectibleInstance,
      i.id = event.collectibleId ∧ i.issuedEventId = event.issuedEventId ∧ i.state = .finalized := by
  unfold revocableEvent at h
  split at h
  · rename_i e i hevent hinstance
    obtain ⟨-, hid⟩ := Table.find?_eq_some.mp hevent
    obtain ⟨hi, hcollectible⟩ := Table.find?_eq_some.mp hinstance
    split at h
    · rename_i hmatch
      obtain rfl := Option.some.inj h
      exact ⟨hmatch.2.1, i, hi, hcollectible, hmatch.2.2.1.trans hid, hmatch.2.2.2⟩
    · cases h
  · cases h

/-- **What a revocation does**: nothing, or its event is inserted and the finalized instance that
it names is revoked by it. -/
theorem materializeCollectibleRevocation_spec {operation : OperationRow} {event : CollectibleRevoked}
    (hok : materializeCollectibleRevocation R t operation event vx = .ok vx') :
    vx' = vx ∨ ∃ e occurredAt, ∃ i ∈ vx.views.collectibleInstance, i.state = .finalized ∧
      i.id = event.collectibleId ∧ i.issuedEventId = event.issuedEventId ∧
      e.eventId = event.eventId ∧ e.eventType = .revoked ∧ e.collectibleId = i.id ∧
      (∀ e', e' ∈ vx'.views.collectibleEvent ↔ e' ∈ vx.views.collectibleEvent ∨ e' = e) ∧
      ∀ j, j ∈ vx'.views.collectibleInstance ↔ (j ∈ vx.views.collectibleInstance ∧ j ≠ i) ∨
        j = { i with
          state := .revoked, revokedEventId := some event.eventId, revokedAt := some occurredAt } := by
  simp only [materializeCollectibleRevocation, bind_eq_ok] at hok
  obtain ⟨occurredAt, -, inserted, hinserted, hok⟩ := hok
  cases inserted with
  | none => exact .inl (pure_eq_ok.mp hok).symm
  | some p =>
    obtain ⟨row, mid⟩ := p
    obtain ⟨hhead, -, hinstances, hevents⟩ := insertCollectibleEvent_some hinserted
    simp only [bind_eq_ok, Table.update_eq_ok, pure_eq_ok] at hok
    obtain ⟨table, ⟨-, rfl⟩, rfl⟩ := hok
    unfold revokedEventRows at hhead
    split at hhead
    · cases hhead
    · rename_i issued hrevocable
      obtain ⟨hcollectible, i, hi, hid, hissued, hstate⟩ := revocableEvent_eq_some hrevocable
      have hrow : row.eventId = event.eventId ∧ row.eventType = .revoked ∧
          row.collectibleId = issued.collectibleId := by
        rw [← Option.some.inj hhead]
        exact ⟨rfl, rfl, rfl⟩
      refine .inr ⟨row, occurredAt, i, hi, hstate, hid, hissued, hrow.1, hrow.2.1,
        hrow.2.2.trans (hcollectible.trans hid.symm), hevents, fun j => ?_⟩
      rw [hinstances]
      have hmatch : i.id = event.collectibleId ∧ i.issuedEventId = event.issuedEventId ∧
          i.state = .finalized := ⟨hid, hissued, hstate⟩
      constructor
      · intro hj
        rcases Table.mem_modify_cases hj with ⟨old, hold, hsame, rfl⟩ | ⟨hj, hother⟩
        · obtain rfl := Table.eq_of_key hold hi (hsame.1.trans hid.symm)
          exact .inr rfl
        · exact .inl ⟨hj, fun heq => hother (heq ▸ hmatch)⟩
      · rintro (⟨hj, hne⟩ | rfl)
        · refine Table.mem_modify_of_not hj fun hsame => hne ?_
          exact Table.eq_of_key hj hi (hsame.1.trans hid.symm)
        · exact Table.mem_modify_of hi hmatch

/-! ### Results leave the collectibles alone -/

theorem SameCollectibles.refl (v : ViewTables) : SameCollectibles v v := ⟨rfl, rfl⟩

theorem SameCollectibles.trans {v v' v'' : ViewTables} (h : SameCollectibles v v')
    (h' : SameCollectibles v' v'') : SameCollectibles v v'' :=
  ⟨h'.1.trans h.1, h'.2.trans h.2⟩

theorem insertMatchResult_collectibles {row : MatchResultRow}
    (hok : insertMatchResult R t row vx = .ok vx') : SameCollectibles vx.views vx'.views := by
  simp only [insertMatchResult, bind_eq_ok, exists_unit] at hok
  obtain ⟨-, hok⟩ := hok
  split at hok
  · obtain rfl := pure_eq_ok.mp hok
    exact .refl _
  · simp only [bind_eq_ok, exists_unit, pure_eq_ok] at hok
    obtain ⟨-, table, -, rfl⟩ := hok
    exact .refl _

theorem materializeResultsFrom_collectibles {ids : ℕ → Uuid} {eventId : Uuid} :
    ∀ {results : List MatchResult} {position : ℕ} {vx vx' : ViewTx},
      materializeResultsFrom R game t ids eventId time position results vx = .ok vx' →
        SameCollectibles vx.views vx'.views
  | [], _, vx, vx', hok => by
    obtain rfl : vx = vx' := by simpa [materializeResultsFrom] using hok
    exact .refl _
  | result :: results, position, vx, vx', hok => by
    simp only [materializeResultsFrom, materializeInitialMatchResult, bind_eq_ok, exists_unit] at hok
    obtain ⟨mid, ⟨-, -, -, hmid⟩, hok⟩ := hok
    have hfirst : SameCollectibles vx.views mid.views := by
      split at hmid
      · have hinsert := insertMatchResult_collectibles hmid
        exact hinsert
      · obtain rfl := pure_eq_ok.mp hmid
        exact .refl _
    exact hfirst.trans (materializeResultsFrom_collectibles hok)

theorem insertMatchResultChange_collectibles {row : MatchResultChangeRow} {inserted : ViewTx}
    (hok : insertMatchResultChange R game t row vx = .ok (some inserted)) :
    SameCollectibles vx.views inserted.views := by
  simp only [insertMatchResultChange, bind_eq_ok, exists_unit] at hok
  obtain ⟨-, -, hok⟩ := hok
  split at hok
  · cases pure_eq_ok.mp hok
  · simp only [bind_eq_ok, exists_unit, pure_eq_ok, Option.some.injEq] at hok
    obtain ⟨-, -, table, -, rfl⟩ := hok
    exact .refl _

theorem advanceMatchResult_collectibles {id supersedesEventId : Uuid}
    {set : Table.Assignment MatchResultRow.id}
    (hok : advanceMatchResult R t id supersedesEventId set vx = .ok vx') :
    SameCollectibles vx.views vx'.views := by
  simp only [advanceMatchResult, bind_eq_ok, pure_eq_ok] at hok
  obtain ⟨table, -, rfl⟩ := hok
  exact .refl _

theorem materializeMatchInvalidation_collectibles {event : MatchResultInvalidated}
    (hok : materializeMatchInvalidation R game t event vx = .ok vx') :
    SameCollectibles vx.views vx'.views := by
  unfold materializeMatchInvalidation at hok
  split at hok
  · obtain rfl := pure_eq_ok.mp hok
    exact .refl _
  · simp only [bind_eq_ok] at hok
    obtain ⟨changed, hchanged, hok⟩ := hok
    cases changed with
    | none =>
      obtain rfl := pure_eq_ok.mp hok
      exact .refl _
    | some inserted =>
      exact (insertMatchResultChange_collectibles hchanged).trans (advanceMatchResult_collectibles hok)

end Statements

/-! ### One operation -/

section Steps

variable {R : Runtime} {game : GameTables} {owners : String → Uuid → Prop} {v v' : ViewTables}
variable {operation : OperationRow}

theorem collectiblesMatched_empty :
    CollectiblesMatched owners ⟨Table.empty, Table.empty, Table.empty, Table.empty⟩ where
  issuance _ hi := absurd hi Table.not_mem_empty
  issued _ he := absurd he Table.not_mem_empty
  revocation _ hi := absurd hi Table.not_mem_empty
  revoked _ he := absurd he Table.not_mem_empty

theorem SameCollectibles.step (hm : CollectiblesMatched owners v) (hsame : SameCollectibles v v') :
    CollectibleStep R game owners v operation v' where
  event_kept e he := by
    rw [hsame.1]
    exact he
  instance_kept i hi := by
    rw [hsame.2]
    exact .inl hi
  instance_new i hi hnew := by
    rw [hsame.2] at hi
    exact absurd rfl (hnew i hi)
  event_new e he hnew _ := by
    rw [hsame.1] at he
    exact absurd he hnew
  reuse _ _ _ _ := hsame
  matched := by
    obtain ⟨hevents, hinstances⟩ := hsame
    constructor
    · rw [hevents, hinstances]
      exact hm.issuance
    · rw [hevents, hinstances]
      exact hm.issued
    · rw [hevents, hinstances]
      exact hm.revocation
    · rw [hevents, hinstances]
      exact hm.revoked

theorem CollectiblesMatched.issue {event : CollectibleIssued} {row : CollectibleEventRow}
    {i : CollectibleInstanceRow} {player : PlayerRef} (hm : CollectiblesMatched owners v)
    (hissues : Issues R operation event) (hof : IssuanceOf owners row i) (hid : row.eventId = event.eventId)
    (hcollectible : row.collectibleId = event.collectibleId)
    (hownerName : row.ownerHiveUsername = event.owner.name)
    (hpayment : row.paymentTransactionId ∈ citedPayments game event)
    (hplayer : game.player.find? event.owner.name = some player) (howner : i.ownerPlayerId = player.id)
    (hstate : i.state = .finalized)
    (hfresh : ¬ ReusesCollectible v event) (hunpaid : ¬ ReusesPayment game v event)
    (hevents : ∀ e, e ∈ v'.collectibleEvent ↔ e ∈ v.collectibleEvent ∨ e = row)
    (hinstances : ∀ j, j ∈ v'.collectibleInstance ↔ j ∈ v.collectibleInstance ∨ j = i) :
    CollectibleStep R game owners v operation v' where
  event_kept e he := (hevents e).mpr (.inl he)
  instance_kept j hj := .inl ((hinstances j).mpr (.inl hj))
  instance_new j hj hnew := by
    rcases (hinstances j).mp hj with hj | rfl
    · exact absurd rfl (hnew j hj)
    · refine ⟨hstate, event, player, hissues, hof.collectible.symm.trans hcollectible,
        hof.event.symm.trans hid, hplayer, howner, ?_⟩
      rw [← hof.payment]
      exact hpayment
  event_new e he hnew _ := by
    rcases (hevents e).mp he with he | rfl
    · exact absurd he hnew
    · exact ⟨event, hissues, hid, hcollectible, hownerName, hpayment⟩
  reuse other hother _ hreuse := by
    obtain rfl : event = other := by
      have hsame := hissues.symm.trans hother
      exact HiveChameleonEvent.collectibleIssued.inj (Except.ok.inj hsame)
    rcases hreuse with hreuse | hreuse
    · exact absurd hreuse hfresh
    · exact absurd hreuse hunpaid
  matched := by
    refine ⟨fun j hj => ?_, fun e he htype => ?_, fun j hj hrevoked => ?_, fun e he htype => ?_⟩
    · rcases (hinstances j).mp hj with hj | rfl
      · obtain ⟨e, he, hof'⟩ := hm.issuance j hj
        exact ⟨e, (hevents e).mpr (.inl he), hof'⟩
      · exact ⟨row, (hevents row).mpr (.inr rfl), hof⟩
    · rcases (hevents e).mp he with he | rfl
      · obtain ⟨j, hj, hof'⟩ := hm.issued e he htype
        exact ⟨j, (hinstances j).mpr (.inl hj), hof'⟩
      · exact ⟨i, (hinstances i).mpr (.inr rfl), hof⟩
    · rcases (hinstances j).mp hj with hj | rfl
      · obtain ⟨e, he, hof'⟩ := hm.revocation j hj hrevoked
        exact ⟨e, (hevents e).mpr (.inl he), hof'⟩
      · rw [hstate] at hrevoked
        cases hrevoked
    · rcases (hevents e).mp he with he | rfl
      · obtain ⟨j, hj, hof'⟩ := hm.revoked e he htype
        exact ⟨j, (hinstances j).mpr (.inl hj), hof'⟩
      · rw [hof.type] at htype
        cases htype

theorem CollectiblesMatched.revoke {event : CollectibleRevoked} {row : CollectibleEventRow}
    {i : CollectibleInstanceRow} {time : Timestamp} (hm : CollectiblesMatched owners v)
    (hrevokes : Revokes R operation event) (hi : i ∈ v.collectibleInstance)
    (hstate : i.state = .finalized) (hid : i.id = event.collectibleId)
    (hissued : i.issuedEventId = event.issuedEventId) (hrow : row.eventId = event.eventId)
    (htype : row.eventType = .revoked) (hcollectible : row.collectibleId = i.id)
    (hevents : ∀ e, e ∈ v'.collectibleEvent ↔ e ∈ v.collectibleEvent ∨ e = row)
    (hinstances : ∀ j, j ∈ v'.collectibleInstance ↔ (j ∈ v.collectibleInstance ∧ j ≠ i) ∨
      j = { i with
        state := .revoked, revokedEventId := some event.eventId, revokedAt := some time }) :
    CollectibleStep R game owners v operation v' where
  event_kept e he := (hevents e).mpr (.inl he)
  instance_kept j hj := by
    by_cases hsame : j = i
    · subst hsame
      exact .inr ⟨hstate, event, time, hrevokes, hid.symm, hissued.symm, (hinstances _).mpr (.inr rfl)⟩
    · exact .inl ((hinstances j).mpr (.inl ⟨hj, hsame⟩))
  instance_new j hj hnew := by
    rcases (hinstances j).mp hj with ⟨hj, -⟩ | rfl
    · exact absurd rfl (hnew j hj)
    · exact absurd rfl (hnew i hi)
  event_new e he hnew hissue := by
    rcases (hevents e).mp he with he | rfl
    · exact absurd he hnew
    · rw [htype] at hissue
      cases hissue
  reuse other hother _ _ := by
    have hsame := hrevokes.symm.trans hother
    cases Except.ok.inj hsame
  matched := by
    refine ⟨fun j hj => ?_, fun e he hissue => ?_, fun j hj hrevoked => ?_, fun e he hrevoked => ?_⟩
    · rcases (hinstances j).mp hj with ⟨hj, -⟩ | rfl
      · obtain ⟨e, he, hof⟩ := hm.issuance j hj
        exact ⟨e, (hevents e).mpr (.inl he), hof⟩
      · obtain ⟨e, he, hof⟩ := hm.issuance i hi
        exact ⟨e, (hevents e).mpr (.inl he), hof.event, hof.type, hof.owner, hof.collectible,
          hof.collectibleDefinition, hof.payment⟩
    · rcases (hevents e).mp he with he | rfl
      · obtain ⟨j, hj, hof⟩ := hm.issued e he hissue
        by_cases hsame : j = i
        · subst hsame
          exact ⟨_, (hinstances _).mpr (.inr rfl), hof.event, hof.type, hof.owner, hof.collectible,
            hof.collectibleDefinition, hof.payment⟩
        · exact ⟨j, (hinstances j).mpr (.inl ⟨hj, hsame⟩), hof⟩
      · rw [htype] at hissue
        cases hissue
    · rcases (hinstances j).mp hj with ⟨hj, -⟩ | rfl
      · obtain ⟨e, he, hof⟩ := hm.revocation j hj hrevoked
        exact ⟨e, (hevents e).mpr (.inl he), hof⟩
      · exact ⟨row, (hevents row).mpr (.inr rfl), by rw [hrow], htype, hcollectible, rfl⟩
    · rcases (hevents e).mp he with he | rfl
      · obtain ⟨j, hj, hof⟩ := hm.revoked e he hrevoked
        -- a revoked instance is not the one that is revoked now
        have hne : j ≠ i := by
          rintro rfl
          rw [hof.state] at hstate
          cases hstate
        exact ⟨j, (hinstances j).mpr (.inl ⟨hj, hne⟩), hof⟩
      · exact ⟨_, (hinstances _).mpr (.inr rfl), by rw [hrow], htype, hcollectible, rfl⟩

variable {t : ChainTables} {ids : ℕ → Uuid} {time : Timestamp}

/-- **One operation** keeps the tables matched, unless it reissues. -/
theorem CollectiblesMatched.materialize (hm : CollectiblesMatched owners v)
    (hnames : ∀ name player, game.player.find? name = some player → owners name player.id)
    (hnot : ∀ event, ¬ Reissues R game v operation event)
    (h : MaterializeStep R game t ids time v operation v') : CollectibleStep R game owners v operation v' := by
  obtain ⟨vx, vx', hok, rfl, rfl⟩ := h
  simp only [materializeOperation, bind_eq_ok] at hok
  obtain ⟨event, hevent, hok⟩ := hok
  have hquiet : SameCollectibles vx.views vx'.views →
      CollectibleStep R game owners vx.views operation vx'.views := fun hsame => hsame.step hm
  cases event with
  | matchResultsBatch e =>
    dsimp only at hok
    split at hok
    · obtain rfl := pure_eq_ok.mp hok
      exact hquiet (.refl _)
    · exact hquiet (materializeResultsFrom_collectibles hok)
  | matchResultCorrected e =>
    dsimp only at hok
    split at hok
    · obtain rfl := pure_eq_ok.mp hok
      exact hquiet (.refl _)
    · cases (materializeMatchCorrection_eq ..).symm.trans hok
  | matchResultInvalidated e =>
    dsimp only at hok
    split at hok
    · obtain rfl := pure_eq_ok.mp hok
      exact hquiet (.refl _)
    · exact hquiet (materializeMatchInvalidation_collectibles hok)
  | collectibleIssued e =>
    rcases materializeCollectibleIssue_spec hok with ⟨rfl, -⟩ |
      ⟨hsigned, hknown, hnew, row, occurredAt, hhead, hevents, hinstance⟩
    · exact hquiet (.refl _)
    · rcases hinstance with ⟨hreuse, -⟩ | ⟨hfresh, hunpaid, player, transactionId, hplayer, hinstances⟩
      · exact absurd ⟨hevent, hsigned, hknown, hnew, hreuse⟩ (hnot e)
      · obtain ⟨hid, htype, hcollectible, howner, hpayment, -⟩ := issuedEventRows_head hhead
        exact hm.issue hevent ⟨rfl, htype, howner ▸ hnames _ _ hplayer, rfl, rfl, rfl⟩ hid hcollectible howner
          (List.mem_of_head? hpayment) hplayer rfl rfl hfresh hunpaid hevents hinstances
  | collectibleRevoked e =>
    rcases materializeCollectibleRevocation_spec hok with rfl |
      ⟨row, occurredAt, i, hi, hstate, hid, hissued, hrow, htype, hcollectible, hevents, hinstances⟩
    · exact hquiet (.refl _)
    · exact hm.revoke hevent hi hstate hid hissued hrow htype hcollectible hevents hinstances

theorem CollectibleStep.not_reissues (hstep : CollectibleStep R game owners v operation v')
    (h : MaterializeStep R game t ids time v operation v') (event : CollectibleIssued) :
    ¬ Reissues R game v operation event := by
  rintro ⟨hissues, hsigned, hknown, hnew, hreuse⟩
  have hsame := hstep.reuse event hissues hnew (.inl hreuse)
  obtain ⟨vx, vx', hok, rfl, rfl⟩ := h
  simp only [materializeOperation, bind_eq_ok] at hok
  obtain ⟨parsed, hparsed, hok⟩ := hok
  obtain rfl := Except.ok.inj (hissues.symm.trans hparsed)
  rcases materializeCollectibleIssue_spec hok with ⟨-, hskipped⟩ |
    ⟨-, -, -, row, occurredAt, hhead, hevents, -⟩
  · rcases hskipped with hunsigned | hunknown | hold
    · exact hsigned hunsigned
    · exact hunknown hknown
    · exact hold hnew
  · have hin : row ∈ vx.views.collectibleEvent := by
      rw [← hsame.1]
      exact (hevents row).mpr (.inr rfl)
    exact hnew row hin (issuedEventRows_head hhead).1

end Steps

/-! ### Runs -/

section Runs

variable {R : Runtime} {source : String} {db : Db}

/-- The player had this name when one of the steps was taken. -/
def NamedIn (ts : List (Transition Db DbCall)) (username : String) (playerId : Uuid) : Prop :=
  ∃ t ∈ ts, ∃ player, t.pre.game.player.find? username = some player ∧ player.id = playerId

/-- **The collectibles of a step**: matched before and after it, and changed by the operations that
it materializes only, each as `CollectibleStep` says. -/
structure CollectiblesKept (R : Runtime) (source : String) (owners : String → Uuid → Prop)
    (t : Transition Db DbCall) : Prop where
  pre : CollectiblesMatched owners t.pre.views
  post : CollectiblesMatched owners t.post.views
  steps : Run (CollectibleStep R t.pre.game owners) t.pre.views (t.label.materialized R source t.pre)
    t.post.views

/-- No operation that the step materializes reissues. -/
def NoReissue (R : Runtime) (source : String) (t : Transition Db DbCall) : Prop :=
  ∀ m ∈ t.label.materialized R source t.pre, ∀ event, ¬ Reissues R t.pre.game m.pre m.label event

theorem CollectiblesMatched.step {owners : String → Uuid → Prop} {db' : Db} {call : DbCall}
    (hm : CollectiblesMatched owners db.views)
    (hnames : ∀ name player, db.game.player.find? name = some player → owners name player.id)
    (hstep : CallStep R source db call db') (hnot : NoReissue R source ⟨db, call, db'⟩) :
    CollectiblesKept R source owners ⟨db, call, db'⟩ := by
  obtain ⟨t, ids, time, hrun⟩ := hstep.views_run
  obtain ⟨hlast, hall⟩ := hrun.invariant
    (G := fun m => ∀ event, ¬ Reissues R db.game m.pre m.label event)
    (fun v operation v' hv hG hl => (hv.materialize hnames hG hl).matched) hm hnot
  refine ⟨hm, hlast, hrun.of_steps fun m hmem => ?_⟩
  exact (hall m hmem).1.materialize hnames (hnot m hmem) (hrun.step_of_mem m hmem)

/-- **Issuances and collectibles correspond**, in every state that calls lead to, exactly when no
finalization reissues a collectible. -/
theorem collectibles_iff {game : GameTables} {ts : List (Transition Db DbCall)}
    (hrun : Run (CallStep R source) (Db.fresh game) ts db) :
    (∀ t ∈ ts, CollectiblesKept R source (NamedIn ts) t) ↔ ∀ t ∈ ts, NoReissue R source t := by
  constructor
  · intro hkept t ht m hm event
    have hstep := (hkept t ht).steps.step_of_mem m hm
    obtain ⟨tables, ids, time, hviews⟩ := (hrun.step_of_mem t ht).views_run
    exact hstep.not_reissues (hviews.step_of_mem m hm) event
  · intro hnot
    have hnames : ∀ t ∈ ts, ∀ name player, t.pre.game.player.find? name = some player →
        NamedIn ts name player.id := fun t ht name player hfind => ⟨t, ht, player, hfind, rfl⟩
    obtain ⟨-, hall⟩ := hrun.invariant (I := fun db => CollectiblesMatched (NamedIn ts) db.views)
      (G := fun t => NoReissue R source t ∧ ∀ name player, t.pre.game.player.find? name = some player →
        NamedIn ts name player.id)
      (fun m l m' hm hG hl => (hm.step hG.2 hl hG.1).post) collectiblesMatched_empty
      (fun t ht => ⟨hnot t ht, hnames t ht⟩)
    exact fun t ht => (hall t ht).1.step (hnames t ht) (hrun.step_of_mem t ht) (hnot t ht)

end Runs

/-! ### A collectible that is issued twice -/

theorem StoreCall.perform_callStep {cfg : ProjectorConfig} {source : String} {db db' : Db}
    {call : StoreCall} (h : call.perform cfg source db = some db') :
    ∃ c, CallStep cfg.runtime source db c db' := by
  cases call with
  | apply base block operations =>
    dsimp only [StoreCall.perform] at h
    split at h
    · rename_i decisions hdecisions
      refine ⟨.applyBlock block decisions (fun k => ⟨base + k⟩) 0, .inl ?_⟩
      exact toOption_eq_some.mp h
    · cases h
  | finalize base blockNumber time =>
    refine ⟨.finalizeThrough blockNumber (fun k => ⟨base + k⟩) time, .inl ?_⟩
    exact toOption_eq_some.mp h

theorem performAll_calls {cfg : ProjectorConfig} {source : String} : ∀ {calls : List StoreCall}
    {db db' : Db}, performAll cfg source db calls = some db' →
      ∃ ts, Run (CallStep cfg.runtime source) db ts db'
  | [], db, db', h => by
    obtain rfl := Option.some.inj h
    exact ⟨[], .refl db⟩
  | call :: calls, db, db', h => by
    obtain ⟨mid, hmid, h⟩ := Option.bind_eq_some_iff.mp h
    obtain ⟨c, hstep⟩ := StoreCall.perform_callStep hmid
    obtain ⟨ts, hrun⟩ := performAll_calls h
    exact ⟨_, (Run.single hstep).append hrun⟩

def exampleIssuer : HiveAccount := ⟨"issuer", by decide⟩

/-- An issuance of one collectible to one player. -/
def exampleIssuance (eventId : Uuid) : CollectibleIssued where
  eventId := eventId
  occurredAt := ⟨"2026-07-16T00:00:00.000Z"⟩
  collectibleId := ⟨60⟩
  definitionId := "founder_badge"
  kind := .badge
  owner := ⟨"player", by decide⟩
  issuer := exampleIssuer
  reason := ⟨"season_reward", by decide⟩
  metadataUri := "https://assets.example/founder.json"
  metadataSha256 := exampleSha256
  paymentTxId := none

def exampleRevocation (eventId issuedEventId : Uuid) : CollectibleRevoked where
  eventId := eventId
  occurredAt := ⟨"2026-07-16T00:00:00.000Z"⟩
  collectibleId := ⟨60⟩
  issuedEventId := issuedEventId
  reasonCode := ⟨"issued_in_error", by decide⟩

/-- The catalog and the player. -/
def exampleCatalog : GameTables where
  gameRound := .empty
  roundResultRevision := .empty
  mapVersion := .empty
  mapAsset := .empty
  collectibleDefinition := ⟨[⟨⟨61⟩, "founder_badge", .badge, "https://assets.example/founder.json",
    exampleSha256.hex⟩], by decide⟩
  player := ⟨[⟨⟨62⟩, "player", by decide⟩], by decide⟩
  paymentTransaction := .empty

def exampleIssuerConfig : ProjectorConfig :=
  exampleConfig (exampleRuntime [("issuance", .collectibleIssued (exampleIssuance ⟨63⟩)),
    ("reissuance", .collectibleIssued (exampleIssuance ⟨64⟩)),
    ("revocation", .collectibleRevoked (exampleRevocation ⟨65⟩ ⟨63⟩))])

/-- The operation of the issuer that publishes a text in a block. -/
def issuerOperation (id txId : String) (block : HafBlock) (json : String) : HafOperation :=
  { exampleOperation id txId 0 block json with
    value := .customJson [] [exampleIssuer] hiveChameleonApplicationId json }

/-- The first text is finalized, then the second. -/
def issuerCalls (first second : String) : List StoreCall :=
  [.apply 100 (chainBlock 1) [issuerOperation "op1" "tx1" (chainBlock 1) first],
    .finalize 200 1 10,
    .apply 300 (chainBlock 2) [issuerOperation "op2" "tx2" (chainBlock 2) second],
    .finalize 400 2 20]

theorem collectibles_iff_revoked :
    ∃ ts db, Run (CallStep exampleIssuerConfig.runtime "haf") (Db.fresh exampleCatalog) ts db ∧
      (∃ i ∈ db.views.collectibleInstance.rows, i.state = .revoked) ∧
        ((∀ t ∈ ts, CollectiblesKept exampleIssuerConfig.runtime "haf" (NamedIn ts) t) ↔
          ∀ t ∈ ts, NoReissue exampleIssuerConfig.runtime "haf" t) := by
  have hrevoked : (performAll exampleIssuerConfig "haf" (Db.fresh exampleCatalog)
      (issuerCalls "issuance" "revocation")).any
        (fun db => db.views.collectibleInstance.rows.any fun i => i.state = .revoked) = true := by
    decide +kernel
  obtain ⟨db, hperform, hany⟩ := (Option.any_eq_true _ _).mp hrevoked
  obtain ⟨ts, hrun⟩ := performAll_calls hperform
  obtain ⟨i, hi, hstate⟩ := List.any_eq_true.mp hany
  exact ⟨ts, db, hrun, ⟨i, hi, of_decide_eq_true hstate⟩, collectibles_iff hrun⟩

/-- A second issuance of the collectible is accepted and has no instance. -/
theorem not_kept_of_reissuance :
    ∃ ts db, Run (CallStep exampleIssuerConfig.runtime "haf") (Db.fresh exampleCatalog) ts db ∧
      (∃ e ∈ db.views.collectibleEvent.rows, e.eventType = .issued ∧
        ∀ i ∈ db.views.collectibleInstance.rows, i.issuedEventId ≠ e.eventId) ∧
        ¬ ∀ t ∈ ts, CollectiblesKept exampleIssuerConfig.runtime "haf" (NamedIn ts) t := by
  have horphan : (performAll exampleIssuerConfig "haf" (Db.fresh exampleCatalog)
      (issuerCalls "issuance" "reissuance")).any
        (fun db => db.views.collectibleEvent.rows.any fun e => e.eventType = .issued &&
          db.views.collectibleInstance.rows.all fun i => i.issuedEventId ≠ e.eventId) = true := by
    decide +kernel
  obtain ⟨db, hperform, hany⟩ := (Option.any_eq_true _ _).mp horphan
  obtain ⟨ts, hrun⟩ := performAll_calls hperform
  obtain ⟨e, he, horphaned⟩ := List.any_eq_true.mp hany
  simp only [Bool.and_eq_true, decide_eq_true_eq, List.all_eq_true] at horphaned
  refine ⟨ts, db, hrun, ⟨e, he, horphaned⟩, fun hkept => ?_⟩
  obtain ⟨hmatched, -⟩ := hrun.pre_of_post (P := fun db => CollectiblesMatched (NamedIn ts) db.views)
    collectiblesMatched_empty fun t ht => (hkept t ht).post
  obtain ⟨i, hi, hof⟩ := hmatched.issued e he horphaned.1
  exact horphaned.2 i hi hof.event.symm

end HiveChameleon.Projector
