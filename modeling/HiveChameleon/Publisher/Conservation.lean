import HiveChameleon.Publisher.Planning
import Mathlib.Data.List.Range

/-!
# Publisher.Conservation — every publication request is in one place

Freezing, deferring and reconciling move requests between their states; any number of workers and
the projector interleave.  A request has at most one item, has one exactly when it is batched or
published, and the items of a batch stand in the order of its payload.
-/

namespace HiveChameleon.Publisher

open Gateway Lib Nakama

/-! ### The system -/

inductive PublisherLabel (ι : Type) where
  | other (l : PublicationLabel ι)
  | freezeNextBatch (call : FreezeCall) (frozen : Option FrozenMatchBatch)

/-- The steps that a call of `freezeNextBatch` takes the place of. -/
def PublicationLabel.Freezing {ι : Type} : PublicationLabel ι → Prop
  | .freeze _ _ _ _ => True
  | .defer _ _ _ _ => True
  | _ => False

/-- One step: a serializable call of `freezeNextBatch` with what its query returned, or a step of
the projector, of a recorded request, or of a worker with an attempt. -/
inductive PublisherStep {ι : Type} [DecidableEq ι] (P : PlannerConfig) (source : String) :
    PublicationSys ι → PublisherLabel ι → PublicationSys ι → Prop where
  | other {S S' : PublicationSys ι} {l : PublicationLabel ι} (hother : ¬ l.Freezing)
      (h : PublicationStep P.runtime source S l S') : PublisherStep P source S (.other l) S'
  | freezeNextBatch {S : PublicationSys ι} {call : FreezeCall} {frozen : Option FrozenMatchBatch}
      {p : PublicationTables} (hrows : CandidateRows S.tables call)
      (h : freezeCandidates P call S.tables = .ok (frozen, p)) :
      PublisherStep P source S (.freezeNextBatch call frozen) { S with tables := p }

/-! ### The law -/

/-- The items of an outbox row. -/
def itemsOf (p : PublicationTables) (outboxId : Uuid) : List PublicationItemRow :=
  p.item.rows.filter fun item => item.outboxId = outboxId

/-- The items of the row stand at `0 … n-1`, in the order of the results in its payload. -/
structure InOrder (R : PublisherRuntime) (p : PublicationTables) (row : OutboxRow) : Prop where
  positions : (itemsOf p row.id).map (·.resultPosition) = List.range row.resultCount
  payload : ∃ batch, parseHiveChameleonEvent R.toRuntime row.canonicalPayload =
    .ok (.matchResultsBatch batch) ∧
      batch.results.map (·.roundId) = (itemsOf p row.id).map (·.roundId)

/-- **Conservation of requests.** -/
structure Conserved (R : PublisherRuntime) (p : PublicationTables) : Prop where
  one_item : ∀ a ∈ p.item, ∀ b ∈ p.item, a.publicationRequestId = b.publicationRequestId → a = b
  owned : ∀ item ∈ p.item, ∃ row ∈ p.outbox, row.id = item.outboxId
  requested : ∀ item ∈ p.item, ∃ request ∈ p.request, request.id = item.publicationRequestId ∧
    request.roundId = item.roundId
  batched_iff : ∀ request ∈ p.request, request.state = .batched ∨ request.state = .published ↔
    ∃ item ∈ p.item, item.publicationRequestId = request.id
  published : ∀ request ∈ p.request, request.state = .published → ∀ item ∈ p.item,
    item.publicationRequestId = request.id →
      ∃ row ∈ p.outbox, row.id = item.outboxId ∧ row.state = .irreversible
  ordered : ∀ row ∈ p.outbox, InOrder R p row

section

variable {R : PublisherRuntime} {p p' : PublicationTables}

theorem conserved_fresh : Conserved R .fresh where
  one_item _ h := absurd h Table.not_mem_empty
  owned _ h := absurd h Table.not_mem_empty
  requested _ h := absurd h Table.not_mem_empty
  batched_iff _ h := absurd h Table.not_mem_empty
  published _ h := absurd h Table.not_mem_empty
  ordered _ h := absurd h Table.not_mem_empty

theorem InOrder.congr {row row' : OutboxRow} (h : InOrder R p row) (hid : row'.id = row.id)
    (hcolumns : row'.toFrozenColumns = row.toFrozenColumns)
    (hitems : itemsOf p' row.id = itemsOf p row.id) : InOrder R p' row' where
  positions := by
    rw [hid, hitems, congrArg FrozenColumns.resultCount hcolumns]
    exact h.positions
  payload := by
    rw [hid, hitems, congrArg FrozenColumns.canonicalPayload hcolumns]
    exact h.payload

/-- Changing outbox rows, but not what is frozen in them, where irreversible rows stay so. -/
theorem Conserved.modifyOutbox (h : Conserved R p) {q : OutboxRow → Prop} [DecidablePred q]
    {set : Table.Assignment OutboxRow.id}
    (hframe : ∀ row, (set row).toFrozenColumns = row.toFrozenColumns)
    (hfinal : ∀ row ∈ p.outbox, q row → row.state = .irreversible →
      (set row).state = .irreversible) :
    Conserved R { p with outbox := p.outbox.modify q set } where
  one_item := h.one_item
  owned item hitem := by
    obtain ⟨row, hrow, hid⟩ := h.owned item hitem
    exact ⟨_, Table.updated_mem_modify hrow, (Table.key_updated row).trans hid⟩
  requested := h.requested
  batched_iff := h.batched_iff
  published request hrequest hstate item hitem hid := by
    obtain ⟨row, hrow, hrowId, hirreversible⟩ := h.published request hrequest hstate item hitem hid
    refine ⟨_, Table.updated_mem_modify hrow, (Table.key_updated row).trans hrowId, ?_⟩
    unfold Table.updated
    split
    · rename_i hq
      exact hfinal row hrow hq hirreversible
    · exact hirreversible
  ordered row' hrow' := by
    obtain ⟨row, hrow, rfl⟩ := Table.mem_modify.mp hrow'
    have hcolumns : (Table.updated q set row).toFrozenColumns = row.toFrozenColumns :=
      Table.updated_eq (g := fun row : OutboxRow => row.toFrozenColumns) hframe row
    exact (h.ordered row hrow).congr (Table.key_updated row) hcolumns rfl

theorem irreversible_of_transition {old new : OutboxRow}
    (h : hcFreezeMatchOutboxPayload old new = .ok ()) (hstate : old.state = .irreversible) :
    new.state = .irreversible := by
  rcases hcFreezeMatchOutboxPayload_transition h with heq | hin
  · rw [← heq, hstate]
  · rw [hstate] at hin
    exact absurd hin List.not_mem_nil

/-! ### Recorded and deferred requests -/

theorem Conserved.recordRequest (h : Conserved R p) {round : RoundRef} {revision : RevisionRef}
    {row : RequestRow} (hok : recordRequest round revision row p = .ok p') : Conserved R p' := by
  simp only [Publisher.recordRequest, bind_eq_ok, exists_unit, require_eq_ok, Table.insert_eq_ok,
    commit_eq_ok] at hok
  obtain ⟨⟨hqueued, -⟩, revisions, -, -, requests, ⟨hfresh, hrequests⟩, -, rfl⟩ := hok
  have hmem : ∀ request, request ∈ requests ↔ request ∈ p.request ∨ request = row := by
    intro request
    rw [Table.mem_def, hrequests, List.mem_append, List.mem_singleton, Table.mem_rows]
  have hnone : ∀ item ∈ p.item, item.publicationRequestId ≠ row.id := by
    intro item hitem heq
    obtain ⟨request, hrequest, hid, -⟩ := h.requested item hitem
    exact hfresh request hrequest (hid.trans heq)
  refine ⟨h.one_item, h.owned, fun item hitem => ?_, fun request hrequest => ?_,
    fun request hrequest hstate => ?_, fun row hrow => (h.ordered row hrow).congr rfl rfl rfl⟩
  · obtain ⟨request, hrequest, hrest⟩ := h.requested item hitem
    exact ⟨request, (hmem request).mpr (.inl hrequest), hrest⟩
  · rcases (hmem request).mp hrequest with hrequest | rfl
    · exact h.batched_iff request hrequest
    · constructor
      · intro hstate
        rw [hqueued] at hstate
        simp at hstate
      · rintro ⟨item, hitem, hid⟩
        exact absurd hid (hnone item hitem)
  · rcases (hmem request).mp hrequest with hrequest | rfl
    · exact h.published request hrequest hstate
    · rw [hqueued] at hstate
      cases hstate

theorem Conserved.deferCandidate (h : Conserved R p) {id : Uuid} {now : Timestamp}
    {code : PlanningErrorCode} (hok : deferCandidate id now code p = .ok p')
    (hnone : ∀ item ∈ p.item, item.publicationRequestId ≠ id) : Conserved R p' := by
  simp only [Publisher.deferCandidate, deferInvalidRequest, bind_eq_ok] at hok
  obtain ⟨tx, hupdate, hcommit⟩ := hok
  obtain ⟨-, rfl⟩ := updateRequests_eq_ok.mp hupdate
  obtain ⟨-, rfl⟩ := commit_eq_ok.mp hcommit
  refine ⟨h.one_item, h.owned, fun item hitem => ?_, fun request' hrequest' => ?_,
    fun request' hrequest' hstate item hitem hid => ?_,
    fun row hrow => (h.ordered row hrow).congr rfl rfl rfl⟩
  · obtain ⟨request, hrequest, hid, hround⟩ := h.requested item hitem
    refine ⟨request, Table.mem_modify_of_not hrequest ?_, hid, hround⟩
    rw [hid]
    exact hnone item hitem
  · rcases Table.mem_modify_cases hrequest' with ⟨request, hrequest, hid, rfl⟩ | ⟨hrequest, -⟩
    · constructor
      · intro hstate
        simp at hstate
      · rintro ⟨item, hitem, heq⟩
        exact absurd (heq.trans hid) (hnone item hitem)
    · exact h.batched_iff request' hrequest
  · rcases Table.mem_modify_cases hrequest' with ⟨request, hrequest, -, rfl⟩ | ⟨hrequest, -⟩
    · cases hstate
    · exact h.published request' hrequest hstate item hitem hid

/-! ### A frozen batch -/

/-- The items that a freeze inserts, from a position on. -/
def frozenItems (outboxId : Uuid) (ids : ℕ → Uuid) :
    ℕ → List MatchPublicationCandidate → List PublicationItemRow
  | _, [] => []
  | position, candidate :: candidates =>
    ⟨ids position, outboxId, candidate.publicationRequestId, candidate.roundId,
      candidate.resultRevisionId, position⟩ :: frozenItems outboxId ids (position + 1) candidates

theorem frozenItems_positions {outboxId : Uuid} {ids : ℕ → Uuid} :
    ∀ (position : ℕ) (candidates : List MatchPublicationCandidate),
      (frozenItems outboxId ids position candidates).map (·.resultPosition) =
        List.range' position candidates.length
  | _, [] => rfl
  | position, candidate :: candidates => by
    rw [frozenItems, List.map_cons, frozenItems_positions (position + 1) candidates,
      List.length_cons, List.range'_succ]

theorem frozenItems_rounds {outboxId : Uuid} {ids : ℕ → Uuid} :
    ∀ (position : ℕ) (candidates : List MatchPublicationCandidate),
      (frozenItems outboxId ids position candidates).map (·.roundId) = candidates.map (·.roundId)
  | _, [] => rfl
  | position, candidate :: candidates => by
    rw [frozenItems, List.map_cons, frozenItems_rounds (position + 1) candidates, List.map_cons]

theorem mem_frozenItems (outboxId : Uuid) (ids : ℕ → Uuid) :
    ∀ (position : ℕ) (candidates : List MatchPublicationCandidate),
      (∀ item ∈ frozenItems outboxId ids position candidates, item.outboxId = outboxId ∧
        ∃ c ∈ candidates, item.publicationRequestId = c.publicationRequestId ∧
          item.roundId = c.roundId) ∧
      ∀ c ∈ candidates, ∃ item ∈ frozenItems outboxId ids position candidates,
        item.publicationRequestId = c.publicationRequestId
  | _, [] => ⟨fun item hitem => absurd hitem List.not_mem_nil, fun c hc => absurd hc List.not_mem_nil⟩
  | position, candidate :: candidates => by
    obtain ⟨hitems, hcandidates⟩ := mem_frozenItems outboxId ids (position + 1) candidates
    constructor
    · intro item hitem
      rcases List.mem_cons.mp hitem with rfl | hitem
      · exact ⟨rfl, candidate, List.mem_cons_self, rfl, rfl⟩
      · obtain ⟨houtbox, c, hc, hsame⟩ := hitems item hitem
        exact ⟨houtbox, c, List.mem_cons_of_mem _ hc, hsame⟩
    · intro c hc
      rcases List.mem_cons.mp hc with rfl | hc
      · exact ⟨_, List.mem_cons_self, rfl⟩
      · obtain ⟨item, hitem, hid⟩ := hcandidates c hc
        exact ⟨item, List.mem_cons_of_mem _ hitem, hid⟩

theorem frozenItems_inj {outboxId : Uuid} {ids : ℕ → Uuid} :
    ∀ {position : ℕ} {candidates : List MatchPublicationCandidate}
      (_ : (candidates.map (·.publicationRequestId)).Nodup) {a b : PublicationItemRow},
      a ∈ frozenItems outboxId ids position candidates →
        b ∈ frozenItems outboxId ids position candidates →
          a.publicationRequestId = b.publicationRequestId → a = b
  | _, [], _, a, _, ha, _, _ => absurd ha List.not_mem_nil
  | position, candidate :: candidates, hnodup, a, b, ha, hb, heq => by
    obtain ⟨hnotin, hrest⟩ := List.nodup_cons.mp hnodup
    have hlater : ∀ item ∈ frozenItems outboxId ids (position + 1) candidates,
        item.publicationRequestId ≠ candidate.publicationRequestId := by
      intro item hitem hid
      obtain ⟨-, c, hc, hcid, -⟩ := (mem_frozenItems _ _ _ _).1 item hitem
      exact hnotin (List.mem_map.mpr ⟨c, hc, hcid.symm.trans hid⟩)
    rcases List.mem_cons.mp ha with rfl | ha <;> rcases List.mem_cons.mp hb with rfl | hb
    · rfl
    · exact absurd heq.symm (hlater b hb)
    · exact absurd heq (hlater a ha)
    · exact frozenItems_inj hrest ha hb heq

/-- The insert of one item: of a request of its round, which has none. -/
theorem insertItem_eq_ok {tx tx' : PublicationTx} {row : PublicationItemRow}
    (h : insertItem row tx = .ok tx') :
    ∃ table, tx'.tables = { tx.tables with item := table } ∧
      table.rows = tx.tables.item.rows ++ [row] ∧
      (∃ request ∈ tx.tables.request, request.id = row.publicationRequestId ∧
        request.roundId = row.roundId) ∧
      ∀ other ∈ tx.tables.item, other.publicationRequestId ≠ row.publicationRequestId := by
  simp only [insertItem, bind_eq_ok, exists_unit, require_eq_ok, pure_eq_ok, Table.insert_eq_ok] at h
  obtain ⟨hvalid, hrequest, -, table, ⟨-, hrows⟩, rfl⟩ := h
  refine ⟨table, rfl, hrows, ?_, hrequest⟩
  unfold hcValidatePublicationItem at hvalid
  split at hvalid
  · rename_i request revision outbox hfind _ _
    simp only [bind_eq_ok, exists_unit, require_eq_ok] at hvalid
    obtain ⟨hmem, hid⟩ := Table.find?_eq_some.mp hfind
    exact ⟨request, hmem, hid, hvalid.2.1⟩
  · cases hvalid

/-- The inserted items of a batch: each of a request of its round, and no request twice. -/
theorem insertItems_eq_ok {outboxId : Uuid} {ids : ℕ → Uuid} :
    ∀ {candidates : List MatchPublicationCandidate} {position : ℕ} {tx tx' : PublicationTx},
      insertItems outboxId ids position candidates tx = .ok tx' →
        ∃ table, tx'.tables = { tx.tables with item := table } ∧
          table.rows = tx.tables.item.rows ++ frozenItems outboxId ids position candidates ∧
          (∀ c ∈ candidates, (∃ request ∈ tx.tables.request,
              request.id = c.publicationRequestId ∧ request.roundId = c.roundId) ∧
            ∀ other ∈ tx.tables.item, other.publicationRequestId ≠ c.publicationRequestId) ∧
          (candidates.map (·.publicationRequestId)).Nodup
  | [], _, tx, tx', h => by
    obtain rfl : tx = tx' := Except.ok.inj h
    exact ⟨tx.tables.item, rfl, (List.append_nil _).symm, fun c hc => absurd hc List.not_mem_nil,
      List.nodup_nil⟩
  | candidate :: candidates, position, tx, tx', h => by
    simp only [insertItems, bind_eq_ok] at h
    obtain ⟨mid, hinsert, h⟩ := h
    obtain ⟨table, hmid, hrows, hrequest, hfresh⟩ := insertItem_eq_ok hinsert
    obtain ⟨table', htables, hrows', hall, hnodup⟩ := insertItems_eq_ok h
    rw [hmid] at htables hrows' hall
    refine ⟨table', htables, ?_, fun c hc => ?_, ?_⟩
    · rw [hrows', hrows, frozenItems, List.append_assoc, List.singleton_append]
    · rcases List.mem_cons.mp hc with rfl | hc
      · exact ⟨hrequest, hfresh⟩
      · obtain ⟨hrequest', hfresh'⟩ := hall c hc
        refine ⟨hrequest', fun other hother => hfresh' other ?_⟩
        rw [Table.mem_def, hrows]
        exact List.mem_append_left _ hother
    · rw [List.map_cons, List.nodup_cons]
      refine ⟨fun hmem => ?_, hnodup⟩
      obtain ⟨c, hc, hid⟩ := List.mem_map.mp hmem
      -- the item just inserted has the request already
      refine (hall c hc).2 ⟨ids position, outboxId, candidate.publicationRequestId, candidate.roundId,
        candidate.resultRevisionId, position⟩ ?_ hid.symm
      rw [Table.mem_def, hrows]
      exact List.mem_append_right _ (List.mem_singleton.mpr rfl)

/-- The requests that a freeze updates. -/
def Selected (frozen : FrozenMatchBatch) (row : RequestRow) : Prop :=
  row.id ∈ frozen.candidates.map (·.publicationRequestId) ∧
    (row.state = .queued ∨ row.state = .retryableFailed)

instance (frozen : FrozenMatchBatch) (row : RequestRow) : Decidable (Selected frozen row) :=
  inferInstanceAs (Decidable (_ ∧ _))

theorem RequestRow.batch_id (row : RequestRow) : row.batch.id = row.id := rfl

/-- **What a freeze does**: a new row, its items, and the requests of all its candidates batched. -/
structure FrozenInto (frozen : FrozenMatchBatch) (publisherAccount : String) (ids : ℕ → Uuid)
    (now : Timestamp) (p p' : PublicationTables) : Prop where
  outbox : p'.outbox.rows = p.outbox.rows ++ [frozenOutboxRow frozen publisherAccount now]
  outbox_fresh : ∀ row ∈ p.outbox, row.id ≠ frozen.outboxId
  item : p'.item.rows = p.item.rows ++ frozenItems frozen.outboxId ids 0 frozen.candidates
  request : p'.request = p.request.modify (Selected frozen) ⟨.batch, RequestRow.batch_id⟩
  item_fresh : ∀ c ∈ frozen.candidates, ∀ other ∈ p.item,
    other.publicationRequestId ≠ c.publicationRequestId
  selected : ∀ c ∈ frozen.candidates, ∃ request ∈ p.request, request.id = c.publicationRequestId ∧
    request.roundId = c.roundId ∧ Selected frozen request
  nodup : (frozen.candidates.map (·.publicationRequestId)).Nodup

theorem selected_of_count {frozen : FrozenMatchBatch} {requests : Table RequestRow (·.id)}
    (hcount : (requests.rows.filter fun row => Selected frozen row).length =
      (frozen.candidates.map (·.publicationRequestId)).length)
    {request : RequestRow} (hrequest : request ∈ requests)
    (hid : request.id ∈ frozen.candidates.map (·.publicationRequestId)) : Selected frozen request := by
  have hkeys : ((requests.rows.filter fun row => Selected frozen row).map (·.id)).Nodup :=
    requests.nodup_keys.sublist (List.filter_sublist.map _)
  have hsubset : ((requests.rows.filter fun row => Selected frozen row).map (·.id)) ⊆
      frozen.candidates.map (·.publicationRequestId) := by
    intro id hmem
    obtain ⟨row, hrow, rfl⟩ := List.mem_map.mp hmem
    exact (of_decide_eq_true (List.mem_filter.mp hrow).2 : Selected frozen row).1
  have hlength : (frozen.candidates.map (·.publicationRequestId)).length ≤
      ((requests.rows.filter fun row => Selected frozen row).map (·.id)).length := by
    simp only [List.length_map] at hcount ⊢
    exact hcount.ge
  have hperm := (List.subperm_of_subset hkeys hsubset).perm_of_length_le hlength
  obtain ⟨row, hrow, heq⟩ := List.mem_map.mp (hperm.mem_iff.mpr hid)
  obtain ⟨hmem, hselected⟩ := List.mem_filter.mp hrow
  obtain rfl := Table.eq_of_key hmem hrequest heq
  exact of_decide_eq_true hselected

theorem freezeNextBatch_spec {frozen : FrozenMatchBatch} {publisherAccount : String}
    {ids : ℕ → Uuid} {now : Timestamp}
    (h : freezeNextBatch frozen publisherAccount ids now p = .ok p') :
    FrozenInto frozen publisherAccount ids now p p' := by
  simp only [freezeNextBatch, insertOutbox, bind_eq_ok, exists_unit, require_eq_ok, pure_eq_ok,
    Table.insert_eq_ok] at h
  obtain ⟨tx₁, ⟨-, -, -, table, ⟨hkey, hrows⟩, rfl⟩, tx₂, hitems, tx₃, hrequests, hcount, hcommit⟩ := h
  obtain ⟨items, htables, hitemRows, hall, hnodup⟩ := insertItems_eq_ok hitems
  obtain ⟨-, rfl⟩ := updateRequests_eq_ok.mp hrequests
  obtain ⟨-, rfl⟩ := commit_eq_ok.mp hcommit
  have hcount : (p.request.rows.filter fun row => Selected frozen row).length =
      (frozen.candidates.map (·.publicationRequestId)).length := by
    rw [htables] at hcount
    exact hcount
  refine ⟨?_, hkey, ?_, ?_, fun c hc => (hall c hc).2, fun c hc => ?_, hnodup⟩
  · show tx₂.tables.outbox.rows = _
    rw [htables]
    exact hrows
  · show tx₂.tables.item.rows = _
    rw [htables]
    exact hitemRows
  · show tx₂.tables.request.modify _ _ = _
    rw [htables]
    rfl
  · obtain ⟨⟨request, hrequest, hid, hround⟩, -⟩ := hall c hc
    refine ⟨request, hrequest, hid, hround, selected_of_count hcount hrequest ?_⟩
    rw [hid]
    exact List.mem_map_of_mem hc

/-- The items of a new row are the frozen ones, and those of the others stay. -/
theorem FrozenInto.itemsOf {frozen : FrozenMatchBatch} {publisherAccount : String} {ids : ℕ → Uuid}
    {now : Timestamp} (h : FrozenInto frozen publisherAccount ids now p p')
    (howned : ∀ item ∈ p.item, ∃ row ∈ p.outbox, row.id = item.outboxId) (id : Uuid) :
    itemsOf p' id = if id = frozen.outboxId then frozenItems frozen.outboxId ids 0 frozen.candidates
      else itemsOf p id := by
  have hnew : ∀ item ∈ frozenItems frozen.outboxId ids 0 frozen.candidates,
      item.outboxId = frozen.outboxId := fun item hitem => ((mem_frozenItems _ _ _ _).1 item hitem).1
  unfold Publisher.itemsOf
  rw [h.item, List.filter_append]
  by_cases hid : id = frozen.outboxId
  · rw [if_pos hid]
    have hold : p.item.rows.filter (fun item => item.outboxId = id) = [] := by
      rw [List.filter_eq_nil_iff]
      intro item hitem
      obtain ⟨row, hrow, hrowId⟩ := howned item hitem
      rw [decide_eq_true_eq, hid, ← hrowId]
      exact h.outbox_fresh row hrow
    have hall : (frozenItems frozen.outboxId ids 0 frozen.candidates).filter
        (fun item => item.outboxId = id) = frozenItems frozen.outboxId ids 0 frozen.candidates := by
      rw [List.filter_eq_self]
      intro item hitem
      rw [decide_eq_true_eq, hid]
      exact hnew item hitem
    rw [hold, hall, List.nil_append]
  · rw [if_neg hid]
    have hnone : (frozenItems frozen.outboxId ids 0 frozen.candidates).filter
        (fun item => item.outboxId = id) = [] := by
      rw [List.filter_eq_nil_iff]
      intro item hitem
      rw [decide_eq_true_eq, hnew item hitem]
      exact Ne.symm hid
    rw [hnone, List.append_nil]

/-- **A frozen batch** keeps the law, when its payload reads as the results of its candidates. -/
theorem Conserved.freeze (h : Conserved R p) {frozen : FrozenMatchBatch} {publisherAccount : String}
    {ids : ℕ → Uuid} {now : Timestamp} (hfrozen : FrozenInto frozen publisherAccount ids now p p')
    (hpayload : ∃ batch, parseHiveChameleonEvent R.toRuntime frozen.canonicalPayload =
      .ok (.matchResultsBatch batch) ∧
        batch.results.map (·.roundId) = frozen.candidates.map (·.roundId)) : Conserved R p' := by
  have hitem : ∀ item, item ∈ p'.item ↔
      item ∈ p.item ∨ item ∈ frozenItems frozen.outboxId ids 0 frozen.candidates := by
    intro item
    rw [Table.mem_def, hfrozen.item, List.mem_append, Table.mem_rows]
  have houtbox : ∀ row ∈ p.outbox, row ∈ p'.outbox := by
    intro row hrow
    rw [Table.mem_def, hfrozen.outbox]
    exact List.mem_append_left _ hrow
  have hnew : frozenOutboxRow frozen publisherAccount now ∈ p'.outbox := by
    rw [Table.mem_def, hfrozen.outbox]
    exact List.mem_append_right _ (List.mem_singleton.mpr rfl)
  -- a request with a new item was selected, and it has no old one
  have hcases : ∀ request' ∈ p'.request, ∃ request ∈ p.request, request'.id = request.id ∧
      request'.roundId = request.roundId ∧
      (Selected frozen request ∧ request'.state = .batched ∨
        request'.id ∉ frozen.candidates.map (·.publicationRequestId) ∧ request' = request) := by
    intro request' hrequest'
    rw [hfrozen.request] at hrequest'
    rcases Table.mem_modify_cases hrequest' with ⟨request, hrequest, hselected, rfl⟩ | ⟨hrequest, hnot⟩
    · exact ⟨request, hrequest, rfl, rfl, .inl ⟨hselected, rfl⟩⟩
    · refine ⟨request', hrequest, rfl, rfl, .inr ⟨fun hmem => ?_, rfl⟩⟩
      obtain ⟨c, hc, hid⟩ := List.mem_map.mp hmem
      obtain ⟨request, hin, hreqId, -, hselected⟩ := hfrozen.selected c hc
      obtain rfl := Table.eq_of_key hin hrequest (hreqId.trans hid)
      exact hnot hselected
  refine ⟨fun a ha b hb heq => ?_, fun item hmem => ?_, fun item hmem => ?_,
    fun request' hrequest' => ?_, fun request' hrequest' hstate item hmem hid => ?_, fun row hrow => ?_⟩
  · have hdistinct : ∀ a ∈ p.item, ∀ b ∈ frozenItems frozen.outboxId ids 0 frozen.candidates,
        a.publicationRequestId ≠ b.publicationRequestId := by
      intro a ha b hb heq
      obtain ⟨-, c, hc, hid, -⟩ := (mem_frozenItems _ _ _ _).1 b hb
      exact hfrozen.item_fresh c hc a ha (heq.trans hid)
    rcases (hitem a).mp ha with ha | ha <;> rcases (hitem b).mp hb with hb | hb
    · exact h.one_item a ha b hb heq
    · exact absurd heq (hdistinct a ha b hb)
    · exact absurd heq.symm (hdistinct b hb a ha)
    · exact frozenItems_inj hfrozen.nodup ha hb heq
  · rcases (hitem item).mp hmem with hmem | hmem
    · obtain ⟨row, hrow, hid⟩ := h.owned item hmem
      exact ⟨row, houtbox row hrow, hid⟩
    · exact ⟨_, hnew, ((mem_frozenItems _ _ _ _).1 item hmem).1.symm⟩
  · have hkept : ∀ request ∈ p.request, ∃ request' ∈ p'.request, request'.id = request.id ∧
        request'.roundId = request.roundId := by
      intro request hrequest
      rw [hfrozen.request]
      exact ⟨_, Table.updated_mem_modify hrequest, Table.key_updated request,
        Table.updated_eq (g := fun r : RequestRow => r.roundId) (fun _ => rfl) request⟩
    rcases (hitem item).mp hmem with hmem | hmem
    · obtain ⟨request, hrequest, hid, hround⟩ := h.requested item hmem
      obtain ⟨request', hrequest', hid', hround'⟩ := hkept request hrequest
      exact ⟨request', hrequest', hid'.trans hid, hround'.trans hround⟩
    · obtain ⟨-, c, hc, hid, hround⟩ := (mem_frozenItems _ _ _ _).1 item hmem
      obtain ⟨request, hrequest, hreqId, hreqRound, -⟩ := hfrozen.selected c hc
      obtain ⟨request', hrequest', hid', hround'⟩ := hkept request hrequest
      exact ⟨request', hrequest', by rw [hid', hreqId, hid], by rw [hround', hreqRound, hround]⟩
  · obtain ⟨request, hrequest, hid, -, hcase⟩ := hcases request' hrequest'
    rcases hcase with ⟨hselected, hbatched⟩ | ⟨hnot, rfl⟩
    · refine ⟨fun _ => ?_, fun _ => .inl hbatched⟩
      obtain ⟨c, hc, hcid⟩ := List.mem_map.mp hselected.1
      obtain ⟨item, hmem, hitemId⟩ := (mem_frozenItems frozen.outboxId ids 0 _).2 c hc
      exact ⟨item, (hitem item).mpr (.inr hmem), by rw [hitemId, hcid, hid]⟩
    · rw [h.batched_iff request' hrequest]
      constructor
      · rintro ⟨item, hmem, hitemId⟩
        exact ⟨item, (hitem item).mpr (.inl hmem), hitemId⟩
      · rintro ⟨item, hmem, hitemId⟩
        rcases (hitem item).mp hmem with hmem | hmem
        · exact ⟨item, hmem, hitemId⟩
        · obtain ⟨-, c, hc, hcid, -⟩ := (mem_frozenItems _ _ _ _).1 item hmem
          refine absurd ?_ hnot
          rw [← hitemId, hcid]
          exact List.mem_map_of_mem hc
  · obtain ⟨request, hrequest, -, -, hcase⟩ := hcases request' hrequest'
    rcases hcase with ⟨-, hbatched⟩ | ⟨hnot, rfl⟩
    · rw [hbatched] at hstate
      cases hstate
    · rcases (hitem item).mp hmem with hmem | hmem
      · obtain ⟨row, hrow, hrest⟩ := h.published request' hrequest hstate item hmem hid
        exact ⟨row, houtbox row hrow, hrest⟩
      · obtain ⟨-, c, hc, hcid, -⟩ := (mem_frozenItems _ _ _ _).1 item hmem
        refine absurd ?_ hnot
        rw [← hid, hcid]
        exact List.mem_map_of_mem hc
  · have hitems := hfrozen.itemsOf h.owned
    rw [Table.mem_def, hfrozen.outbox] at hrow
    rcases List.mem_append.mp hrow with hrow | hrow
    · refine (h.ordered row hrow).congr rfl rfl ?_
      rw [hitems, if_neg (hfrozen.outbox_fresh row hrow)]
    · rw [List.mem_singleton.mp hrow]
      have hrowItems : Publisher.itemsOf p' (frozenOutboxRow frozen publisherAccount now).id =
          frozenItems frozen.outboxId ids 0 frozen.candidates := by
        rw [hitems]
        exact if_pos rfl
      constructor
      · rw [hrowItems, frozenItems_positions, ← List.range_eq_range']
        rfl
      · rw [hrowItems, frozenItems_rounds]
        exact hpayload

/-! ### Reconciling -/

theorem Conserved.publish (h : Conserved R p) {q : RequestRow → Prop} [DecidablePred q]
    {set : Table.Assignment RequestRow.id} (hset : ∀ request, (set request).state = .published ∧
      (set request).roundId = request.roundId)
    (hq : ∀ request ∈ p.request, q request → ∃ item ∈ p.item, item.publicationRequestId = request.id ∧
      ∃ row ∈ p.outbox, row.id = item.outboxId ∧ row.state = .irreversible) :
    Conserved R { p with request := p.request.modify q set } := by
  refine ⟨h.one_item, h.owned, fun item hmem => ?_, fun request' hrequest' => ?_,
    fun request' hrequest' hstate item hmem hid => ?_,
    fun row hrow => (h.ordered row hrow).congr rfl rfl rfl⟩
  · obtain ⟨request, hrequest, hid, hround⟩ := h.requested item hmem
    exact ⟨_, Table.updated_mem_modify hrequest, (Table.key_updated request).trans hid,
      (Table.updated_eq (g := fun r : RequestRow => r.roundId) (fun r => (hset r).2) request).trans
        hround⟩
  · rcases Table.mem_modify_cases hrequest' with ⟨request, hrequest, hpublish, rfl⟩ | ⟨hrequest, -⟩
    · obtain ⟨item, hmem, hid, -⟩ := hq request hrequest hpublish
      exact ⟨fun _ => ⟨item, hmem, hid.trans (set.keeps request).symm⟩, fun _ => .inr (hset request).1⟩
    · exact h.batched_iff request' hrequest
  · rcases Table.mem_modify_cases hrequest' with ⟨request, hrequest, hpublish, rfl⟩ | ⟨hrequest, -⟩
    · obtain ⟨own, hown, hownId, hrow⟩ := hq request hrequest hpublish
      obtain rfl := h.one_item own hown item hmem (by rw [hownId, hid]; exact (set.keeps request).symm)
      exact hrow
    · exact h.published request' hrequest hstate item hmem hid

theorem Conserved.reconciledTables (h : Conserved R p) (t : Projector.ChainTables) (now : Timestamp) :
    Conserved R (reconciledTables t now p) := by
  have hrows : Conserved R { p with
      outbox := p.outbox.modify (NeedsReconcile t) ⟨.reconcile t now, OutboxRow.reconcile_id t now⟩ } :=
    h.modifyOutbox (fun row => (reconcile_frame t now row).1)
      fun row _ hneeds hstate => absurd hstate hneeds.2
  refine hrows.publish (fun request => ⟨rfl, rfl⟩) ?_
  rintro request - ⟨⟨item, hitem, hid, row, hrow, hrowId, hneeds, hstate⟩, -⟩
  exact ⟨item, hitem, hid, _, Table.mem_modify_of hrow hneeds,
    (OutboxRow.reconcile_id t now row).trans hrowId, hstate⟩

/-! ### Steps and runs -/

variable {ι : Type} [DecidableEq ι] {P : PlannerConfig} {source : String}
  {S S' : PublicationSys ι}

theorem Conserved.other {l : PublicationLabel ι} (h : Conserved R S.tables) (hother : ¬ l.Freezing)
    (hl : PublicationStep R source S l S') : Conserved R S'.tables := by
  cases hl with
  | projector => exact h
  | request hok => exact h.recordRequest hok
  | freeze => exact absurd trivial hother
  | defer => exact absurd trivial hother
  | claim _ hok =>
    rcases claimNextOutbox_eq_ok.mp hok with ⟨-, -, rfl⟩ | ⟨row, tx, -, hupdate, -, hcommit, -⟩
    · exact h
    · obtain ⟨hcheck, rfl⟩ := updateOutbox_commit hupdate hcommit
      exact h.modifyOutbox (fun _ => rfl) fun row hrow hq hstate =>
        irreversible_of_transition (hcheck row hrow hq).1 hstate
  | broadcast _ => exact h
  | markBroadcast _ hok =>
    obtain ⟨hcheck, rfl⟩ := markBroadcast_outbox hok
    exact h.modifyOutbox (fun _ => rfl) fun row hrow hq hstate =>
      irreversible_of_transition (hcheck row hrow hq) hstate
  | markRetryableFailure _ hok =>
    obtain ⟨hcheck, rfl⟩ := markRetryableFailure_outbox hok
    exact h.modifyOutbox (fun _ => rfl) fun row hrow hq hstate =>
      irreversible_of_transition (hcheck row hrow hq) hstate
  | reconcile hok =>
    obtain ⟨-, -, -, -, -, hr⟩ := reconcileProjectedFinality_eq_ok.mp hok
    obtain ⟨-, rfl⟩ := Prod.mk.inj hr
    exact h.reconciledTables _ _
  | crash => exact h

/-- A call of `freezeNextBatch`: a deferred candidate is in no item. -/
theorem Conserved.freezeCandidates (h : Conserved P.runtime p) {call : FreezeCall}
    {result : Option FrozenMatchBatch} (hrows : CandidateRows p call)
    (hok : freezeCandidates P call p = .ok (result, p')) : Conserved P.runtime p' := by
  rcases freezeCandidates_cases hok with ⟨-, rfl⟩ | ⟨row, hrow, code, -, hdefer⟩ |
    ⟨frozen, candidates, -, hfrom, hplan, hfreeze⟩
  · exact h
  · refine h.deferCandidate hdefer fun item hitem hid => ?_
    obtain ⟨request, hrequest, hcandidate⟩ := hrows.candidate row hrow
    have hbatched := (h.batched_iff request hrequest).mpr
      ⟨item, hitem, hid.trans hcandidate.id.symm⟩
    rcases hcandidate.state with hstate | hstate <;> rw [hstate] at hbatched <;> simp at hbatched
  · obtain ⟨selected, event, hselected, hcandidates, hresults, heventId, hbatchId, hserialized⟩ :=
      planMatchBatch_eq_some hplan
    obtain ⟨batch, hparse, -, -, hread⟩ := serialized_reads hserialized
    refine h.freeze (freezeNextBatch_spec hfreeze) ⟨batch, hparse, ?_⟩
    rw [hread, hresults, hcandidates, List.map_map, List.map_map, List.map_map]
    exact List.map_congr_left fun c hc => (hselected c hc).2

theorem conserved_step {l : PublisherLabel ι} (h : Conserved P.runtime S.tables)
    (hl : PublisherStep P source S l S') : Conserved P.runtime S'.tables := by
  cases hl with
  | other hother hstep => exact h.other hother hstep
  | freezeNextBatch hrows hok => exact h.freezeCandidates hrows hok

/-- A freeze takes some of its candidates and leaves every other request as it was. -/
theorem freeze_leaves_others {call : FreezeCall} {frozen : FrozenMatchBatch}
    (hl : PublisherStep P source S (.freezeNextBatch call (some frozen)) S') :
    (∀ c ∈ frozen.candidates, ∃ row ∈ call.rows,
        c.publicationRequestId = row.publicationRequestId) ∧
      ∀ request ∈ S.tables.request,
        request.id ∉ frozen.candidates.map (·.publicationRequestId) → request ∈ S'.tables.request := by
  cases hl with
  | freezeNextBatch hrows hok =>
    rcases freezeCandidates_cases hok with ⟨hnone, -⟩ | ⟨-, -, -, hnone, -⟩ |
      ⟨frozen', candidates, hsome, hfrom, hplan, hfreeze⟩
    · cases hnone
    · cases hnone
    · obtain rfl := Option.some.inj hsome
      obtain ⟨selected, -, hselected, hcandidates, -⟩ := planMatchBatch_eq_some hplan
      refine ⟨fun c hc => ?_, fun request hrequest hnotin => ?_⟩
      · rw [hcandidates] at hc
        obtain ⟨planned, hplanned, rfl⟩ := List.mem_map.mp hc
        exact hfrom planned (hselected planned hplanned).1
      · show request ∈ _
        rw [(freezeNextBatch_spec hfreeze).request]
        exact Table.mem_modify_of_not hrequest fun hmem => hnotin hmem.1

/-- **Conservation of publication requests.**  In every state that workers and projector reach, a
request has one item at most, has one exactly when it is batched or published, and is published only
when the item's row is irreversible; the items of a row follow its payload.  A freeze takes some of
its candidates and leaves every other request as it was. -/
theorem requests_conserved (game : Projector.GameTables)
    {ts : List (Transition (PublicationSys ι) (PublisherLabel ι))}
    (h : Run (PublisherStep P source) (.start ι game) ts S) :
    Conserved P.runtime S.tables ∧ ∀ t ∈ ts, ∀ call frozen,
      t.label = .freezeNextBatch call (some frozen) →
        (∀ c ∈ frozen.candidates, ∃ row ∈ call.rows,
          c.publicationRequestId = row.publicationRequestId) ∧
        ∀ request ∈ t.pre.tables.request,
          request.id ∉ frozen.candidates.map (·.publicationRequestId) →
            request ∈ t.post.tables.request := by
  have hinv := h.invariant' (I := fun S => Conserved P.runtime S.tables)
    (fun _ _ _ hm hl => conserved_step hm hl) conserved_fresh
  refine ⟨hinv.1, fun t ht call frozen hlabel => ?_⟩
  have hstep := h.step_of_mem t ht
  rw [hlabel] at hstep
  exact freeze_leaves_others hstep

end

/-! ### A batch of one result -/

/-- A gateway that knows one event. -/
abbrev plannerCodec : EventCodec where
  Value := Option HiveChameleonEvent
  parseJson text := if text = "batch" then some (some (.matchResultsBatch publishedBatch)) else none
  safeParse value := if value = some (.matchResultsBatch publishedBatch) then some value else none
  canonicalJson _ := "batch"
  event value := value.getD (.matchResultsBatch publishedBatch)

def plannerValue (event : MatchBatchEvent) : Option HiveChameleonEvent :=
  if event.eventId = ⟨31⟩ ∧ event.batchId = ⟨32⟩ ∧
      event.results.map (·.toMatchResult) = [Projector.exampleResult ⟨33⟩] then
    some (.matchResultsBatch publishedBatch)
  else none

theorem plannerCodec_reads (payload : String) (event : HiveChameleonEvent) :
    parseHiveChameleonEvent publisherRuntime.toRuntime payload = .ok event ↔
      ∃ data, plannerCodec.parseHiveChameleonEvent payload = .ok data ∧ plannerCodec.event data = event := by
  by_cases hpayload : payload = "batch"
  · subst hpayload
    have hcodec : plannerCodec.parseHiveChameleonEvent "batch" =
        .ok (some (.matchResultsBatch publishedBatch)) := by decide
    rw [parse_batch, hcodec]
    simp
  · refine ⟨fun h => absurd h (parse_ne_batch hpayload), ?_⟩
    rintro ⟨data, h, -⟩
    obtain ⟨-, ⟨value, hvalue, -⟩, -⟩ := plannerCodec.parseHiveChameleonEvent_eq_ok.mp h
    rw [show plannerCodec.parseJson payload = none from if_neg hpayload] at hvalue
    cases hvalue

abbrev plannerConfig : PlannerConfig where
  runtime := publisherRuntime
  codec := plannerCodec
  value := plannerValue
  reads := plannerCodec_reads
  parse_canonical value data h := by
    have hvalue : value = some (.matchResultsBatch publishedBatch) ∧ value = data := by
      simpa [plannerCodec] using h
    obtain ⟨rfl, rfl⟩ := hvalue
    exact ⟨_, _, rfl, rfl, rfl, rfl⟩
  accepted event data h := by
    have hvalue : plannerValue event = some (.matchResultsBatch publishedBatch) ∧
        plannerValue event = data := by
      simpa [plannerCodec] using h
    obtain ⟨hvalue, rfl⟩ := hvalue
    unfold plannerValue at hvalue ⊢
    split at hvalue
    · rename_i hknown
      rw [if_pos hknown]
      exact ⟨publishedBatch, rfl, hknown.1.symm, hknown.2.1.symm, hknown.2.2.symm⟩
    · cases hvalue

/-- A call whose query returns one candidate. -/
def freezeCall : FreezeCall where
  now := 10
  policy := ⟨"publisher", 1000, 1, 512⟩
  rows := [⟨⟨11⟩, ⟨12⟩, ⟨33⟩, 0, some (Projector.exampleResult ⟨33⟩), fun _ h => by cases h; rfl⟩]
  ids := some ⟨⟨31⟩, ⟨32⟩, ⟨21⟩⟩
  itemIds _ := ⟨41⟩

def recordedState : PublicationSys Unit := stateOf (broadcastSchedule.take 1)

theorem freezeCall_rows : CandidateRows recordedState.tables freezeCall := by
  refine ⟨fun row hrow => ?_, by decide, by decide⟩
  obtain rfl := List.mem_singleton.mp hrow
  have hrequest : (⟨⟨11⟩, ⟨33⟩, ⟨12⟩, .initial, .queued, 0, none, none, none, none⟩ : RequestRow) ∈
      recordedState.tables.request.rows := by decide
  have hround : (⟨⟨33⟩, .completed⟩ : RoundRef) ∈ recordedState.tables.round.rows := by decide
  exact ⟨_, hrequest, rfl, rfl, rfl, rfl, .inl rfl, (fun _ h => by cases h), _, hround, rfl, rfl⟩

/-- A request is recorded and frozen. -/
theorem requests_conserved_frozen :
    ∃ (ts : List (Transition (PublicationSys Unit) (PublisherLabel Unit))) (S : PublicationSys Unit),
      Run (PublisherStep plannerConfig "haf") (.start Unit Projector.emptyGame) ts S ∧
        S.tables.item.rows.length = 1 ∧ Conserved publisherRuntime S.tables := by
  have hrequest : PublicationStep publisherRuntime "haf" (.start Unit Projector.emptyGame)
      (.request ⟨⟨33⟩, .completed⟩ ⟨⟨12⟩, ⟨33⟩, .initial⟩
        ⟨⟨11⟩, ⟨33⟩, ⟨12⟩, .initial, .queued, 0, none, none, none, none⟩) recordedState :=
    after_step (by decide)
  have hfrozen : (freezeCandidates plannerConfig freezeCall recordedState.tables).toOption.any
      (fun result => result.2.item.rows.length = 1) = true := by decide
  obtain ⟨⟨frozen, p⟩, hok, hlength⟩ := (Option.any_eq_true _ _).mp hfrozen
  have hother : PublisherStep plannerConfig "haf" (.start Unit Projector.emptyGame)
      (.other (.request ⟨⟨33⟩, .completed⟩ ⟨⟨12⟩, ⟨33⟩, .initial⟩
        ⟨⟨11⟩, ⟨33⟩, ⟨12⟩, .initial, .queued, 0, none, none, none, none⟩)) recordedState :=
    .other (fun h => h) hrequest
  have hrun := (Run.single hother).snoc
    (PublisherStep.freezeNextBatch (P := plannerConfig) freezeCall_rows (toOption_eq_some.mp hok))
  exact ⟨_, _, hrun, of_decide_eq_true hlength,
    (requests_conserved (P := plannerConfig) Projector.emptyGame hrun).1⟩

end HiveChameleon.Publisher
