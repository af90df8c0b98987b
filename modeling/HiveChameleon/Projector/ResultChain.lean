import HiveChameleon.Lib.Succession
import HiveChameleon.Projector.Sound

/-!
# Projector.ResultChain — the changes of a projected result form one linear chain

A result starts at its initial batch event; each materialized correction or invalidation supersedes
the event that is then current and takes its place.  Over any sequence of store calls, with the game
tables changing in between, the changes of each result are one chain that only grows at its end,
and `hc_match_result_expected_head` walks the whole of it.
-/

namespace HiveChameleon.Projector

open Gateway Lib

/-- Changes supersede events, by the events that they stand for. -/
def changeSuccession : Succession MatchResultChangeRow Uuid where
  id := MatchResultChangeRow.eventUuid
  supersedes := MatchResultChangeRow.supersedesEventUuid

/-- The state that the last change leaves. -/
def stateAfter : MatchResultCurrentState → List MatchResultChangeRow → MatchResultCurrentState
  | state, [] => state
  | _, change :: changes => stateAfter change.changeType.headState changes

theorem stateAfter_append {change : MatchResultChangeRow} : ∀ {state : MatchResultCurrentState}
    {changes : List MatchResultChangeRow},
    stateAfter state (changes ++ [change]) = change.changeType.headState
  | _, [] => rfl
  | _, first :: changes => by
    show stateAfter first.changeType.headState (changes ++ [change]) = change.changeType.headState
    exact stateAfter_append

/-- **The chain of a result**: its changes in their order, from its initial event to its current
one. -/
structure ResultChain (v : ViewTables) (result : MatchResultRow) (chain : List MatchResultChangeRow) :
    Prop where
  members : ∀ change, change ∈ chain ↔
    change ∈ v.matchResultChange ∧ change.projectedResultId = result.id
  linked : changeSuccession.Linked result.initialEventUuid chain
  nodup : (result.initialEventUuid :: chain.map (·.eventUuid)).Nodup
  current : result.currentEventUuid = changeSuccession.last result.initialEventUuid chain
  state : result.currentState = stateAfter .current chain

/-- Chains grow at their ends only, and results keep their initial events. -/
def ChainsGrow (v v' : ViewTables) : Prop :=
  ∀ result ∈ v.matchResult, ∀ chain, ResultChain v result chain →
    ∃ result' ∈ v'.matchResult, result'.id = result.id ∧
      result'.initialEventUuid = result.initialEventUuid ∧
        ∃ added, ResultChain v' result' (chain ++ added)

/-- **Linear views**: every result has its chain, from a batch event on. -/
structure LinearViews (t : ChainTables) (v : ViewTables) : Prop where
  initial : ∀ result ∈ v.matchResult, ∃ e ∈ t.matchEvent, e.eventUuid = result.initialEventUuid ∧
    e.eventType = .matchResultsBatch
  owned : ∀ change ∈ v.matchResultChange, ∃ result ∈ v.matchResult,
    result.id = change.projectedResultId
  typed : ∀ change ∈ v.matchResultChange, ∃ e ∈ t.matchEvent, e.eventUuid = change.eventUuid ∧
    e.eventType = change.changeType.expectedEventType
  chain : ∀ result ∈ v.matchResult, ∃ chain, ResultChain v result chain

/-! ### Chains -/

section Chains

variable {v v' v'' : ViewTables} {result : MatchResultRow} {chain : List MatchResultChangeRow}

theorem ResultChain.unique {chain' : List MatchResultChangeRow} (h : ResultChain v result chain)
    (h' : ResultChain v result chain') : chain = chain' :=
  Succession.linked_unique h.linked h'.linked h.nodup h'.nodup fun change =>
    (h.members change).trans (h'.members change).symm

/-- **No two changes** of a result name the same predecessor. -/
theorem ResultChain.no_branch (h : ResultChain v result chain) :
    (chain.map (·.supersedesEventUuid)).Nodup :=
  Succession.nodup_supersedes h.linked h.nodup

theorem ResultChain.of_changes (h : ResultChain v result chain)
    (hsame : v'.matchResultChange = v.matchResultChange) : ResultChain v' result chain where
  members change := by
    rw [hsame]
    exact h.members change
  linked := h.linked
  nodup := h.nodup
  current := h.current
  state := h.state

theorem ChainsGrow.refl (v : ViewTables) : ChainsGrow v v := by
  intro result hresult chain hchain
  refine ⟨result, hresult, rfl, rfl, [], ?_⟩
  rw [List.append_nil]
  exact hchain

theorem ChainsGrow.trans (h : ChainsGrow v v') (h' : ChainsGrow v' v'') : ChainsGrow v v'' := by
  intro result hresult chain hchain
  obtain ⟨result', hresult', hid', hinitial', added, hchain'⟩ := h result hresult chain hchain
  obtain ⟨result'', hresult'', hid'', hinitial'', added', hchain''⟩ :=
    h' result' hresult' _ hchain'
  refine ⟨result'', hresult'', hid''.trans hid', hinitial''.trans hinitial', added ++ added', ?_⟩
  rw [← List.append_assoc]
  exact hchain''

theorem ChainsGrow.of_same (hsame : SameResults v v') : ChainsGrow v v' := by
  intro result hresult chain hchain
  refine ⟨result, ?_, rfl, rfl, [], ?_⟩
  · rw [hsame.1]
    exact hresult
  · rw [List.append_nil]
    exact hchain.of_changes hsame.2

theorem LinearViews.of_same {t : ChainTables} (h : LinearViews t v) (hsame : SameResults v v') :
    LinearViews t v' where
  initial result hresult := h.initial result (hsame.1 ▸ hresult)
  owned change hchange := by
    rw [hsame.1]
    exact h.owned change (hsame.2 ▸ hchange)
  typed change hchange := h.typed change (hsame.2 ▸ hchange)
  chain result hresult := by
    obtain ⟨chain, hchain⟩ := h.chain result (hsame.1 ▸ hresult)
    exact ⟨chain, hchain.of_changes hsame.2⟩

end Chains

/-! ### Materialization -/

section Materialize

variable {R : Runtime} {game : GameTables} {t t' : ChainTables} {ids : ℕ → Uuid}
variable {time : Timestamp} {vx vx' : ViewTx}

theorem LinearViews.insertMatchResult {row : MatchResultRow} (h : LinearViews t vx.views)
    (hok : insertMatchResult R t row vx = .ok vx') :
    LinearViews t vx'.views ∧ ChainsGrow vx.views vx'.views := by
  simp only [Projector.insertMatchResult, bind_eq_ok, exists_unit] at hok
  obtain ⟨htrigger, hok⟩ := hok
  split at hok
  · obtain rfl := pure_eq_ok.mp hok
    exact ⟨h, .refl _⟩
  · simp only [bind_eq_ok, exists_unit, Table.insert_eq_ok, pure_eq_ok] at hok
    obtain ⟨-, table, ⟨hfresh, hrows⟩, rfl⟩ := hok
    simp only [hcValidateMatchResult, initialEvent, matchResultTransition, bind_eq_ok, exists_unit,
      require_eq_ok] at htrigger
    obtain ⟨e, hevent, hbatch, -, ⟨hcurrent, hstate⟩, -⟩ := htrigger
    have he : e ∈ t.matchEvent ∧ e.eventUuid = row.initialEventUuid := by
      split at hevent
      · cases hevent
      · rename_i found hfind
        obtain rfl := Except.ok.inj hevent
        exact Table.find?_eq_some.mp hfind
    have hmem : ∀ r, r ∈ table ↔ r ∈ vx.views.matchResult ∨ r = row := by
      intro r
      rw [Table.mem_def, hrows, List.mem_append, List.mem_singleton]
      rfl
    have hnew : ResultChain vx.views row [] := by
      refine ⟨fun change => ⟨fun hin => absurd hin List.not_mem_nil, ?_⟩, trivial, ?_, hcurrent, hstate⟩
      · rintro ⟨hchange, hprojected⟩
        obtain ⟨owner, howner, hid⟩ := h.owned change hchange
        exact absurd (hid.trans hprojected) (hfresh owner howner)
      · exact List.nodup_singleton _
    refine ⟨⟨fun r hr => ?_, fun change hchange => ?_, h.typed, fun r hr => ?_⟩,
      fun r hr chain hchain => ?_⟩
    · rcases (hmem r).mp hr with hr | rfl
      · exact h.initial r hr
      · exact ⟨e, he.1, he.2, hbatch.1⟩
    · obtain ⟨owner, howner, hid⟩ := h.owned change hchange
      exact ⟨owner, (hmem owner).mpr (.inl howner), hid⟩
    · rcases (hmem r).mp hr with hr | rfl
      · obtain ⟨chain, hchain⟩ := h.chain r hr
        exact ⟨chain, hchain.of_changes rfl⟩
      · exact ⟨[], hnew.of_changes rfl⟩
    · refine ⟨r, (hmem r).mpr (.inl hr), rfl, rfl, [], ?_⟩
      rw [List.append_nil]
      exact hchain.of_changes rfl

theorem LinearViews.materializeResultsFrom {eventId : Uuid} :
    ∀ {results : List MatchResult} {position : ℕ} {vx vx' : ViewTx}, LinearViews t vx.views →
      materializeResultsFrom R game t ids eventId time position results vx = .ok vx' →
        LinearViews t vx'.views ∧ ChainsGrow vx.views vx'.views
  | [], _, vx, vx', h, hok => by
    obtain rfl : vx = vx' := by simpa [Projector.materializeResultsFrom] using hok
    exact ⟨h, .refl _⟩
  | result :: results, position, vx, vx', h, hok => by
    simp only [Projector.materializeResultsFrom, materializeInitialMatchResult, bind_eq_ok,
      exists_unit] at hok
    obtain ⟨mid, ⟨-, -, -, hmid⟩, hok⟩ := hok
    have hfirst : LinearViews t mid.views ∧ ChainsGrow vx.views mid.views := by
      split at hmid
      · have hdrawn : LinearViews t ({ vx with drawn := vx.drawn + 1 } : ViewTx).views := h
        exact hdrawn.insertMatchResult hmid
      · obtain rfl := pure_eq_ok.mp hmid
        exact ⟨h, .refl _⟩
    obtain ⟨hlinear, hgrow⟩ := LinearViews.materializeResultsFrom hfirst.1 hok
    exact ⟨hlinear, hfirst.2.trans hgrow⟩

theorem insertMatchResultChange_spec {row : MatchResultChangeRow} {inserted : ViewTx}
    (hok : insertMatchResultChange R game t row vx = .ok (some inserted)) :
    ∃ projected ∈ vx.views.matchResult, projected.id = row.projectedResultId ∧
      projected.currentEventUuid = row.supersedesEventUuid ∧
      (∃ e ∈ t.matchEvent, e.eventUuid = row.eventUuid ∧
        e.eventType = row.changeType.expectedEventType) ∧
      (∀ change ∈ vx.views.matchResultChange, change.eventUuid ≠ row.eventUuid) ∧
      inserted.views.matchResult = vx.views.matchResult ∧
      ∀ change, change ∈ inserted.views.matchResultChange ↔
        change ∈ vx.views.matchResultChange ∨ change = row := by
  simp only [Projector.insertMatchResultChange, bind_eq_ok, exists_unit] at hok
  obtain ⟨htrigger, -, hok⟩ := hok
  split at hok
  · cases pure_eq_ok.mp hok
  · simp only [bind_eq_ok, exists_unit, Table.insert_eq_ok, pure_eq_ok, Option.some.injEq] at hok
    obtain ⟨-, -, table, ⟨hfresh, hrows⟩, rfl⟩ := hok
    unfold hcValidateMatchResultChange at htrigger
    dsimp only at htrigger
    split at htrigger
    swap
    · cases htrigger
    rename_i projected original superseded e hprojected horiginal hsuperseded hevent
    simp only [bind_eq_ok, exists_unit, require_eq_ok] at htrigger
    obtain ⟨hextends, -⟩ := htrigger
    obtain ⟨-, -, hcurrent, -, -, -, -, htype, -⟩ := hextends
    obtain ⟨hmem, hid⟩ := Table.find?_eq_some.mp hprojected
    obtain ⟨he, heid⟩ := Table.find?_eq_some.mp hevent
    refine ⟨projected, hmem, hid, hcurrent, ⟨e, he, heid, htype⟩, hfresh, rfl, fun change => ?_⟩
    show change ∈ table ↔ _
    rw [Table.mem_def, hrows, List.mem_append, List.mem_singleton]
    rfl

/-- **A change extends the chain of its result**: the change is inserted and the result advanced. -/
theorem LinearViews.change {row : MatchResultChangeRow} {inserted : ViewTx} {id supersedesEventId : Uuid}
    {set : Table.Assignment MatchResultRow.id} (h : LinearViews t vx.views)
    (hid : row.projectedResultId = id) (hsupersedes : row.supersedesEventUuid = supersedesEventId)
    (hset : ∀ r : MatchResultRow, (set r).initialEventUuid = r.initialEventUuid ∧
      (set r).currentEventUuid = row.eventUuid ∧ (set r).currentState = row.changeType.headState)
    (hinsert : insertMatchResultChange R game t row vx = .ok (some inserted))
    (hok : advanceMatchResult R t id supersedesEventId set inserted = .ok vx') :
    LinearViews t vx'.views ∧ ChainsGrow vx.views vx'.views := by
  obtain ⟨projected, hprojected, hpid, hcurrent, hevent, hfresh, hresults, hchanges⟩ :=
    insertMatchResultChange_spec hinsert
  simp only [Projector.advanceMatchResult, bind_eq_ok, Table.update_eq_ok, pure_eq_ok] at hok
  obtain ⟨table, ⟨-, rfl⟩, rfl⟩ := hok
  rw [hresults]
  have hp : projected.id = id ∧ projected.currentEventUuid = supersedesEventId :=
    ⟨hpid.trans hid, hcurrent.trans hsupersedes⟩
  -- the advanced result, and the others as they were
  have hothers : ∀ r ∈ vx.views.matchResult, r ≠ projected →
      ¬ (r.id = id ∧ r.currentEventUuid = supersedesEventId) := by
    rintro r hr hne ⟨hrid, -⟩
    exact hne (Table.eq_of_key hr hprojected (hrid.trans hp.1.symm))
  have hadvanced : ∀ chain, ResultChain vx.views projected chain →
      ∀ v' : ViewTables, v'.matchResultChange = inserted.views.matchResultChange →
        ResultChain v' (set projected) (chain ++ [row]) := by
    intro chain hchain v' hv'
    obtain ⟨hinitial, hcurrent', hstate'⟩ := hset projected
    refine ⟨fun change => ?_, ?_, ?_, ?_, ?_⟩
    · rw [hv', hchanges, set.keeps, List.mem_append, List.mem_singleton, hchain.members change]
      constructor
      · rintro (⟨hin, hof⟩ | rfl)
        · exact ⟨.inl hin, hof⟩
        · exact ⟨.inr rfl, hpid.symm⟩
      · rintro ⟨hin | rfl, hof⟩
        · exact .inl ⟨hin, hof⟩
        · exact .inr rfl
    · rw [hinitial, Succession.linked_append]
      exact ⟨hchain.linked, hcurrent.symm.trans hchain.current⟩
    · rw [hinitial, List.map_append, ← List.cons_append]
      refine List.nodup_append.mpr ⟨hchain.nodup, List.nodup_singleton _, fun uuid hin other hother => ?_⟩
      rw [List.map_singleton, List.mem_singleton] at hother
      rcases List.mem_cons.mp hin with rfl | hin
      · -- the initial event is a batch, the new one is not
        rintro rfl
        obtain ⟨first, hfirst, hfirstId, hbatch⟩ := h.initial projected hprojected
        obtain ⟨e, he, heid, htype⟩ := hevent
        obtain rfl := Table.eq_of_key hfirst he (hfirstId.trans (hother.trans heid.symm))
        rw [hbatch] at htype
        cases hkind : row.changeType <;> rw [hkind] at htype <;> cases htype
      · obtain ⟨change, hchange, rfl⟩ := List.mem_map.mp hin
        rw [hother]
        exact hfresh change ((hchain.members change).mp hchange).1
    · rw [hinitial, hcurrent', Succession.last_append]
      rfl
    · rw [hstate', stateAfter_append]
  have hkept : ∀ r ∈ vx.views.matchResult, r ≠ projected → ∀ chain, ResultChain vx.views r chain →
      ∀ v' : ViewTables, v'.matchResultChange = inserted.views.matchResultChange →
        ResultChain v' r chain := by
    intro r hr hne chain hchain v' hv'
    refine ⟨fun change => ?_, hchain.linked, hchain.nodup, hchain.current, hchain.state⟩
    rw [hv', hchanges, hchain.members change]
    constructor
    · exact fun hin => ⟨.inl hin.1, hin.2⟩
    · rintro ⟨hin | rfl, hof⟩
      · exact ⟨hin, hof⟩
      · exact absurd (Table.eq_of_key hr hprojected (hof.symm.trans hpid.symm)) hne
  refine ⟨⟨fun r hr => ?_, fun change hchange => ?_, fun change hchange => ?_, fun r hr => ?_⟩,
    fun r hr chain hchain => ?_⟩
  · rcases Table.mem_modify_cases hr with ⟨old, hold, -, rfl⟩ | ⟨hr, -⟩
    · rw [(hset old).1]
      exact h.initial old hold
    · exact h.initial r hr
  · have howner : ∃ r ∈ vx.views.matchResult, r.id = change.projectedResultId := by
      rcases (hchanges change).mp hchange with hchange | rfl
      · exact h.owned change hchange
      · exact ⟨projected, hprojected, hpid⟩
    obtain ⟨r, hr, hrid⟩ := howner
    exact ⟨_, Table.updated_mem_modify hr, (Table.key_updated r).trans hrid⟩
  · rcases (hchanges change).mp hchange with hchange | rfl
    · exact h.typed change hchange
    · exact hevent
  · rcases Table.mem_modify_cases hr with ⟨old, hold, hmatch, rfl⟩ | ⟨hr, hmatch⟩
    · obtain rfl : old = projected := Table.eq_of_key hold hprojected (hmatch.1.trans hp.1.symm)
      obtain ⟨chain, hchain⟩ := h.chain old hold
      exact ⟨_, hadvanced chain hchain _ rfl⟩
    · have hne : r ≠ projected := fun heq => hmatch (heq ▸ hp)
      obtain ⟨chain, hchain⟩ := h.chain r hr
      exact ⟨chain, hkept r hr hne chain hchain _ rfl⟩
  · by_cases hsame : r = projected
    · subst hsame
      exact ⟨set r, Table.mem_modify_of hr hp, set.keeps r, (hset r).1, [row],
        hadvanced chain hchain _ rfl⟩
    · refine ⟨r, Table.mem_modify_of_not hr (hothers r hr hsame), rfl, rfl, [], ?_⟩
      rw [List.append_nil]
      exact hkept r hr hsame chain hchain _ rfl

theorem LinearViews.materializeMatchInvalidation {event : MatchResultInvalidated}
    (h : LinearViews t vx.views) (hok : materializeMatchInvalidation R game t event vx = .ok vx') :
    LinearViews t vx'.views ∧ ChainsGrow vx.views vx'.views := by
  unfold Projector.materializeMatchInvalidation at hok
  split at hok
  · obtain rfl := pure_eq_ok.mp hok
    exact ⟨h, .refl _⟩
  · simp only [bind_eq_ok] at hok
    obtain ⟨changed, hchanged, hok⟩ := hok
    cases changed with
    | none =>
      obtain rfl := pure_eq_ok.mp hok
      exact ⟨h, .refl _⟩
    | some inserted => exact h.change rfl rfl (fun _ => ⟨rfl, rfl, rfl⟩) hchanged hok

theorem LinearViews.materializeOperation {operation : OperationRow} (h : LinearViews t vx.views)
    (hok : materializeOperation R game t ids time operation vx = .ok vx') :
    LinearViews t vx'.views ∧ ChainsGrow vx.views vx'.views := by
  simp only [Projector.materializeOperation, bind_eq_ok] at hok
  obtain ⟨event, -, hok⟩ := hok
  have hsame : ∀ {vx' : ViewTx}, SameResults vx.views vx'.views →
      LinearViews t vx'.views ∧ ChainsGrow vx.views vx'.views :=
    fun hsame => ⟨h.of_same hsame, .of_same hsame⟩
  cases event with
  | matchResultsBatch e =>
    dsimp only at hok
    split at hok
    · obtain rfl := pure_eq_ok.mp hok
      exact ⟨h, .refl _⟩
    · exact LinearViews.materializeResultsFrom h hok
  | matchResultCorrected e =>
    dsimp only at hok
    split at hok
    · obtain rfl := pure_eq_ok.mp hok
      exact ⟨h, .refl _⟩
    · cases (materializeMatchCorrection_eq ..).symm.trans hok
  | matchResultInvalidated e =>
    dsimp only at hok
    split at hok
    · obtain rfl := pure_eq_ok.mp hok
      exact ⟨h, .refl _⟩
    · exact h.materializeMatchInvalidation hok
  | collectibleIssued e => exact hsame (materializeCollectibleIssue_same hok)
  | collectibleRevoked e => exact hsame (materializeCollectibleRevocation_same hok)

theorem LinearViews.materializeOperations : ∀ {operations : List OperationRow} {vx vx' : ViewTx},
    LinearViews t vx.views → materializeOperations R game t ids time operations vx = .ok vx' →
      LinearViews t vx'.views ∧ ChainsGrow vx.views vx'.views
  | [], vx, vx', h, hok => by
    obtain rfl : vx = vx' := by simpa [Projector.materializeOperations] using hok
    exact ⟨h, .refl _⟩
  | operation :: operations, vx, vx', h, hok => by
    simp only [Projector.materializeOperations, bind_eq_ok] at hok
    obtain ⟨mid, hmid, hok⟩ := hok
    obtain ⟨hlinear, hgrow⟩ := h.materializeOperation hmid
    obtain ⟨hlinear', hgrow'⟩ := LinearViews.materializeOperations hlinear hok
    exact ⟨hlinear', hgrow.trans hgrow'⟩

theorem LinearViews.frozen {v : ViewTables} (h : LinearViews t v) (hsettled : ViewsSettled t v)
    (hfrozen : Frozen t t') : LinearViews t' v := by
  have hkept : ∀ uuid type, Settled t uuid → (∃ e ∈ t.matchEvent, e.eventUuid = uuid ∧
      e.eventType = type) → ∃ e ∈ t'.matchEvent, e.eventUuid = uuid ∧ e.eventType = type := by
    rintro uuid type ⟨e, he, heid, hstate⟩ ⟨e', he', heid', htype⟩
    obtain rfl := Table.eq_of_key he he' (heid.trans heid'.symm)
    exact ⟨e, hfrozen.event e he hstate, heid, htype⟩
  exact ⟨fun r hr => hkept _ _ (hsettled.initial r hr) (h.initial r hr), h.owned,
    fun change hchange => hkept _ _ (hsettled.change change hchange).1 (h.typed change hchange),
    h.chain⟩

end Materialize

/-! ### The walk of `hc_match_result_expected_head` -/

section Walk

theorem traverseChanges_eq {active : List MatchResultChangeRow} : ∀ {n : ℕ} {head : Uuid}
    {state : MatchResultCurrentState} {chain : List MatchResultChangeRow},
    changeSuccession.walk (fun uuid => active.find? fun change => change.supersedesEventUuid = uuid) n
      head = chain →
    traverseChanges active n head state =
      (changeSuccession.last head chain, stateAfter state chain, n - chain.length)
  | 0, head, state, chain, h => by
    obtain rfl := h
    rfl
  | n + 1, head, state, chain, h => by
    unfold traverseChanges
    unfold Succession.walk at h
    cases hfind : active.find? fun change => change.supersedesEventUuid = head with
    | none =>
      simp only [hfind] at h ⊢
      obtain rfl := h
      rfl
    | some change =>
      simp only [hfind] at h ⊢
      obtain rfl := h
      rw [traverseChanges_eq rfl, List.length_cons, Nat.add_sub_add_right]
      rfl

/-- **The SQL walk goes through the whole chain** and ends at the stored event and state. -/
theorem expectedHead_of_chain {t : ChainTables} {v : ViewTables} {result : MatchResultRow}
    {chain : List MatchResultChangeRow} (hsettled : ViewsSettled t v)
    (h : ResultChain v result chain) :
    chain.length = (activeChanges t v result.id).length ∧
      hcMatchResultExpectedHead t v result.id result.initialEventUuid result.currentEventUuid
        result.currentState := by
  have hactive : ∀ change, change ∈ activeChanges t v result.id ↔ change ∈ chain := by
    intro change
    rw [h.members change]
    simp only [activeChanges, List.mem_filter, Bool.and_eq_true, decide_eq_true_eq]
    refine ⟨fun hin => ⟨hin.1, hin.2.1⟩, fun hin => ⟨hin.1, hin.2, ?_⟩⟩
    obtain ⟨e, he, heid, hstate⟩ := (hsettled.change change hin.1).1
    rw [← heid, Table.find?_key he]
    show decide (e.operationState ≠ .reverted) = true
    rw [hstate]
    rfl
  have hchain : chain.Nodup := (List.nodup_cons.mp h.nodup).2.of_map _
  have hrows : (activeChanges t v result.id).Nodup := by
    have hkeys := v.matchResultChange.nodup_keys.of_map
    exact hkeys.filter _
  have hlength : chain.length = (activeChanges t v result.id).length :=
    ((List.perm_ext_iff_of_nodup hchain hrows).mpr fun change => (hactive change).symm).length_eq
  refine ⟨hlength, ?_⟩
  have hwalk : changeSuccession.walk (fun uuid => (activeChanges t v result.id).find? fun change =>
      change.supersedesEventUuid = uuid) (activeChanges t v result.id).length
        result.initialEventUuid = chain := by
    rw [← hlength]
    refine Succession.walk_eq h.linked fun change hchange => ?_
    -- no other change supersedes the same event
    have hunique : ∀ other ∈ activeChanges t v result.id,
        other.supersedesEventUuid = change.supersedesEventUuid → other = change := by
      intro other hother heq
      exact List.inj_on_of_nodup_map h.no_branch ((hactive other).mp hother) hchange heq
    cases hfind : (activeChanges t v result.id).find? fun other =>
        other.supersedesEventUuid = change.supersedesEventUuid with
    | none =>
      have hnone := List.find?_eq_none.mp hfind change ((hactive change).mpr hchange)
      exact absurd (decide_eq_true rfl) hnone
    | some other =>
      have heq : other.supersedesEventUuid = change.supersedesEventUuid := by
        simpa using List.find?_some hfind
      have hsame := hunique other (List.mem_of_find?_eq_some hfind) heq
      exact hfind.trans (congrArg some hsame)
  show traverseChanges _ _ _ _ = _
  rw [traverseChanges_eq hwalk, h.current, h.state, ← hlength, Nat.sub_self]

end Walk

/-! ### Runs -/

/-- A call of the store, or a change of the game tables. -/
inductive ProjectionStep (R : Runtime) (source : String) : Db → Option Request → Db → Prop where
  | store {db db' : Db} {q : Request} (h : StoreStep R source db q db') :
      ProjectionStep R source db (some q) db'
  | game {db : Db} (game : GameTables) : ProjectionStep R source db none { db with game := game }

/-- **Histories are linear**: each result has one chain, from its initial batch event to
its current event and state, without branches, and the SQL walk goes through all of it. -/
structure Linear (db : Db) : Prop where
  views : LinearViews db.chain db.views
  one : ∀ result ∈ db.views.matchResult, ∃! chain, ResultChain db.views result chain
  no_branch : ∀ result ∈ db.views.matchResult, ∀ chain, ResultChain db.views result chain →
    (chain.map (·.supersedesEventUuid)).Nodup
  head : ∀ result ∈ db.views.matchResult, ∀ chain, ResultChain db.views result chain →
    chain.length = (activeChanges db.chain db.views result.id).length ∧
      hcMatchResultExpectedHead db.chain db.views result.id result.initialEventUuid
        result.currentEventUuid result.currentState

section Runs

variable {R : Runtime} {source : String} {db db' : Db}

theorem linear_of_views (h : LinearViews db.chain db.views)
    (hsettled : ViewsSettled db.chain db.views) : Linear db where
  views := h
  one result hresult := by
    obtain ⟨chain, hchain⟩ := h.chain result hresult
    exact ⟨chain, hchain, fun chain' hchain' => hchain'.unique hchain⟩
  no_branch _ _ _ hchain := hchain.no_branch
  head _ _ _ hchain := expectedHead_of_chain hsettled hchain

/-- **One step** keeps the views linear and lets the chains grow at their ends. -/
theorem linearViews_step {q : Option Request} (hsound : Sound R source db)
    (h : LinearViews db.chain db.views) (hstep : ProjectionStep R source db q db') :
    LinearViews db'.chain db'.views ∧ ChainsGrow db.views db'.views := by
  cases hstep with
  | game game => exact ⟨h, .refl _⟩
  | store hstore =>
    cases hstore with
    | applyBlock hok =>
      obtain ⟨-, hfrozen⟩ := hsound.consistent.applyBlock hok
      obtain ⟨-, hviews, -⟩ := applyBlock_spec hok
      rw [hviews]
      exact ⟨h.frozen hsound.views hfrozen, .refl _⟩
    | revertAfter hle hok =>
      obtain ⟨-, hfrozen⟩ := hsound.consistent.revertAfter hle hok
      obtain ⟨-, rfl⟩ := revertAfter_spec hok
      exact ⟨h.frozen hsound.views hfrozen, .refl _⟩
    | finalizeThrough hok =>
      obtain ⟨-, hfrozen⟩ := hsound.consistent.finalizeThrough hok
      have hlinear := h.frozen hsound.views hfrozen
      simp only [Projector.finalizeThrough, bind_eq_ok, exists_unit, require_eq_ok, Prod.exists,
        lockCursor_eq_ok] at hok
      obtain ⟨t, cursor, ⟨rfl, rfl⟩, -, tx₁, -, tx₂, -, tx₃, -, t', -, vx, hmaterialize, hcommit⟩ := hok
      obtain ⟨-, rfl⟩ := commit_eq_ok.mp hcommit
      exact LinearViews.materializeOperations
        (show LinearViews t' (ViewTx.mk db.views _ 0).views from hlinear) hmaterialize

theorem sound_projectionStep {q : Option Request} (hsound : Sound R source db)
    (hstep : ProjectionStep R source db q db') : Sound R source db' := by
  cases hstep with
  | store hstore => exact hsound.step hstore
  | game game => exact ⟨hsound.consistent, hsound.events, hsound.views⟩

theorem linearViews_empty (t : ChainTables) :
    LinearViews t ⟨Table.empty, Table.empty, Table.empty, Table.empty⟩ where
  initial _ hr := absurd hr Table.not_mem_empty
  owned _ hc := absurd hc Table.not_mem_empty
  typed _ hc := absurd hc Table.not_mem_empty
  chain _ hr := absurd hr Table.not_mem_empty

/-- **Every projection is linear**, and each of its steps lets the chains grow at their ends, so a
change is applied only to the event that is then current. -/
theorem linear_of_run {game : GameTables} {ts : List (Transition Db (Option Request))}
    (hrun : Run (ProjectionStep R source) (Db.fresh game) ts db) :
    Linear db ∧ ∀ t ∈ ts, Linear t.pre ∧ Linear t.post ∧ ChainsGrow t.pre.views t.post.views := by
  have hstep : ∀ m l m', (Sound R source m ∧ LinearViews m.chain m.views) →
      ProjectionStep R source m l m' → Sound R source m' ∧ LinearViews m'.chain m'.views := by
    rintro m l m' ⟨hsound, hlinear⟩ hl
    exact ⟨sound_projectionStep hsound hl, (linearViews_step hsound hlinear hl).1⟩
  obtain ⟨hlast, hsteps⟩ := hrun.invariant'
    (I := fun db => Sound R source db ∧ LinearViews db.chain db.views) hstep
    ⟨sound_fresh R source game, linearViews_empty _⟩
  refine ⟨linear_of_views hlast.2 hlast.1.views, fun t ht => ?_⟩
  obtain ⟨hpre, hpost⟩ := hsteps t ht
  exact ⟨linear_of_views hpre.2 hpre.1.views, linear_of_views hpost.2 hpost.1.views,
    (linearViews_step hpre.1 hpre.2 (hrun.step_of_mem t ht)).2⟩

end Runs

/-! ### A batch and its invalidation -/

/-- A call of the store with what the validator makes of a block's operations; `base` keeps the ids
of two calls apart. -/
inductive StoreCall where
  | apply (base : ℕ) (block : HafBlock) (operations : List HafOperation)
  | finalize (base blockNumber : ℕ) (time : Timestamp)

/-- Makes a call; `none` when it does not commit. -/
def StoreCall.perform (cfg : ProjectorConfig) (source : String) (db : Db) : StoreCall → Option Db
  | apply base block operations =>
    match validateBlockOperations cfg block operations with
    | .ok decisions =>
      (applyBlock cfg.runtime source block decisions (fun k => ⟨base + k⟩) 0 db).toOption
    | .error _ => none
  | finalize base blockNumber time =>
    (finalizeThrough cfg.runtime source blockNumber (fun k => ⟨base + k⟩) time db).toOption

/-- Makes calls one after the other. -/
def performAll (cfg : ProjectorConfig) (source : String) : Db → List StoreCall → Option Db
  | db, [] => some db
  | db, call :: calls => (call.perform cfg source db).bind fun db => performAll cfg source db calls

theorem StoreCall.perform_step {cfg : ProjectorConfig} {source : String} {db db' : Db}
    {call : StoreCall} (h : call.perform cfg source db = some db') :
    ∃ q, ProjectionStep cfg.runtime source db q db' := by
  cases call with
  | apply base block operations =>
    dsimp only [StoreCall.perform] at h
    split at h
    · rename_i decisions hdecisions
      cases happly : applyBlock cfg.runtime source block decisions (fun k => ⟨base + k⟩) 0 db with
      | error e =>
        rw [happly] at h
        cases h
      | ok db'' =>
        rw [happly] at h
        obtain rfl := Option.some.inj h
        exact ⟨_, .store (.applyBlock happly)⟩
    · cases h
  | finalize base blockNumber time =>
    dsimp only [StoreCall.perform] at h
    cases hfinalize : finalizeThrough cfg.runtime source blockNumber (fun k => ⟨base + k⟩) time db with
    | error e =>
      rw [hfinalize] at h
      cases h
    | ok db'' =>
      rw [hfinalize] at h
      obtain rfl := Option.some.inj h
      exact ⟨_, .store (.finalizeThrough hfinalize)⟩

theorem performAll_run {cfg : ProjectorConfig} {source : String} : ∀ {calls : List StoreCall}
    {db db' : Db}, performAll cfg source db calls = some db' →
      ∃ ts, Run (ProjectionStep cfg.runtime source) db ts db'
  | [], db, db', h => by
    obtain rfl := Option.some.inj h
    exact ⟨[], .refl db⟩
  | call :: calls, db, db', h => by
    obtain ⟨mid, hmid, h⟩ := Option.bind_eq_some_iff.mp h
    obtain ⟨q, hstep⟩ := StoreCall.perform_step hmid
    obtain ⟨ts, hrun⟩ := performAll_run h
    exact ⟨_, (Run.single hstep).append hrun⟩

/-- An invalidation of the batch's only result. -/
def exampleInvalidation (eventId supersedesEventId : Uuid) : MatchResultInvalidated where
  eventId := eventId
  occurredAt := ⟨"2026-07-16T00:00:00.000Z"⟩
  roundId := ⟨33⟩
  originalBatchId := ⟨32⟩
  originalEventId := ⟨31⟩
  supersedesEventId := supersedesEventId
  publisher := examplePublisher
  reasonCode := ⟨"score_error", by decide⟩

/-- The local round, with its map and its first revision. -/
def exampleGame : GameTables where
  gameRound := ⟨[⟨⟨33⟩, ⟨2⟩⟩], by decide⟩
  roundResultRevision := ⟨[⟨⟨51⟩, ⟨33⟩, 1, .initial, "result-1", "scoring-1",
    some exampleSha256.hex, none, by decide, by decide⟩], by decide⟩
  mapVersion := ⟨[⟨⟨2⟩, ⟨1⟩⟩], by decide⟩
  mapAsset := ⟨[⟨⟨52⟩, ⟨2⟩, true, exampleSha256.hex⟩], by decide⟩
  collectibleDefinition := .empty
  player := .empty
  paymentTransaction := .empty

def exampleChainConfig : ProjectorConfig :=
  exampleConfig (exampleRuntime [("batch", .matchResultsBatch (exampleBatch ⟨31⟩ ⟨32⟩ ⟨33⟩)),
    ("invalidation", .matchResultInvalidated (exampleInvalidation ⟨34⟩ ⟨31⟩))])

def chainBlock (n : ℕ) : HafBlock := ⟨n, "b" ++ toString n, "b" ++ toString (n - 1), 0⟩

/-- A batch is finalized, then its invalidation. -/
def invalidatedCalls : List StoreCall :=
  [.apply 100 (chainBlock 1) [exampleOperation "op1" "tx1" 0 (chainBlock 1) "batch"],
    .finalize 200 1 10,
    .apply 300 (chainBlock 2) [exampleOperation "op2" "tx2" 0 (chainBlock 2) "invalidation"],
    .finalize 400 2 20]

theorem linear_of_run_invalidated :
    ∃ ts db, Run (ProjectionStep exampleChainConfig.runtime "haf") (Db.fresh exampleGame) ts db ∧
      db.views.matchResultChange.rows.length = 1 ∧ Linear db ∧
        ∀ t ∈ ts, Linear t.pre ∧ Linear t.post ∧ ChainsGrow t.pre.views t.post.views := by
  have hchanged : (performAll exampleChainConfig "haf" (Db.fresh exampleGame) invalidatedCalls).any
      (fun db => db.views.matchResultChange.rows.length = 1) = true := by decide +kernel
  obtain ⟨db, hperform, hlength⟩ := (Option.any_eq_true _ _).mp hchanged
  obtain ⟨ts, hrun⟩ := performAll_run hperform
  exact ⟨ts, db, hrun, of_decide_eq_true hlength, linear_of_run hrun⟩

end HiveChameleon.Projector
