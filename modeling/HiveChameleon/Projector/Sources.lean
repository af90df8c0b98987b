import HiveChameleon.Projector.Calls
import HiveChameleon.Projector.Reverting

/-!
# Projector.Sources — store calls over several sources

Sources share the tables.  A call for one source leaves the cursors of the others, and whatever calls
were made, for whichever sources, a revert of any source meets tables it can work on.
-/

namespace HiveChameleon.Projector

open Gateway Lib

/-! ### The cursors of the other sources -/

section Cursors

variable {R : Runtime} {source source' : String} {t : ChainTables} {db db' : Db}

theorem ensureCursor_find?_of_ne (hne : source' ≠ source) :
    (ensureCursor source t).syncCursor.find? source' = t.syncCursor.find? source' := by
  unfold ensureCursor
  cases hinsert : t.syncCursor.insert? ⟨source, 0, 0⟩ with
  | none => rfl
  | some table =>
    obtain ⟨-, hrows⟩ := Table.insert?_eq_some.mp hinsert
    show table.rows.find? _ = t.syncCursor.rows.find? _
    have hother : ¬ source = source' := fun heq => hne heq.symm
    rw [hrows, List.find?_append, List.find?_cons_of_neg (by simpa using hother), List.find?_nil,
      Option.or_none]

theorem modifyCursor_find?_of_ne {set : Table.Assignment SyncCursorRow.source} (hne : source' ≠ source) :
    (t.syncCursor.modify (·.source = source) set).find? source' = t.syncCursor.find? source' := by
  rw [Table.find?_modify]
  cases hfind : t.syncCursor.find? source' with
  | none => rfl
  | some row =>
    have hrow : ¬ row.source = source := by
      rw [(Table.find?_eq_some.mp hfind).2]
      exact hne
    rw [Option.map_some, Table.updated_of_not (p := fun r : SyncCursorRow => r.source = source) hrow]

/-- A block leaves the cursors of the other sources. -/
theorem applyBlock_find?_of_ne {block : HafBlock} {decisions : List OperationDecision}
    {ids : ℕ → Uuid} {observedAt : Timestamp} (hne : source' ≠ source)
    (h : applyBlock R source block decisions ids observedAt db = .ok db') :
    db'.chain.syncCursor.find? source' = db.chain.syncCursor.find? source' := by
  simp only [applyBlock, bind_eq_ok, exists_unit, require_eq_ok, Prod.exists, lockCursor_eq_ok] at h
  obtain ⟨t, cursor, ⟨rfl, rfl⟩, -, -, tx, hcheckpoint, tx', hstore, t', hcursor, hcommit⟩ := h
  obtain ⟨-, -, -, table, hchain, -⟩ := insertCheckpoint_eq_ok hcheckpoint
  have hstored := storeDecisions_stored hstore
  obtain ⟨-, rfl⟩ := updateCursor_eq_ok.mp hcursor
  obtain ⟨-, rfl⟩ := commit_eq_ok.mp hcommit
  show (tx'.chain.syncCursor.modify _ _).find? source' = _
  rw [modifyCursor_find?_of_ne hne, hstored.syncCursor, hchain]
  exact ensureCursor_find?_of_ne hne

theorem revertedTables_find?_of_ne {n : ℕ} {time : Timestamp} (hne : source' ≠ source) :
    (revertedTables source n time (ensureCursor source t)).syncCursor.find? source' =
      t.syncCursor.find? source' :=
  (modifyCursor_find?_of_ne hne).trans (ensureCursor_find?_of_ne hne)

theorem finalizedTables_find?_of_ne {n : ℕ} {time : Timestamp} (hne : source' ≠ source) :
    (finalizedTables source n time (ensureCursor source t)).syncCursor.find? source' =
      t.syncCursor.find? source' :=
  (modifyCursor_find?_of_ne hne).trans (ensureCursor_find?_of_ne hne)

theorem lastProcessed_congr {t' : ChainTables}
    (h : t'.syncCursor.find? source' = t.syncCursor.find? source') :
    lastProcessed source' t' = lastProcessed source' t := by
  unfold lastProcessed
  rw [h]

theorem lastIrreversible_congr {t' : ChainTables}
    (h : t'.syncCursor.find? source' = t.syncCursor.find? source') :
    lastIrreversible source' t' = lastIrreversible source' t := by
  unfold lastIrreversible
  rw [h]

end Cursors

/-! ### Every source stays revertible -/

/-- Tables that a revert of any source can work on. -/
def AllRevertible (R : Runtime) (db : Db) : Prop := ∀ source, Revertible R source db

section Revertible

variable {R : Runtime} {source source' : String} {t t' : ChainTables} {db db' : Db}

theorem allRevertible_fresh (R : Runtime) (game : GameTables) : AllRevertible R (Db.fresh game) :=
  fun source => (sound_fresh R source game).revertible rowsChecked_empty

/-- Another source's part of the finality: its cursor stays, and so do its irreversible checkpoints. -/
theorem FinalityAgrees.of_source (h : FinalityAgrees source t') (hother : FinalityAgrees source' t)
    (hcursor : t'.syncCursor.find? source' = t.syncCursor.find? source')
    (hkept : ∀ c ∈ t'.blockCheckpoint, c.source = source' → c.state = .irreversible →
      c ∈ t.blockCheckpoint) : FinalityAgrees source' t' where
  irreversible_le c hc hsource hs := by
    rw [lastIrreversible_congr hcursor]
    exact hother.irreversible_le c (hkept c hc hsource hs) hsource hs
  operation_state := h.operation_state
  event_state := h.event_state

/-- The finality of all sources after a call for one of them. -/
theorem AllRevertible.finality (h : AllRevertible R db) (hsource : FinalityAgrees source t')
    (hcursor : ∀ source', source' ≠ source →
      t'.syncCursor.find? source' = db.chain.syncCursor.find? source')
    (hkept : ∀ c ∈ t'.blockCheckpoint, c.source ≠ source → c.state = .irreversible →
      c ∈ db.chain.blockCheckpoint) (source' : String) : FinalityAgrees source' t' := by
  by_cases heq : source' = source
  · rw [heq]
    exact hsource
  · refine hsource.of_source (h source').finality (hcursor source' heq) fun c hc hcs hs => ?_
    exact hkept c hc (fun hcs' => heq (hcs.symm.trans hcs')) hs

theorem AllRevertible.applyBlock {block : HafBlock} {decisions : List OperationDecision}
    {ids : ℕ → Uuid} {observedAt : Timestamp} (h : AllRevertible R db)
    (hok : applyBlock R source block decisions ids observedAt db = .ok db') : AllRevertible R db' := by
  obtain ⟨ha, hviews, -⟩ := applyBlock_spec hok
  have hfinality := h.finality ((h source).finality.apply ha)
    (fun source' hne => applyBlock_find?_of_ne hne hok) (fun c hc hne hs => by
      rcases ha.mem_checkpoint.mp hc with hc | rfl
      · exact hc
      · exact absurd rfl hne)
  intro source'
  refine ⟨hfinality source', (h source).events.applyBlock hok, ?_, (h source).rows.applyBlock hok⟩
  rw [hviews]
  exact (h source).views.frozen ha.frozen

theorem AllRevertible.revertAfter {n : ℕ} {time : Timestamp} (h : AllRevertible R db)
    (hok : revertAfter R source n time db = .ok db') : AllRevertible R db' := by
  have hevents := (h source).events.revertAfter hok
  have hrows := (h source).rows.revertAfter hok
  obtain ⟨hguard, rfl⟩ := revertAfter_spec hok
  have hstart := (h source).ensureCursor.finality
  have hguard' : lastIrreversible source (ensureCursor source db.chain) ≤ n := by simpa using hguard
  have hreverted : FinalityAgrees source
      (revertedTables source n time (ensureCursor source db.chain)) := hstart.revert hguard'
  have hfinality := h.finality hreverted
    (fun source' hne => revertedTables_find?_of_ne hne) (fun c hc hne hs => by
      rcases Table.mem_modify_cases hc with ⟨old, -, -, rfl⟩ | ⟨hc, -⟩
      · cases hs
      · simpa using hc)
  intro source'
  exact ⟨hfinality source', hevents,
    (h source).views.frozen (frozen_ensureCursor.trans (hstart.frozen_revert hguard')), hrows⟩

theorem AllRevertible.finalizeThrough {n : ℕ} {ids : ℕ → Uuid} {time : Timestamp}
    (h : AllRevertible R db) (hok : finalizeThrough R source n ids time db = .ok db') :
    AllRevertible R db' := by
  have hevents := (h source).events.finalizeThrough hok
  have hrows := (h source).rows.finalizeThrough hok
  obtain ⟨-, hchain, -⟩ := finalizeThrough_spec hok
  have hagrees : FinalityAgrees source db'.chain := by
    rw [hchain]
    exact (h source).ensureCursor.finality.finalize ensureCursor_find?
  have hfrozen : Frozen db.chain db'.chain := by
    rw [hchain]
    exact frozen_ensureCursor.trans frozen_finalize
  have hfinality := h.finality hagrees
    (fun source' hne => by
      rw [hchain]
      exact finalizedTables_find?_of_ne hne) (fun c hc hne hs => by
      rw [hchain] at hc
      rcases Table.mem_modify_cases hc with ⟨old, -, hold, rfl⟩ | ⟨hc, -⟩
      · exact absurd hold.1 hne
      · simpa using hc)
  intro source'
  exact ⟨hfinality source', hevents,
    (h source).views.finalizeThrough hfrozen hagrees.event_state hok, hrows⟩

/-- **Every call keeps every source revertible**. -/
theorem AllRevertible.perform {call : DbCall} (h : AllRevertible R db)
    (hok : call.perform R source db = .ok db') : AllRevertible R db' := by
  cases call with
  | applyBlock block decisions ids observedAt => exact h.applyBlock hok
  | revertAfter ancestorBlock revertedAt => exact h.revertAfter hok
  | finalizeThrough blockNumber ids irreversibleAt => exact h.finalizeThrough hok
  | changeGame game =>
    obtain rfl := Except.ok.inj hok
    exact fun source => ⟨(h source).finality, (h source).events, (h source).views, (h source).rows⟩

end Revertible

end HiveChameleon.Projector
