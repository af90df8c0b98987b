import HiveChameleon.Projector.ChainOrder

/-!
# Projector.ExactlyOnce — every irreversible event is materialized, and when it is only once

`materializeIrreversibleEvents` selects by the timestamp that its own call writes, not by what is
new.  Over any sequence of store calls it leaves no irreversible event out; it selects an event a
second time exactly when a later finalization that reaches its height carries the same timestamp.
-/

namespace HiveChameleon.Projector

open Gateway Lib

/-- An accepted event of the application whose operation is irreversible. -/
def Eligible (t : ChainTables) (op : OperationRow) : Prop :=
  op ∈ t.operation ∧ op.state = .irreversible ∧ op.validationState = .accepted ∧
    op.applicationId = some hiveChameleonApplicationId

section Selection

variable (R : Runtime) (source : String)

/-- The operations that a step materializes, in their order. -/
def materializedBy (t : Transition Db DbCall) : List OperationRow :=
  (t.label.materialized R source t.pre).map (·.label)

/-- Those of a run. -/
def materializedIn (ts : List (Transition Db DbCall)) : List OperationRow :=
  ts.flatMap (materializedBy R source)

/-- A finalization that commits, reaches the row's height and carries the row's timestamp. -/
def Reselects (t : Transition Db DbCall) (row : OperationRow) : Prop :=
  ∃ n ids time, t.label = .finalizeThrough n ids time ∧
    (∃ db', finalizeThrough R source n ids time t.pre = .ok db') ∧
      row.irreversibleAt = some time ∧ row.blockNumber ≤ n

/-- **Fresh timestamps**: no finalization carries the timestamp of an event that an earlier one
materialized at a height which it reaches. -/
def TimesFresh (ts : List (Transition Db DbCall)) : Prop :=
  ts.Pairwise fun t t' => ∀ row ∈ materializedBy R source t, ¬ Reselects R source t' row

end Selection

/-- Tables of one source with their heights filed. -/
structure OneSource (source : String) (t : ChainTables) : Prop where
  heights : HeightsFiled source t
  own : ∀ c ∈ t.blockCheckpoint, c.source = source

section Steps

variable {R : Runtime} {source : String} {t : ChainTables} {db db' : Db}

theorem oneSource_fresh (source : String) (game : GameTables) :
    OneSource source (Db.fresh game).chain where
  heights := heightsFiled_empty source
  own _ hc := absurd hc Table.not_mem_empty

theorem OneSource.step {call : DbCall} (h : OneSource source db.chain)
    (hstep : CallStep R source db call db') : OneSource source db'.chain := by
  refine ⟨(h.heights.step hstep).1, fun c hc => ?_⟩
  have hmodified : ∀ {p : BlockCheckpointRow → Prop} [DecidablePred p]
      {set : Table.Assignment BlockCheckpointRow.id}, (∀ row, (set row).source = row.source) →
      c ∈ (ensureCursor source db.chain).blockCheckpoint.modify p set → c.source = source := by
    intro p _ set hset hmem
    rw [ensureCursor_blockCheckpoint] at hmem
    rcases Table.mem_modify_cases hmem with ⟨old, hold, -, rfl⟩ | ⟨hc, -⟩
    · exact (hset old).trans (h.own old hold)
    · exact h.own c hc
  rcases hstep with hok | ⟨-, rfl⟩
  · cases call with
    | applyBlock block decisions ids observedAt =>
      rcases (applyBlock_spec hok).1.mem_checkpoint.mp hc with hc | rfl
      · exact h.own c hc
      · rfl
    | revertAfter ancestorBlock revertedAt =>
      obtain ⟨-, rfl⟩ := revertAfter_spec hok
      exact hmodified (fun _ => rfl) hc
    | finalizeThrough n ids time =>
      rw [(finalizeThrough_spec hok).2.1] at hc
      exact hmodified (fun _ => rfl) hc
    | changeGame game =>
      obtain rfl := Except.ok.inj hok
      exact h.own c hc
  · exact h.own c hc

theorem OneSource.mem_irreversibleOperations (h : OneSource source t) {n : ℕ} {time : Timestamp}
    {row : OperationRow} : row ∈ irreversibleOperations t source n time ↔
      Eligible t row ∧ row.irreversibleAt = some time ∧ row.blockNumber ≤ n := by
  rw [irreversibleOperations, List.mem_insertionSort, List.mem_filter]
  simp only [Bool.and_eq_true, decide_eq_true_eq, Eligible]
  have hheight : row ∈ t.operation → ((t.blockCheckpoint.find? row.checkpointId).any
      (fun c => decide (c.source = source) && decide (c.blockNumber ≤ n)) = true ↔
        row.blockNumber ≤ n) := by
    intro hrow
    obtain ⟨c, hc, hid, hnumber⟩ := h.heights.number row hrow
    rw [← hid, Table.find?_key hc, Option.any_some, ← hnumber, h.own c hc]
    simp only [decide_true, Bool.true_and, decide_eq_true_eq]
  constructor
  · rintro ⟨hrow, ⟨⟨⟨hreached, hstate⟩, htime⟩, haccepted⟩, happlication⟩
    exact ⟨⟨hrow, hstate, haccepted, happlication⟩, htime, (hheight hrow).mp hreached⟩
  · rintro ⟨⟨hrow, hstate, haccepted, happlication⟩, htime, hle⟩
    exact ⟨hrow, ⟨⟨⟨(hheight hrow).mpr hle, hstate⟩, htime⟩, haccepted⟩, happlication⟩

theorem materializedBy_cases (R : Runtime) (source : String) (t : Transition Db DbCall) :
    materializedBy R source t = [] ∧ (∀ row, ¬ Reselects R source t row) ∨
      ∃ n ids time db', t.label = .finalizeThrough n ids time ∧
        finalizeThrough R source n ids time t.pre = .ok db' ∧
          materializedBy R source t = irreversibleOperations db'.chain source n time := by
  obtain ⟨pre, call, post⟩ := t
  have hother : (∀ n ids time, call ≠ .finalizeThrough n ids time) →
      ∀ row, ¬ Reselects R source ⟨pre, call, post⟩ row := by
    rintro hne row ⟨n, ids, time, hlabel, -⟩
    exact hne n ids time hlabel
  cases call with
  | applyBlock block decisions ids observedAt => exact .inl ⟨rfl, hother nofun⟩
  | revertAfter ancestorBlock revertedAt => exact .inl ⟨rfl, hother nofun⟩
  | changeGame game => exact .inl ⟨rfl, hother nofun⟩
  | finalizeThrough n ids time =>
    cases hfinalize : finalizeThrough R source n ids time pre with
    | error e =>
      refine .inl ⟨?_, ?_⟩
      · simp only [materializedBy, DbCall.materialized, hfinalize, List.map_nil]
      · rintro row ⟨n', ids', time', hlabel, ⟨db', hok⟩, -⟩
        cases hlabel
        cases hfinalize.symm.trans hok
    | ok db' => exact .inr ⟨n, ids, time, db', rfl, hfinalize, materialized_labels hfinalize⟩

theorem frozen_callStep {call : DbCall} (h : OneSource source db.chain)
    (hstep : CallStep R source db call db') : Frozen db.chain db'.chain := by
  rcases hstep with hok | ⟨-, rfl⟩
  · cases call with
    | applyBlock block decisions ids observedAt => exact (applyBlock_spec hok).1.frozen
    | revertAfter ancestorBlock revertedAt =>
      obtain ⟨hguard, rfl⟩ := revertAfter_spec hok
      exact frozen_ensureCursor.trans
        (h.heights.ensureCursor.agrees.frozen_revert (by simpa using hguard))
    | finalizeThrough n ids time =>
      rw [(finalizeThrough_spec hok).2.1]
      exact frozen_ensureCursor.trans frozen_finalize
    | changeGame game =>
      obtain rfl := Except.ok.inj hok
      exact .refl _
  · exact .refl _

theorem OneSource.eligible_finalize {n : ℕ} {ids : ℕ → Uuid} {time : Timestamp}
    (h : OneSource source db.chain) (hpost : OneSource source db'.chain)
    (hok : finalizeThrough R source n ids time db = .ok db') {row : OperationRow}
    (hrow : Eligible db'.chain row) :
    Eligible db.chain row ∨ row ∈ irreversibleOperations db'.chain source n time := by
  have hmem := hrow.1
  rw [(finalizeThrough_spec hok).2.1] at hmem
  rcases Table.mem_modify_cases hmem with ⟨old, hold, ⟨hreached, -⟩, rfl⟩ | ⟨hold, -⟩
  · right
    refine hpost.mem_irreversibleOperations.mpr ⟨hrow, rfl, ?_⟩
    obtain ⟨c, hc, hid, hnumber⟩ := h.heights.ensureCursor.number old hold
    have hle := ((onHeights_iff hc hid).mp hreached).2
    rw [decide_eq_true_eq, hnumber] at hle
    exact hle
  · exact .inl ⟨by simpa using hold, hrow.2⟩

/-- **One step**: what is eligible after it was so before, or the step materializes it. -/
theorem OneSource.eligible_step {call : DbCall} (h : OneSource source db.chain)
    (hstep : CallStep R source db call db') (row : OperationRow) :
    Eligible db'.chain row ↔
      Eligible db.chain row ∨ row ∈ materializedBy R source ⟨db, call, db'⟩ := by
  have hpost := h.step hstep
  have hfrozen := frozen_callStep h hstep
  constructor
  · intro hrow
    obtain ⟨hmem, hstate, hrest⟩ := hrow
    rcases hstep with hok | ⟨-, rfl⟩
    · cases call with
      | applyBlock block decisions ids observedAt =>
        rcases (applyBlock_spec hok).1.operation_cases hmem with hmem | ⟨-, hincluded⟩
        · exact .inl ⟨hmem, hstate, hrest⟩
        · cases hincluded.symm.trans hstate
      | revertAfter ancestorBlock revertedAt =>
        obtain ⟨-, rfl⟩ := revertAfter_spec hok
        rcases Table.mem_modify_cases hmem with ⟨old, -, -, rfl⟩ | ⟨hmem, -⟩
        · cases hstate
        · exact .inl ⟨by simpa using hmem, hstate, hrest⟩
      | finalizeThrough n ids time =>
        have hrows : materializedBy R source ⟨db, .finalizeThrough n ids time, db'⟩ =
            irreversibleOperations db'.chain source n time := materialized_labels hok
        rw [hrows]
        exact h.eligible_finalize hpost hok ⟨hmem, hstate, hrest⟩
      | changeGame game =>
        obtain rfl := Except.ok.inj hok
        exact .inl ⟨hmem, hstate, hrest⟩
    · exact .inl ⟨hmem, hstate, hrest⟩
  · rintro (hrow | hrow)
    · exact ⟨hfrozen.operation row hrow.1 hrow.2.1, hrow.2⟩
    · rcases materializedBy_cases R source ⟨db, call, db'⟩ with ⟨hnone, -⟩ |
        ⟨n, ids, time, db'', hlabel, hok, hrows⟩
      · rw [hnone] at hrow
        cases hrow
      · have hsame : db'' = db' := by
          obtain rfl : call = .finalizeThrough n ids time := hlabel
          rcases hstep with hcommitted | ⟨⟨e, herror⟩, -⟩
          · exact Except.ok.inj (hok.symm.trans hcommitted)
          · cases hok.symm.trans herror
        rw [hrows, hsame] at hrow
        exact (hpost.mem_irreversibleOperations.mp hrow).1

theorem OneSource.mem_materializedBy {call : DbCall} (h : OneSource source db.chain)
    (hstep : CallStep R source db call db') {row : OperationRow} (hrow : Eligible db.chain row) :
    row ∈ materializedBy R source ⟨db, call, db'⟩ ↔ Reselects R source ⟨db, call, db'⟩ row := by
  rcases materializedBy_cases R source ⟨db, call, db'⟩ with ⟨hnone, hnot⟩ |
    ⟨n, ids, time, db'', hlabel, hok, hrows⟩
  · rw [hnone]
    exact ⟨fun hin => absurd hin List.not_mem_nil, fun hin => absurd hin (hnot row)⟩
  · obtain rfl : call = .finalizeThrough n ids time := hlabel
    have hcommitted : CallStep R source db (.finalizeThrough n ids time) db'' := .inl hok
    have heligible : Eligible db''.chain row :=
      (h.eligible_step hcommitted row).mpr (.inl hrow)
    rw [hrows, (h.step hcommitted).mem_irreversibleOperations]
    constructor
    · rintro ⟨-, htime, hle⟩
      exact ⟨n, ids, time, rfl, ⟨db'', hok⟩, htime, hle⟩
    · rintro ⟨n', ids', time', hlabel', -, htime, hle⟩
      cases hlabel'
      exact ⟨heligible, htime, hle⟩

theorem materializedBy_nodup (R : Runtime) (source : String) (t : Transition Db DbCall) :
    (materializedBy R source t).Nodup := by
  rcases materializedBy_cases R source t with ⟨hnone, -⟩ | ⟨n, ids, time, db', -, -, hrows⟩
  · rw [hnone]
    exact List.nodup_nil
  · rw [hrows, irreversibleOperations]
    have hkeys : db'.chain.operation.rows.Nodup := db'.chain.operation.nodup_keys.of_map _
    exact (List.perm_insertionSort materializationOrder _).nodup_iff.mpr (hkeys.filter _)

end Steps

/-! ### Runs -/

section Runs

variable {R : Runtime} {source : String} {game : GameTables} {db : Db} {ts : List (Transition Db DbCall)}

/-- The eligible rows of a run are those that it materialized, and a row was materialized by two
steps exactly when the later one reselects it. -/
theorem materializedIn_of_run (h : Run (CallStep R source) (Db.fresh game) ts db) :
    OneSource source db.chain ∧
      (∀ row, row ∈ materializedIn R source ts ↔ Eligible db.chain row) ∧
      (TimesFresh R source ts ↔
        ts.Pairwise fun t t' => ∀ row ∈ materializedBy R source t, row ∉ materializedBy R source t') := by
  induction h with
  | refl =>
    refine ⟨oneSource_fresh source game, fun row => ?_, ?_⟩
    · exact ⟨fun hin => absurd hin List.not_mem_nil, fun hrow => absurd hrow.1 Table.not_mem_empty⟩
    · exact ⟨fun _ => .nil, fun _ => .nil⟩
  | @snoc m m' ts call _ hstep ih =>
    obtain ⟨hsource, hrows, htimes⟩ := ih
    have hall : ∀ row, row ∈ materializedIn R source (ts ++ [⟨m, call, m'⟩]) ↔
        row ∈ materializedIn R source ts ∨ row ∈ materializedBy R source ⟨m, call, m'⟩ := by
      intro row
      rw [materializedIn, materializedIn, List.flatMap_append, List.mem_append, List.flatMap_singleton]
    refine ⟨hsource.step hstep, fun row => ?_, ?_⟩
    · rw [hall, hrows, hsource.eligible_step hstep]
    · have hlast : ∀ t ∈ ts, ∀ row ∈ materializedBy R source t,
          (row ∈ materializedBy R source ⟨m, call, m'⟩ ↔ Reselects R source ⟨m, call, m'⟩ row) := by
        intro t ht row hrow
        have heligible : Eligible m.chain row :=
          (hrows row).mp (List.mem_flatMap.mpr ⟨t, ht, hrow⟩)
        exact hsource.mem_materializedBy hstep heligible
      rw [TimesFresh, List.pairwise_append, List.pairwise_append]
      refine and_congr htimes (and_congr ?_ (forall₂_congr fun t ht => ?_))
      · exact ⟨fun _ => List.pairwise_singleton _ _, fun _ => List.pairwise_singleton _ _⟩
      · rw [List.forall_mem_singleton, List.forall_mem_singleton]
        exact forall₂_congr fun row hrow => not_congr (hlast t ht row hrow).symm

/-- **Materialized exactly once.**  Along every run of store calls, forks, failed calls and changes of
the game tables included, what was materialized are the accepted events of the application whose
operation is irreversible, all of them; and none of them was materialized twice exactly when no
finalization carried the timestamp of an event that an earlier one had materialized at a height which
it reaches. -/
theorem materialized_exactly_once (h : Run (CallStep R source) (Db.fresh game) ts db) :
    (∀ row, row ∈ materializedIn R source ts ↔ Eligible db.chain row) ∧
      ((materializedIn R source ts).Nodup ↔ TimesFresh R source ts) := by
  obtain ⟨-, hrows, htimes⟩ := materializedIn_of_run h
  refine ⟨hrows, ?_⟩
  rw [htimes, materializedIn, List.nodup_flatMap]
  constructor
  · rintro ⟨-, hdisjoint⟩
    exact hdisjoint.imp fun hd row hrow hrow' => hd hrow hrow'
  · intro hdisjoint
    exact ⟨fun t _ => materializedBy_nodup R source t,
      hdisjoint.imp fun hd row hrow hrow' => hd row hrow hrow'⟩

end Runs

/-- A batch and its invalidation are finalized at time 10, and their height again at `time`. -/
def finalizedAgain (time : Timestamp) : List DbCall :=
  oneBlock ("tx1", 0) ("tx2", 1) ++ [.finalizeThrough 1 (fun k => ⟨300 + k⟩) time]

/-- With the same timestamp both events are materialized again, with a later one they are not. -/
theorem materialized_exactly_once_again :
    (∃ ts db, Run (CallStep exampleChainConfig.runtime "haf") (Db.fresh exampleGame) ts db ∧
      (materializedIn exampleChainConfig.runtime "haf" ts).length = 4 ∧
        ¬ TimesFresh exampleChainConfig.runtime "haf" ts) ∧
    ∃ ts db, Run (CallStep exampleChainConfig.runtime "haf") (Db.fresh exampleGame) ts db ∧
      (materializedIn exampleChainConfig.runtime "haf" ts).length = 2 ∧
        TimesFresh exampleChainConfig.runtime "haf" ts := by
  have hsame : (replay (DbCall.commit? exampleChainConfig.runtime "haf") (Db.fresh exampleGame)
      (finalizedAgain 10)).any (fun run =>
        (materializedIn exampleChainConfig.runtime "haf" run.1).length = 4 ∧
          ¬ (materializedIn exampleChainConfig.runtime "haf" run.1).Nodup) = true := by
    decide +kernel
  have hlater : (replay (DbCall.commit? exampleChainConfig.runtime "haf") (Db.fresh exampleGame)
      (finalizedAgain 20)).any (fun run =>
        (materializedIn exampleChainConfig.runtime "haf" run.1).length = 2 ∧
          (materializedIn exampleChainConfig.runtime "haf" run.1).Nodup) = true := by
    decide +kernel
  obtain ⟨⟨ts, db⟩, hrun, hchecked⟩ := (Option.any_eq_true _ _).mp hsame
  obtain ⟨⟨ts', db'⟩, hrun', hchecked'⟩ := (Option.any_eq_true _ _).mp hlater
  have hts := (replay_run callStep_of_commit? hrun).1
  have hts' := (replay_run callStep_of_commit? hrun').1
  obtain ⟨hlength, htwice⟩ := of_decide_eq_true hchecked
  obtain ⟨hlength', honce⟩ := of_decide_eq_true hchecked'
  exact ⟨⟨ts, db, hts, hlength, fun hfresh => htwice ((materialized_exactly_once hts).2.mpr hfresh)⟩,
    ts', db', hts', hlength', (materialized_exactly_once hts').2.mp honce⟩

end HiveChameleon.Projector
